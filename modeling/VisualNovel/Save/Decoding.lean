import VisualNovel.Document.Literal
import VisualNovel.Playback.Outcome
import VisualNovel.Save.Data
import VisualNovel.Script.Scenario

/-!
# Saved games as documents: decoding

A document is checked field by field in a fixed order and the first field that does not fit is
reported with its place. Where a scenario is given, the scenes that a save names have to exist in it.
The section for menus is not looked at. A version that is refused is shown in the message; where that
is not possible, decoding fails for this instead (`DecodeFault`).
-/

namespace VisualNovel

/-- The places on stage where a character may stand. -/
def stagePositions : List String :=
  ["far_left", "left", "center", "right", "far_right"]

/-- What a field should have been. -/
inductive Shape where
  | text
  | integer
  | nonNegative
  | boolean
  | object
  | list
deriving DecidableEq, Repr

/-- Why a document is no saved game. -/
inductive SaveFault where
  | notAnObject
  /-- The version, as messages show it. -/
  | unsupportedVersion (version : String)
  | sectionsMissing
  | mustBe (place : String) (shape : Shape)
  | keysMustBeTexts (place : String)
  | stackTooDeep
  | unknownScene (place scene : String)
  | unknownPosition (place : String)
deriving DecidableEq, Repr

def Shape.phrase : Shape → String
  | .text => "a string"
  | .integer => "an integer"
  | .nonNegative => "a non-negative integer"
  | .boolean => "a boolean"
  | .object => "an object"
  | .list => "a list"

def SaveFault.message : SaveFault → String
  | .notAnObject => "Save data must be a JSON object."
  | .unsupportedVersion version => "Unsupported save version: " ++ version ++ "."
  | .sectionsMissing => "Save data is missing required sections."
  | .mustBe place shape => place ++ " must be " ++ shape.phrase ++ "."
  | .keysMustBeTexts place => place ++ " keys must be strings."
  | .stackTooDeep =>
    "state.scene_stack cannot be deeper than " ++ intText maxCallDepth ++ " frames."
  | .unknownScene place scene => place ++ " references unknown scene '" ++ scene ++ "'."
  | .unknownPosition place =>
    place ++ ".position must be one of " ++
      "[" ++ ", ".intercalate (stagePositions.map Text.quoted) ++ "]."

/-- Why decoding fails. -/
inductive DecodeFault where
  /-- The document is no saved game. -/
  | save (fault : SaveFault)
  /-- The message would have to show a version with an integer that has too many digits. -/
  | tooManyDigits
deriving DecidableEq, Repr

def DecodeFault.message : DecodeFault → String
  | .save fault => fault.message
  | .tooManyDigits => tooManyDigitsMessage

namespace SaveData

/-! ## Fields -/

def decodeText (place : String) : Document → Except SaveFault Text
  | .text s => .ok s
  | _ => .error (.mustBe place .text)

def decodeInt (place : String) : Document → Except SaveFault Int
  | .int n => .ok n
  | _ => .error (.mustBe place .integer)

def decodeBool (place : String) : Document → Except SaveFault Bool
  | .bool b => .ok b
  | _ => .error (.mustBe place .boolean)

/-- A table under names. -/
def decodeObject (place : String) : Document → Except SaveFault (List (String × Document))
  | .table fields =>
    match Fields.names? fields with
    | some entries => .ok entries
    | none => .error (.keysMustBeTexts place)
  | _ => .error (.mustBe place .object)

/-- A field that may be left out. -/
def decodeOptional {α : Type} (decode : Document → Except SaveFault α) (default : α) :
    Document → Except SaveFault α
  | .null => .ok default
  | document => decode document

def decodeNonNegative (place : String) (document : Document) : Except SaveFault Int := do
  let n ← decodeInt place document
  if n < 0 then .error (.mustBe place .nonNegative) else .ok n

/-- A table whose values are decoded one after another. -/
def decodeMap {α : Type} (place : String) (decode : String → Document → Except SaveFault α)
    (document : Document) : Except SaveFault (OrderedMap α) := do
  let entries ← decodeObject place document
  let values ← entries.mapM fun entry => do
    let value ← decode entry.1 entry.2
    return (entry.1, value)
  return .ofList values

/-- The place of an item of a list. -/
def itemPlace (place : String) (index : Nat) : String :=
  place ++ "[" ++ intText index ++ "]"

/-- A list whose items are decoded one after another. -/
def decodeItems {α : Type} (place : String) (decode : String → Document → Except SaveFault α)
    (items : List Document) : Except SaveFault (List α) :=
  items.zipIdx.mapM fun item => decode (itemPlace place item.2) item.1

def decodeList (place : String) : Document → Except SaveFault (List Document)
  | .list items => .ok items
  | _ => .error (.mustBe place .list)

/-! ## Parts of a saved game -/

/-- A scene that the scenario, if there is one, has to know. The keys of scenes are strings, so a text
with half a surrogate pair is none of them. -/
def checkScene (scenario : Option Scenario) (place : String) (scene : Text) :
    Except SaveFault Unit :=
  match scenario with
  | some scenario =>
    if scene.string?.any scenario.hasScene then .ok ()
    else .error (.unknownScene place scene.toString)
  | none => .ok ()

/-- A place in a scene. -/
def decodePlace (place : String) (document : Document) : Except SaveFault (Text × Int) := do
  let entries ← decodeObject place document
  let fields := Fields.ofNames entries
  let scene ← decodeText (place ++ ".scene_id") (fields.getD "scene_id")
  let index ← decodeNonNegative (place ++ ".command_index") (fields.getD "command_index")
  return (scene, index)

def decodeHistory (document : Document) : Except SaveFault ReadHistory := do
  let items ← decodeList "state.read_history" document
  let places ← decodeItems "state.read_history" decodePlace items
  return .ofList (places.map fun (scene, index) => ⟨scene.toString, index⟩)

def decodeFrame (scenario : Option Scenario) (place : String) (document : Document) :
    Except SaveFault Frame := do
  let (scene, index) ← decodePlace place document
  checkScene scenario place scene
  return ⟨scene.toString, index⟩

def decodeStack (scenario : Option Scenario) (document : Document) :
    Except SaveFault (List Frame) := do
  let items ← decodeList "state.scene_stack" document
  if maxCallDepth < items.length then .error .stackTooDeep
  else decodeItems "state.scene_stack" (decodeFrame scenario) items

/-- One of the places on stage. -/
def decodePosition (place : String) : Document → Except SaveFault String
  | .text position =>
    if position.toString ∈ stagePositions then .ok position.toString
    else .error (.unknownPosition place)
  | _ => .error (.unknownPosition place)

def decodeCharacter (key : String) (document : Document) : Except SaveFault SavedCharacter := do
  let place := "state.displayed_characters[" ++ key ++ "]"
  let entries ← decodeObject place document
  let fields := Fields.ofNames entries
  let position ← decodePosition place ((fields.get? "position").getD (.string "center"))
  let id ← decodeText (place ++ ".character_id") (fields.getD "character_id")
  let sprite ← decodeText (place ++ ".sprite") (fields.getD "sprite")
  return ⟨id.toString, sprite.toString, position⟩

/-- The scene in which play goes on; it is empty if the story had not been started. -/
def decodeScene (scenario : Option Scenario) (place : String) (document : Document) :
    Except SaveFault String := do
  let scene ← decodeText place document
  if scene.toString ≠ "" then checkScene scenario place scene
  return scene.toString

def decodeFlags : Document → Except SaveFault (OrderedMap Bool) :=
  decodeMap "state.flags" fun key => decodeBool ("state.flags." ++ key)

def decodeVariables : Document → Except SaveFault (OrderedMap Int) :=
  decodeMap "state.variables" fun key => decodeInt ("state.variables." ++ key)

def decodeCharacters : Document → Except SaveFault (OrderedMap SavedCharacter) :=
  decodeMap "state.displayed_characters" decodeCharacter

def decodePicture (place : String) (document : Document) : Except SaveFault (Option String) :=
  (decodeText place document).map fun picture => some picture.toString

/-- The section to go on playing from. -/
def decodeState (scenario : Option Scenario) (state : Fields) : Except SaveFault SaveData := do
  let scene ← decodeScene scenario "state.current_scene" (state.getD "current_scene")
  let slot ← decodeInt "state.slot" (state.getD "slot")
  let timestamp ← optional "timestamp" (decodeNonNegative "state.timestamp") 0
  let playTime ← optional "play_time_secs" (decodeNonNegative "state.play_time_secs") 0
  let index ← optional "command_index" (decodeNonNegative "state.command_index") 0
  let flags ← optional "flags" decodeFlags .empty
  let vars ← optional "variables" decodeVariables .empty
  let read ← optional "read_history" decodeHistory .empty
  let stack ← optional "scene_stack" (decodeStack scenario) []
  let background ← optional "current_background" (decodePicture "state.current_background") none
  let cg ← optional "current_cg" (decodePicture "state.current_cg") none
  let characters ← optional "displayed_characters" decodeCharacters .empty
  return {
    slot, timestamp, playTime, scene, index, flags, vars, read, stack, background, cg,
    characters }
where
  optional {α : Type} (name : String) (decode : Document → Except SaveFault α) (default : α) :
      Except SaveFault α :=
    decodeOptional decode default (state.getD name)

/-- The saved game of a document. -/
def decode (scenario : Option Scenario) (document : Document) : Except DecodeFault SaveData :=
  match document with
  | .table fields =>
    let version := Fields.getD fields "save_version"
    if !version.isOne then
      match version.literal? with
      | some text => .error (.save (.unsupportedVersion text))
      | none => .error .tooManyDigits
    else match Fields.getD fields "state" with
      | .table state => (decodeState scenario state).mapError .save
      | _ => .error (.save .sectionsMissing)
  | _ => .error (.save .notAnObject)

end SaveData

end VisualNovel
