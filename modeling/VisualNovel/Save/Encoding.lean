import VisualNovel.Save.Data
import VisualNovel.Script.Scenario

/-!
# Saved games as documents: encoding

The document of a saved game has its version, a section for menus that show it (`metadata`) and a
section with everything needed to go on playing (`state`).
-/

namespace VisualNovel

/-- A text, or nothing. -/
def Document.ofText? : Option String → Document
  | some s => .string s
  | none => .null

/-- A map as a table, in its order. -/
def Document.ofMap {α : Type} (encode : α → Document) (m : OrderedMap α) : Document :=
  .record (m.entries.map fun entry => (entry.1, encode entry.2))

/-- A place in a scene. -/
def Document.ofPlace (scene : String) (index : Int) : Document :=
  .record [("scene_id", .string scene), ("command_index", .int index)]

def SavedCharacter.toDocument (saved : SavedCharacter) : Document :=
  .record [("character_id", .string saved.id), ("sprite", .string saved.sprite),
    ("position", .string saved.position)]

namespace SaveData

/-- What a menu shows of the scenario that a save belongs to. -/
def scenarioFields (data : SaveData) (scenario : Scenario) : List (String × Document) :=
  let title := if data.scene = "" then none else scenario.scene? data.scene
  [("scenario_id", .string scenario.metadata.id), ("scenario_title", .string scenario.metadata.title)] ++
    (title.map fun scene => ("scene_title", .string scene.title)).toList

/-- The section for menus. -/
def metadataDocument (scenario : Option Scenario) (savedAt : String) (data : SaveData) : Document :=
  .record
    ([("slot", .int data.slot), ("current_scene", .string data.scene),
      ("play_time_secs", .int data.playTime), ("saved_at", .string savedAt)] ++
      (scenario.map data.scenarioFields).getD [])

/-- The section to go on playing from. -/
def stateDocument (data : SaveData) : Document :=
  .record
    [("slot", .int data.slot),
     ("timestamp", .int data.timestamp),
     ("play_time_secs", .int data.playTime),
     ("current_scene", .string data.scene),
     ("command_index", .int data.index),
     ("flags", .ofMap .bool data.flags),
     ("variables", .ofMap .int data.vars),
     ("read_history", .list (data.read.toList.map fun line => .ofPlace line.scene line.index)),
     ("scene_stack", .list (data.stack.map fun frame => .ofPlace frame.scene frame.resume)),
     ("current_background", .ofText? data.background),
     ("current_cg", .ofText? data.cg),
     ("displayed_characters", .ofMap SavedCharacter.toDocument data.characters)]

/-- The document of a saved game; `savedAt` is the time of saving as menus show it. -/
def encode (scenario : Option Scenario) (savedAt : String) (data : SaveData) : Document :=
  .record
    [("save_version", .int saveVersion),
     ("metadata", data.metadataDocument scenario savedAt),
     ("state", data.stateDocument)]

end SaveData

end VisualNovel
