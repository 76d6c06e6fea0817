import VisualNovel.Number.Decimal

/-!
# Events of a playthrough

What playing reports besides its results, for the host to log.
-/

namespace VisualNovel

/-- How much an event matters to the host. -/
inductive Level where
  | debug
  | info
  | warning
deriving DecidableEq, Repr

/-- The word for a level in a log. -/
def Level.name : Level → String
  | .debug => "DEBUG"
  | .info => "INFO"
  | .warning => "WARNING"

/-- Something that happened while playing. -/
inductive Event where
  | started (scenario scene : String)
  | sceneChanged (left : Option String) (entered : String)
  | called (scene : String) (depth : Nat) (returnScene : String) (resume : Int)
  | returned (scene : String) (resume : Int) (depth : Nat)
  | restored (slot : Int) (scene : Option String) (index : Int)
  /-- A command inside a branch that only works outside of one. -/
  | ineffective (command : String)
  | backgroundShown (asset : String)
  | backgroundHidden
  | cgShown (asset : String)
  | cgHidden
  | cgUnlocked (id : String)
  /-- A picture whose path has no file name. -/
  | cgWithoutName (asset : String)
  | characterShown (id sprite position : String)
  | characterHidden (id : String)
  | characterMoved (id position : String)
  | spriteChanged (id sprite : String)
  | moveIgnored (id : String)
  | spriteIgnored (id : String)
deriving DecidableEq, Repr

namespace Event

def level : Event → Level
  | .started .. | .sceneChanged .. | .called .. | .returned .. | .restored .. | .cgWithoutName _ =>
    .debug
  | .ineffective _ | .moveIgnored _ | .spriteIgnored _ => .warning
  | _ => .info

/-- The name of a scene, or the word for none. -/
def sceneName (scene : Option String) : String :=
  scene.getD "None"

/-- The text of an event. Numbers of slots and of commands are taken to have no more digits than can be shown; an
event with a longer one is dropped by the log, and playing goes on. -/
def message : Event → String
  | .started scenario scene =>
    "Started scenario '" ++ scenario ++ "' at scene '" ++ scene ++ "'"
  | .sceneChanged left entered => "Scene change: " ++ sceneName left ++ " -> " ++ entered
  | .called scene depth returnScene resume =>
    "Call " ++ scene ++ " (depth " ++ intText depth ++ ", resume " ++ returnScene ++ ":" ++
      intText resume ++ ")"
  | .returned scene resume depth =>
    "Return to " ++ scene ++ ":" ++ intText resume ++ " (depth " ++ intText depth ++ ")"
  | .restored slot scene index =>
    "Restored save slot " ++ intText slot ++ " at " ++ sceneName scene ++ ":" ++ intText index
  | .ineffective command =>
    "Command " ++ command ++ " in If/Else block has no effect in inline execution"
  | .backgroundShown asset => "ShowBackground: asset=" ++ asset
  | .backgroundHidden => "HideBackground"
  | .cgShown asset => "ShowCG: asset=" ++ asset
  | .cgHidden => "HideCG"
  | .cgUnlocked id => "CG unlocked: " ++ id
  | .cgWithoutName asset => "Could not extract CG id from path: " ++ asset
  | .characterShown id sprite position =>
    "ShowCharacter: id=" ++ id ++ ", sprite=" ++ sprite ++ ", position=" ++ position
  | .characterHidden id => "HideCharacter: id=" ++ id
  | .characterMoved id position => "MoveCharacter: id=" ++ id ++ ", position=" ++ position
  | .spriteChanged id sprite => "ChangeSprite: id=" ++ id ++ ", sprite=" ++ sprite
  | .moveIgnored id => "MoveCharacter: character '" ++ id ++ "' not currently displayed, ignoring"
  | .spriteIgnored id => "ChangeSprite: character '" ++ id ++ "' not currently displayed, ignoring"

end Event

end VisualNovel
