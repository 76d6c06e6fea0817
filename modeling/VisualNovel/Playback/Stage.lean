import VisualNovel.AssetPath
import VisualNovel.OrderedMap
import VisualNovel.Playback.Event
import VisualNovel.Script.Command
import VisualNovel.Unlocks

/-!
# The stage

What the player sees: a background, a picture (CG) over it, and characters in the order in which they
entered. Showing a character that is on stage replaces it in its place; moving or changing one that is
not on stage does nothing but leave a warning.
-/

namespace VisualNovel

/-- A character on stage. -/
structure ShownCharacter where
  id : String
  sprite : String
  position : String := "center"
  transition : Option Transition := some .instant
deriving DecidableEq

/-- What the player sees. -/
structure Stage where
  background : Option String := none
  cg : Option String := none
  characters : OrderedMap ShownCharacter := .empty
deriving DecidableEq

namespace Stage

/-- Changes a character that is on stage. -/
def update (stage : Stage) (id : String) (change : ShownCharacter → ShownCharacter) : Stage :=
  match stage.characters.get? id with
  | some shown => { stage with characters := stage.characters.insert id (change shown) }
  | none => stage

/-- The stage after a change. -/
def perform (stage : Stage) : StageCommand → Stage
  | .showBackground asset _ => { stage with background := some asset }
  | .hideBackground _ => { stage with background := none }
  | .showCg asset _ => { stage with cg := some asset }
  | .hideCg _ => { stage with cg := none }
  | .showCharacter id sprite position _ transition =>
    { stage with characters := stage.characters.insert id ⟨id, sprite, position, transition⟩ }
  | .hideCharacter id _ => { stage with characters := stage.characters.erase id }
  | .moveCharacter id position _ => stage.update id fun shown => { shown with position }
  | .changeSprite id sprite => stage.update id fun shown => { shown with sprite }
  | .changeExpression _ _ => stage

/-- Whether the characters have to be drawn again after a change. -/
def redraws (stage : Stage) : StageCommand → Bool
  | .showCharacter .. | .hideCharacter .. => true
  | .moveCharacter id _ _ | .changeSprite id _ => stage.characters.contains id
  | _ => false

/-- What a change reports. -/
def events (stage : Stage) : StageCommand → List Event
  | .showBackground asset _ => [.backgroundShown asset]
  | .hideBackground _ => [.backgroundHidden]
  | .showCg asset _ => [.cgShown asset]
  | .hideCg _ => [.cgHidden]
  | .showCharacter id sprite position _ _ => [.characterShown id sprite position]
  | .hideCharacter id _ => [.characterHidden id]
  | .moveCharacter id position _ =>
    if stage.characters.contains id then [.characterMoved id position] else [.moveIgnored id]
  | .changeSprite id sprite =>
    if stage.characters.contains id then [.spriteChanged id sprite] else [.spriteIgnored id]
  | .changeExpression _ _ => []

end Stage

/-! ## Pictures that are unlocked by being shown -/

/-- The picture that a change unlocks. -/
def StageCommand.unlocks? : StageCommand → Option String
  | .showCg asset _ => AssetPath.stem? asset
  | _ => none

namespace Unlocks

/-- What is unlocked after a change on stage. -/
def witness (unlocks : Unlocks) (change : StageCommand) : Unlocks :=
  match change.unlocks? with
  | some id => unlocks.unlockCg id
  | none => unlocks

/-- Whether a change on stage unlocks something for the first time. -/
def grows (unlocks : Unlocks) (change : StageCommand) : Bool :=
  match change.unlocks? with
  | some id => id ∉ unlocks.cgs
  | none => false

/-- What a change on stage reports about unlocking. -/
def events (unlocks : Unlocks) (change : StageCommand) : List Event :=
  match change with
  | .showCg asset _ =>
    match AssetPath.stem? asset with
    | some id => if id ∈ unlocks.cgs then [] else [.cgUnlocked id]
    | none => [.cgWithoutName asset]
  | _ => []

end Unlocks

end VisualNovel
