import VisualNovel.Playback.Basic

/-!
# Saving and loading

A saved game keeps the play head, the open calls, flags, integer variables, the lines read and the
stage. Loading checks the whole save before it changes anything.
-/

namespace VisualNovel

/-- Why the frames of a save cannot be returned to. -/
def Frame.check (scenario : Scenario) : List Frame → Except Fault Unit
  | [] => .ok ()
  | frame :: rest =>
    if !scenario.hasScene frame.scene then .error (.savedSceneMissing frame.scene)
    else if frame.resume < 0 then
      .error (.showing frame.resume (.savedFrameNegative frame.scene frame.resume))
    else check scenario rest

/-- Whether a save fits a scenario. -/
def SaveData.check (scenario : Scenario) (data : SaveData) : Except Fault Unit :=
  if data.scene ≠ "" && !scenario.hasScene data.scene then .error (.savedSceneMissing data.scene)
  else if data.index < 0 then .error (.showing data.index (.savedIndexNegative data.index))
  else if maxCallDepth < data.stack.length then .error .savedStackTooDeep
  else Frame.check scenario data.stack

/-- A character as it is saved. -/
def ShownCharacter.toSaved (shown : ShownCharacter) : SavedCharacter :=
  ⟨shown.id, shown.sprite, shown.position⟩

/-- A saved character back on stage. -/
def ShownCharacter.ofSaved (saved : SavedCharacter) : ShownCharacter :=
  ⟨saved.id, saved.sprite, saved.position, some .instant⟩

namespace Playback

/-- The saved game for a slot. -/
def save (slot : Int) (p : Playback) : SaveData where
  slot := slot
  scene := p.scene.getD ""
  index := p.index
  flags := p.memory.flags
  vars := p.memory.vars.integers
  read := p.read
  stack := p.stack
  background := p.stage.background
  cg := p.stage.cg
  characters := p.stage.characters.map ShownCharacter.toSaved

/-- The playthrough after taking over a saved game. -/
def restore (data : SaveData) (p : Playback) : Playback :=
  { p with
    scene := if data.scene = "" then none else some data.scene
    index := data.index
    stack := data.stack
    memory := ⟨data.flags, .ofIntegers data.vars⟩
    read := data.read
    stage := ⟨data.background, data.cg, data.characters.map ShownCharacter.ofSaved⟩
    charactersChanged := true }

/-- Loads a saved game, or changes nothing. -/
def load (scenario : Scenario) (data : SaveData) (p : Playback) : Outcome Playback Unit :=
  match data.check scenario with
  | .error fault => .fail p fault
  | .ok () =>
    let after := p.restore data
    ⟨after, [.restored data.slot after.scene after.index], .ok ()⟩

end Playback

end VisualNovel
