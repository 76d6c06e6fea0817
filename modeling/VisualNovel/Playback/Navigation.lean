import VisualNovel.Playback.Basic

/-!
# Moving the play head

Starting, advancing, jumping, calling and returning. A call pushes the place to come back to; a return
takes the newest one off the stack and goes on there.
-/

namespace VisualNovel.Playback

/-- Goes to the first command of the scenario's start scene. -/
def start (scenario : Scenario) (p : Playback) : Outcome Playback Unit :=
  if scenario.hasScene scenario.startScene then
    ⟨{ p with scene := some scenario.startScene, index := 0 },
      [.started scenario.metadata.id scenario.startScene], .ok ()⟩
  else .fail p (.startSceneMissing scenario.startScene)

/-- Moves to the next command; tells whether there was a command to leave. -/
def advance (scenario : Scenario) (p : Playback) : Bool × Playback :=
  match p.currentScene? scenario with
  | none => (false, p)
  | some scene =>
    if p.index < scene.commands.length then (true, { p with index := p.index + 1 }) else (false, p)

/-- Goes to the first command of a scene. -/
def jump (scenario : Scenario) (key : String) (p : Playback) : Outcome Playback Signal :=
  match scenario.scene? key with
  | none => .fail p (.sceneMissing key)
  | some target =>
    ⟨{ p with scene := some key, index := 0 }, [.sceneChanged p.scene key],
      .ok (.sceneChanged ((p.currentScene? scenario).bind Scene.exitTransition)
        target.entryTransition)⟩

/-- Enters a scene, to be left again for the command behind this one's index in `returnScene`. -/
def call (scenario : Scenario) (key returnScene : String) (p : Playback) :
    Outcome Playback Signal :=
  if !scenario.hasScene returnScene then .fail p (.returnSceneMissing returnScene)
  else if maxCallDepth ≤ p.stack.length then .fail p .callsTooDeep
  else if !scenario.hasScene key then .fail p (.sceneMissing key)
  else
    let resume := p.index + 1
    let pushed : Playback := { p with stack := p.stack ++ [⟨returnScene, resume⟩] }
    (pushed.jump scenario key).report (.called key pushed.stack.length returnScene resume)

/-- Leaves the scene entered last, for the place its call named. -/
def back (scenario : Scenario) (p : Playback) : Outcome Playback Signal :=
  match p.stack.getLast? with
  | none => .fail p .nothingToReturnTo
  | some frame =>
    let popped : Playback := { p with stack := p.stack.dropLast }
    (popped.jump scenario frame.scene).andThen fun entered signal =>
      ⟨{ entered with index := frame.resume },
        [.returned frame.scene frame.resume popped.stack.length], .ok signal⟩

/-- Answers the choice at the play head with the option at an index of the authored list. -/
def select (scenario : Scenario) (index : Int) (p : Playback) : Outcome Playback Signal :=
  match p.currentCommand? scenario with
  | none => .fail p .noCommand
  | some (.offer choice) =>
    match (if index < 0 then none else choice.options[index.toNat]?) with
    | none => .fail p (.showing index (.choiceOutOfRange index choice.options.length))
    | some option =>
      let chosen : Playback :=
        { p with memory := { p.memory with flags := p.memory.flags.setAll option.flagsToSet } }
      chosen.jump scenario option.nextScene
  | some _ => .fail p .notAChoice

end VisualNovel.Playback
