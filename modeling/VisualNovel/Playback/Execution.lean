import VisualNovel.Playback.Branch
import VisualNovel.Playback.Navigation

/-!
# Executing commands

Each command is executed where the play head stands and tells the host how to go on. Only jumps, calls
and returns move the play head.
-/

namespace VisualNovel

/-- The options whose conditions hold, in the authored order. -/
def ChoiceOption.available (lookup : Lookup) :
    List ChoiceOption → Except ConditionFault (List ChoiceOption)
  | [] => .ok []
  | option :: rest =>
    match Condition.evalAll lookup option.conditions with
    | .error fault => .error fault
    | .ok true => (available lookup rest).map (option :: ·)
    | .ok false => available lookup rest

namespace Playback

/-- Changes the stage. -/
def perform (change : StageCommand) (p : Playback) : Playback :=
  { p with
    stage := p.stage.perform change
    charactersChanged := p.charactersChanged || p.stage.redraws change
    unlocks := p.unlocks.witness change
    unlocksChanged := p.unlocksChanged || p.unlocks.grows change }

/-- Offers the options of a choice whose conditions hold. -/
def offer (choice : Choice) (p : Playback) : Outcome Playback Signal :=
  match ChoiceOption.available p.memory.lookup choice.options with
  | .error fault => .fail p (.condition fault)
  | .ok [] => .fail p .noChoiceAvailable
  | .ok options => .done p (.choices options)

/-- Moves the play head as a command says. -/
def move (scenario : Scenario) (p : Playback) : Flow → Outcome Playback Signal
  | .jump scene => p.jump scenario scene
  | .call scene returnScene => p.call scenario scene returnScene
  | .back => p.back scenario
  | .finish => .done p .ended

/-- Applies an operation to a variable. -/
def modifyVariable (name : String) (operation : Operation) (p : Playback) :
    Outcome Playback Signal :=
  match p.memory.modify name operation with
  | .ok memory => .done { p with memory } .proceed
  | .error fault => .fail p (.operation name fault)

/-- Runs the branch that a condition selects. -/
def branch (condition : Condition) (thenDo elseDo : List Command) (p : Playback) :
    Outcome Playback Signal :=
  match p.memory.eval condition with
  | .error fault => .fail p (.condition fault)
  | .ok answer =>
    let run := p.memory.runAll (if answer then thenDo else elseDo)
    ⟨{ p with memory := run.state }, run.log, run.result.map fun _ => .proceed⟩

/-- Executes a command. -/
def executeCommand (scenario : Scenario) (p : Playback) (command : Command) :
    Outcome Playback Signal :=
  match command with
  | .say _ | .audio _ => .done p .proceed
  | .setFlag name value => .done (p.setFlag name value) .proceed
  | .setVariable name value => .done (p.setVariable name value) .proceed
  | .modifyVariable name operation => p.modifyVariable name operation
  | .branch condition thenDo elseDo => p.branch condition thenDo elseDo
  | .offer choice => p.offer choice
  | .flow flow => p.move scenario flow
  | .wait seconds => .done p (.pause seconds)
  | .stage change =>
    ⟨p.perform change, p.stage.events change ++ p.unlocks.events change, .ok .proceed⟩
  | .unknown text => .fail p (.unknownCommand text)

/-- Executes the command at the play head. -/
def execute (scenario : Scenario) (p : Playback) : Outcome Playback Signal :=
  match p.currentCommand? scenario with
  | none => .fail p .noCommand
  | some command => p.executeCommand scenario command

end Playback

end VisualNovel
