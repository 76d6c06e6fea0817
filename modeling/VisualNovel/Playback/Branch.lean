import VisualNovel.Memory
import VisualNovel.Playback.Outcome
import VisualNovel.Script.Command

/-!
# Branches

The commands inside a branch work on the story's memory alone. Setting and modifying flags and
variables and further branches take effect there; commands that move the play head are refused, and all
others are reported and passed over. A command that fails ends the branch and leaves what the commands
before it wrote.
-/

namespace VisualNovel.Memory

mutual

/-- Runs a command inside a branch. -/
def run (memory : Memory) : Command → Outcome Memory Unit
  | .setFlag name value => .done (memory.setFlag name value) ()
  | .setVariable name value => .done (memory.setVariable name value) ()
  | .modifyVariable name operation =>
    match memory.modify name operation with
    | .ok after => .done after ()
    | .error fault => .fail memory (.operation name fault)
  | .branch condition thenDo elseDo =>
    match memory.eval condition with
    | .ok true => runAll memory thenDo
    | .ok false => runAll memory elseDo
    | .error fault => .fail memory (.condition fault)
  | .flow move => .fail memory (.flowInsideBranch move.name)
  | command => ⟨memory, [.ineffective command.name], .ok ()⟩

/-- Runs commands one after another, up to the first that fails. -/
def runAll (memory : Memory) : List Command → Outcome Memory Unit
  | [] => .done memory ()
  | command :: rest => (run memory command).andThen fun after _ => runAll after rest

end

end VisualNovel.Memory
