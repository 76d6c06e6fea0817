import VisualNovel.Playback.Execution
import VisualNovel.Playback.Saving

/-!
# Requests to a playthrough

Everything that a host may ask of a playthrough, in any order and any number of times. A request that
fails does not end the playthrough: the next one finds the state that the failure left.
-/

namespace VisualNovel

/-- What a host asks of a playthrough. -/
inductive Request where
  | start
  /-- Execute the command at the play head. -/
  | execute
  | advance
  | select (index : Int)
  | jump (scene : String)
  | save (slot : Int)
  | load (data : SaveData)
  | record (entry : BacklogEntry)
  | markRead (line : LineId)
  | isRead (line : LineId)
  | isEnded
  | eval (condition : Condition)
  | setFlag (name : String) (value : Bool)
  | toggleFlag (name : String)
  | setVariable (name : String) (value : Value)
  | removeVariable (name : String)
  | pollCharacters
  | pollUnlocks

/-- What a host gets back. -/
inductive Reply where
  | nothing
  | truth (value : Bool)
  | signal (signal : Signal)
  | saved (data : SaveData)
  /-- The value that a removed variable had. -/
  | removed (former : Option Value)

namespace Playback

/-- A request that cannot fail and answers with a truth value. -/
def told (answered : Bool × Playback) : Outcome Playback Reply :=
  .done answered.2 (.truth answered.1)

/-- Does what a request asks. -/
def respond (scenario : Scenario) (p : Playback) : Request → Outcome Playback Reply
  | .start => (p.start scenario).map fun _ => .nothing
  | .execute => (p.execute scenario).map .signal
  | .advance => told (p.advance scenario)
  | .select index => (p.select scenario index).map .signal
  | .jump scene => (p.jump scenario scene).map .signal
  | .save slot => .done p (.saved (p.save slot))
  | .load data => (p.load scenario data).map fun _ => .nothing
  | .record entry => .done (p.record entry) .nothing
  | .markRead line => .done (p.markRead line) .nothing
  | .isRead line => told (p.isRead line, p)
  | .isEnded => told (p.isEnded scenario, p)
  | .eval condition => (p.eval condition).map .truth
  | .setFlag name value => .done (p.setFlag name value) .nothing
  | .toggleFlag name => told (p.toggleFlag name)
  | .setVariable name value => .done (p.setVariable name value) .nothing
  | .removeVariable name => .done (p.removeVariable name) (.removed (p.memory.vars.get? name))
  | .pollCharacters => told p.pollCharacters
  | .pollUnlocks => told p.pollUnlocks

end Playback

end VisualNovel
