import VisualNovel.Backlog
import VisualNovel.Memory
import VisualNovel.Playback.Outcome
import VisualNovel.Playback.Stage
import VisualNovel.Save.Data
import VisualNovel.Script.Scenario
import VisualNovel.Settings

/-!
# Playthroughs

A playthrough is a place in a scenario, the calls that are open there, and all that the story has
changed so far. It never moves on its own: the host executes the command at the play head and then
advances or answers a choice.
-/

namespace VisualNovel

/-- The state of a playthrough. -/
structure Playback where
  /-- The current scene, once the story has been started. -/
  scene : Option String := none
  /-- The index of the current command in that scene. -/
  index : Int := 0
  /-- The open calls, oldest first. -/
  stack : List Frame := []
  memory : Memory := {}
  read : ReadHistory := .empty
  backlog : Backlog := {}
  stage : Stage := {}
  /-- Whether the characters changed since the host last asked. -/
  charactersChanged : Bool := false
  unlocks : Unlocks := {}
  /-- Whether something was unlocked since the host last asked. -/
  unlocksChanged : Bool := false
deriving DecidableEq

/-- What the host has to do after a command. -/
inductive Signal where
  /-- Advance to the next command. -/
  | proceed
  /-- The play head stands in another scene already. -/
  | sceneChanged (exit entry : Option Transition)
  /-- Let the player choose among these options. -/
  | choices (options : List ChoiceOption)
  | pause (seconds : Float)
  | ended

namespace Playback

/-- A new playthrough. -/
def create (settings : Settings) (unlocks : Unlocks) : Except NegativeLimit Playback :=
  (Backlog.withLimit settings.backlogLimit).map fun backlog => { backlog, unlocks }

/-! ## Where the play head stands -/

def currentScene? (scenario : Scenario) (p : Playback) : Option Scene :=
  p.scene.bind scenario.scene?

def currentCommand? (scenario : Scenario) (p : Playback) : Option Command :=
  (p.currentScene? scenario).bind fun scene => scene.command? p.index

/-- Whether there is nothing more to execute. -/
def isEnded (scenario : Scenario) (p : Playback) : Bool :=
  match p.currentCommand? scenario with
  | none | some (.flow .finish) => true
  | some _ => false

/-- Whether a condition holds now. -/
def eval (condition : Condition) (p : Playback) : Outcome Playback Bool :=
  match p.memory.eval condition with
  | .ok answer => .done p answer
  | .error fault => .fail p (.condition fault)

/-! ## What the host tells and asks -/

/-- Records a line that was shown. -/
def record (entry : BacklogEntry) (p : Playback) : Playback :=
  { p with backlog := p.backlog.add entry }

/-- Marks a line as read. -/
def markRead (line : LineId) (p : Playback) : Playback :=
  { p with read := p.read.insert line }

def isRead (line : LineId) (p : Playback) : Bool :=
  line ∈ p.read

def setFlag (name : String) (value : Bool) (p : Playback) : Playback :=
  { p with memory := p.memory.setFlag name value }

/-- Negates a flag and tells how it reads now. -/
def toggleFlag (name : String) (p : Playback) : Bool × Playback :=
  let flags := p.memory.flags.toggle name
  (flags.isSet name, { p with memory := { p.memory with flags } })

def setVariable (name : String) (value : Value) (p : Playback) : Playback :=
  { p with memory := p.memory.setVariable name value }

def removeVariable (name : String) (p : Playback) : Playback :=
  { p with memory := { p.memory with vars := p.memory.vars.erase name } }

/-- Whether the characters changed since the last time this was asked. -/
def pollCharacters (p : Playback) : Bool × Playback :=
  (p.charactersChanged, { p with charactersChanged := false })

/-- Whether something was unlocked since the last time this was asked. -/
def pollUnlocks (p : Playback) : Bool × Playback :=
  (p.unlocksChanged, { p with unlocksChanged := false })

end Playback

end VisualNovel
