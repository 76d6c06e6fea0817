import VisualNovel.Proofs.Playback.Course

/-!
# What a branch can touch

1. What no command that occurs in a branch changes on its own, the branch does not change, whether it
   runs to its end or fails (`Memory.view_run`). So flags and variables that nothing in it names keep their
   values.
2. A branch fails for a command that moves the play head exactly if its run comes to one
   (`Memory.flowInsideBranch_iff`): all that ran before has not failed then.
3. All the rest of a playthrough a branch leaves alone, since it works on the memory only
   (`branch_footprint`).
-/

namespace VisualNovel

open Playback

/-- The command sets the flag, itself or at any depth inside its arms. -/
def Command.WritesFlag (command : Command) (name : String) : Prop :=
  ∃ value, (Command.setFlag name value).Occurs command

/-- The command sets or modifies the variable, itself or at any depth inside its arms. -/
def Command.WritesVariable (command : Command) (name : String) : Prop :=
  (∃ value, (Command.setVariable name value).Occurs command) ∨
    ∃ operation, (Command.modifyVariable name operation).Occurs command

namespace Memory

variable {memory after : Memory} {command : Command} {name word : String}

/-! ## What is not written -/

/-- A view of the memory that no command occurring in another changes, that one does not change. -/
theorem view_run {α : Type} (view : Memory → α)
    (single : ∀ inner, inner.Occurs command → ¬inner.IsBranch → ∀ m, view (run m inner).state = view m)
    (memory : Memory) : view (memory.run command).state = view memory := by
  have meets : (memory.run command).Meets (fun m => view m = view memory) fun _ => True := by
    refine meets_run (fun _ => trivial) command memory rfl fun inner ho hb m hm => ?_
    exact ⟨(single inner ho hb m).trans hm, fun _ _ => trivial⟩
  exact meets.state

theorem flag_run_of_simple (simple : ¬command.IsBranch) (h : ∀ value, command ≠ .setFlag name value)
    (memory : Memory) : (memory.run command).state.flags.get? name = memory.flags.get? name := by
  cases command with
  | branch condition thenDo elseDo => exact absurd ⟨_, _, _, rfl⟩ simple
  | setFlag other value =>
    have hne : name ≠ other := fun heq => h value (by rw [heq])
    unfold run
    show (memory.flags.insert other value).get? name = _
    rw [OrderedMap.get?_insert, if_neg hne]
  | modifyVariable other operation =>
    unfold run
    split
    · next hmodify =>
      obtain ⟨value, rfl, -⟩ := modify_eq_ok hmodify
      rfl
    · rfl
  | _ =>
    unfold run
    rfl

theorem variable_run_of_simple (simple : ¬command.IsBranch)
    (hset : ∀ value, command ≠ .setVariable name value)
    (hmodify : ∀ operation, command ≠ .modifyVariable name operation) (memory : Memory) :
    (memory.run command).state.vars.get? name = memory.vars.get? name := by
  have hstore : ∀ other value, name ≠ other →
      (memory.setVariable other value).vars.get? name = memory.vars.get? name := by
    intro other value hne
    show (memory.vars.insert other value).get? name = _
    rw [OrderedMap.get?_insert, if_neg hne]
  cases command with
  | branch condition thenDo elseDo => exact absurd ⟨_, _, _, rfl⟩ simple
  | setVariable other value =>
    unfold run
    exact hstore other value fun heq => hset value (by rw [heq])
  | modifyVariable other operation =>
    unfold run
    split
    · next hok =>
      obtain ⟨value, rfl, -⟩ := modify_eq_ok hok
      exact hstore other value fun heq => hmodify operation (by rw [heq])
    · rfl
  | _ =>
    unfold run
    rfl

theorem flag_run (h : ¬command.WritesFlag name) (memory : Memory) :
    (memory.run command).state.flags.get? name = memory.flags.get? name := by
  refine view_run (fun m => m.flags.get? name) (fun inner ho hb m => ?_) memory
  refine flag_run_of_simple hb ?_ m
  rintro value rfl
  exact h ⟨value, ho⟩

theorem variable_run (h : ¬command.WritesVariable name) (memory : Memory) :
    (memory.run command).state.vars.get? name = memory.vars.get? name := by
  refine view_run (fun m => m.vars.get? name) (fun inner ho hb m => ?_) memory
  refine variable_run_of_simple hb ?_ ?_ m
  · rintro value rfl
    exact h (.inl ⟨value, ho⟩)
  · rintro operation rfl
    exact h (.inr ⟨operation, ho⟩)

/-! ## Commands that are refused inside branches -/

theorem run_flow (memory : Memory) (move : Flow) :
    memory.run (.flow move) = .fail memory (.flowInsideBranch move.name) := by
  rw [run]

/-- No other command fails as a move of the play head does. -/
theorem eq_flow_of_run (simple : ¬command.IsBranch)
    (h : (memory.run command).result = .error (.flowInsideBranch word)) :
    ∃ move, command = .flow move ∧ move.name = word := by
  cases command with
  | branch condition thenDo elseDo => exact absurd ⟨_, _, _, rfl⟩ simple
  | flow move =>
    rw [run_flow] at h
    cases h
    exact ⟨move, rfl, rfl⟩
  | modifyVariable other operation =>
    unfold run at h
    split at h <;> cases h
  | _ =>
    unfold run at h
    cases h

theorem Breaks.comesTo_flow {fault : Fault} (h : memory.Breaks command fault after)
    (hf : fault = .flowInsideBranch word) :
    ∃ move, memory.ComesTo command (.flow move) after ∧ move.name = word := by
  induction h with
  | alone simple fails =>
    rw [hf] at fails
    obtain ⟨move, rfl, hname⟩ := eq_flow_of_run simple fails
    exact ⟨move, .self, hname⟩
  | condition => cases hf
  | inside answers arm ran _ ih =>
    obtain ⟨move, comes, hname⟩ := ih hf
    exact ⟨move, .inside answers arm ran comes, hname⟩

/-- A run fails for a move of the play head exactly if it comes to one. -/
theorem flowInsideBranch_iff :
    (memory.run command).result = .error (.flowInsideBranch word) ↔
      ∃ move there, memory.ComesTo command (.flow move) there ∧ move.name = word := by
  constructor
  · intro h
    obtain ⟨move, comes, hname⟩ := (breaks_of_run command h).comesTo_flow rfl
    exact ⟨move, _, comes, hname⟩
  · rintro ⟨move, there, comes, rfl⟩
    have hf : (there.run (.flow move)).result = .error (.flowInsideBranch move.name) := by
      rw [run_flow]
      rfl
    exact (comes.fails hf).1

end Memory

/-! ## Branches at the play head -/

variable {scenario : Scenario} {p : Playback} {command : Command}

/-- **The footprint of a branch.** Executing a branch, whether it succeeds or fails, changes no flag and no
variable but those that commands inside it name, and nothing else of the playthrough. It fails with the
refusal of a command that moves the play head exactly if its run comes to one. -/
theorem branch_footprint (branches : command.IsBranch)
    (current : p.currentCommand? scenario = some command) :
    (∀ name, ¬command.WritesFlag name →
      (p.execute scenario).state.memory.flags.get? name = p.memory.flags.get? name) ∧
    (∀ name, ¬command.WritesVariable name →
      (p.execute scenario).state.memory.vars.get? name = p.memory.vars.get? name) ∧
    (p.execute scenario).state = { p with memory := (p.execute scenario).state.memory } ∧
    ∀ word, ((p.execute scenario).result = .error (.flowInsideBranch word) ↔
        ∃ move there, p.memory.ComesTo command (.flow move) there ∧ move.name = word) ∧
      (Fault.flowInsideBranch word).message =
        "Command " ++ word ++ " cannot be executed inside If/Else block. " ++
          "Only SetFlag, SetVariable, ModifyVariable, and nested If commands are allowed." := by
  obtain ⟨condition, thenDo, elseDo, rfl⟩ := branches
  obtain ⟨hstate, hresult⟩ := execute_branch current
  rw [hstate, hresult]
  refine ⟨fun name h => Memory.flag_run h p.memory, fun name h => Memory.variable_run h p.memory, rfl,
    fun word => ⟨?_, rfl⟩⟩
  rw [← Memory.flowInsideBranch_iff]
  cases (p.memory.run (.branch condition thenDo elseDo)).result with
  | ok done => exact ⟨fun h => (by cases h), fun h => (by cases h)⟩
  | error fault =>
    constructor
    · rintro ⟨⟩
      rfl
    · rintro ⟨⟩
      rfl

namespace Sample

/-- A trap door: what stands inside shows a cat, asks, writes, and leaves before it has made the hall
safe. -/
def trapDoor : Command :=
  .branch (.flag "armed" false)
    [.stage (.showCharacter "cat" "cat.png" "left" none none), .setFlag "armed" true,
     .branch (.compared "coins" .lessThan (.int 5)) [.flow .back]
      [.modifyVariable "coins" (.integer .add (.int 1)), .offer ⟨[], none⟩, .unknown "trap",
       .flow .finish, .setFlag "safe" true]] []

/-- A story with a trap door in its hall. -/
def trap : Scenario :=
  .ofScenes ⟨"trap", "Trap", none, none, none⟩ "hall"
    [⟨"hall", "Hall", [trapDoor], none, none⟩] []

/-- The session in front of the trap door. -/
def atTrap : Session :=
  Session.after trap ⟨{}, []⟩ [.setFlag "rich" true, .setVariable "lives" (.int 3), .start]

end Sample

/-- The story ends inside the inner branch, with one coin and the trap armed; the rest is as before. -/
theorem branch_footprint_at_trap :
    Sample.trapDoor.IsBranch ∧
      Sample.atTrap.playback.currentCommand? Sample.trap = some Sample.trapDoor ∧
      (Sample.atTrap.playback.execute Sample.trap).result = .error (.flowInsideBranch "EndCommand") ∧
      (Sample.atTrap.playback.execute Sample.trap).state.memory.flags.get? "armed" = some true ∧
      (Sample.atTrap.playback.execute Sample.trap).state.memory.flags.get? "rich" = some true ∧
      (Sample.atTrap.playback.execute Sample.trap).state.memory.vars.get? "coins" = some (.int 1) ∧
      (Sample.atTrap.playback.execute Sample.trap).state.memory.vars.get? "lives" = some (.int 3) ∧
      (Sample.atTrap.playback.execute Sample.trap).state.stage = Sample.atTrap.playback.stage ∧
      ∃ there, Sample.atTrap.playback.memory.ComesTo Sample.trapDoor (.flow .finish) there := by
  have branches : Sample.trapDoor.IsBranch := ⟨_, _, _, rfl⟩
  have current : Sample.atTrap.playback.currentCommand? Sample.trap = some Sample.trapDoor := rfl
  have notRich : ¬Sample.trapDoor.WritesFlag "rich" := by
    rintro ⟨value, h⟩
    simp [Sample.trapDoor, Command.occurs_branch_iff, Command.occursIn_cons_iff,
      Command.not_occursIn_nil, Command.occurs_iff_eq, Command.IsBranch] at h
  have notLives : ¬Sample.trapDoor.WritesVariable "lives" := by
    rintro (⟨value, h⟩ | ⟨operation, h⟩) <;>
    simp [Sample.trapDoor, Command.occurs_branch_iff, Command.occursIn_cons_iff,
      Command.not_occursIn_nil, Command.occurs_iff_eq, Command.IsBranch] at h
  have failed : (Sample.atTrap.playback.execute Sample.trap).result =
      .error (.flowInsideBranch "EndCommand") := rfl
  obtain ⟨flags, vars, rest, refusal⟩ := branch_footprint branches current
  obtain ⟨move, there, comes, hname⟩ := (refusal "EndCommand").1.1 failed
  have hmove : move = .finish := by
    cases move with
    | finish => rfl
    | _ => simp [Flow.name] at hname
  subst hmove
  refine ⟨branches, current, failed, rfl, flags "rich" notRich, rfl, vars "lives" notLives, ?_, there, comes⟩
  rw [rest]

end VisualNovel
