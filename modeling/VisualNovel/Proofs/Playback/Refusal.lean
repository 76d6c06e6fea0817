import VisualNovel.Proofs.Playback.Branch
import VisualNovel.Proofs.Playback.Placement

/-!
# What a failure leaves behind

1. Most actions that fail leave the playthrough as it was (`Outcome.Undone`): they check before they
   write. A return takes its frame off first, and is undone only because it cannot fail then: the scenes
   of a reached stack exist.
2. A choice sets the flags of its option before it jumps, and a branch writes until one of its commands
   fails. Both leave all but the memory as it was (`Outcome.Unmoved`).
3. A branch that fails leaves the memory as the commands before the failing one made it, at every depth
   (`Memory.Breaks`).
-/

namespace VisualNovel

open Playback

/-! ## Failures of commands inside a branch -/

/-- A command, run inside a branch on `memory`, fails with `fault` and leaves `after`. -/
inductive Memory.Breaks : Memory → Command → Fault → Memory → Prop
  /-- A command that is no branch leaves the memory it found. -/
  | alone {memory : Memory} {command : Command} {fault : Fault} (simple : ¬command.IsBranch)
      (fails : (memory.run command).result = .error fault) : Breaks memory command fault memory
  | condition {memory : Memory} {condition : Condition} {thenDo elseDo : List Command}
      {fault : ConditionFault} (fails : memory.eval condition = .error fault) :
      Breaks memory (.branch condition thenDo elseDo) (.condition fault) memory
  /-- A branch leaves what the commands before the failing one wrote, and what that one left. -/
  | inside {memory after : Memory} {condition : Condition} {thenDo elseDo before rest : List Command}
      {answer : Bool} {command : Command} {fault : Fault}
      (answers : memory.eval condition = .ok answer)
      (arm : (if answer then thenDo else elseDo) = before ++ command :: rest)
      (ran : (memory.runAll before).result = .ok ())
      (breaks : Breaks (memory.runAll before).state command fault after) :
      Breaks memory (.branch condition thenDo elseDo) fault after

namespace Memory

theorem run_branch (memory : Memory) (condition : Condition) (thenDo elseDo : List Command) :
    memory.run (.branch condition thenDo elseDo) =
      match memory.eval condition with
      | .ok answer => memory.runAll (if answer then thenDo else elseDo)
      | .error fault => .fail memory (.condition fault) := by
  unfold run
  cases memory.eval condition with
  | ok answer => cases answer <;> rfl
  | error fault => rfl

theorem state_run_of_error {memory : Memory} {command : Command} {fault : Fault}
    (simple : ¬command.IsBranch) (h : (memory.run command).result = .error fault) :
    (memory.run command).state = memory := by
  cases command with
  | branch condition thenDo elseDo => exact absurd ⟨_, _, _, rfl⟩ simple
  | modifyVariable name operation =>
    unfold run at h ⊢
    cases hm : memory.modify name operation with
    | ok after =>
      rw [hm] at h
      cases h
    | error fault => rfl
  | setFlag name value =>
    unfold run at h
    cases h
  | setVariable name value =>
    unfold run at h
    cases h
  | flow move =>
    unfold run
    rfl
  | _ =>
    unfold run
    rfl

theorem runAll_cons (memory : Memory) (command : Command) (rest : List Command) :
    memory.runAll (command :: rest) =
      (memory.run command).andThen fun after _ => after.runAll rest := by
  rw [runAll]

mutual

theorem breaks_of_run (command : Command) {memory : Memory} {fault : Fault}
    (h : (memory.run command).result = .error fault) :
    memory.Breaks command fault (memory.run command).state := by
  by_cases hb : command.IsBranch
  · obtain ⟨condition, thenDo, elseDo, rfl⟩ := hb
    rw [run_branch] at h ⊢
    cases heval : memory.eval condition with
    | error cause =>
      rw [heval] at h
      cases h
      exact .condition heval
    | ok answer =>
      rw [heval] at h
      cases answer with
      | true =>
        obtain ⟨before, inner, rest, harm, ran, breaks⟩ := breaks_of_runAll thenDo h
        exact .inside heval harm ran breaks
      | false =>
        obtain ⟨before, inner, rest, harm, ran, breaks⟩ := breaks_of_runAll elseDo h
        exact .inside heval harm ran breaks
  · rw [state_run_of_error hb h]
    exact .alone hb h
termination_by sizeOf command

/-- A list of commands that fails has a first command that does. -/
theorem breaks_of_runAll (commands : List Command) {memory : Memory} {fault : Fault}
    (h : (memory.runAll commands).result = .error fault) :
    ∃ before command rest, commands = before ++ command :: rest ∧
      (memory.runAll before).result = .ok () ∧
      (memory.runAll before).state.Breaks command fault (memory.runAll commands).state := by
  cases commands with
  | nil =>
    unfold runAll at h
    cases h
  | cons command rest =>
    rw [runAll_cons] at h ⊢
    cases hrun : (memory.run command).result with
    | error cause =>
      obtain ⟨hstate, hresult⟩ := Outcome.andThen_of_error hrun fun after _ => after.runAll rest
      cases hresult.symm.trans h
      refine ⟨[], command, rest, rfl, by rw [runAll]; rfl, ?_⟩
      rw [hstate, runAll]
      exact breaks_of_run command hrun
    | ok done =>
      obtain ⟨hstate, hresult⟩ := Outcome.andThen_of_ok hrun fun after _ => after.runAll rest
      rw [hresult] at h
      obtain ⟨before, inner, more, hrest, ran, breaks⟩ := breaks_of_runAll rest h
      have hbefore := Outcome.andThen_of_ok hrun fun after _ => after.runAll before
      rw [← runAll_cons] at hbefore
      refine ⟨command :: before, inner, more, by rw [hrest, List.cons_append], ?_, ?_⟩
      · rw [hbefore.2]
        exact ran
      · rw [hbefore.1, hstate]
        exact breaks
termination_by sizeOf commands

end

end Memory

/-! ## Failures that leave everything, or all but the memory -/

namespace Outcome

variable {α β : Type} {p : Playback} {o : Outcome Playback α}

/-- If the action fails, it leaves the playthrough as it was. -/
def Undone (p : Playback) (o : Outcome Playback α) : Prop :=
  ∀ fault, o.result = .error fault → o.state = p

/-- If the action fails, it leaves all but the memory as it was. -/
def Unmoved (p : Playback) (o : Outcome Playback α) : Prop :=
  ∀ fault, o.result = .error fault → o.state = { p with memory := o.state.memory }

theorem undone_fail (p : Playback) (fault : Fault) :
    (fail p fault : Outcome Playback α).Undone p :=
  fun _ _ => rfl

theorem undone_ok {state : Playback} {log : List Event} {a : α} :
    (⟨state, log, .ok a⟩ : Outcome Playback α).Undone p := by
  intro fault h
  cases h

theorem Undone.map (h : o.Undone p) (f : α → β) : (o.map f).Undone p := by
  intro fault hf
  rw [result_map] at hf
  exact h fault (eq_error_of_map hf)

theorem Unmoved.map (h : o.Unmoved p) (f : α → β) : (o.map f).Unmoved p := by
  intro fault hf
  rw [result_map] at hf
  exact h fault (eq_error_of_map hf)

theorem Undone.unmoved (h : o.Undone p) : o.Unmoved p := by
  intro fault hf
  rw [h fault hf]

end Outcome

open Outcome

variable {scenario : Scenario} {p : Playback}

theorem undone_start : (p.start scenario).Undone p := by
  unfold start
  split
  · exact undone_ok
  · exact undone_fail p _

theorem undone_jump (key : String) : (p.jump scenario key).Undone p := by
  unfold jump
  split
  · exact undone_fail p _
  · exact undone_ok

/-- A call that has pushed its frame cannot fail any more. -/
theorem undone_call (key returnScene : String) : (p.call scenario key returnScene).Undone p := by
  by_cases h : scenario.hasScene key ∧ scenario.hasScene returnScene ∧ p.stack.length < maxCallDepth
  · obtain ⟨hk, hr, room⟩ := h
    obtain ⟨target, ht⟩ := Scenario.hasScene_iff.1 hk
    rw [call_known hk hr room, jump_known ht]
    exact undone_ok
  · intro fault _
    exact call_refused h

/-- A return that has taken its frame off cannot fail any more, from a valid place. -/
theorem undone_back (hp : p.head.Valid scenario) : (p.back scenario).Undone p := by
  cases top : p.stack.getLast? with
  | none =>
    rw [back_empty top]
    exact undone_fail p _
  | some frame =>
    have known : scenario.hasScene frame.scene := (hp.frames frame (List.mem_of_getLast? top)).1
    obtain ⟨target, ht⟩ := Scenario.hasScene_iff.1 known
    rw [back_known top ht]
    exact undone_ok

/-- From a valid place, a command that is no branch changes nothing if it fails. -/
theorem undone_executeCommand (hp : p.head.Valid scenario) {command : Command}
    (simple : ¬command.IsBranch) : (p.executeCommand scenario command).Undone p := by
  cases command with
  | branch condition thenDo elseDo => exact absurd ⟨_, _, _, rfl⟩ simple
  | modifyVariable name operation =>
    show (p.modifyVariable name operation).Undone p
    unfold modifyVariable
    split
    · exact undone_ok
    · exact undone_fail p _
  | offer choice =>
    show (p.offer choice).Undone p
    unfold offer
    split
    · exact undone_fail p _
    · exact undone_fail p _
    · exact undone_ok
  | flow move =>
    cases move with
    | jump key => exact undone_jump key
    | call key returnScene => exact undone_call key returnScene
    | back => exact undone_back hp
    | finish => exact undone_ok
  | unknown text => exact undone_fail p _
  | _ => exact undone_ok

theorem undone_execute (hp : p.head.Valid scenario)
    (simple : ∀ command, p.currentCommand? scenario = some command → ¬command.IsBranch) :
    (p.execute scenario).Undone p := by
  unfold execute
  cases current : p.currentCommand? scenario with
  | none => exact undone_fail p _
  | some command => exact undone_executeCommand hp (simple command current)

theorem undone_load (data : SaveData) : (p.load scenario data).Undone p := by
  unfold load
  split
  · exact undone_fail p _
  · exact undone_ok

theorem undone_eval (condition : Condition) : (p.eval condition).Undone p := by
  unfold eval
  split
  · exact undone_ok
  · exact undone_fail p _

/-- The option's flags are set before the jump, and stay set if its scene does not exist. -/
theorem unmoved_select (index : Int) : (p.select scenario index).Unmoved p := by
  unfold select
  split
  · exact (undone_fail p _).unmoved
  · split
    · exact (undone_fail p _).unmoved
    · intro fault hf
      rw [undone_jump _ fault hf]
  · exact (undone_fail p _).unmoved

theorem execute_branch {condition : Condition} {thenDo elseDo : List Command}
    (current : p.currentCommand? scenario = some (.branch condition thenDo elseDo)) :
    (p.execute scenario).state =
        { p with memory := (p.memory.run (.branch condition thenDo elseDo)).state } ∧
      (p.execute scenario).result =
        (p.memory.run (.branch condition thenDo elseDo)).result.map fun _ => .proceed := by
  unfold execute
  rw [current, Memory.run_branch]
  show (p.branch condition thenDo elseDo).state = _ ∧ (p.branch condition thenDo elseDo).result = _
  unfold branch
  cases p.memory.eval condition with
  | ok answer => exact ⟨rfl, rfl⟩
  | error fault => exact ⟨rfl, rfl⟩

theorem unmoved_execute (hp : p.head.Valid scenario) : (p.execute scenario).Unmoved p := by
  by_cases hb : ∃ condition thenDo elseDo,
      p.currentCommand? scenario = some (.branch condition thenDo elseDo)
  · obtain ⟨condition, thenDo, elseDo, current⟩ := hb
    intro fault _
    rw [(execute_branch current).1]
  · refine (undone_execute hp ?_).unmoved
    rintro command current ⟨condition, thenDo, elseDo, rfl⟩
    exact hb ⟨condition, thenDo, elseDo, current⟩

/-! ## Requests -/

/-- The request answers a choice, or executes a branch. -/
def Playback.MayWriteBeforeFailing (scenario : Scenario) (p : Playback) (request : Request) : Prop :=
  (∃ index, request = .select index) ∨
    request = .execute ∧ ∃ command, p.currentCommand? scenario = some command ∧ command.IsBranch

theorem undone_respond (hp : p.head.Valid scenario) {request : Request}
    (h : ¬p.MayWriteBeforeFailing scenario request) : (p.respond scenario request).Undone p := by
  cases request with
  | start => exact undone_start.map _
  | execute =>
    refine (undone_execute hp ?_).map _
    intro command current hb
    exact h (.inr ⟨rfl, command, current, hb⟩)
  | select index => exact absurd (.inl ⟨index, rfl⟩) h
  | jump key => exact (undone_jump key).map _
  | load data => exact (undone_load data).map _
  | eval condition => exact (undone_eval condition).map _
  | _ => exact undone_ok

theorem unmoved_respond (hp : p.head.Valid scenario) (request : Request) :
    (p.respond scenario request).Unmoved p := by
  by_cases h : p.MayWriteBeforeFailing scenario request
  · rcases h with ⟨index, rfl⟩ | ⟨rfl, _⟩
    · exact (unmoved_select index).map _
    · exact (unmoved_execute hp).map _
  · exact (undone_respond hp h).unmoved

/-- **Failures.** A request that fails leaves the play head, the open calls, the lines read, the backlog,
the stage, the unlocks and what the host has still to be told as they were. Unless it answered a choice or
executed a branch, it leaves the memory too; and a branch leaves the memory that the commands in front of
the failing one made. -/
theorem failure_moves_nothing {s : Session} (h : s.Reached scenario Session.anyRequest)
    {request : Request} {fault : Fault}
    (failed : (s.playback.respond scenario request).result = .error fault) :
    (s.playback.respond scenario request).state =
        { s.playback with memory := (s.playback.respond scenario request).state.memory } ∧
      (¬s.playback.MayWriteBeforeFailing scenario request →
        (s.playback.respond scenario request).state = s.playback) ∧
      ∀ condition thenDo elseDo, request = .execute →
        s.playback.currentCommand? scenario = some (.branch condition thenDo elseDo) →
        s.playback.memory.Breaks (.branch condition thenDo elseDo) fault
          (s.playback.respond scenario request).state.memory := by
  refine ⟨unmoved_respond h.valid request fault failed,
    fun hw => undone_respond h.valid hw fault failed, ?_⟩
  rintro condition thenDo elseDo rfl current
  obtain ⟨hstate, hresult⟩ := execute_branch current
  have hrun : (s.playback.memory.run (.branch condition thenDo elseDo)).result = .error fault := by
    have hexec : (s.playback.execute scenario).result = .error fault := eq_error_of_map failed
    rw [hresult] at hexec
    exact eq_error_of_map hexec
  show s.playback.memory.Breaks _ fault (s.playback.execute scenario).state.memory
  rw [hstate]
  exact Memory.breaks_of_run _ hrun

namespace Sample

/-- Commands that enter a room and find a coin there, but cannot divide it. -/
def findCoin : List Command :=
  [.setFlag "entered" true,
   .branch (.flag "entered" true)
    [.setVariable "coins" (.int 1), .modifyVariable "coins" (.integer .divide (.int 0)),
     .setFlag "rich" true] []]

/-- A story that does nothing but look for the coin. -/
def coinStory : Scenario :=
  .ofScenes ⟨"coin", "Coin", none, none, none⟩ "hall"
    [⟨"hall", "Hall", [.branch (.constant true) findCoin []], none, none⟩] []

/-- The session at the beginning of that story. -/
def atCoin : Session :=
  Session.after coinStory ⟨{}, []⟩ [.start]

end Sample

/-- The coin was found inside the inner branch, and the flag behind the division was not set. -/
theorem failure_moves_nothing_at_coin :
    Sample.atCoin.Reached Sample.coinStory Session.anyRequest ∧
      (Sample.atCoin.playback.respond Sample.coinStory .execute).result =
        .error (.operation "coins" .divisionByZero) ∧
      (Sample.atCoin.playback.respond Sample.coinStory .execute).state =
        { Sample.atCoin.playback with
          memory := ⟨.ofList [("entered", true)], .ofList [("coins", .int 1)]⟩ } ∧
      Sample.atCoin.playback.memory.Breaks (.branch (.constant true) Sample.findCoin [])
        (.operation "coins" .divisionByZero)
        (Sample.atCoin.playback.respond Sample.coinStory .execute).state.memory := by
  have reached : Sample.atCoin.Reached Sample.coinStory Session.anyRequest :=
    Session.Reached.after (@Session.Reached.created Sample.coinStory Session.anyRequest {} {} {} rfl)
      (Session.permitted_of_forall fun _ _ _ => trivial)
  have failed : (Sample.atCoin.playback.respond Sample.coinStory .execute).result =
      .error (.operation "coins" .divisionByZero) := rfl
  obtain ⟨unmoved, -, breaks⟩ := failure_moves_nothing reached failed
  refine ⟨reached, failed, ?_, breaks (.constant true) Sample.findCoin [] rfl rfl⟩
  rw [unmoved]
  rfl

end VisualNovel
