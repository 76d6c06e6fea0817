import VisualNovel.Proofs.OrderedMap
import VisualNovel.Proofs.Playback.Branch
import VisualNovel.Proofs.Playback.Head

/-!
# What a scenario writes

Variables are written by two kinds of commands, at the top of a scene or inside branches, and by the
host. `Scenario.Keeps M E` asks of these commands alone that they keep a property `M` of memories and
fail with faults in `E` only. Then every request keeps `M`, as long as what the host writes and loads
does (`keeps_respond`).
-/

namespace VisualNovel

open Outcome

/-- The command occurs in the scenario, at any depth. -/
def Scenario.Has (scenario : Scenario) (command : Command) : Prop :=
  ∃ (key : String) (scene : Scene), scenario.scene? key = some scene ∧
    command.OccursIn scene.commands

/-- An operation on a variable failed. -/
def Fault.isOperation : Fault → Bool
  | .operation _ _ => true
  | _ => false

/-- The writes of a scenario keep `M`, and faults that are not in `E` do not occur. -/
structure Scenario.Keeps (scenario : Scenario) (M : Memory → Prop) (E : Fault → Prop) : Prop where
  flags : ∀ {memory : Memory} (flags : Flags), M memory → M { memory with flags }
  set : ∀ {memory : Memory} {name : String} {value : Value},
    scenario.Has (.setVariable name value) → M memory → M (memory.setVariable name value)
  modify : ∀ {memory after : Memory} {name : String} {operation : Operation},
    scenario.Has (.modifyVariable name operation) → M memory →
      memory.modify name operation = .ok after → M after
  refuse : ∀ {memory : Memory} {name : String} {operation : Operation} {fault : OperationFault},
    scenario.Has (.modifyVariable name operation) → M memory →
      memory.modify name operation = .error fault → E (.operation name fault)
  others : ∀ {fault : Fault}, fault.isOperation = false → E fault

/-- The memory of the playthrough that is left has `M`. -/
abbrev Outcome.MeetsMemory {α : Type} (M : Memory → Prop) (E : Fault → Prop)
    (o : Outcome Playback α) : Prop :=
  o.Meets (fun q => M q.memory) E

variable {scenario : Scenario} {p : Playback} {M : Memory → Prop} {E : Fault → Prop}

theorem Scenario.Has.inner {outer inner : Command} (h : scenario.Has outer)
    (ho : inner.Occurs outer) : scenario.Has inner := by
  obtain ⟨key, scene, hs, command, hmem, houter⟩ := h
  exact ⟨key, scene, hs, command, hmem, ho.trans houter⟩

theorem has_of_current {command : Command} (h : p.currentCommand? scenario = some command) :
    scenario.Has command := by
  obtain ⟨key, scene, hs, hmem⟩ := Playback.mem_commands_of_current h
  exact ⟨key, scene, hs, command, hmem, .self⟩

/-! ## Commands -/

/-- A branch of the scenario keeps what its writes keep. -/
theorem keeps_runAll (hk : scenario.Keeps M E) {commands : List Command}
    (has : ∀ command, command.OccursIn commands → scenario.Has command) {memory : Memory}
    (h : M memory) : (memory.runAll commands).Meets M E := by
  refine Memory.meets_runAll (fun _ => hk.others rfl) commands memory h fun inner ho hb m hm => ?_
  have hinner := has inner ho
  cases inner with
  | branch condition thenDo elseDo => exact absurd ⟨_, _, _, rfl⟩ hb
  | setVariable name value =>
    unfold Memory.run
    exact meets_done (hk.set hinner hm)
  | modifyVariable name operation =>
    unfold Memory.run
    split
    · next hok => exact meets_done (hk.modify hinner hm hok)
    · next herr => exact meets_fail hm (hk.refuse hinner hm herr)
  | setFlag name value =>
    unfold Memory.run
    exact meets_done (hk.flags _ hm)
  | flow move =>
    unfold Memory.run
    exact meets_fail hm (hk.others rfl)
  | _ =>
    unfold Memory.run
    exact meets_ok hm

theorem keeps_jump (hk : scenario.Keeps M E) (h : M p.memory) (key : String) :
    (p.jump scenario key).MeetsMemory M E := by
  unfold Playback.jump
  split
  · exact meets_fail h (hk.others rfl)
  · exact meets_ok h

theorem keeps_call (hk : scenario.Keeps M E) (h : M p.memory) (key returnScene : String) :
    (p.call scenario key returnScene).MeetsMemory M E := by
  unfold Playback.call
  split
  · exact meets_fail h (hk.others rfl)
  · split
    · exact meets_fail h (hk.others rfl)
    · split
      · exact meets_fail h (hk.others rfl)
      · refine Meets.report ?_ _
        apply keeps_jump hk
        exact h

theorem keeps_back (hk : scenario.Keeps M E) (h : M p.memory) :
    (p.back scenario).MeetsMemory M E := by
  unfold Playback.back
  split
  · exact meets_fail h (hk.others rfl)
  · refine Meets.andThen ?_ fun entered signal he => meets_ok he
    apply keeps_jump hk
    exact h

theorem keeps_branch (hk : scenario.Keeps M E) (h : M p.memory) {condition : Condition}
    {thenDo elseDo : List Command} (has : scenario.Has (.branch condition thenDo elseDo)) :
    (p.branch condition thenDo elseDo).MeetsMemory M E := by
  unfold Playback.branch
  split
  · exact meets_fail h (hk.others rfl)
  · next answer _ =>
    have harm : ∀ command, command.OccursIn (if answer then thenDo else elseDo) →
        scenario.Has command := by
      rintro command ⟨inner, hmem, ho⟩
      refine has.inner (.inside ?_ ho)
      cases answer
      · exact .inr hmem
      · exact .inl hmem
    have hrun := keeps_runAll hk harm h
    exact ⟨hrun.state, (hrun.map fun _ => Signal.proceed).fault⟩

theorem keeps_execute (hk : scenario.Keeps M E) (h : M p.memory) :
    (p.execute scenario).MeetsMemory M E := by
  unfold Playback.execute
  cases current : p.currentCommand? scenario with
  | none => exact meets_fail h (hk.others rfl)
  | some command =>
    have has := has_of_current current
    cases command with
    | setFlag name value => exact meets_done (hk.flags _ h)
    | setVariable name value => exact meets_done (hk.set has h)
    | modifyVariable name operation =>
      show (p.modifyVariable name operation).MeetsMemory M E
      unfold Playback.modifyVariable
      split
      · next hok => exact meets_done (hk.modify has h hok)
      · next herr => exact meets_fail h (hk.refuse has h herr)
    | branch condition thenDo elseDo => exact keeps_branch hk h has
    | offer choice =>
      show (p.offer choice).MeetsMemory M E
      unfold Playback.offer
      split
      · exact meets_fail h (hk.others rfl)
      · exact meets_fail h (hk.others rfl)
      · exact meets_done h
    | flow move =>
      cases move with
      | jump key => exact keeps_jump hk h key
      | call key returnScene => exact keeps_call hk h key returnScene
      | back => exact keeps_back hk h
      | finish => exact meets_done h
    | unknown text => exact meets_fail h (hk.others rfl)
    | _ => exact meets_ok h

/-! ## Requests -/

theorem keeps_select (hk : scenario.Keeps M E) (h : M p.memory) (index : Int) :
    (p.select scenario index).MeetsMemory M E := by
  unfold Playback.select
  split
  · exact meets_fail h (hk.others rfl)
  · split
    · exact meets_fail h (hk.others (Fault.apply_showing Fault.isOperation rfl rfl))
    · apply keeps_jump hk
      exact hk.flags _ h
  · exact meets_fail h (hk.others rfl)

theorem Frame.check_error {frames : List Frame} {fault : Fault}
    (h : Frame.check scenario frames = .error fault) : fault.isOperation = false := by
  induction frames with
  | nil => cases h
  | cons frame rest ih =>
    unfold Frame.check at h
    split at h
    · cases h
      rfl
    · split at h
      · cases h
        exact Fault.apply_showing Fault.isOperation rfl rfl
      · exact ih h

theorem SaveData.check_error {data : SaveData} {fault : Fault}
    (h : data.check scenario = .error fault) : fault.isOperation = false := by
  unfold SaveData.check at h
  split at h
  · cases h
    rfl
  · split at h
    · cases h
      exact Fault.apply_showing Fault.isOperation rfl rfl
    · split at h
      · cases h
        rfl
      · exact Frame.check_error h

/-- The memory that loading a saved game gives. -/
def SaveData.memory (data : SaveData) : Memory :=
  ⟨data.flags, .ofIntegers data.vars⟩

theorem SaveData.get?_memory_eq_some_iff {data : SaveData} {name : String} {value : Value} :
    data.memory.vars.get? name = some value ↔ ∃ n, data.vars.get? name = some n ∧ .int n = value := by
  show (data.vars.map Value.int).get? name = some value ↔ _
  rw [OrderedMap.get?_map, Option.map_eq_some_iff]

/-- A save takes its integers from the variables. -/
theorem get?_save_eq_some_iff {slot : Int} {name : String} {n : Int} :
    (p.save slot).vars.get? name = some n ↔ p.memory.vars.get? name = some (.int n) := by
  refine OrderedMap.get?_filterMap_eq_some_iff.trans ⟨?_, fun h => ⟨_, h, rfl⟩⟩
  rintro ⟨stored, hvar, hint⟩
  cases stored with
  | int m =>
    cases hint
    exact hvar
  | _ => cases hint

/-- What the host writes, removes or loads keeps `M`. -/
structure Request.Keeps (M : Memory → Prop) (memory : Memory) (request : Request) : Prop where
  set : ∀ name value, request = .setVariable name value → M (memory.setVariable name value)
  remove : ∀ name, request = .removeVariable name → M { memory with vars := memory.vars.erase name }
  load : ∀ data, request = .load data → M data.memory

/-- **Writing.** What the writes of the scenario keep, every request keeps. -/
theorem keeps_respond (hk : scenario.Keeps M E) (h : M p.memory) {request : Request}
    (hr : request.Keeps M p.memory) : (p.respond scenario request).MeetsMemory M E := by
  cases request with
  | start =>
    refine Meets.map ?_ _
    unfold Playback.start
    split
    · exact meets_ok h
    · exact meets_fail h (hk.others rfl)
  | execute => exact (keeps_execute hk h).map _
  | advance =>
    show (Playback.told (p.advance scenario)).MeetsMemory M E
    unfold Playback.advance
    split
    · exact meets_done h
    · split
      · exact meets_done h
      · exact meets_done h
  | select index => exact (keeps_select hk h index).map _
  | jump key => exact (keeps_jump hk h key).map _
  | load data =>
    refine Meets.map ?_ _
    unfold Playback.load
    split
    · next hcheck => exact meets_fail h (hk.others (SaveData.check_error hcheck))
    · exact meets_ok (hr.load data rfl)
  | eval condition =>
    refine Meets.map ?_ _
    unfold Playback.eval
    split
    · exact meets_done h
    · exact meets_fail h (hk.others rfl)
  | setFlag name value => exact meets_done (hk.flags _ h)
  | toggleFlag name => exact meets_done (hk.flags _ h)
  | setVariable name value => exact meets_done (hr.set name value rfl)
  | removeVariable name => exact meets_done (hr.remove name rfl)
  | _ => exact meets_done h

end VisualNovel
