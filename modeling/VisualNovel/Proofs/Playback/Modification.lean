import VisualNovel.Proofs.Number.Overflow
import VisualNovel.Proofs.Playback.Course

/-!
# Modifying a variable

1. Applying an operation gives a value or a refusal: of the kind of the value, of the operand or of the
   divisor (`OperationFault.isRefusal`). The one exception is an integer that is too large for a binary64
   number, as the operand of an operation on such numbers (`Operation.apply_error`).
2. So a modification stores the value and nothing else, or it is refused and stores nothing, unless its
   operand is too large for the variable it finds (`Memory.modify_of_overflows`, `modify_of_not_overflows`).
3. A command that fails inside a branch makes the branch fail with its fault, at every depth
   (`execute_of_comesTo_error`). So the same holds of a modification wherever it stands
   (`modification_stores_or_refused_unless_overflow`).
-/

namespace VisualNovel

open Playback

/-! ## Applying an operation -/

/-- The operation refuses what it is given. -/
def OperationFault.isRefusal : OperationFault → Bool
  | .wrongKind .. | .wrongOperand .. | .divisionByZero => true
  | .operandTooLarge | .unknown _ => false

/-- A refusal names the variable. -/
theorem OperationFault.messageFor_of_refusal {fault : OperationFault} (h : fault.isRefusal = true)
    (name : String) : fault.messageFor name =
      "Failed to apply operation to variable '" ++ name ++ "': " ++ fault.message := by
  cases fault with
  | operandTooLarge => cases h
  | unknown text => cases h
  | _ => rfl

namespace Operation

variable {operation : Operation} {current : Value} {fault : OperationFault}

/-- Arithmetic on binary64 numbers whose operand is an integer that none of them is nearest to. -/
def Overflows (operation : Operation) : Prop :=
  ∃ arithmetic n, operation = .real arithmetic (.int n) ∧ Binary64.overflowThreshold ≤ n.natAbs

theorem floatOperand_eq_tooLarge_iff {word : String} {operand : Document} :
    floatOperand word operand = .error .operandTooLarge ↔
      ∃ n, operand = .int n ∧ Binary64.overflowThreshold ≤ n.natAbs := by
  constructor
  · intro h
    unfold floatOperand at h
    split at h
    · cases h
    · next n =>
      refine ⟨n, rfl, (Binary64.ofInt?_eq_none_iff n).1 ?_⟩
      split at h
      · cases h
      · next hnone => exact hnone
    · cases h
  · rintro ⟨n, rfl, hn⟩
    unfold floatOperand
    simp only [(Binary64.ofInt?_eq_none_iff n).2 hn]

theorem apply_of_overflows (h : operation.Overflows) (hkind : current.kind = .float) :
    operation.apply current = .error .operandTooLarge := by
  obtain ⟨arithmetic, n, rfl, hn⟩ := h
  cases current with
  | float left =>
    unfold apply
    simp only [floatOperand_eq_tooLarge_iff.2 ⟨n, rfl, hn⟩]
  | _ => cases hkind

/-- An operation that fails refuses, unless its operand is too large, or it is none. -/
theorem apply_error (h : operation.apply current = .error fault) :
    fault.isRefusal = true ∨ operation.Overflows ∧ current.kind = .float ∨
      ∃ text, operation = .unknown text := by
  unfold apply at h
  split at h
  · cases h
  · split at h
    · next hf =>
      cases h
      obtain ⟨found, rfl⟩ := intOperand_error hf
      exact .inl rfl
    · cases evalInt_error (eq_error_of_map h)
      exact .inl rfl
  · split at h
    · next hf =>
      cases h
      rcases floatOperand_error hf with rfl | ⟨found, rfl⟩
      · obtain ⟨n, rfl, hn⟩ := floatOperand_eq_tooLarge_iff.1 hf
        exact .inr (.inl ⟨⟨_, n, rfl, hn⟩, rfl⟩)
      · exact .inl rfl
    · cases evalFloat_error (eq_error_of_map h)
      exact .inl rfl
  · cases h
  · cases h
  · exact .inr (.inr ⟨_, rfl⟩)
  · cases h
    exact .inl rfl

end Operation

/-! ## Modifying the memory -/

namespace Memory

variable {memory after there : Memory} {name : String} {operation : Operation} {command inner : Command}

/-- The operation overflows on what it finds in the variable; a variable without a value counts as one with
a number. -/
def Overflows (memory : Memory) (name : String) (operation : Operation) : Prop :=
  operation.Overflows ∧ ∀ value, memory.vars.get? name = some value → value.kind = .float

/-- After the write the variable has this value, and all else is as before. -/
def StoresOnly (memory : Memory) (name : String) (value : Value) (after : Memory) : Prop :=
  after.flags = memory.flags ∧ ∀ other, after.vars.get? other =
    if other = name then some value else memory.vars.get? other

theorem storesOnly_setVariable (memory : Memory) (name : String) (value : Value) :
    memory.StoresOnly name value (memory.setVariable name value) :=
  ⟨rfl, fun other => OrderedMap.get?_insert memory.vars name other value⟩

theorem modify_of_overflows (h : memory.Overflows name operation) :
    memory.modify name operation = .error .operandTooLarge := by
  obtain ⟨hoverflows, hkind⟩ := h
  rcases modify_cases memory name operation with ⟨current, hcurrent, hmodify⟩ | ⟨text, rfl, -⟩
  · have hfloat : current.kind = .float := by
      rcases hcurrent with hvar | ⟨-, hstart⟩
      · exact hkind current hvar
      · obtain ⟨arithmetic, n, rfl, -⟩ := hoverflows
        cases hstart
        rfl
    rw [hmodify, Operation.apply_of_overflows hoverflows hfloat]
    rfl
  · obtain ⟨arithmetic, n, hreal, -⟩ := hoverflows
    cases hreal

theorem modify_of_not_overflows (known : ∀ text, operation ≠ .unknown text)
    (h : ¬memory.Overflows name operation) :
    (∃ value, memory.modify name operation = .ok (memory.setVariable name value)) ∨
      ∃ fault, fault.isRefusal = true ∧ memory.modify name operation = .error fault := by
  rcases modify_cases memory name operation with ⟨current, hcurrent, hmodify⟩ | ⟨text, hunknown, -⟩
  · rw [hmodify]
    cases happly : operation.apply current with
    | ok value => exact .inl ⟨value, rfl⟩
    | error fault =>
      rcases Operation.apply_error happly with hrefusal | ⟨hoverflows, hfloat⟩ | ⟨text, hunknown⟩
      · exact .inr ⟨fault, hrefusal, rfl⟩
      · refine absurd ⟨hoverflows, fun value hvalue => ?_⟩ h
        rcases hcurrent with hvar | ⟨hnone, -⟩
        · cases hvar.symm.trans hvalue
          exact hfloat
        · cases hnone.symm.trans hvalue
      · exact absurd hunknown (known text)
  · exact absurd hunknown (known text)

theorem run_modify_of_ok (h : memory.modify name operation = .ok after) :
    memory.run (.modifyVariable name operation) = .done after () := by
  unfold run
  rw [h]

theorem run_modify_of_error {fault : OperationFault} (h : memory.modify name operation = .error fault) :
    memory.run (.modifyVariable name operation) = .fail memory (.operation name fault) := by
  unfold run
  rw [h]

theorem ComesTo.worksOnMemory (h : memory.ComesTo command inner there)
    (works : inner.worksOnMemory = true) : command.worksOnMemory = true := by
  cases h with
  | self => exact works
  | inside => rfl

end Memory

/-! ## Modifying during play -/

variable {scenario : Scenario} {p : Playback} {command inner : Command} {there : Memory} {name : String}
  {operation : Operation}

/-- What a command does that works on the memory and fails, the current command does that comes to it. -/
theorem execute_of_comesTo_error {fault : Fault} (current : p.currentCommand? scenario = some command)
    (comes : p.memory.ComesTo command inner there) (works : inner.worksOnMemory = true)
    (hf : there.run inner = .fail there fault) :
    (p.execute scenario).result = .error fault ∧
      (p.execute scenario).state = { p with memory := there } := by
  have hfault : (there.run inner).result = .error fault := by
    rw [hf]
    rfl
  obtain ⟨hresult, hstate⟩ := comes.fails hfault
  obtain ⟨hstate', hresult'⟩ := execute_of_worksOnMemory current (comes.worksOnMemory works)
  rw [hresult', hstate', hresult, hstate, hf]
  exact ⟨rfl, rfl⟩

theorem execute_modify_of_ok {after : Memory}
    (current : p.currentCommand? scenario = some (.modifyVariable name operation))
    (h : p.memory.modify name operation = .ok after) :
    p.execute scenario = .done { p with memory := after } .proceed := by
  unfold execute
  rw [current]
  show p.modifyVariable name operation = _
  unfold modifyVariable
  rw [h]

/-- **Modifications.** A modification that the current command is or comes to, inside branches, stores a
value in its variable and nothing else, or is refused: then the command fails with a message that names the
variable, and leaves the memory as the modification found it. But where its operand is too large for the
variable, the command fails for that. -/
theorem modification_stores_or_refused_unless_overflow
    (current : p.currentCommand? scenario = some command)
    (comes : p.memory.ComesTo command (.modifyVariable name operation) there)
    (known : ∀ text, operation ≠ .unknown text) :
    (¬there.Overflows name operation →
      (∃ value after, there.StoresOnly name value after ∧
        there.run (.modifyVariable name operation) = .done after () ∧
        (command = .modifyVariable name operation →
          p.execute scenario = .done { p with memory := after } .proceed)) ∨
      ∃ fault : OperationFault, fault.isRefusal = true ∧
        (p.execute scenario).result = .error (.operation name fault) ∧
        (Fault.operation name fault).message =
          "Failed to apply operation to variable '" ++ name ++ "': " ++ fault.message ∧
        (p.execute scenario).state = { p with memory := there }) ∧
    (there.Overflows name operation →
      (p.execute scenario).result = .error (.operation name .operandTooLarge) ∧
        (p.execute scenario).state = { p with memory := there }) := by
  constructor
  · intro fits
    rcases Memory.modify_of_not_overflows known fits with ⟨value, hmodify⟩ | ⟨fault, hrefusal, hmodify⟩
    · refine .inl ⟨value, _, there.storesOnly_setVariable name value, Memory.run_modify_of_ok hmodify, ?_⟩
      rintro rfl
      cases comes
      exact execute_modify_of_ok current hmodify
    · obtain ⟨hresult, hstate⟩ :=
        execute_of_comesTo_error current comes rfl (Memory.run_modify_of_error hmodify)
      exact .inr ⟨fault, hrefusal, hresult, fault.messageFor_of_refusal hrefusal name, hstate⟩
  · intro overflows
    exact execute_of_comesTo_error current comes rfl
      (Memory.run_modify_of_error (Memory.modify_of_overflows overflows))

namespace Sample

/-- Three coins. -/
def earn : Operation :=
  .integer .add (.int 3)

/-- Coins are shared among nobody. -/
def share : List Command :=
  [.setFlag "asked" true, .modifyVariable "coins" (.integer .divide (.int 0))]

/-- More luck than a number can hold. -/
def wish : Operation :=
  .real .add (.int Binary64.overflowThreshold)

/-- The coins are earned and shared, then the wish is made. -/
def wager : Scenario :=
  .ofScenes ⟨"wager", "Wager", none, none, none⟩ "hall"
    [⟨"hall", "Hall",
      [.modifyVariable "coins" earn, .branch (.constant true) share [], .modifyVariable "luck" wish],
      none, none⟩] []

/-- The session before the coins are earned. -/
def atWork : Session :=
  Session.after wager ⟨{}, []⟩ [.start]

/-- The session before they are shared. -/
def atShare : Session :=
  Session.after wager ⟨{}, []⟩ [.start, .execute, .advance]

/-- The session before the wish. -/
def atWish : Session :=
  Session.after wager ⟨{}, []⟩ [.start, .execute, .advance, .execute, .advance]

theorem atWish_overflows : atWish.playback.memory.Overflows "luck" wish :=
  ⟨⟨.add, Binary64.overflowThreshold, rfl, Nat.le_refl _⟩, fun value hvalue => (by cases hvalue)⟩

end Sample

/-- The coins are stored, the division is refused inside the branch, and the wish fails. -/
theorem modification_stores_or_refused_at_wager :
    (∃ value, Sample.atWork.playback.memory.StoresOnly "coins" value
        (Sample.atWork.playback.execute Sample.wager).state.memory) ∧
      (∃ fault, fault.isRefusal = true ∧
        (Sample.atShare.playback.execute Sample.wager).result = .error (.operation "coins" fault) ∧
        (Sample.atShare.playback.execute Sample.wager).state.memory =
          ⟨.ofList [("asked", true)], .ofList [("coins", .int 3)]⟩) ∧
      (Sample.atWish.playback.execute Sample.wager).result =
        .error (.operation "luck" .operandTooLarge) := by
  have earning : Sample.atWork.playback.currentCommand? Sample.wager =
      some (.modifyVariable "coins" Sample.earn) := rfl
  have sharing : Sample.atShare.playback.currentCommand? Sample.wager =
      some (.branch (.constant true) Sample.share []) := rfl
  have wishing : Sample.atWish.playback.currentCommand? Sample.wager =
      some (.modifyVariable "luck" Sample.wish) := rfl
  have inside : Sample.atShare.playback.memory.ComesTo (.branch (.constant true) Sample.share [])
      (.modifyVariable "coins" (.integer .divide (.int 0)))
      (Sample.atShare.playback.memory.runAll [.setFlag "asked" true]).state :=
    .inside rfl rfl rfl .self
  refine ⟨?_, ?_, ?_⟩
  · obtain ⟨stored, -⟩ :=
      modification_stores_or_refused_unless_overflow earning .self (fun _ h => (by cases h))
    rcases stored (fun ⟨⟨_, _, hreal, _⟩, _⟩ => (by cases hreal)) with
      ⟨value, after, stores, -, hexecute⟩ | ⟨fault, -, hresult, -⟩
    · rw [hexecute rfl]
      exact ⟨value, stores⟩
    · cases hresult
  · obtain ⟨refused, -⟩ :=
      modification_stores_or_refused_unless_overflow sharing inside (fun _ h => (by cases h))
    rcases refused (fun ⟨⟨_, _, hreal, _⟩, _⟩ => (by cases hreal)) with
      ⟨value, after, -, ran, -⟩ | ⟨fault, hrefusal, hresult, -, hstate⟩
    · cases ran
    · rw [hstate]
      exact ⟨fault, hrefusal, hresult, rfl⟩
  · obtain ⟨-, fails⟩ :=
      modification_stores_or_refused_unless_overflow wishing .self (fun _ h => (by cases h))
    exact (fails Sample.atWish_overflows).1

/-- The wish fails otherwise than by a refusal, and the message does not name the variable. -/
theorem wish_not_refused :
    Sample.atWish.Reached Sample.wager Session.anyRequest ∧
      Sample.atWish.playback.currentCommand? Sample.wager = some (.modifyVariable "luck" Sample.wish) ∧
      ∃ fault, (Sample.atWish.playback.execute Sample.wager).result = .error (.operation "luck" fault) ∧
        fault.isRefusal = false ∧
        (Fault.operation "luck" fault).message = "int too large to convert to float" := by
  have reached : Sample.atWish.Reached Sample.wager Session.anyRequest :=
    Session.Reached.after (@Session.Reached.created Sample.wager Session.anyRequest {} {} {} rfl)
      (Session.permitted_of_forall fun _ _ _ => trivial)
  have wishing : Sample.atWish.playback.currentCommand? Sample.wager =
      some (.modifyVariable "luck" Sample.wish) := rfl
  have failed := Memory.run_modify_of_error (Memory.modify_of_overflows Sample.atWish_overflows)
  exact ⟨reached, wishing, _, (execute_of_comesTo_error wishing .self rfl failed).1, rfl, rfl⟩

end VisualNovel
