import VisualNovel.Memory

/-!
# Kinds and operations

An operation gives values of one kind (`Operation.gives?`). Its start value has that kind, its results
have it, and it refuses a value for its kind only if the value is of another kind.
-/

namespace VisualNovel

universe u v w

theorem eq_error_of_map {ε : Type u} {α : Type v} {β : Type w} {f : α → β}
    {x : Except ε α} {fault : ε} (h : x.map f = .error fault) : x = .error fault := by
  cases x with
  | ok a => cases h
  | error other =>
    cases h
    rfl

theorem eq_ok_of_map {ε : Type u} {α : Type v} {β : Type w} {f : α → β} {x : Except ε α}
    {b : β} (h : x.map f = .ok b) : ∃ a, x = .ok a ∧ f a = b := by
  cases x with
  | ok a =>
    cases h
    exact ⟨a, rfl, rfl⟩
  | error other => cases h

/-- The kind of the value that an operation gives. -/
def Operation.gives? : Operation → Option Kind
  | .set value => some value.kind
  | operation => operation.kind?

namespace Operation

variable {operation : Operation} {current value : Value}

/-! ## Why operations fail -/

theorem evalInt_error {arithmetic : Arithmetic} {left right : Int} {fault : OperationFault}
    (h : evalInt arithmetic left right = .error fault) : fault = .divisionByZero := by
  cases arithmetic with
  | divide =>
    unfold evalInt at h
    simp only at h
    split at h
    · cases h
      rfl
    · cases h
  | _ => cases h

theorem evalFloat_error {arithmetic : Arithmetic} {left right : Float} {fault : OperationFault}
    (h : evalFloat arithmetic left right = .error fault) : fault = .divisionByZero := by
  cases arithmetic with
  | divide =>
    unfold evalFloat at h
    simp only at h
    split at h
    · cases h
      rfl
    · cases h
  | _ => cases h

theorem intOperand_error {word : String} {operand : Document} {fault : OperationFault}
    (h : intOperand word operand = .error fault) : ∃ found, fault = .wrongOperand word .int found := by
  unfold intOperand at h
  split at h
  · cases h
  · cases h
    exact ⟨_, rfl⟩

theorem floatOperand_error {word : String} {operand : Document} {fault : OperationFault}
    (h : floatOperand word operand = .error fault) :
    fault = .operandTooLarge ∨ ∃ found, fault = .wrongOperand word .float found := by
  unfold floatOperand at h
  split at h
  · cases h
  · split at h
    · cases h
    · cases h
      exact .inl rfl
  · cases h
    exact .inr ⟨_, rfl⟩

/-! ## Kinds -/

theorem gives?_of_start (h : operation.start = .ok value) : operation.gives? = some value.kind := by
  cases operation <;> cases h <;> rfl

/-- The result of an operation is of the kind that the operation gives. -/
theorem gives?_of_apply (h : operation.apply current = .ok value) :
    operation.gives? = some value.kind := by
  unfold apply at h
  split at h
  · cases h
    rfl
  · split at h
    · cases h
    · obtain ⟨n, _, rfl⟩ := eq_ok_of_map h
      rfl
  · split at h
    · cases h
    · obtain ⟨x, _, rfl⟩ := eq_ok_of_map h
      rfl
  · cases h
    rfl
  · cases h
    rfl
  · cases h
  · cases h

/-- An operation refuses a value for its kind only if it gives values of another kind. -/
theorem gives?_of_wrongKind {word : String} {kind : Kind}
    (h : operation.apply current = .error (.wrongKind word kind)) :
    ∃ expected, operation.gives? = some expected ∧ expected ≠ current.kind := by
  unfold apply at h
  split at h
  · cases h
  · split at h
    · next hf =>
      cases h
      obtain ⟨found, hfound⟩ := intOperand_error hf
      cases hfound
    · cases evalInt_error (eq_error_of_map h)
  · split at h
    · next hf =>
      cases h
      rcases floatOperand_error hf with hlarge | ⟨found, hfound⟩
      · cases hlarge
      · cases hfound
    · cases evalFloat_error (eq_error_of_map h)
  · cases h
  · cases h
  · cases h
  · next hset hint hreal happend htoggle hunknown =>
    -- what is left of the match: the kinds of operation and value differ
    cases h
    cases operation <;> cases current <;> simp_all [gives?, kind?, Value.kind]

end Operation

namespace Memory

variable {memory after : Memory} {name : String} {operation : Operation}

/-- A modification applies its operation to the variable's value, or to the start value if there is
none, and stores the result. -/
theorem modify_cases (memory : Memory) (name : String) (operation : Operation) :
    (∃ current, (memory.vars.get? name = some current ∨
          memory.vars.get? name = none ∧ operation.start = .ok current) ∧
        memory.modify name operation = (operation.apply current).map (memory.setVariable name)) ∨
      ∃ text, operation = .unknown text ∧ memory.modify name operation = .error (.unknown text) := by
  have happly : ∀ current : Value, (operation.apply current >>= fun updated =>
      (pure (memory.setVariable name updated) : Except OperationFault Memory)) =
        (operation.apply current).map (memory.setVariable name) := by
    intro current
    cases operation.apply current <;> rfl
  unfold modify
  cases hvar : memory.vars.get? name with
  | some current => exact .inl ⟨current, .inl rfl, happly current⟩
  | none =>
    cases hstart : operation.start with
    | ok current => exact .inl ⟨current, .inr ⟨rfl, rfl⟩, happly current⟩
    | error fault =>
      cases operation with
      | unknown text =>
        cases hstart
        exact .inr ⟨text, rfl, rfl⟩
      | _ => cases hstart

/-- A modification stores a value of the kind that its operation gives, and nothing else. -/
theorem modify_eq_ok (h : memory.modify name operation = .ok after) :
    ∃ value, after = memory.setVariable name value ∧ operation.gives? = some value.kind := by
  rcases modify_cases memory name operation with ⟨current, -, hmodify⟩ | ⟨text, -, hmodify⟩
  · rw [hmodify] at h
    obtain ⟨value, happly, rfl⟩ := eq_ok_of_map h
    exact ⟨value, rfl, Operation.gives?_of_apply happly⟩
  · rw [hmodify] at h
    cases h

/-- A modification fails for the kind of a value only if the variable holds a value of another kind than
its operation gives. -/
theorem modify_eq_wrongKind {word : String} {kind : Kind}
    (h : memory.modify name operation = .error (.wrongKind word kind)) :
    ∃ current expected, memory.vars.get? name = some current ∧ operation.gives? = some expected ∧
      expected ≠ current.kind := by
  rcases modify_cases memory name operation with ⟨current, hcurrent, hmodify⟩ | ⟨text, -, hmodify⟩
  · rw [hmodify] at h
    obtain ⟨expected, hgives, hne⟩ := Operation.gives?_of_wrongKind (eq_error_of_map h)
    rcases hcurrent with hvar | ⟨-, hstart⟩
    · exact ⟨current, expected, hvar, hgives, hne⟩
    · -- the start value has the kind that the operation gives
      rw [Operation.gives?_of_start hstart] at hgives
      cases hgives
      exact absurd rfl hne
  · rw [hmodify] at h
    cases h

end Memory

end VisualNovel
