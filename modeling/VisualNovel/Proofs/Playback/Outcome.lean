import VisualNovel.Playback.Outcome
import VisualNovel.Proofs.Operation

/-!
# What outcomes have in common

`Outcome.Meets`: the outcome leaves a state with `P`, and if it fails, it fails with a fault in `E`.
Actions are put together from smaller ones, and so are the proofs that they meet `P` and `E`.
-/

namespace VisualNovel

/-- What a fault and the fault of not being able to show it have in common. -/
theorem Fault.apply_showing {α : Type} (f : Fault → α) {n : Int} {fault : Fault} {a : α}
    (h : f fault = a) (hdigits : f .tooManyDigits = a) : f (showing n fault) = a := by
  unfold showing
  split
  · exact h
  · exact hdigits

namespace Outcome

universe u v w

variable {σ : Type u} {α : Type v} {β : Type w}

@[simp] theorem result_map (f : α → β) (o : Outcome σ α) :
    (o.map f).result = o.result.map f := rfl

@[simp] theorem state_report (event : Event) (o : Outcome σ α) :
    (o.report event).state = o.state := rfl

/-- After a success, state and result are those of what comes next. -/
theorem andThen_of_ok {first : Outcome σ α} {a : α} (h : first.result = .ok a)
    (next : σ → α → Outcome σ β) :
    (first.andThen next).state = (next first.state a).state ∧
      (first.andThen next).result = (next first.state a).result := by
  unfold andThen
  rw [h]
  exact ⟨rfl, rfl⟩

/-- A failure is the end. -/
theorem andThen_of_error {first : Outcome σ α} {fault : Fault} (h : first.result = .error fault)
    (next : σ → α → Outcome σ β) :
    (first.andThen next).state = first.state ∧ (first.andThen next).result = .error fault := by
  unfold andThen
  rw [h]
  exact ⟨rfl, rfl⟩

theorem andThen_assoc {γ : Type w} (first : Outcome σ α) (next : σ → α → Outcome σ β)
    (last : σ → β → Outcome σ γ) :
    (first.andThen next).andThen last = first.andThen fun state a => (next state a).andThen last := by
  unfold andThen
  cases first.result with
  | error fault => rfl
  | ok a =>
    simp only
    cases (next first.state a).result with
    | error fault => rfl
    | ok b => simp only [List.append_assoc]

/-- Nothing more happens after an action that is followed by none. -/
theorem andThen_done (o : Outcome σ Unit) : (o.andThen fun state _ => done state ()) = o := by
  obtain ⟨state, log, result⟩ := o
  cases result with
  | error fault => rfl
  | ok a =>
    unfold andThen done
    simp only [List.append_nil]

/-- The outcome leaves a state with `P`, and fails with a fault in `E` if at all. -/
structure Meets (P : σ → Prop) (E : Fault → Prop) (o : Outcome σ α) : Prop where
  state : P o.state
  fault : ∀ fault, o.result = .error fault → E fault

variable {P : σ → Prop} {E : Fault → Prop}

theorem meets_done {state : σ} {a : α} (h : P state) : (done state a).Meets P E :=
  ⟨h, fun _ hf => by cases hf⟩

theorem meets_fail {state : σ} {fault : Fault} (h : P state) (hf : E fault) :
    (fail state fault : Outcome σ α).Meets P E := by
  refine ⟨h, ?_⟩
  rintro _ ⟨rfl⟩
  exact hf

theorem meets_ok {state : σ} {log : List Event} {a : α} (h : P state) :
    (⟨state, log, .ok a⟩ : Outcome σ α).Meets P E :=
  ⟨h, fun _ hf => by cases hf⟩

theorem Meets.map {o : Outcome σ α} (h : o.Meets P E) (f : α → β) : (o.map f).Meets P E := by
  refine ⟨h.state, fun fault hf => h.fault fault ?_⟩
  rw [result_map] at hf
  exact eq_error_of_map hf

theorem Meets.report {o : Outcome σ α} (h : o.Meets P E) (event : Event) :
    (o.report event).Meets P E :=
  ⟨h.state, h.fault⟩

/-- What the first action and every possible second one meet, both together meet. -/
theorem Meets.andThen {first : Outcome σ α} {next : σ → α → Outcome σ β} (h : first.Meets P E)
    (hnext : ∀ state a, P state → (next state a).Meets P E) : (first.andThen next).Meets P E := by
  unfold Outcome.andThen
  cases hr : first.result with
  | ok a =>
    have h2 := hnext first.state a h.state
    exact ⟨h2.state, h2.fault⟩
  | error fault =>
    refine ⟨h.state, ?_⟩
    rintro _ ⟨rfl⟩
    exact h.fault fault hr

end Outcome

end VisualNovel
