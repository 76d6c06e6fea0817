import Mathlib.Data.List.Forall2

/-!
# Steps that may fail

When a step, a chain of steps or a step for each item of a list succeeds, and with what.
-/

namespace VisualNovel

variable {ε α β : Type}

theorem bind_eq_ok_iff {x : Except ε α} {f : α → Except ε β} {b : β} :
    x >>= f = .ok b ↔ ∃ a, x = .ok a ∧ f a = .ok b := by
  cases x with
  | ok a =>
    constructor
    · intro h
      exact ⟨a, rfl, h⟩
    · rintro ⟨_, ⟨rfl⟩, h⟩
      exact h
  | error e =>
    constructor
    · intro h
      cases h
    · rintro ⟨_, h, _⟩
      cases h

theorem pure_eq_ok_iff {a b : α} : (pure a : Except ε α) = .ok b ↔ b = a := by
  constructor
  · rintro ⟨rfl⟩
    rfl
  · rintro rfl
    rfl

theorem map_eq_ok_iff {f : α → β} {x : Except ε α} {b : β} :
    x.map f = .ok b ↔ ∃ a, x = .ok a ∧ b = f a := by
  cases x with
  | ok a => simp [Except.map, eq_comm]
  | error e => simp [Except.map]

theorem mapError_eq_ok_iff {ε' : Type} {f : ε → ε'} {x : Except ε α} {a : α} :
    x.mapError f = .ok a ↔ x = .ok a := by
  cases x <;> simp [Except.mapError]

/-- A list is decoded exactly when its items are, one by one. -/
theorem mapM_eq_ok_iff {f : α → Except ε β} {l : List α} {bs : List β} :
    l.mapM f = .ok bs ↔ List.Forall₂ (fun a b => f a = .ok b) l bs := by
  induction l generalizing bs with
  | nil =>
    rw [List.mapM_nil, pure_eq_ok_iff, List.forall₂_nil_left_iff]
  | cons a l ih =>
    simp only [List.mapM_cons, bind_eq_ok_iff, pure_eq_ok_iff, ih, List.forall₂_cons_left_iff]
    constructor
    · rintro ⟨b, hb, bs, hbs, rfl⟩
      exact ⟨b, bs, hb, hbs, rfl⟩
    · rintro ⟨b, bs, hb, hbs, rfl⟩
      exact ⟨b, hb, bs, hbs, rfl⟩

/-- What a step gives is known of each item of a list that is decoded. -/
theorem forall₂_of_mapM {f : α → Except ε β} {l : List α} {bs : List β} (h : l.mapM f = .ok bs)
    {R : α → β → Prop} (hR : ∀ a ∈ l, ∀ b, f a = .ok b → R a b) : List.Forall₂ R l bs := by
  have hboth := (List.forall₂_and_left l bs).2 ⟨hR, mapM_eq_ok_iff.1 h⟩
  exact hboth.imp fun a b hab => hab.1 b hab.2

/-- What is decoded comes from an item. -/
theorem exists_of_mem_mapM {f : α → Except ε β} {l : List α} {bs : List β} (h : l.mapM f = .ok bs)
    {b : β} (hb : b ∈ bs) : ∃ a ∈ l, f a = .ok b := by
  induction mapM_eq_ok_iff.1 h with
  | nil => cases hb
  | @cons a c l bs hac hl ih =>
    rcases List.mem_cons.1 hb with rfl | hmem
    · exact ⟨a, List.mem_cons_self, hac⟩
    · obtain ⟨a', ha', hb'⟩ := ih (mapM_eq_ok_iff.2 hl) hmem
      exact ⟨a', List.mem_cons_of_mem _ ha', hb'⟩

/-- Values for all items are one value for each. -/
theorem exists_forall₂_iff {R : β → α → Prop} {items : List β} :
    (∃ values, List.Forall₂ R items values) ↔ ∀ item ∈ items, ∃ a, R item a := by
  induction items with
  | nil =>
    refine ⟨fun _ item h => ?_, fun _ => ⟨[], .nil⟩⟩
    cases h
  | cons item rest ih =>
    rw [List.forall_mem_cons, ← ih]
    constructor
    · rintro ⟨values, h⟩
      obtain ⟨a, values, ha, hrest, rfl⟩ := List.forall₂_cons_left_iff.1 h
      exact ⟨⟨a, ha⟩, values, hrest⟩
    · rintro ⟨⟨a, ha⟩, values, hrest⟩
      exact ⟨a :: values, .cons ha hrest⟩

/-- The step succeeds if `p` holds, and fails with `e` if it does not. -/
def SucceedsIff (p : Prop) (e : ε) (x : Except ε α) : Prop :=
  (p ∧ ∃ a, x = .ok a) ∨ (¬p ∧ x = .error e)

theorem SucceedsIff.map {p : Prop} {e : ε} {x : Except ε α} (h : SucceedsIff p e x) (f : α → β) :
    SucceedsIff p e (x.map f) := by
  rcases h with ⟨hp, a, rfl⟩ | ⟨hp, rfl⟩
  · exact .inl ⟨hp, f a, rfl⟩
  · exact .inr ⟨hp, rfl⟩

theorem succeedsIff_mapM {p : α → Prop} {e : ε} {f : α → Except ε β} {l : List α}
    (h : ∀ a ∈ l, SucceedsIff (p a) e (f a)) : SucceedsIff (∀ a ∈ l, p a) e (l.mapM f) := by
  induction l with
  | nil => exact .inl ⟨List.forall_mem_nil p, [], rfl⟩
  | cons a l ih =>
    obtain ⟨ha, hl⟩ := List.forall_mem_cons.1 h
    unfold SucceedsIff
    rw [List.mapM_cons, List.forall_mem_cons]
    rcases ha with ⟨hp, b, hb⟩ | ⟨hp, herror⟩
    · rw [hb]
      rcases ih hl with ⟨hps, bs, hbs⟩ | ⟨hps, herror⟩
      · rw [hbs]
        exact .inl ⟨⟨hp, hps⟩, b :: bs, rfl⟩
      · rw [herror]
        exact .inr ⟨fun hall => hps hall.2, rfl⟩
    · rw [herror]
      exact .inr ⟨fun hall => hp hall.1, rfl⟩

end VisualNovel
