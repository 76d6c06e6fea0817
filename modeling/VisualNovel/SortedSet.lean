/-!
# Sorted sets

A finite set listed in strictly increasing order. Every set has exactly one such list, so two sets
with the same members are equal (`SortedSet.ext_mem`), and the list is what a file shows of it.
-/

namespace VisualNovel

universe u

namespace SortedList

variable {α : Type u} [Ord α]

/-- `a` comes strictly before `b`. -/
def Before (a b : α) : Prop :=
  compare a b = .lt

/-- Adds `a` to a strictly increasing list at its place, unless it is there already. -/
def place (a : α) : List α → List α
  | [] => [a]
  | b :: rest =>
    match compare a b with
    | .lt => a :: b :: rest
    | .eq => b :: rest
    | .gt => b :: place a rest

theorem mem_place [Std.LawfulEqOrd α] {a x : α} {l : List α} :
    x ∈ place a l ↔ x = a ∨ x ∈ l := by
  induction l with
  | nil => simp [place]
  | cons b rest ih =>
    unfold place
    split
    · simp
    · next h => simp [Std.LawfulEqOrd.eq_of_compare h]
    · simp [ih, or_left_comm]

theorem Before.trans [Std.TransOrd α] {a b c : α} (h : Before a b) (h' : Before b c) :
    Before a c :=
  Std.TransCmp.lt_trans h h'

theorem Before.irrefl [Std.TransOrd α] {a : α} : ¬Before a a := by
  simp [Before, Std.ReflCmp.compare_self]

theorem pairwise_place [Std.TransOrd α] [Std.LawfulEqOrd α] {a : α} {l : List α}
    (h : l.Pairwise Before) : (place a l).Pairwise Before := by
  induction l with
  | nil => simp [place]
  | cons b rest ih =>
    have hb : ∀ x ∈ rest, Before b x := (List.pairwise_cons.1 h).1
    unfold place
    split
    · next hab =>
      refine List.pairwise_cons.2 ⟨fun x hx => ?_, h⟩
      cases List.mem_cons.1 hx with
      | inl e => exact e ▸ hab
      | inr hx => exact Before.trans hab (hb x hx)
    · exact h
    · next hab =>
      refine List.pairwise_cons.2 ⟨fun x hx => ?_, ih h.of_cons⟩
      cases mem_place.1 hx with
      | inl e => exact e ▸ Std.OrientedCmp.lt_of_gt hab
      | inr hx => exact hb x hx

/-- Strictly increasing lists with the same members are equal. -/
theorem eq_of_mem_iff [Std.TransOrd α] {l m : List α} (hl : l.Pairwise Before) (hm : m.Pairwise Before)
    (h : ∀ x, x ∈ l ↔ x ∈ m) : l = m := by
  induction l generalizing m with
  | nil =>
    cases m with
    | nil => rfl
    | cons b m => simpa using h b
  | cons a l ih =>
    cases m with
    | nil => simpa using h a
    | cons b m =>
      obtain ⟨ha, hl⟩ := List.pairwise_cons.1 hl
      obtain ⟨hb, hm'⟩ := List.pairwise_cons.1 hm
      have hab : a = b := by
        cases List.mem_cons.1 ((h a).1 (by simp)) with
        | inl e => exact e
        | inr ham =>
          cases List.mem_cons.1 ((h b).2 (by simp)) with
          | inl e => exact e.symm
          | inr hbl => exact absurd (Before.trans (ha b hbl) (hb a ham)) Before.irrefl
      subst hab
      refine congrArg (a :: ·) (ih hl hm' fun x => ⟨fun hx => ?_, fun hx => ?_⟩)
      · cases List.mem_cons.1 ((h x).1 (by simp [hx])) with
        | inl e => exact absurd (e ▸ ha x hx) Before.irrefl
        | inr hx => exact hx
      · cases List.mem_cons.1 ((h x).2 (by simp [hx])) with
        | inl e => exact absurd (e ▸ hb x hx) Before.irrefl
        | inr hx => exact hx

/-- Texts come in their usual order. -/
theorem before_iff_lt {a b : String} : Before a b ↔ a < b := by
  unfold Before
  exact compareOfLessAndEq_eq_lt

end SortedList

open SortedList

/-- A finite set, listed in strictly increasing order. -/
structure SortedSet (α : Type u) [Ord α] where
  toList : List α := []
  sorted : toList.Pairwise Before := by simp
deriving DecidableEq

namespace SortedSet

variable {α : Type u} [Ord α]

/-- The set without members. -/
def empty : SortedSet α := {}

instance : EmptyCollection (SortedSet α) := ⟨empty⟩

instance : Inhabited (SortedSet α) := ⟨empty⟩

instance : Membership α (SortedSet α) := ⟨fun s a => a ∈ s.toList⟩

instance [DecidableEq α] (a : α) (s : SortedSet α) : Decidable (a ∈ s) :=
  inferInstanceAs (Decidable (a ∈ s.toList))

def size (s : SortedSet α) : Nat :=
  s.toList.length

theorem mem_toList {a : α} {s : SortedSet α} : a ∈ s.toList ↔ a ∈ s := Iff.rfl

@[simp] theorem not_mem_empty (a : α) : a ∉ (empty : SortedSet α) := by
  simp [← mem_toList, empty]

variable [Std.TransOrd α] [Std.LawfulEqOrd α]

def insert (s : SortedSet α) (a : α) : SortedSet α where
  toList := place a s.toList
  sorted := pairwise_place s.sorted

/-- The set of the members of a list. -/
def ofList (l : List α) : SortedSet α :=
  l.foldl insert empty

theorem mem_insert {a x : α} {s : SortedSet α} : x ∈ s.insert a ↔ x = a ∨ x ∈ s :=
  mem_place

omit [Std.LawfulEqOrd α] in
/-- Sets with the same members are equal. -/
theorem ext_mem {s t : SortedSet α} (h : ∀ x, x ∈ s ↔ x ∈ t) : s = t := by
  obtain ⟨l, hl⟩ := s
  obtain ⟨m, hm⟩ := t
  have e : l = m := eq_of_mem_iff hl hm h
  subst e
  rfl

theorem mem_foldl_insert {l : List α} {s : SortedSet α} {x : α} :
    x ∈ l.foldl insert s ↔ x ∈ s ∨ x ∈ l := by
  induction l generalizing s with
  | nil => simp
  | cons a l ih => simp [ih, mem_insert, or_assoc, or_left_comm]

theorem mem_ofList {l : List α} {x : α} : x ∈ ofList l ↔ x ∈ l := by
  simp [ofList, mem_foldl_insert]

end SortedSet

end VisualNovel
