import Mathlib.Algebra.Group.Nat.Defs
import Mathlib.Data.List.Basic
import VisualNovel.Document.Literal
import VisualNovel.Proofs.Document.Integer

/-!
# What messages can show

1. A document is overlong (`Document.Overlong`) if an integer somewhere in it, be it a value or a key, has too
   many digits. Just these documents cannot be shown (`Document.literal?_eq_none_iff`).
2. A document that was read from a text is never overlong (`Document.not_overlong_of_read`): the reader refuses
   such integers, and all keys in a file are texts. So what is read can be shown.
-/

namespace VisualNovel

theorem intLiteral?_eq_none_iff {n : Int} :
    intLiteral? n = none ↔ Document.digitLimit < (digitsOf n.natAbs).length := by
  unfold intLiteral?
  split
  · next h => exact iff_of_true rfl h
  · next h => exact iff_of_false (by simp) h

namespace Document

/-- An integer in the document, as a value or as a key, has too many digits to be shown. -/
inductive Overlong : Document → Prop
  | int {n : Int} (h : digitLimit < (digitsOf n.natAbs).length) : Overlong (.int n)
  | item {items : List Document} {item : Document} (hmem : item ∈ items) (h : Overlong item) :
      Overlong (.list items)
  | key {fields : Fields} {n : Int} {value : Document} (hmem : (Key.int n, value) ∈ fields)
      (h : digitLimit < (digitsOf n.natAbs).length) : Overlong (.table fields)
  | value {fields : Fields} {key : Key} {value : Document} (hmem : (key, value) ∈ fields)
      (h : Overlong value) : Overlong (.table fields)

theorem overlong_int_iff {n : Int} :
    (int n).Overlong ↔ digitLimit < (digitsOf n.natAbs).length := by
  constructor
  · rintro ⟨h⟩
    exact h
  · exact .int

theorem overlong_list_iff {items : List Document} :
    (list items).Overlong ↔ ∃ item ∈ items, item.Overlong := by
  constructor
  · rintro ⟨⟩
    exact ⟨_, ‹_›, ‹_›⟩
  · rintro ⟨item, hmem, h⟩
    exact .item hmem h

theorem keyLiteral?_eq_none_iff {key : Key} :
    keyLiteral? key = none ↔ ∃ n, key = .int n ∧ digitLimit < (digitsOf n.natAbs).length := by
  cases key with
  | int n => simp [keyLiteral?, intLiteral?_eq_none_iff]
  | _ => simp [keyLiteral?]

theorem overlong_table_iff {fields : Fields} : (table fields).Overlong ↔
    ∃ field ∈ fields, keyLiteral? field.1 = none ∨ field.2.Overlong := by
  simp only [keyLiteral?_eq_none_iff]
  constructor
  · intro h
    cases h with
    | key hmem h => exact ⟨_, hmem, .inl ⟨_, rfl, h⟩⟩
    | value hmem h => exact ⟨_, hmem, .inr h⟩
  · rintro ⟨⟨key, value⟩, hmem, ⟨n, rfl, h⟩ | h⟩
    · exact .key hmem h
    · exact .value hmem h

theorem Overlong.of_getD {fields : Fields} {name : String} (h : (fields.getD name).Overlong) :
    (table fields).Overlong := by
  induction fields with
  | nil => cases h
  | cons field rest ih =>
    obtain ⟨key, value⟩ := field
    unfold Fields.getD Fields.get? at h
    split at h
    · exact .value List.mem_cons_self h
    · obtain ⟨found, hmem, hfound⟩ := overlong_table_iff.1 (ih h)
      exact overlong_table_iff.2 ⟨found, List.mem_cons_of_mem _ hmem, hfound⟩

/-! ## Documents that cannot be shown -/

mutual

/-- **Showing documents.** Just the overlong documents cannot be shown. -/
theorem literal?_eq_none_iff : (document : Document) → (document.literal? = none ↔ document.Overlong)
  | .null => iff_of_false nofun nofun
  | .bool _ => iff_of_false nofun nofun
  | .int n => by
    rw [literal?, keyLiteral?, intLiteral?_eq_none_iff, overlong_int_iff]
  | .float _ => iff_of_false nofun nofun
  | .text _ => iff_of_false nofun nofun
  | .list items => by
    rw [literal?, Option.map_eq_none_iff, literals?_eq_none_iff, overlong_list_iff]
  | .table fields => by
    rw [literal?, Option.map_eq_none_iff, fieldLiterals?_eq_none_iff, overlong_table_iff]

theorem literals?_eq_none_iff : (items : List Document) →
    (literals? items = none ↔ ∃ item ∈ items, item.Overlong)
  | [] => by simp [literals?]
  | item :: rest => by
    rw [List.exists_mem_cons_iff, ← literal?_eq_none_iff item, ← literals?_eq_none_iff rest, literals?]
    cases item.literal? <;> cases literals? rest <;> simp

theorem fieldLiterals?_eq_none_iff : (fields : List (Key × Document)) →
    (fieldLiterals? fields = none ↔ ∃ field ∈ fields, keyLiteral? field.1 = none ∨ field.2.Overlong)
  | [] => by simp [fieldLiterals?]
  | (key, value) :: rest => by
    rw [List.exists_mem_cons_iff, ← literal?_eq_none_iff value, ← fieldLiterals?_eq_none_iff rest,
      fieldLiterals?]
    cases keyLiteral? key <;> cases value.literal? <;> cases fieldLiterals? rest <;> simp

end

/-! ## Integers that were read -/

theorem length_digitsOf_le_iff {count n : Nat} (h : 0 < count) :
    (digitsOf n).length ≤ count ↔ n < 10 ^ count :=
  Nat.length_toDigits_le_iff (by decide) h

theorem lt_length_digitsOf_pow {count : Nat} (h : 0 < count) :
    count < (digitsOf (10 ^ count)).length := by
  rw [← Nat.not_le, length_digitsOf_le_iff h]
  exact Nat.lt_irrefl _

theorem foldl_digits_lt {digits : List Char} (h : ∀ c ∈ digits, isDigit c) (start : Nat) :
    digits.foldl (fun n c => n * 10 + (c.toNat - '0'.toNat)) start <
      (start + 1) * 10 ^ digits.length := by
  induction digits generalizing start with
  | nil => simp
  | cons c digits ih =>
    obtain ⟨hc, hdigits⟩ := List.forall_mem_cons.1 h
    have hnine : c.toNat - '0'.toNat ≤ 9 := by
      have hrange : '0' ≤ c ∧ c ≤ '9' := by simpa [isDigit] using hc
      exact Nat.sub_le_sub_right hrange.2 '0'.toNat
    calc digits.foldl _ (start * 10 + (c.toNat - '0'.toNat))
        < (start * 10 + (c.toNat - '0'.toNat) + 1) * 10 ^ digits.length := ih hdigits _
      _ ≤ (start + 1) * 10 * 10 ^ digits.length := Nat.mul_le_mul_right _ (by omega)
      _ = (start + 1) * 10 ^ (digits.length + 1) := by
        rw [Nat.mul_assoc, Nat.mul_comm 10]
        rfl

/-- The value of digits has no more digits than those. -/
theorem length_digitsOf_digitsValue_le {digits : List Char} (hne : digits ≠ [])
    (h : ∀ c ∈ digits, isDigit c) : (digitsOf (digitsValue digits)).length ≤ digits.length := by
  have hvalue := foldl_digits_lt h 0
  rw [Nat.zero_add, Nat.one_mul] at hvalue
  exact (length_digitsOf_le_iff (List.length_pos_iff.2 hne)).2 hvalue

theorem not_overlong_of_integer {negative : Bool} {digits : List Char} {document : Document}
    (hne : digits ≠ []) (h : ∀ c ∈ digits, isDigit c)
    (hread : integer negative digits = .ok document) : ¬document.Overlong := by
  unfold integer at hread
  split at hread
  · cases hread
  · next hlimit =>
    cases hread
    have habs : (if negative then -(digitsValue digits : Int) else digitsValue digits).natAbs =
        digitsValue digits := by
      cases negative <;> simp
    rw [overlong_int_iff, habs]
    have hlength := length_digitsOf_digitsValue_le hne h
    omega

theorem digits_of_readWhole? {s whole rest : List Char} (h : readWhole? s = some (whole, rest)) :
    whole ≠ [] ∧ ∀ c ∈ whole, isDigit c := by
  unfold readWhole? at h
  split at h
  · cases h
    exact ⟨nofun, List.forall_mem_singleton.2 rfl⟩
  · next c more =>
    split at h
    · next hc =>
      cases h
      refine ⟨nofun, List.forall_mem_cons.2 ⟨hc, fun d hd => ?_⟩⟩
      exact List.all_eq_true.1 (List.all_takeWhile ..) d hd
    · cases h
  · cases h

theorem not_overlong_of_readUnsigned? {negative : Bool} {s rest : List Char} {document : Document}
    (h : readUnsigned? negative s = some (.ok document, rest)) : ¬document.Overlong := by
  unfold readUnsigned? at h
  obtain ⟨⟨whole, behind⟩, hwhole, h⟩ := Option.bind_eq_some_iff.1 h
  obtain ⟨hne, hdigits⟩ := digits_of_readWhole? hwhole
  dsimp only at h
  split at h
  · cases h
    nofun
  · split at h
    · cases h
      nofun
    · obtain ⟨hinteger, -⟩ := Prod.mk.inj (Option.some.inj h)
      exact not_overlong_of_integer hne hdigits hinteger

theorem not_overlong_of_readScalar {s rest : List Char} {document : Document}
    (h : readScalar s = .ok (document, rest)) : ¬document.Overlong := by
  have hnumber : ∀ result, readNumber? s = some (.ok result, rest) → ¬result.Overlong := by
    intro result hread
    unfold readNumber? at hread
    split at hread <;> exact not_overlong_of_readUnsigned? hread
  unfold readScalar at h
  split at h
  on_goal 7 =>
    split at h
    · next result more hread =>
      cases h
      exact hnumber _ hread
    · cases h
    · cases h
  all_goals
    cases h
    nofun

/-! ## Documents that were read -/

theorem Reading.of_cons {α : Type} {a : α} {reading : Reading (List α)} {items : List α}
    {rest : List Char} (h : Reading.cons a reading = .ok (items, rest)) :
    ∃ more, reading = .ok (more, rest) ∧ items = a :: more := by
  unfold Reading.cons at h
  split at h
  · next more behind =>
    cases h
    exact ⟨more, rfl, rfl⟩
  · cases h

theorem not_overlong_list {items : List Document} (h : ∀ item ∈ items, ¬item.Overlong) :
    ¬(list items).Overlong := by
  rw [overlong_list_iff]
  rintro ⟨item, hmem, hitem⟩
  exact h item hmem hitem

/-- The field can be shown. -/
def ShownField (field : Key × Document) : Prop :=
  keyLiteral? field.1 ≠ none ∧ ¬field.2.Overlong

theorem not_overlong_table {fields : Fields} (h : ∀ field ∈ fields, ShownField field) :
    ¬(table fields).Overlong := by
  rw [overlong_table_iff]
  rintro ⟨field, hmem, hfield⟩
  exact hfield.elim (h field hmem).1 (h field hmem).2

theorem shownField_store {key : Key} {value : Document} {fields : Fields}
    (h : ShownField (key, value)) (hfields : ∀ field ∈ fields, ShownField field) :
    ∀ field ∈ fields.store key value, ShownField field := by
  induction fields with
  | nil => exact List.forall_mem_singleton.2 h
  | cons field rest ih =>
    obtain ⟨hfield, hrest⟩ := List.forall_mem_cons.1 hfields
    unfold Fields.store
    split
    · exact List.forall_mem_cons.2 ⟨⟨hfield.1, h.2⟩, hrest⟩
    · exact List.forall_mem_cons.2 ⟨hfield, ih hrest⟩

theorem shownField_ofList {fields : List (Key × Document)} (h : ∀ field ∈ fields, ShownField field) :
    ∀ field ∈ Fields.ofList fields, ShownField field := by
  -- the table made so far is shown, and stays so with each field that is stored
  have hall : ∀ table : Fields, (∀ field ∈ table, ShownField field) →
      ∀ field ∈ fields.foldl (fun table field => table.store field.1 field.2) table,
        ShownField field := by
    induction fields with
    | nil => exact fun _ => id
    | cons field rest ih =>
      obtain ⟨hfield, hrest⟩ := List.forall_mem_cons.1 h
      exact fun table htable => ih hrest _ (shownField_store hfield htable)
  exact hall [] (List.forall_mem_nil _)

/-- All that the reader gives in so many steps can be shown. -/
structure ReadsShown (fuel : Nat) : Prop where
  value : ∀ {s rest document}, readValue fuel s = .ok (document, rest) → ¬document.Overlong
  items : ∀ {s rest items}, readItems fuel s = .ok (items, rest) → ∀ item ∈ items, ¬item.Overlong
  fields : ∀ {s rest fields}, readFields fuel s = .ok (fields, rest) → ∀ field ∈ fields, ShownField field

namespace ReadsShown

variable {fuel : Nat} {s rest : List Char}

theorem value_succ (shown : ReadsShown fuel) {document : Document}
    (h : readValue (fuel + 1) s = .ok (document, rest)) : ¬document.Overlong := by
  unfold readValue at h
  split at h
  · split at h
    · cases h
      nofun
    · cases h
  · split at h
    · cases h
      exact not_overlong_list (List.forall_mem_nil _)
    · split at h
      · next hread =>
        cases h
        exact not_overlong_list (shown.items hread)
      · cases h
  · split at h
    · cases h
      exact not_overlong_table (List.forall_mem_nil _)
    · split at h
      · next hread =>
        cases h
        exact not_overlong_table (shownField_ofList (shown.fields hread))
      · cases h
  · exact not_overlong_of_readScalar h

theorem items_succ (shown : ReadsShown fuel) {items : List Document}
    (h : readItems (fuel + 1) s = .ok (items, rest)) : ∀ item ∈ items, ¬item.Overlong := by
  unfold readItems at h
  split at h
  · cases h
  · next item behind hread =>
    have hitem := shown.value hread
    split at h
    · cases h
      exact List.forall_mem_singleton.2 hitem
    · obtain ⟨more, hmore, rfl⟩ := Reading.of_cons h
      exact List.forall_mem_cons.2 ⟨hitem, shown.items hmore⟩
    · cases h

theorem fields_succ (shown : ReadsShown fuel) {fields : List (Key × Document)}
    (h : readFields (fuel + 1) s = .ok (fields, rest)) : ∀ field ∈ fields, ShownField field := by
  unfold readFields at h
  split at h
  · split at h
    · cases h
    · next name behind hname =>
      split at h
      · split at h
        · cases h
        · next value after hread =>
          have hfield : ShownField (.text name, value) := ⟨nofun, shown.value hread⟩
          split at h
          · cases h
            exact List.forall_mem_singleton.2 hfield
          · obtain ⟨more, hmore, rfl⟩ := Reading.of_cons h
            exact List.forall_mem_cons.2 ⟨hfield, shown.fields hmore⟩
          · cases h
      · cases h
  · cases h

end ReadsShown

/-- Values, items and fields are read by one another, so the induction on the steps carries all three. -/
theorem readsShown (fuel : Nat) : ReadsShown fuel := by
  induction fuel with
  | zero => exact ⟨nofun, nofun, nofun⟩
  | succ fuel ih => exact ⟨ih.value_succ, ih.items_succ, ih.fields_succ⟩

/-- **Documents that were read.** No document that was read from a text is overlong. -/
theorem not_overlong_of_read {chars : List Char} {document : Document}
    (h : Document.read chars = .ok document) : ¬document.Overlong := by
  have hwhole : readWholeText chars = .ok document := by
    unfold Document.read at h
    split at h
    · next other hother =>
      cases h
      exact hother
    · cases h
  unfold readWholeText at hwhole
  split at hwhole
  · cases hwhole
  · split at hwhole
    · cases hwhole
    · next hread =>
      split at hwhole
      · cases hwhole
        exact (readsShown _).value hread
      · cases hwhole

end Document

end VisualNovel
