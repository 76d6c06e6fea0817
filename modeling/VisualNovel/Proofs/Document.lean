import VisualNovel.Document.Basic
import VisualNovel.OrderedMap

/-!
# Fields by name

A table whose keys are all texts can be read under names. A text with half a surrogate pair shows as a
name with the replacement character in it, so a name without that character finds the same field before
and after (`Fields.get?_of_names?`).
-/

namespace VisualNovel

namespace Text

variable {text : Text} {s : String}

theorem string?_eq_some_iff : text.string? = some s ↔ text = ofString s := by
  unfold string?
  constructor
  · intro h
    split at h
    · next hstring =>
      cases h
      exact hstring.symm
    · cases h
  · rintro rfl
    rw [toString_ofString, if_pos rfl]

theorem toString_eq_empty_iff : text.toString = "" ↔ text = ofString "" := by
  constructor
  · intro h
    have hpoints : text.points.map CodePoint.toChar = [] := String.ofList_eq_empty_iff.1 h
    obtain ⟨points⟩ := text
    cases List.map_eq_nil_iff.1 hpoints
    rfl
  · rintro rfl
    rfl

/-- A code point that does not show as the replacement character is the character it shows as. -/
theorem char_toChar {point : CodePoint} (h : point.toChar ≠ '\ufffd') :
    CodePoint.char point.toChar = point := by
  cases point with
  | char c => rfl
  | half offset => exact absurd rfl h

/-- Only the string itself shows as a string without the replacement character. -/
theorem toString_eq_iff (plain : '\ufffd' ∉ s.toList) : text.toString = s ↔ text = ofString s := by
  constructor
  · rintro rfl
    obtain ⟨points⟩ := text
    unfold toString at plain ⊢
    unfold ofString
    rw [String.toList_ofList] at plain ⊢
    rw [List.map_map]
    have hpoints : points.map (CodePoint.char ∘ CodePoint.toChar) = points.map id := by
      refine List.map_congr_left fun point hpoint => char_toChar fun hchar => plain ?_
      exact hchar ▸ List.mem_map_of_mem hpoint
    rw [hpoints, List.map_id]
  · rintro rfl
    exact toString_ofString s

end Text

namespace Fields

variable {fields : Fields} {entries : List (String × Document)}

/-- All keys are texts. -/
def Named (fields : Fields) : Prop :=
  ∀ field ∈ fields, ∃ name, field.1 = .text name

theorem exists_names?_iff : (∃ entries, names? fields = some entries) ↔ Named fields := by
  unfold Named
  induction fields with
  | nil => simp [names?]
  | cons field rest ih =>
    obtain ⟨key, value⟩ := field
    rw [List.forall_mem_cons, ← ih]
    cases key with
    | text name =>
      constructor
      · rintro ⟨entries, h⟩
        obtain ⟨tail, htail, _⟩ := Option.map_eq_some_iff.1 h
        exact ⟨⟨name, rfl⟩, tail, htail⟩
      · rintro ⟨_, tail, htail⟩
        refine ⟨(name.toString, value) :: tail, ?_⟩
        unfold names?
        rw [htail, Option.map_some]
    | _ => simp [names?]

theorem values_of_names? (h : names? fields = some entries) :
    entries.map Prod.snd = fields.map Prod.snd := by
  induction fields generalizing entries with
  | nil =>
    cases h
    rfl
  | cons field rest ih =>
    obtain ⟨key, value⟩ := field
    cases key with
    | text name =>
      obtain ⟨tail, htail, rfl⟩ := Option.map_eq_some_iff.1 h
      rw [List.map_cons, List.map_cons, ih htail]
    | _ => cases h

@[simp] theorem names?_ofNames (entries : List (String × Document)) :
    names? (ofNames entries) = some entries := by
  induction entries with
  | nil => rfl
  | cons entry rest ih =>
    show (names? (ofNames rest)).map _ = _
    rw [ih, Option.map_some, Text.toString_ofString]

theorem named_ofNames (entries : List (String × Document)) : Named (ofNames entries) :=
  exists_names?_iff.1 ⟨entries, names?_ofNames entries⟩

@[simp] theorem get?_ofNames (name : String) (entries : List (String × Document)) :
    (ofNames entries).get? name = Entries.find? name entries := by
  induction entries with
  | nil => rfl
  | cons entry rest ih =>
    obtain ⟨other, value⟩ := entry
    show (if Key.text (.ofString other) = .text (.ofString name) then some value
      else (ofNames rest).get? name) = _
    unfold Entries.find?
    by_cases h : other = name
    · rw [if_pos h, h, if_pos rfl]
    · have hkey : Key.text (.ofString other) ≠ .text (.ofString name) := fun heq =>
        h (Text.ofString_injective (Key.text.inj heq))
      rw [if_neg h, if_neg hkey, ih]

/-- Reading a table under names loses no field that is asked for without the replacement character. -/
theorem get?_of_names? (h : names? fields = some entries) {name : String}
    (plain : '\ufffd' ∉ name.toList) : (ofNames entries).get? name = fields.get? name := by
  rw [get?_ofNames]
  induction fields generalizing entries with
  | nil =>
    cases h
    rfl
  | cons field rest ih =>
    obtain ⟨key, value⟩ := field
    cases key with
    | text text =>
      obtain ⟨tail, htail, rfl⟩ := Option.map_eq_some_iff.1 h
      unfold Entries.find? get?
      rw [ih htail]
      simp only [Text.toString_eq_iff plain, Key.text.injEq]
    | _ => cases h

end Fields

end VisualNovel
