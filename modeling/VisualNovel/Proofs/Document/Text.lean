import Mathlib.Data.List.Chain
import VisualNovel.Document.Reader
import VisualNovel.Document.Writer

/-!
# Texts in files read back

A text in a file is a sequence of code units (`CodePoint.units`): a character of the basic plane is one of
them, any other character is a pair of surrogates, and half a pair is a surrogate of its own.

1. Reading what a code point is written as gives its code units (`readUnits_writePoint`).
2. Joining the code units of a text gives the text (`joinUnits_units`), unless the first half of a pair
   stands right before the second half of one: these two would be joined. A text without such a place is
   called whole (`Text.Whole`), and every string is.
-/

namespace VisualNovel

open Document

namespace CodePoint

/-- The code units of sixteen bits of a code point. -/
def units : CodePoint → List Nat
  | .char c =>
    if c.toNat < 0x10000 then [c.toNat]
    else [0xd800 + (c.toNat - 0x10000) / 0x400, 0xdc00 + (c.toNat - 0x10000) % 0x400]
  | .half offset => [0xd800 + offset]

/-- The first half of a surrogate pair. -/
def opensPair : CodePoint → Bool
  | .char _ => false
  | .half offset => offset < 0x400

/-- The second half of a surrogate pair. -/
def closesPair : CodePoint → Bool
  | .char _ => false
  | .half offset => 0x400 ≤ offset.val

end CodePoint

/-- No two halves of a pair meet in the text. -/
def Text.Whole (text : Text) : Prop :=
  text.points.IsChain fun a b => ¬(a.opensPair ∧ b.closesPair)

instance (text : Text) : Decidable text.Whole :=
  inferInstanceAs (Decidable (text.points.IsChain _))

theorem Text.whole_ofString (s : String) : (Text.ofString s).Whole := by
  refine List.Pairwise.isChain ?_
  show (s.toList.map CodePoint.char).Pairwise _
  rw [List.pairwise_map]
  exact List.pairwise_of_forall fun _ _ h => by cases h.1

/-! ## Escapes -/

theorem hexDigit?_digitChar : ∀ d < 16, hexDigit? (Nat.digitChar d) = some d := by decide

/-- Four hexadecimal digits are enough for a code unit. -/
theorem hex_four {n : Nat} (h : n < 0x10000) :
    Text.hex 4 n = [Nat.digitChar (n / 0x1000), Nat.digitChar (n / 0x100 % 16),
      Nat.digitChar (n / 0x10 % 16), Nat.digitChar (n % 16)] := by
  have hdiv : n / 16 / 16 = n / 0x100 ∧ n / 16 / 16 / 16 = n / 0x1000 := by omega
  unfold Text.hex
  by_cases h1 : n < 0x10
  · have h0 : n / 0x1000 = 0 ∧ n / 0x100 % 16 = 0 ∧ n / 0x10 % 16 = 0 ∧ n % 16 = n := by omega
    rw [Nat.toDigits_of_lt_base h1, h0.1, h0.2.1, h0.2.2.1, h0.2.2.2]
    rfl
  · rw [Nat.toDigits_of_base_le (by decide) (Nat.not_lt.1 h1)]
    by_cases h2 : n < 0x100
    · have h0 : n / 0x1000 = 0 ∧ n / 0x100 % 16 = 0 ∧ n / 0x10 % 16 = n / 16 := by omega
      rw [Nat.toDigits_of_lt_base (by omega), h0.1, h0.2.1, h0.2.2]
      rfl
    · rw [Nat.toDigits_of_base_le (by decide) (by omega)]
      by_cases h3 : n < 0x1000
      · have h0 : n / 0x1000 = 0 ∧ n / 0x100 % 16 = n / 0x100 := by omega
        rw [Nat.toDigits_of_lt_base (by omega), h0.1, h0.2, hdiv.1]
        rfl
      · rw [Nat.toDigits_of_base_le (by decide) (by omega), Nat.toDigits_of_lt_base (by omega),
          hdiv.2, hdiv.1]
        rfl

theorem hexUnit?_digits {n : Nat} (h : n < 0x10000) :
    hexUnit? (Nat.digitChar (n / 0x1000)) (Nat.digitChar (n / 0x100 % 16))
      (Nat.digitChar (n / 0x10 % 16)) (Nat.digitChar (n % 16)) = some n := by
  have value : ((n / 0x1000 * 16 + n / 0x100 % 16) * 16 + n / 0x10 % 16) * 16 + n % 16 = n := by omega
  unfold hexUnit?
  rw [hexDigit?_digitChar _ (by omega), hexDigit?_digitChar _ (by omega),
    hexDigit?_digitChar _ (by omega), hexDigit?_digitChar _ (by omega)]
  exact congrArg some value

theorem unitEscape_append_ne_nil (unit : Nat) (s : List Char) : unitEscape unit ++ s ≠ [] :=
  List.cons_ne_nil _ _

/-- An escape is read as its code unit, if something follows it. -/
theorem readUnits_unitEscape {unit opening : Nat} (h : unit < 0x10000) {s : List Char} (hs : s ≠ []) :
    readUnits opening (unitEscape unit ++ s) = .cons unit (readUnits opening s) := by
  obtain ⟨next, rest, rfl⟩ := List.exists_cons_of_ne_nil hs
  unfold unitEscape
  rw [hex_four h]
  show readUnits opening ('\\' :: 'u' :: _ :: _ :: _ :: _ :: next :: rest) = _
  rw [readUnits, hexUnit?_digits h]

/-! ## Code points -/

/-- A character that is written as itself is read as itself. -/
theorem readUnits_self {c : Char} (quote : c ≠ '"') (backslash : c ≠ '\\') (visible : 0x20 ≤ c.toNat)
    (opening : Nat) (s : List Char) :
    readUnits opening (c :: s) = .cons c.toNat (readUnits opening s) := by
  have shown : ¬c < ' ' := Nat.not_lt.2 visible
  rw [readUnits, if_neg shown]
  all_goals simp [quote, backslash]

/-- A letter behind a backslash is read as the character it stands for. -/
theorem readUnits_escaped {letter c : Char} (h : escaped? letter = some c) (opening : Nat)
    (s : List Char) :
    readUnits opening ('\\' :: letter :: s) = .cons c.toNat (readUnits opening s) := by
  have hu : letter ≠ 'u' := by
    rintro rfl
    cases h
  rw [readUnits, h]
  all_goals simp [hu]

/-- The four ways to write a character: by a letter, as itself, by one escape or by two. -/
theorem writeChar_cases (c : Char) :
    (c.toNat < 0x80 ∧ ∃ letter, escaped? letter = some c ∧ writeChar c = ['\\', letter]) ∨
      (c ≠ '"' ∧ c ≠ '\\' ∧ 0x20 ≤ c.toNat ∧ c.toNat ≤ 0x7e ∧ writeChar c = [c]) ∨
      (c.toNat < 0x10000 ∧ writeChar c = unitEscape c.toNat) ∨
      (0x10000 ≤ c.toNat ∧
        writeChar c = unitEscape (0xd800 + (c.toNat - 0x10000) / 0x400) ++
          unitEscape (0xdc00 + (c.toNat - 0x10000) % 0x400)) := by
  unfold writeChar
  split
  · next h => exact .inl ⟨by subst h; decide, '"', by subst h; decide, rfl⟩
  split
  · next h => exact .inl ⟨by subst h; decide, '\\', by subst h; decide, rfl⟩
  split
  · next h => exact .inl ⟨by subst h; decide, 'n', by subst h; decide, rfl⟩
  split
  · next h => exact .inl ⟨by subst h; decide, 'r', by subst h; decide, rfl⟩
  split
  · next h => exact .inl ⟨by subst h; decide, 't', by subst h; decide, rfl⟩
  split
  · next h => exact .inl ⟨by subst h; decide, 'b', by subst h; decide, rfl⟩
  split
  · next h => exact .inl ⟨by subst h; decide, 'f', by subst h; decide, rfl⟩
  split
  · next quote backslash _ _ _ _ _ h =>
    obtain ⟨low, high⟩ : 0x20 ≤ c.toNat ∧ c.toNat ≤ 0x7e := by simpa using h
    exact .inr (.inl ⟨quote, backslash, low, high, rfl⟩)
  split
  · next h => exact .inr (.inr (.inl ⟨h, rfl⟩))
  · next h => exact .inr (.inr (.inr ⟨Nat.not_lt.1 h, rfl⟩))

theorem CodePoint.units_of_basic {c : Char} (h : c.toNat < 0x10000) :
    (CodePoint.char c).units = [c.toNat] :=
  if_pos h

theorem CodePoint.units_of_astral {c : Char} (h : 0x10000 ≤ c.toNat) :
    (CodePoint.char c).units =
      [0xd800 + (c.toNat - 0x10000) / 0x400, 0xdc00 + (c.toNat - 0x10000) % 0x400] :=
  if_neg (Nat.not_lt.2 h)

/-- The number of a character is no surrogate. -/
theorem CodePoint.toNat_char (c : Char) :
    c.toNat < 0xd800 ∨ 0xdfff < c.toNat ∧ c.toNat < 0x110000 :=
  c.valid

/-- What a character is written as is read as its code units, if something follows it. -/
theorem readUnits_writeChar (c : Char) (opening : Nat) {s : List Char} (hs : s ≠ []) :
    readUnits opening (writeChar c ++ s) =
      (CodePoint.char c).units.foldr .cons (readUnits opening s) := by
  rcases writeChar_cases c with ⟨hc, letter, hletter, hw⟩ | ⟨quote, backslash, low, high, hw⟩ |
    ⟨hc, hw⟩ | ⟨hc, hw⟩
  · rw [hw, CodePoint.units_of_basic (by omega)]
    exact readUnits_escaped hletter opening s
  · rw [hw, CodePoint.units_of_basic (by omega)]
    exact readUnits_self quote backslash low opening s
  · rw [hw, CodePoint.units_of_basic hc]
    exact readUnits_unitEscape hc hs
  · have hmax := CodePoint.toNat_char c
    have high : 0xd800 + (c.toNat - 0x10000) / 0x400 < 0x10000 := by omega
    have low : 0xdc00 + (c.toNat - 0x10000) % 0x400 < 0x10000 := by omega
    rw [hw, CodePoint.units_of_astral hc, List.append_assoc,
      readUnits_unitEscape high (unitEscape_append_ne_nil _ s), readUnits_unitEscape low hs,
      List.foldr_cons, List.foldr_cons, List.foldr_nil]

theorem readUnits_writePoint (point : CodePoint) (opening : Nat) {s : List Char} (hs : s ≠ []) :
    readUnits opening (writePoint point ++ s) = point.units.foldr .cons (readUnits opening s) := by
  cases point with
  | char c => exact readUnits_writeChar c opening hs
  | half offset =>
    have hmax : 0xd800 + offset.val < 0x10000 := by omega
    exact readUnits_unitEscape hmax hs

/-- Code units that are put in front of the rest come first. -/
theorem foldr_cons_ok (units more : List Nat) (rest : List Char) :
    units.foldr Reading.cons (.ok (more, rest)) = .ok (units ++ more, rest) := by
  induction units with
  | nil => rfl
  | cons unit units ih =>
    rw [List.foldr_cons, ih]
    rfl

theorem readUnits_points (points : List CodePoint) (opening : Nat) (rest : List Char) :
    readUnits opening (points.flatMap writePoint ++ '"' :: rest) =
      .ok (points.flatMap CodePoint.units, rest) := by
  induction points with
  | nil => rw [List.flatMap_nil, List.flatMap_nil, List.nil_append, readUnits]
  | cons point points ih =>
    rw [List.flatMap_cons, List.flatMap_cons, List.append_assoc,
      readUnits_writePoint point opening (by simp), ih, foldr_cons_ok]

/-! ## Pairs -/

/-- A code unit that is not followed by the second half of a pair, or opens none, stands for itself. -/
theorem joinUnits_cons {unit : Nat} {units : List Nat}
    (h : 0xd800 ≤ unit → unit < 0xdc00 → ∀ next ∈ units.head?, ¬(0xdc00 ≤ next ∧ next < 0xe000)) :
    joinUnits (unit :: units) = .ofNat unit :: joinUnits units := by
  cases units with
  | nil => rfl
  | cons next rest =>
    have hpair : ¬(0xd800 ≤ unit ∧ unit < 0xdc00 ∧ 0xdc00 ≤ next ∧ next < 0xe000) :=
      fun hp => h hp.1 hp.2.1 next rfl hp.2.2
    rw [joinUnits, if_neg hpair]

theorem joinUnits_pair {high low : Nat} {rest : List Nat} (h : 0xd800 ≤ high ∧ high < 0xdc00)
    (h' : 0xdc00 ≤ low ∧ low < 0xe000) :
    joinUnits (high :: low :: rest) =
      .char (Char.ofNat (0x10000 + (high - 0xd800) * 0x400 + (low - 0xdc00))) :: joinUnits rest := by
  rw [joinUnits, if_pos ⟨h.1, h.2, h'.1, h'.2⟩]

namespace CodePoint

theorem ofNat_char (c : Char) : ofNat c.toNat = .char c := by
  have hc : ¬(0xd800 ≤ c.toNat ∧ c.toNat < 0xe000) := by
    have := toNat_char c
    omega
  unfold ofNat
  rw [dif_neg hc, Char.ofNat_toNat]

theorem ofNat_half (offset : Fin 2048) : ofNat (0xd800 + offset) = .half offset := by
  have hmax : 0xd800 ≤ 0xd800 + offset.val ∧ 0xd800 + offset.val < 0xe000 := by omega
  unfold ofNat
  rw [dif_pos hmax]
  exact congrArg CodePoint.half (Fin.ext (Nat.add_sub_cancel_left 0xd800 offset.val))

/-- The first code unit of a text closes a pair only if its first code point does. -/
theorem closesPair_of_head? {point : CodePoint} {points : List CodePoint} {unit : Nat}
    (h : unit ∈ ((point :: points).flatMap units).head?) (hu : 0xdc00 ≤ unit ∧ unit < 0xe000) :
    point.closesPair := by
  rw [List.flatMap_cons] at h
  cases point with
  | char c =>
    have hc := toNat_char c
    by_cases hb : c.toNat < 0x10000
    · rw [units_of_basic hb] at h
      cases h
      omega
    · rw [units_of_astral (by omega)] at h
      cases h
      omega
  | half offset =>
    cases h
    exact decide_eq_true (by omega)

end CodePoint

/-- Joining the code units of a whole text gives the text. -/
theorem joinUnits_units {points : List CodePoint} (whole : Text.Whole ⟨points⟩) :
    joinUnits (points.flatMap CodePoint.units) = points := by
  induction points with
  | nil => rfl
  | cons point points ih =>
    have ih := ih (List.isChain_of_isChain_cons whole)
    rw [List.flatMap_cons]
    cases point with
    | char c =>
      have hc := CodePoint.toNat_char c
      by_cases hb : c.toNat < 0x10000
      · rw [CodePoint.units_of_basic hb, List.singleton_append, joinUnits_cons (by omega), ih,
          CodePoint.ofNat_char]
      · have hvalue : 0x10000 + (0xd800 + (c.toNat - 0x10000) / 0x400 - 0xd800) * 0x400 +
            (0xdc00 + (c.toNat - 0x10000) % 0x400 - 0xdc00) = c.toNat := by omega
        rw [CodePoint.units_of_astral (by omega), List.cons_append, List.singleton_append,
          joinUnits_pair (by omega) (by omega), ih, hvalue, Char.ofNat_toNat]
    | half offset =>
      -- the first half of a pair must not find the second one behind it
      have hnext : 0xd800 ≤ 0xd800 + offset.val → 0xd800 + offset.val < 0xdc00 →
          ∀ next ∈ (points.flatMap CodePoint.units).head?, ¬(0xdc00 ≤ next ∧ next < 0xe000) := by
        intro _ hopen next hmem hclose
        cases points with
        | nil => cases hmem
        | cons second points =>
          refine List.rel_of_isChain_cons_cons whole ⟨decide_eq_true (by omega), ?_⟩
          exact CodePoint.closesPair_of_head? hmem hclose
      show joinUnits ((0xd800 + offset.val) :: points.flatMap CodePoint.units) = _
      rw [joinUnits_cons hnext, ih, CodePoint.ofNat_half]

/-- **Texts in files.** Reading a whole text that was written gives the text, and stops behind its closing
quote. -/
theorem readText_writeText {text : Text} (whole : text.Whole) (rest : List Char) :
    readText (text.points.flatMap writePoint ++ '"' :: rest) = .ok (text, rest) := by
  unfold readText
  rw [readUnits_points]
  show Except.ok (Text.mk (joinUnits (text.points.flatMap CodePoint.units)), rest) = _
  rw [joinUnits_units whole]

end VisualNovel
