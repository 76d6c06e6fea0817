import VisualNovel.Document.Reader

/-!
# Integers in files read back

The digits of a number give the number (`digitsValue_digitsOf`), and none of them is a leading zero, so
that the reader takes all of them. Where the text goes on with something that cannot belong to a number
(`Stops`), reading an integer that was written gives that integer (`readNumber?_intText`).
-/

namespace VisualNovel

namespace Document

/-- The characters do not go on with what could belong to a number. -/
def Stops (rest : List Char) : Prop :=
  ∀ c ∈ rest.head?, isDigit c = false ∧ c ≠ '.' ∧ c ≠ 'e' ∧ c ≠ 'E'

theorem stops_nil : Stops [] := by
  intro c h
  cases h

/-! ## Digits -/

theorem isDigit_of_mem_digitsOf {n : Nat} {c : Char} (h : c ∈ digitsOf n) : isDigit c := by
  have hdigit : c.isDigit := Nat.isDigit_of_mem_toDigits (by decide) (by decide) h
  unfold Char.isDigit at hdigit
  unfold isDigit
  simpa [Char.le_def] using hdigit

theorem digitsValue_digitsOf (n : Nat) : digitsValue (digitsOf n) = n := by
  have hvalue : ∀ (digits : List Char) (start : Nat),
      digits.foldl (fun m c => m * 10 + (c.toNat - '0'.toNat)) start =
        Nat.ofDigitChars 10 digits start := by
    intro digits
    induction digits with
    | nil => intro start; rfl
    | cons c digits ih =>
      intro start
      rw [List.foldl_cons, ih, Nat.ofDigitChars_cons, Nat.mul_comm]
  unfold digitsValue digitsOf
  rw [hvalue, Nat.ofDigitChars_ten_toDigits]

theorem exists_digitsOf (n : Nat) : ∃ c rest, digitsOf n = c :: rest ∧ isDigit c := by
  obtain ⟨c, rest, h⟩ := List.exists_cons_of_ne_nil (@Nat.toDigits_ne_nil n 10)
  exact ⟨c, rest, h, isDigit_of_mem_digitsOf (h ▸ List.mem_cons_self)⟩

/-- The digits of a number other than zero do not start with a zero. -/
theorem digitsOf_pos (n : Nat) (h : n ≠ 0) : ∃ c rest, digitsOf n = c :: rest ∧ c ≠ '0' := by
  induction n using Nat.strongRecOn with
  | ind n ih =>
    unfold digitsOf at ih ⊢
    by_cases hn : n < 10
    · rw [Nat.toDigits_of_lt_base hn]
      exact ⟨_, [], rfl, by simpa using h⟩
    · obtain ⟨c, rest, hdigits, hc⟩ := ih (n / 10) (by omega) (by omega)
      rw [Nat.toDigits_of_base_le (by decide) (Nat.not_lt.1 hn), hdigits]
      exact ⟨c, _, rfl, hc⟩

/-! ## Numbers -/

theorem takeWhile_digits {digits rest : List Char} (h : ∀ c ∈ digits, isDigit c) (hrest : Stops rest) :
    (digits ++ rest).takeWhile isDigit = digits ∧ (digits ++ rest).dropWhile isDigit = rest := by
  rw [List.takeWhile_append_of_pos h, List.dropWhile_append_of_pos h]
  cases rest with
  | nil => exact ⟨List.append_nil _, rfl⟩
  | cons c rest =>
    have hc := (hrest c rfl).1
    rw [List.takeWhile_cons, List.dropWhile_cons, hc]
    exact ⟨List.append_nil _, rfl⟩

theorem readWhole?_digits (n : Nat) {rest : List Char} (hrest : Stops rest) :
    readWhole? (digitsOf n ++ rest) = some (digitsOf n, rest) := by
  by_cases hn : n = 0
  · subst hn
    rfl
  · have hdigits : ∀ c ∈ digitsOf n, isDigit c := fun c => isDigit_of_mem_digitsOf
    obtain ⟨c, more, hn, hc⟩ := digitsOf_pos n hn
    rw [hn] at hdigits ⊢
    obtain ⟨hfirst, hmore⟩ := List.forall_mem_cons.1 hdigits
    obtain ⟨htake, hdrop⟩ := takeWhile_digits hmore hrest
    rw [List.cons_append, readWhole?, if_pos hfirst, htake, hdrop]
    exact hc

theorem readFraction?_of_stops {rest : List Char} (h : Stops rest) : readFraction? rest = none := by
  unfold readFraction?
  split
  · next c more => exact absurd rfl (h '.' rfl).2.1
  · rfl

theorem readExponent?_of_stops {rest : List Char} (h : Stops rest) : readExponent? rest = none := by
  unfold readExponent?
  split
  · next c more =>
    obtain ⟨-, -, he, hE⟩ := h c rfl
    simp [he, hE]
  · rfl

theorem readUnsigned?_digits (negative : Bool) (n : Nat) {rest : List Char} (hrest : Stops rest) :
    readUnsigned? negative (digitsOf n ++ rest) = some (integer negative (digitsOf n), rest) := by
  unfold readUnsigned?
  rw [readWhole?_digits n hrest]
  simp only [Option.bind_eq_bind, Option.bind_some, readFraction?_of_stops hrest,
    readExponent?_of_stops hrest]
  rfl

theorem integer_digitsOf {n : Nat} (h : (digitsOf n).length ≤ digitLimit) (negative : Bool) :
    integer negative (digitsOf n) = .ok (.int (if negative then -n else n)) := by
  unfold integer
  rw [if_neg (Nat.not_lt.2 h), digitsValue_digitsOf]

theorem toList_intText_ofNat (k : Nat) : (intText (.ofNat k)).toList = digitsOf k :=
  String.toList_ofList

theorem toList_intText_negSucc (k : Nat) : (intText (.negSucc k)).toList = '-' :: digitsOf (k + 1) :=
  String.toList_ofList

theorem mem_intText {n : Int} {c : Char} (h : c ∈ (intText n).toList) : c = '-' ∨ isDigit c := by
  cases n with
  | ofNat k =>
    rw [toList_intText_ofNat] at h
    exact .inr (isDigit_of_mem_digitsOf h)
  | negSucc k =>
    rw [toList_intText_negSucc, List.mem_cons] at h
    exact h.imp_right isDigit_of_mem_digitsOf

/-- An integer with no more digits than allowed is read from its text. -/
theorem readNumber?_intText {n : Int} (h : (digitsOf n.natAbs).length ≤ digitLimit)
    {rest : List Char} (hrest : Stops rest) :
    readNumber? ((intText n).toList ++ rest) = some (.ok (.int n), rest) := by
  cases n with
  | ofNat k =>
    have hk : (digitsOf k).length ≤ digitLimit := h
    rw [toList_intText_ofNat, readNumber?, readUnsigned?_digits false k hrest, integer_digitsOf hk]
    · rfl
    · intro more hmore
      obtain ⟨c, digits, hdigits, hc⟩ := exists_digitsOf k
      rw [hdigits] at hmore
      cases hmore
      cases hc
  | negSucc k =>
    have hk : (digitsOf (k + 1)).length ≤ digitLimit := h
    rw [toList_intText_negSucc, List.cons_append, readNumber?, readUnsigned?_digits true (k + 1) hrest,
      integer_digitsOf hk]
    rfl

/-- Different integers have different texts. -/
theorem intText_injective {m n : Int} (h : intText m = intText n) : m = n := by
  have hlist := congrArg String.toList h
  cases m with
  | ofNat j =>
    cases n with
    | ofNat k =>
      rw [toList_intText_ofNat, toList_intText_ofNat] at hlist
      rw [← digitsValue_digitsOf j, hlist, digitsValue_digitsOf]
    | negSucc k =>
      obtain ⟨c, digits, hdigits, hc⟩ := exists_digitsOf j
      rw [toList_intText_ofNat, toList_intText_negSucc, hdigits] at hlist
      cases hlist
      cases hc
  | negSucc j =>
    cases n with
    | ofNat k =>
      obtain ⟨c, digits, hdigits, hc⟩ := exists_digitsOf k
      rw [toList_intText_ofNat, toList_intText_negSucc, hdigits] at hlist
      cases hlist
      cases hc
    | negSucc k =>
      rw [toList_intText_negSucc, toList_intText_negSucc] at hlist
      have hjk : j + 1 = k + 1 := by
        rw [← digitsValue_digitsOf (j + 1), (List.cons.inj hlist).2, digitsValue_digitsOf]
      rw [Nat.succ.inj hjk]

end Document

end VisualNovel
