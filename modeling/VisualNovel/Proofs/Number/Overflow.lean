import VisualNovel.Number.Binary64

/-!
# Integers too large for binary64

Half a step above the greatest finite number lies the first integer that is rounded to infinity
(`overflowThreshold`). Below it, rounding an integer gives a finite number, from there on none
(`ofInt?_eq_none_iff`).

1. Infinity is one bit pattern: of the patterns up to it, no other stands for it (`isInf_ofBits_iff`).
2. The integer to be rounded has its leading bit at `log2 num`, so its 53-bit field lies between
   `leadingBit` and twice that (`nearestBits_one`). Whether the pattern reaches infinity is decided by the
   place of the leading bit, and at place 1023 by the rounding.
-/

namespace VisualNovel.Binary64

/-- The least size of an integer that no finite number is nearest to. -/
def overflowThreshold : Nat := two 1024 - two 970

/-! ## Powers of two -/

theorem two_add (m n : Nat) : two (m + n) = two m * two n :=
  Nat.pow_add 2 m n

theorem two_succ (n : Nat) : two (n + 1) = 2 * two n :=
  Nat.pow_succ'

-- By the next two the large powers are taken apart; none of them is computed.

theorem two_add_53 (n : Nat) : two (53 + n) = 9007199254740992 * two n :=
  two_add 53 n

theorem two_971 : two 971 = 2 * two 970 :=
  two_succ 970

theorem two_pos (n : Nat) : 0 < two n :=
  Nat.pow_pos (by decide)

theorem two_le_two {m n : Nat} (h : m ≤ n) : two m ≤ two n :=
  Nat.pow_le_pow_right (by decide) h

theorem two_log2_le {num : Nat} (h : num ≠ 0) : two (Nat.log2 num) ≤ num :=
  Nat.log2_self_le h

theorem lt_two_log2 (num : Nat) : num < two (Nat.log2 num + 1) :=
  Nat.lt_log2_self

/-! ## The bits of infinity -/

open Float.Model

/-- Numbers whose exponent a finite number can have. -/
def Fits : UnpackedFloat → Prop
  | .finite _ _ exponent _ => exponent ≤ 971
  | _ => True

/-- Read from its fields, a number is infinite if all bits of its exponent are set and no others; the
exponents of finite numbers end below that. -/
theorem unpack_cases (bits : BitVec 64) :
    ((UnpackedFloat.unpack .binary64 bits).isInf = true ↔
      @UnpackedFloat.unpackExponent .binary64 bits = -1#11 ∧
        @UnpackedFloat.unpackMantissa .binary64 bits = 0#52) ∧
      Fits (UnpackedFloat.unpack .binary64 bits) := by
  unfold UnpackedFloat.unpack
  dsimp only
  by_cases hexponent : @UnpackedFloat.unpackExponent .binary64 bits = -1#11
  · rw [if_pos hexponent]
    by_cases hmantissa : @UnpackedFloat.unpackMantissa .binary64 bits = 0#52
    · rw [if_pos hmantissa]
      exact ⟨⟨fun _ => ⟨hexponent, hmantissa⟩, fun _ => rfl⟩, trivial⟩
    · rw [if_neg hmantissa]
      exact ⟨⟨fun h => (by cases h), fun h => absurd h.2 hmantissa⟩, trivial⟩
  · rw [if_neg hexponent]
    by_cases hzero : @UnpackedFloat.unpackExponent .binary64 bits = 0#11
    · rw [if_pos hzero]
      by_cases hmantissa : @UnpackedFloat.unpackMantissa .binary64 bits = 0#52
      · rw [dif_pos hmantissa]
        exact ⟨⟨fun h => (by cases h), fun h => absurd h.1 hexponent⟩, trivial⟩
      · rw [dif_neg hmantissa]
        refine ⟨⟨fun h => (by cases h), fun h => absurd h.1 hexponent⟩, ?_⟩
        show ((@UnpackedFloat.unpackExponent .binary64 bits).toNat : Int) - (1023 + 52) + 1 ≤ 971
        rw [hzero]
        decide
    · rw [if_neg hzero]
      refine ⟨⟨fun h => (by cases h), fun h => absurd h.1 hexponent⟩, ?_⟩
      show ((@UnpackedFloat.unpackExponent .binary64 bits).toNat : Int) - (1023 + 52) ≤ 971
      have hlt : (@UnpackedFloat.unpackExponent .binary64 bits).toNat < 2048 := BitVec.isLt _
      have hne : (@UnpackedFloat.unpackExponent .binary64 bits).toNat ≠ 2047 := by
        intro h
        exact hexponent (BitVec.eq_of_toNat_eq h)
      omega

theorem isInf_pack {number : UnpackedFloat} (h : Fits number) :
    (UnpackedFloat.unpack .binary64 (UnpackedFloat.pack .binary64 number)).isInf = number.isInf := by
  cases number with
  | infinity sign => cases sign <;> rfl
  | notANumber => rfl
  | zero sign => cases sign <;> rfl
  | finite sign mantissa exponent pos =>
    have hexponent : exponent ≤ 971 := h
    have hbiased : (exponent + (1023 : Nat) + (52 : Nat)).toNat ≤ 2046 := by omega
    show _ = false
    rw [Bool.eq_false_iff, ne_eq, (unpack_cases _).1]
    rintro ⟨hinf, -⟩
    unfold UnpackedFloat.pack at hinf
    dsimp only at hinf
    split at hinf
    · next hlarge =>
      have hlarge : 2048 ≤ (exponent + (1023 : Nat) + (52 : Nat)).toNat + 1 := hlarge
      omega
    · split at hinf
      · rw [UnpackedFloat.unpackExponent_packComponents] at hinf
        have hfield := congrArg BitVec.toNat hinf
        change (exponent + (1023 : Nat) + (52 : Nat)).toNat % 2048 = 2047 at hfield
        omega
      · rw [UnpackedFloat.unpackExponent_packComponents] at hinf
        exact absurd hinf (by decide)

theorem isInf_ofBits (word : UInt64) :
    (Float.ofBits word).isInf = (UnpackedFloat.unpack .binary64 word.toBitVec).isInf :=
  isInf_pack (unpack_cases _).2

theorem isInf_neg (x : Float) : (-x).isInf = x.isInf := by
  have hneg : Fits x.toModel.unpack.neg ∧ x.toModel.unpack.neg.isInf = x.toModel.unpack.isInf := by
    have hfits : Fits x.toModel.unpack := (unpack_cases _).2
    cases hx : x.toModel.unpack with
    | finite sign mantissa exponent pos =>
      rw [hx] at hfits
      exact ⟨hfits, rfl⟩
    | _ => exact ⟨trivial, rfl⟩
  exact (isInf_pack hneg.1).trans hneg.2

/-- Of the bit patterns up to that of infinity no other stands for it. -/
theorem isInf_ofBits_iff {word : Nat} (h : word ≤ infinityBits) :
    (Float.ofBits word.toUInt64).isInf = true ↔ word = infinityBits := by
  have hbound : word ≤ 2047 * 4503599627370496 := h
  have hword : word.toUInt64.toBitVec.toNat = word := Nat.mod_eq_of_lt (by omega)
  have hexponent : (@UnpackedFloat.unpackExponent .binary64 word.toUInt64.toBitVec).toNat =
      word / 4503599627370496 % 2048 := by
    show word.toUInt64.toBitVec.toNat >>> 52 % 2048 = _
    rw [Nat.shiftRight_eq_div_pow, hword]
  have hmantissa : (@UnpackedFloat.unpackMantissa .binary64 word.toUInt64.toBitVec).toNat =
      word % 4503599627370496 := by
    show word.toUInt64.toBitVec.toNat >>> 0 % 4503599627370496 = _
    rw [Nat.shiftRight_zero, hword]
  rw [isInf_ofBits, (unpack_cases _).1, ← BitVec.toNat_inj, ← BitVec.toNat_inj, hexponent, hmantissa]
  show word / 4503599627370496 % 2048 = 2047 ∧ word % 4503599627370496 = 0 ↔
    word = 2047 * 4503599627370496
  omega

/-! ## Rounding an integer -/

theorem roundQuotient_near (num den : Nat) :
    num / den ≤ roundQuotient num den ∧ roundQuotient num den ≤ num / den + 1 := by
  unfold roundQuotient
  dsimp only
  split
  · omega
  · split
    · omega
    · omega

/-- A fraction between two integers is rounded to one between them. -/
theorem roundQuotient_bounds {num den low high : Nat} (hlow : low * den ≤ num) (hhigh : num < high * den) :
    low ≤ roundQuotient num den ∧ roundQuotient num den ≤ high := by
  have hden : 0 < den := Nat.pos_of_ne_zero (by rintro rfl; omega)
  have hquotient : low ≤ num / den := (Nat.le_div_iff_mul_le hden).2 hlow
  have hlt : num / den < high := (Nat.div_lt_iff_lt_mul hden).2 hhigh
  obtain ⟨hdown, hup⟩ := roundQuotient_near num den
  omega

/-- Below an even integer, a fraction is rounded up to it from half a step on. -/
theorem roundQuotient_eq_iff {num den high : Nat} (heven : high % 2 = 0) (hhigh : num < high * den) :
    roundQuotient num den = high ↔ 2 * (high * den) ≤ 2 * num + den := by
  have hden : 0 < den := Nat.pos_of_ne_zero (by rintro rfl; omega)
  have hlt : num / den < high := (Nat.div_lt_iff_lt_mul hden).2 hhigh
  have hrest : num % den < den := Nat.mod_lt _ hden
  have hnum : den * (num / den) + num % den = num := Nat.div_add_mod num den
  by_cases hnext : high = num / den + 1
  · have hstep : high * den = den * (num / den) + den := by
      rw [hnext, Nat.add_mul, Nat.one_mul, Nat.mul_comm]
    unfold roundQuotient
    dsimp only
    split
    · omega
    · split
      · omega
      · -- half a step below an even integer lies half a step above an odd one
        omega
  · have hstep : den * (num / den) + 2 * den ≤ high * den := by
      rw [Nat.mul_comm den, ← Nat.add_mul]
      exact Nat.mul_le_mul_right den (by omega)
    obtain ⟨-, hup⟩ := roundQuotient_near num den
    omega

theorem scale_natCast (num den exponent : Nat) :
    scale num den exponent = (num, den * two exponent) :=
  if_neg (by omega)

theorem scale_neg (num den exponent : Nat) (h : 0 < exponent) :
    scale num den (-exponent) = (num * two exponent, den) := by
  unfold scale
  rw [if_pos (by omega), Int.natAbs_neg, Int.natAbs_natCast]

theorem log2Quotient_one {num : Nat} (h : num ≠ 0) : log2Quotient num 1 = Nat.log2 num := by
  have hlog : Nat.log2 1 = 0 := by decide
  have hle : ¬num < 1 * two (Nat.log2 num) := by
    rw [Nat.one_mul]
    exact Nat.not_lt.2 (two_log2_le h)
  unfold log2Quotient
  rw [hlog]
  dsimp only
  rw [Int.natCast_zero, Int.sub_zero, scale_natCast]
  exact if_neg hle

/-- The bits of an integer are the place of its leading bit and its field. -/
theorem nearestBits_one {num : Nat} (h : num ≠ 0) :
    ∃ field, leadingBit ≤ field ∧ field ≤ 2 * leadingBit ∧
      nearestBits num 1 = min ((Nat.log2 num + 1022) * leadingBit + field) infinityBits ∧
      ∀ exponent, Nat.log2 num = 52 + exponent → field = roundQuotient num (two exponent) := by
  have hlow := two_log2_le h
  have hhigh := lt_two_log2 num
  have hexponent : max ((Nat.log2 num : Int) - 52) leastExponent = (Nat.log2 num : Int) - 52 := by
    unfold leastExponent
    omega
  have hplace : ((Nat.log2 num : Int) - 52 - leastExponent).toNat = Nat.log2 num + 1022 := by
    unfold leastExponent
    omega
  unfold nearestBits
  rw [if_neg h, log2Quotient_one h]
  dsimp only
  rw [hexponent, hplace]
  by_cases hlog : 52 ≤ Nat.log2 num
  · obtain ⟨exponent, heq⟩ := Nat.exists_eq_add_of_le hlog
    have hcast : (Nat.log2 num : Int) - 52 = exponent := by omega
    rw [hcast, scale_natCast, Nat.one_mul]
    rw [heq, two_add] at hlow
    rw [heq, Nat.add_right_comm, two_add] at hhigh
    obtain ⟨hfirst, hlast⟩ := roundQuotient_bounds hlow hhigh
    refine ⟨_, hfirst, hlast, if_neg (Nat.not_lt.2 hfirst), ?_⟩
    intro other hother
    rw [Nat.add_left_cancel (heq.symm.trans hother)]
  · obtain ⟨exponent, heq⟩ := Nat.exists_eq_add_of_le (Nat.le_of_not_le hlog)
    have hcast : (Nat.log2 num : Int) - 52 = -exponent := by omega
    have hpos : 0 < exponent := by omega
    rw [hcast, scale_neg num 1 exponent hpos]
    have hfirst : two 52 * 1 ≤ num * two exponent := by
      rw [Nat.mul_one, heq, two_add]
      exact Nat.mul_le_mul_right _ hlow
    have hlast : num * two exponent < two 53 * 1 := by
      have hbits : 53 = Nat.log2 num + 1 + exponent := by omega
      rw [Nat.mul_one, hbits, two_add]
      exact Nat.mul_lt_mul_of_pos_right hhigh (two_pos _)
    obtain ⟨hfield, hfield'⟩ := roundQuotient_bounds hfirst hlast
    refine ⟨_, hfield, hfield', if_neg (Nat.not_lt.2 hfield), ?_⟩
    intro other hother
    omega

theorem nearestBits_le (num den : Nat) : nearestBits num den ≤ infinityBits := by
  have hfield : leadingBit ≤ infinityBits := by decide
  unfold nearestBits
  dsimp only
  split
  · exact Nat.zero_le _
  · split
    · omega
    · exact Nat.min_le_right _ _

theorem overflowThreshold_eq : overflowThreshold = 18014398509481983 * two 970 := by
  have htop : two 1024 = 18014398509481984 * two 970 := by
    rw [two_add_53 971, two_971]
    omega
  unfold overflowThreshold
  omega

theorem nearestBits_eq_infinityBits_iff (num : Nat) :
    nearestBits num 1 = infinityBits ↔ overflowThreshold ≤ num := by
  have hpos := two_pos 970
  rw [overflowThreshold_eq]
  by_cases h : num = 0
  · subst h
    exact ⟨fun hbits => absurd hbits (by decide), fun hle => by omega⟩
  · obtain ⟨field, hlow, hhigh, hbits, hfield⟩ := nearestBits_one h
    have hbit : leadingBit = 4503599627370496 := rfl
    have hinfinity : infinityBits = 2047 * 4503599627370496 := rfl
    rw [hbits, hinfinity]
    rw [hbit] at hlow hhigh ⊢
    rcases Nat.lt_trichotomy (Nat.log2 num) 1023 with hless | hequal | hmore
    · have hnum : num < two 1023 := Nat.lt_of_lt_of_le (lt_two_log2 num) (two_le_two hless)
      rw [two_add_53 970] at hnum
      omega
    · -- the leading bit is at the last place: it is for the rounding to reach infinity
      have hnum := lt_two_log2 num
      rw [hequal, two_add_53 971] at hnum
      have hround := roundQuotient_eq_iff (by decide) hnum
      rw [← hfield 971 hequal, two_971] at hround
      omega
    · have hnum : two 1024 ≤ num := Nat.le_trans (two_le_two hmore) (two_log2_le h)
      rw [two_add_53 971, two_971] at hnum
      omega

/-- **Overflow.** An integer has a nearest binary64 number up to the threshold. -/
theorem ofInt?_eq_none_iff (n : Int) : ofInt? n = none ↔ overflowThreshold ≤ n.natAbs := by
  have hsize : (ofInt n).isInf = (Float.ofBits (nearestBits n.natAbs 1).toUInt64).isInf := by
    unfold ofInt nearest
    dsimp only
    split
    · exact isInf_neg _
    · rfl
  rw [← nearestBits_eq_infinityBits_iff, ← isInf_ofBits_iff (nearestBits_le _ _), ← hsize]
  unfold ofInt?
  dsimp only
  cases (ofInt n).isInf with
  | true => exact ⟨fun _ => rfl, fun _ => rfl⟩
  | false => exact ⟨fun h => (by cases h), fun h => (by cases h)⟩

end VisualNovel.Binary64
