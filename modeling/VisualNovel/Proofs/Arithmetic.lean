import VisualNovel.Operation

/-!
# Arithmetic on integers

Arithmetic on integers of any size is exact and then clamped to the signed 64-bit range.

1. What is exact is said of the result alone (`Arithmetic.Exact`): a quotient is an integer that leaves a
   remainder smaller than the divisor, zero or of the sign of the dividend. Dividing the absolute values and
   setting the sign afterwards gives the only one (`exact_divide_iff`).
2. The clamp gives an integer in range and changes none that is in range already (`inRange_saturate`,
   `saturate_of_inRange`).
3. Hence the results of arithmetic are the exact ones, clamped, and only a division by zero has none
   (`arithmetic_exact_up_to_clamping`).
-/

namespace VisualNovel

/-! ## The range -/

/-- The integer fits into a signed 64-bit word. -/
def InRange (n : Int) : Prop := leastInt ≤ n ∧ n ≤ greatestInt

theorem inRange_saturate (n : Int) : InRange (saturate n) := by
  unfold InRange saturate leastInt greatestInt
  omega

theorem saturate_of_inRange {n : Int} (h : InRange n) : saturate n = n := by
  obtain ⟨hleast, hgreatest⟩ := h
  rw [saturate, Int.min_eq_right hgreatest, Int.max_eq_right hleast]

/-! ## Exact results -/

/-- The integer is exact for arithmetic on `a` and `b`. -/
def Arithmetic.Exact (arithmetic : Arithmetic) (a b n : Int) : Prop :=
  match arithmetic with
  | .add => n = a + b
  | .subtract => n = a - b
  | .multiply => n = a * b
  | .divide => ∃ r, a = n * b + r ∧ r.natAbs < b.natAbs ∧ (r = 0 ∨ r.sign = a.sign)

namespace Operation

variable {arithmetic : Arithmetic} {a b n r : Int}

/-- The sign set afterwards is that of the quotient. -/
theorem truncatingDiv_eq_tdiv (a b : Int) : truncatingDiv a b = a.tdiv b := by
  unfold truncatingDiv
  cases a with
  | ofNat m => cases b <;> simp [Int.tdiv]
  | negSucc m => cases b <;> simp [Int.tdiv]

/-- A remainder of zero or of the sign of the dividend lies on the dividend's side of zero. -/
theorem side_of_sign (h : r = 0 ∨ r.sign = a.sign) : (0 ≤ a → 0 ≤ r) ∧ (a ≤ 0 → r ≤ 0) := by
  rcases h with rfl | hsign
  · exact ⟨fun _ => Int.le_refl 0, fun _ => Int.le_refl 0⟩
  · rw [← Int.sign_nonneg_iff (x := r), ← Int.sign_nonpos_iff (x := r), hsign, Int.sign_nonneg_iff,
      Int.sign_nonpos_iff]
    exact ⟨id, id⟩

theorem sign_tmod_cases (a b : Int) : a.tmod b = 0 ∨ (a.tmod b).sign = a.sign := by
  rw [Int.sign_tmod]
  by_cases hdvd : b ∣ a
  · exact .inl (Int.tmod_eq_zero_of_dvd hdvd)
  · exact .inr (if_neg hdvd)

/-- Of a divisor that is not zero, the quotient of the absolute values with its sign is the only one. -/
theorem exact_divide_iff (hb : b ≠ 0) : Arithmetic.divide.Exact a b n ↔ n = truncatingDiv a b := by
  rw [truncatingDiv_eq_tdiv]
  constructor
  · rintro ⟨r, hn, hr, hsign⟩
    have hsplit : r + b * n = a := by rw [hn, Int.mul_comm, Int.add_comm]
    obtain ⟨hpos, hneg⟩ := side_of_sign hsign
    rcases Int.le_total 0 a with ha | ha
    · have hside := hpos ha
      exact ((Int.tdiv_tmod_unique ha hb).2 ⟨hsplit, hside, by omega⟩).1.symm
    · have hside := hneg ha
      exact ((Int.tdiv_tmod_unique' ha hb).2 ⟨hsplit, by omega, hside⟩).1.symm
  · rintro rfl
    refine ⟨a.tmod b, ?_, ?_, sign_tmod_cases a b⟩
    · rw [Int.mul_comm, Int.mul_tdiv_add_tmod]
    · rw [Int.natAbs_tmod]
      exact Nat.mod_lt _ (Int.natAbs_pos.2 hb)

/-- Arithmetic fails for one reason, and otherwise gives the one integer that is exact. -/
theorem evalInt_cases (arithmetic : Arithmetic) (a b : Int) :
    (arithmetic = .divide ∧ b = 0 ∧ evalInt arithmetic a b = .error .divisionByZero) ∨
      ¬(arithmetic = .divide ∧ b = 0) ∧
        ∃ exact, evalInt arithmetic a b = .ok exact ∧ ∀ n, arithmetic.Exact a b n ↔ n = exact := by
  cases arithmetic with
  | divide =>
    by_cases hb : b = 0
    · exact .inl ⟨rfl, hb, if_pos hb⟩
    · exact .inr ⟨fun h => hb h.2, truncatingDiv a b, if_neg hb, fun n => exact_divide_iff hb⟩
  | add => exact .inr ⟨by simp, a + b, rfl, fun n => Iff.rfl⟩
  | subtract => exact .inr ⟨by simp, a - b, rfl, fun n => Iff.rfl⟩
  | multiply => exact .inr ⟨by simp, a * b, rfl, fun n => Iff.rfl⟩

theorem apply_integer (arithmetic : Arithmetic) (a b : Int) :
    (integer arithmetic (.int b)).apply (.int a) =
      (evalInt arithmetic a b).map fun n => .int (saturate n) := rfl

end Operation

/-- **Arithmetic is exact up to clamping.** Arithmetic on integers of any size fails exactly where it divides by
zero, and then says so. Everywhere else one integer alone is exact, and the result is that integer clamped to
the signed 64-bit range: it is in range, and it is the exact one if that is. The least integer divided by minus
one gives the greatest. -/
theorem arithmetic_exact_up_to_clamping (arithmetic : Arithmetic) (a b : Int) :
    ((Operation.integer arithmetic (.int b)).apply (.int a) = .error .divisionByZero ↔
      arithmetic = .divide ∧ b = 0) ∧
    (¬(arithmetic = .divide ∧ b = 0) → ∃ exact result,
      (∀ n, arithmetic.Exact a b n ↔ n = exact) ∧
      (Operation.integer arithmetic (.int b)).apply (.int a) = .ok (.int result) ∧
      result = max (-9223372036854775808) (min 9223372036854775807 exact) ∧
      InRange result ∧ (InRange exact → result = exact)) ∧
    (Operation.integer .divide (.int (-1))).apply (.int (-9223372036854775808)) =
      .ok (.int 9223372036854775807) := by
  rw [Operation.apply_integer]
  rcases Operation.evalInt_cases arithmetic a b with ⟨harithmetic, hb, heval⟩ |
    ⟨hdefined, exact, heval, hexact⟩
  · rw [heval]
    exact ⟨⟨fun _ => ⟨harithmetic, hb⟩, fun _ => rfl⟩, fun h => absurd ⟨harithmetic, hb⟩ h, rfl⟩
  · rw [heval]
    refine ⟨⟨nofun, fun h => absurd h hdefined⟩, fun _ => ?_, rfl⟩
    exact ⟨exact, saturate exact, hexact, rfl, rfl, inRange_saturate exact, saturate_of_inRange⟩

end VisualNovel
