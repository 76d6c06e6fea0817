/-!
# Binary64 numbers as exact fractions

A finite binary64 number is an integer times a power of two. `ratio?` gives that value as a fraction
and `nearest` goes back: it rounds a fraction to the nearest binary64 number, a half going to the
neighbour with the even last bit. Both work on integers only, so neither loses a digit on the way.
-/

namespace VisualNovel.Binary64

/-- The exponent of the last place of the smallest numbers. -/
def leastExponent : Int := -1074

/-- A power of two. -/
def two (exponent : Nat) : Nat := Nat.pow 2 exponent

/-- The first value of the 53-bit field that carries the leading bit. -/
def leadingBit : Nat := two 52

/-- The bits of infinity; the bits of every finite number are below. -/
def infinityBits : Nat := 0x7ff * leadingBit

/-! ## Rounding a fraction -/

/-- The integer nearest to `num / den`, a half going to the even neighbour. -/
def roundQuotient (num den : Nat) : Nat :=
  let quotient := num / den
  let rest := num % den
  if 2 * rest < den then quotient
  else if den < 2 * rest then quotient + 1
  else quotient + quotient % 2

/-- The numerator and denominator of `num / den` divided by `2 ^ exponent`. -/
def scale (num den : Nat) (exponent : Int) : Nat × Nat :=
  if exponent < 0 then (num * two exponent.natAbs, den) else (num, den * two exponent.natAbs)

/-- The largest `e` with `2 ^ e ≤ num / den`, for positive `num` and `den`. -/
def log2Quotient (num den : Nat) : Int :=
  let guess : Int := (Nat.log2 num : Int) - Nat.log2 den
  let (n, d) := scale num den guess
  if n < d then guess - 1 else guess

/-- The bits of the binary64 number nearest to `num / den`. -/
def nearestBits (num den : Nat) : Nat :=
  if num = 0 then 0
  else
    let exponent := max (log2Quotient num den - 52) leastExponent
    let (n, d) := scale num den exponent
    let field := roundQuotient n d
    if field < leadingBit then field
    else min ((exponent - leastExponent).toNat * leadingBit + field) infinityBits

/-- The binary64 number nearest to `num / den`, with the sign given; too large a fraction gives
infinity. -/
def nearest (negative : Bool) (num den : Nat) : Float :=
  let size := Float.ofBits (nearestBits num den).toUInt64
  if negative then -size else size

/-- The binary64 number nearest to an integer. -/
def ofInt (n : Int) : Float :=
  nearest (n < 0) n.natAbs 1

/-- The binary64 number nearest to an integer, unless that lies out of range. -/
def ofInt? (n : Int) : Option Float :=
  let x := ofInt n
  if x.isInf then none else some x

/-! ## Reading a number as a fraction -/

/-- The sign bit. -/
def isNegative (x : Float) : Bool :=
  two 63 ≤ x.toBits.toNat

/-- The size of a finite number as numerator and denominator. -/
def ratio? (x : Float) : Option (Nat × Nat) :=
  let bits := x.toBits.toNat % two 63
  if infinityBits ≤ bits then none
  else
    let biased := bits / leadingBit
    let low := bits % leadingBit
    if biased = 0 then some (low, two leastExponent.natAbs)
    else
      let exponent : Int := (biased : Int) - 1 + leastExponent
      let field := low + leadingBit
      if exponent < 0 then some (field, two exponent.natAbs)
      else some (field * two exponent.natAbs, 1)

/-- How a number compares with the integer `n`, both taken exactly; what is no number does not
compare. -/
def compareInt? (x : Float) (n : Int) : Option Ordering :=
  if x.isNaN then none
  else match ratio? x with
    | none => some (if isNegative x then .lt else .gt)
    | some (num, den) => some (compare (if isNegative x then -(num : Int) else num) (n * den))

end VisualNovel.Binary64
