import VisualNovel.Number.Binary64

/-!
# Shortest decimals

`Decimal.shortest` writes a binary64 number with the fewest significant digits that read back as the
same number, and with the digits nearest to its value among those. `Decimal.toFloat` reads a decimal,
and `floatText` is the text of a number: positional when its first digit stands between the
fourth decimal place and the sixteenth digit before the point, and with an exponent of two or more
digits otherwise.
-/

namespace VisualNovel

/-- The number `digits * 10 ^ exponent`. -/
structure Decimal where
  digits : Nat
  exponent : Int
deriving DecidableEq, Repr

/-- The decimal digits of a natural number. -/
def digitsOf (n : Nat) : List Char :=
  Nat.toDigits 10 n

/-- The text of an integer. -/
def intText (n : Int) : String :=
  match n with
  | .ofNat k => String.ofList (digitsOf k)
  | .negSucc k => String.ofList ('-' :: digitsOf (k + 1))

namespace Decimal

/-- A power of ten. -/
def ten (exponent : Nat) : Nat := Nat.pow 10 exponent

/-- Decimals with more digits before the point than this are out of range. -/
def greatestMagnitude : Int := 400

/-- Decimals that start further behind the point than this round to zero. -/
def leastMagnitude : Int := -400

/-- The binary64 number nearest to a decimal. -/
def toFloat (negative : Bool) (d : Decimal) : Float :=
  let magnitude : Int := (digitsOf d.digits).length + d.exponent
  if d.digits = 0 ∨ magnitude < leastMagnitude then Binary64.nearest negative 0 1
  else if greatestMagnitude < magnitude then Binary64.nearest negative (Binary64.two 1024) 1
  else if d.exponent < 0 then Binary64.nearest negative d.digits (ten d.exponent.natAbs)
  else Binary64.nearest negative (d.digits * ten d.exponent.natAbs) 1

/-- The largest `e` with `10 ^ e ≤ num / den`, for positive `num` and `den`. -/
def log10Quotient (num den : Nat) : Int :=
  if den ≤ num then ((digitsOf (num / den)).length : Int) - 1
  else
    let places := (digitsOf (den / num)).length
    if den ≤ num * ten (places - 1) then 1 - (places : Int) else -(places : Int)

/-- The two neighbours of `num / den` among the multiples of `10 ^ exponent`, the nearer one first;
of two equally near ones the even one is first. -/
def neighbours (num den : Nat) (exponent : Int) : List Decimal :=
  let (n, d) :=
    if exponent < 0 then (num * ten exponent.natAbs, den) else (num, den * ten exponent.natAbs)
  let near := Binary64.roundQuotient n d
  let far := if near = n / d then near + 1 else n / d
  [⟨near, exponent⟩, ⟨far, exponent⟩]

/-- Drops the zeros at the end of the digits. -/
def trim (d : Decimal) : Decimal :=
  let zeros := ((digitsOf d.digits).reverse.takeWhile (· = '0')).length
  ⟨d.digits / ten zeros, d.exponent + zeros⟩

/-- The shortest decimal that reads back as the positive number `x`, whose value is `num / den`. -/
def shortest (x : Float) (num den : Nat) : Decimal :=
  let top := log10Quotient num den
  let candidates := (List.range 17).flatMap fun (places : Nat) => neighbours num den (top - places)
  match candidates.find? fun d => (toFloat false d).toBits = x.toBits with
  | some d => trim d
  | none => ⟨num / den, 0⟩

end Decimal

/-- How the text of a number is laid out. -/
structure FloatStyle where
  /-- The first digit stands at this power of ten or above in positional text. -/
  leastPositional : Int
  /-- The first digit stands below this power of ten in positional text. -/
  firstExponential : Int
  /-- The least number of digits in an exponent. -/
  exponentWidth : Nat
  notANumber : String
  infinity : String

/-- The text of a positive decimal without trailing zeros. -/
def Decimal.text (style : FloatStyle) (d : Decimal) : String :=
  let digits := digitsOf d.digits
  let top : Int := digits.length - 1 + d.exponent
  if style.leastPositional ≤ top ∧ top < style.firstExponential then
    if top < 0 then
      String.ofList ('0' :: '.' :: (List.replicate (top.natAbs - 1) '0' ++ digits))
    else
      let whole := top.toNat + 1
      let front := digits.take whole ++ List.replicate (whole - digits.length) '0'
      let back := digits.drop whole
      String.ofList (front ++ '.' :: (if back = [] then ['0'] else back))
  else
    let mantissa := match digits with
      | first :: second :: rest => first :: '.' :: second :: rest
      | short => short
    let power := digitsOf top.natAbs
    let sign := if top < 0 then '-' else '+'
    String.ofList
      (mantissa ++ 'e' :: sign :: (List.replicate (style.exponentWidth - power.length) '0' ++ power))

/-- The text of a binary64 number. -/
def floatText (style : FloatStyle) (x : Float) : String :=
  if x.isNaN then style.notANumber
  else
    let sign := if Binary64.isNegative x then "-" else ""
    match Binary64.ratio? x with
    | none => sign ++ style.infinity
    | some (num, den) =>
      if num = 0 then sign ++ "0.0"
      else sign ++ (Decimal.shortest x.abs num den).text style

end VisualNovel
