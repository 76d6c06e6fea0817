import VisualNovel.Document.Basic
import VisualNovel.Number.Decimal
import VisualNovel.Text.Quoted

/-!
# Documents inside messages

The text by which a message shows a document: words for nothing and for the truth values, numbers,
quoted texts, lists in brackets and tables in braces with their fields in order. A message cannot show
an integer with more than `digitLimit` digits, nor a document with such an integer anywhere in it. What
should have failed with that message then fails with another (`tooManyDigitsMessage`).
-/

namespace VisualNovel

/-- Numbers in messages. -/
def messageFloat : FloatStyle where
  leastPositional := -4
  firstExponential := 16
  exponentWidth := 2
  notANumber := "nan"
  infinity := "inf"

/-- The text of a truth value in messages. -/
def boolLiteral (b : Bool) : String :=
  if b then "True" else "False"

/-- The text of an integer in messages; there is none if it has too many digits. -/
def intLiteral? (n : Int) : Option String :=
  if Document.digitLimit < (digitsOf n.natAbs).length then none else some (intText n)

/-- The wording where an integer with too many digits would have to be written or shown. -/
def tooManyDigitsMessage : String :=
  "Exceeds the limit (" ++ intText Document.digitLimit ++ " digits) for integer string conversion; " ++
    "use sys.set_int_max_str_digits() to increase the limit"

namespace Document

/-- The text of a key in messages. -/
def keyLiteral? : Key → Option String
  | .null => some "None"
  | .bool b => some (boolLiteral b)
  | .int n => intLiteral? n
  | .float x => some (floatText messageFloat x)
  | .text s => some s.literal

mutual

/-- The text of a document in messages; there is none if an integer in it has too many digits. -/
def literal? : Document → Option String
  | .null => keyLiteral? .null
  | .bool b => keyLiteral? (.bool b)
  | .int n => keyLiteral? (.int n)
  | .float x => keyLiteral? (.float x)
  | .text s => keyLiteral? (.text s)
  | .list items => (literals? items).map fun texts => "[" ++ ", ".intercalate texts ++ "]"
  | .table fields =>
    (fieldLiterals? fields).map fun texts => "\x7b" ++ ", ".intercalate texts ++ "\x7d"

/-- The texts of the items of a list. -/
def literals? : List Document → Option (List String)
  | [] => some []
  | item :: rest =>
    match item.literal?, literals? rest with
    | some shown, some more => some (shown :: more)
    | _, _ => none

/-- The texts of the fields of a table. -/
def fieldLiterals? : List (Key × Document) → Option (List String)
  | [] => some []
  | (key, value) :: rest =>
    match keyLiteral? key, value.literal?, fieldLiterals? rest with
    | some name, some shown, some more => some ((name ++ ": " ++ shown) :: more)
    | _, _, _ => none

end

end Document

end VisualNovel
