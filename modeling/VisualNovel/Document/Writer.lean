import VisualNovel.Document.KeyOrder
import VisualNovel.Document.Literal

/-!
# Document files: writing

A document file is plain ASCII. Characters outside the printable ASCII range are written as escapes
of four hexadecimal digits, characters beyond the basic plane as a pair of them. The file layout
(`Layout.file`) sorts the fields of every table by their keys, puts one item on a line and indents by
two spaces a level, so that documents equal up to the order of their fields have one text. The line
layout (`Layout.line`) keeps the order and stays on one line. Writing fails where a table has to be sorted
and its keys have no order, and where an integer has more than `digitLimit` digits; of several such places
the first one in the text is reported (`Unwritable`).
-/

namespace VisualNovel.Document

/-- Why a document has no text. -/
inductive Unwritable where
  /-- The keys of a table have no order. -/
  | unordered (fault : Unordered)
  /-- An integer has too many digits. -/
  | tooManyDigits
deriving DecidableEq, Repr

def Unwritable.message : Unwritable → String
  | .unordered fault => fault.message
  | .tooManyDigits => tooManyDigitsMessage

/-- Numbers in files. -/
def fileFloat : FloatStyle where
  leastPositional := -4
  firstExponential := 16
  exponentWidth := 2
  notANumber := "NaN"
  infinity := "Infinity"

/-- How a document is laid out. -/
structure Layout where
  /-- The fields of every table are sorted by their keys. -/
  sorted : Bool
  /-- The number of spaces a level when items stand on lines of their own. -/
  indent : Option Nat
deriving DecidableEq, Repr

/-- The layout of files. -/
def Layout.file : Layout := ⟨true, some 2⟩

/-- The layout that keeps the order of fields and needs no second line. -/
def Layout.line : Layout := ⟨false, none⟩

/-! ## Texts -/

/-- A code unit of sixteen bits as an escape. -/
def unitEscape (unit : Nat) : List Char :=
  '\\' :: 'u' :: Text.hex 4 unit

/-- One character of a text in a file. -/
def writeChar (c : Char) : List Char :=
  if c = '"' then ['\\', '"']
  else if c = '\\' then ['\\', '\\']
  else if c = '\n' then ['\\', 'n']
  else if c = '\r' then ['\\', 'r']
  else if c = '\t' then ['\\', 't']
  else if c = '\x08' then ['\\', 'b']
  else if c = '\x0c' then ['\\', 'f']
  else if 0x20 ≤ c.toNat && c.toNat ≤ 0x7e then [c]
  else if c.toNat < 0x10000 then unitEscape c.toNat
  else
    let offset := c.toNat - 0x10000
    unitEscape (0xd800 + offset / 0x400) ++ unitEscape (0xdc00 + offset % 0x400)

/-- One code point of a text in a file. -/
def writePoint (point : CodePoint) : List Char :=
  match point with
  | .char c => writeChar c
  | .half _ => unitEscape point.toNat

/-- A text in a file. -/
def writeText (text : Text) : List Char :=
  '"' :: (text.points.flatMap writePoint ++ ['"'])

/-- An integer in a file. -/
def writeInt (n : Int) : Except Unwritable (List Char) :=
  if digitLimit < (digitsOf n.natAbs).length then .error .tooManyDigits else .ok (intText n).toList

/-- The name under which a key is written. -/
def keyName : Key → Except Unwritable Text
  | .text s => .ok s
  | .null => .ok (.ofString "null")
  | .bool b => .ok (.ofString (if b then "true" else "false"))
  | .int n => (writeInt n).map fun digits => .ofString (String.ofList digits)
  | .float x => .ok (.ofString (floatText fileFloat x))

/-! ## Documents -/

/-- The line break before an item at the given level. -/
def lineBreak (indent level : Nat) : List Char :=
  '\n' :: List.replicate (indent * level) ' '

/-- Written items between brackets, at the given level. -/
def bracketed (layout : Layout) (level : Nat) (left right : Char) (items : List (List Char)) :
    List Char :=
  if items.isEmpty then [left, right]
  else match layout.indent with
    | none => left :: ([',', ' '].intercalate items ++ [right])
    | some indent =>
      let inner := lineBreak indent (level + 1)
      left :: (inner ++ (',' :: inner).intercalate items ++ lineBreak indent level ++ [right])

/-- A field of which the value is written. -/
def writeField (name : Text) (value : List Char) : List Char :=
  writeText name ++ ':' :: ' ' :: value

/-- Sorts fields by their keys, if the layout asks for it. -/
def arrange {α : Type} (layout : Layout) (fields : List (Key × α)) :
    Except Unordered (List (Key × α)) :=
  if layout.sorted then sortByKey fields else .ok fields

/-- Written values, one for each key, as written fields in the order of the layout. -/
def joinFields (layout : Layout) (values : List (Key × Except Unwritable (List Char))) :
    Except Unwritable (List (List Char)) := do
  let ordered ← (arrange layout values).mapError .unordered
  ordered.mapM fun field => do
    let name ← keyName field.1
    let value ← field.2
    return writeField name value

mutual

/-- The text of a document at the given level. -/
def write (layout : Layout) (level : Nat) : Document → Except Unwritable (List Char)
  | .null => .ok ['n', 'u', 'l', 'l']
  | .bool true => .ok ['t', 'r', 'u', 'e']
  | .bool false => .ok ['f', 'a', 'l', 's', 'e']
  | .int n => writeInt n
  | .float x => .ok (floatText fileFloat x).toList
  | .text s => .ok (writeText s)
  | .list items => (writeItems layout (level + 1) items).map (bracketed layout level '[' ']')
  | .table fields =>
    (joinFields layout (writeFields layout (level + 1) fields)).map
      (bracketed layout level '\x7b' '\x7d')

/-- The texts of the items of a list. -/
def writeItems (layout : Layout) (level : Nat) :
    List Document → Except Unwritable (List (List Char))
  | [] => .ok []
  | item :: rest =>
    match item.write layout level with
    | .error fault => .error fault
    | .ok written => (writeItems layout level rest).map (written :: ·)

/-- The texts of the values of a table, beside their keys. -/
def writeFields (layout : Layout) (level : Nat) :
    List (Key × Document) → List (Key × Except Unwritable (List Char))
  | [] => []
  | (key, value) :: rest => (key, value.write layout level) :: writeFields layout level rest

end

/-- The text of a document file. -/
def toText (layout : Layout) (document : Document) : Except Unwritable (List Char) :=
  document.write layout 0

end VisualNovel.Document
