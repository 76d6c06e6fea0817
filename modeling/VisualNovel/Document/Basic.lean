import VisualNovel.Number.Binary64
import VisualNovel.Text.CodePoint

/-!
# Documents

A document is a loose tree of data, as it is read from a file or handed over by a host: nothing,
truth values, integers of any size, binary64 numbers, texts, lists, and tables of fields. A
table keeps its fields in the order of first insertion, and `Fields.ofList` brings fields with
repeated keys into that form. Keys are texts in a file, and may be any scalar in a document that a
host builds.
-/

namespace VisualNovel

/-- The key of a field. -/
inductive Key where
  | text (value : Text)
  | null
  | bool (value : Bool)
  | int (value : Int)
  | float (value : Float)
deriving DecidableEq

/-- A loose tree of data. -/
inductive Document where
  | null
  | bool (value : Bool)
  | int (value : Int)
  | float (value : Float)
  | text (value : Text)
  | list (items : List Document)
  | table (fields : List (Key × Document))

/-- A key as a document. -/
def Key.toDocument : Key → Document
  | .text s => .text s
  | .null => .null
  | .bool b => .bool b
  | .int n => .int n
  | .float x => .float x

/-- The key that a scalar document gives. -/
def Document.key? : Document → Option Key
  | .text s => some (.text s)
  | .null => some .null
  | .bool b => some (.bool b)
  | .int n => some (.int n)
  | .float x => some (.float x)
  | .list _ | .table _ => none

/-- The number that a key stands for when keys are told apart. -/
inductive Key.Number where
  | int (value : Int)
  | float (value : Float)

/-- Truth values count as the integers zero and one. -/
def Key.number? : Key → Option Key.Number
  | .bool b => some (.int (if b then 1 else 0))
  | .int n => some (.int n)
  | .float x => some (.float x)
  | _ => none

/-- How two numbers compare; what is no number does not compare. -/
def Key.Number.compare? : Key.Number → Key.Number → Option Ordering
  | .int m, .int n => some (compare m n)
  | .int m, .float y => (Binary64.compareInt? y m).map Ordering.swap
  | .float x, .int n => Binary64.compareInt? x n
  | .float x, .float y =>
    if x < y then some .lt else if y < x then some .gt else if x == y then some .eq else none

/-- What is no number. -/
def Key.Number.isNaN : Key.Number → Bool
  | .int _ => false
  | .float x => x.isNaN

/-- Whether two keys name the same field: numbers do when their values are equal, and so do any two
that are no numbers. -/
def Key.same (a b : Key) : Bool :=
  match a, b with
  | .text s, .text t => s = t
  | .null, .null => true
  | _, _ =>
    match a.number?, b.number? with
    | some x, some y => x.compare? y = some .eq || (x.isNaN && y.isNaN)
    | _, _ => false

/-- The fields of a table. -/
abbrev Fields := List (Key × Document)

namespace Fields

/-- Stores a field: in place under the key already there, or at the end. -/
def store (key : Key) (value : Document) : Fields → Fields
  | [] => [(key, value)]
  | (other, old) :: rest =>
    if other.same key then (other, value) :: rest else (other, old) :: store key value rest

/-- Stores the fields of a list one after another: a repeated key keeps its first place and takes
its last value. -/
def ofList (fields : List (Key × Document)) : Fields :=
  fields.foldl (fun table field => store field.1 field.2 table) []

/-- The value of the field with the given name. -/
def get? (name : String) : Fields → Option Document
  | [] => none
  | (key, value) :: rest => if key = .text (.ofString name) then some value else get? name rest

/-- The value of the field with the given name, and `null` for a field that is missing. -/
def getD (fields : Fields) (name : String) : Document :=
  (fields.get? name).getD .null

/-- Fields with names for keys. -/
def ofNames (fields : List (String × Document)) : Fields :=
  fields.map fun field => (.text (.ofString field.1), field.2)

/-- The fields under their names, if all keys are texts. -/
def names? : Fields → Option (List (String × Document))
  | [] => some []
  | (.text name, value) :: rest => (names? rest).map ((name.toString, value) :: ·)
  | _ :: _ => none

end Fields

namespace Document

instance : Inhabited Document := ⟨.null⟩

/-- The greatest number of digits that an integer has in a file or in a message. -/
def digitLimit : Nat := 4300

/-- A string as a document. -/
def string (s : String) : Document :=
  .text (.ofString s)

/-- A table with names for keys. -/
def record (fields : List (String × Document)) : Document :=
  .table (Fields.ofNames fields)

/-- The word for the kind of a document in messages. -/
def typeName : Document → String
  | .null => "NoneType"
  | .bool _ => "bool"
  | .int _ => "int"
  | .float _ => "float"
  | .text _ => "str"
  | .list _ => "list"
  | .table _ => "dict"

/-- Whether a document equals one: as an integer, as a number or as a truth value. -/
def isOne : Document → Bool
  | .bool b => b
  | .int n => n = 1
  | .float x => x == 1.0
  | _ => false

/-- The integer that a document is; a truth value is none. -/
def int? : Document → Option Int
  | .int n => some n
  | _ => none

end Document

end VisualNovel
