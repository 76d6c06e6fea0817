import VisualNovel.Document.Basic

/-!
# Values of story variables

A story variable holds a truth value, an integer, a binary64 number or a text.
-/

namespace VisualNovel

/-- The kind of a value. -/
inductive Kind where
  | bool
  | int
  | float
  | text
deriving DecidableEq, Repr

/-- The word for a kind in messages and reports. -/
def Kind.name : Kind → String
  | .bool => "bool"
  | .int => "int"
  | .float => "float"
  | .text => "string"

/-- The value of a story variable. -/
inductive Value where
  | bool (value : Bool)
  | int (value : Int)
  | float (value : Float)
  | text (value : String)
deriving DecidableEq

instance : Inhabited Value := ⟨.bool false⟩

def Value.kind : Value → Kind
  | .bool _ => .bool
  | .int _ => .int
  | .float _ => .float
  | .text _ => .text

/-- A document that is no value, by the word for its kind. -/
structure UnsupportedValue where
  typeName : String
deriving DecidableEq, Repr

def UnsupportedValue.message (fault : UnsupportedValue) : String :=
  "Unsupported variable value type: " ++ fault.typeName

/-- The value that a scalar document stands for. -/
def Value.ofDocument : Document → Except UnsupportedValue Value
  | .bool b => .ok (.bool b)
  | .int n => .ok (.int n)
  | .float x => .ok (.float x)
  | .text s => .ok (.text s.toString)
  | document => .error ⟨document.typeName⟩

end VisualNovel
