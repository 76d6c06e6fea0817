import VisualNovel.Value

/-!
# Comparing values

Values of different kinds are never equal and have no order. Truth values can only be equal or not,
texts are ordered by code point, and binary64 numbers are compared up to a tolerance.
-/

namespace VisualNovel

/-- How two values are compared. -/
inductive Comparator where
  | equal
  | notEqual
  | greaterThan
  | greaterOrEqual
  | lessThan
  | lessOrEqual
  /-- A name that is none of the six. -/
  | other (name : String)
deriving DecidableEq, Repr

namespace Comparator

/-- The comparator with the given name. -/
def ofName (name : String) : Comparator :=
  if name = "equal" then .equal
  else if name = "not_equal" then .notEqual
  else if name = "greater_than" then .greaterThan
  else if name = "greater_or_equal" then .greaterOrEqual
  else if name = "less_than" then .lessThan
  else if name = "less_or_equal" then .lessOrEqual
  else .other name

def name : Comparator → String
  | .equal => "equal"
  | .notEqual => "not_equal"
  | .greaterThan => "greater_than"
  | .greaterOrEqual => "greater_or_equal"
  | .lessThan => "less_than"
  | .lessOrEqual => "less_or_equal"
  | .other name => name

end Comparator

/-- A comparison by a name that is no comparator. -/
structure UnknownComparator where
  name : String
deriving DecidableEq, Repr

def UnknownComparator.message (fault : UnknownComparator) : String :=
  "Unknown comparison operator: " ++ fault.name

/-- Numbers that differ by less than this are equal. -/
def tolerance : Float := 1e-10

namespace Comparator

/-- Compares truth values; they have no order. -/
def compareBool (comparator : Comparator) (a b : Bool) : Bool :=
  match comparator with
  | .equal => a = b
  | .notEqual => a ≠ b
  | _ => false

def compareInt (comparator : Comparator) (a b : Int) : Except UnknownComparator Bool :=
  match comparator with
  | .equal => .ok (a = b)
  | .notEqual => .ok (a ≠ b)
  | .greaterThan => .ok (b < a)
  | .greaterOrEqual => .ok (b ≤ a)
  | .lessThan => .ok (a < b)
  | .lessOrEqual => .ok (a ≤ b)
  | .other name => .error ⟨name⟩

def compareText (comparator : Comparator) (a b : String) : Except UnknownComparator Bool :=
  match comparator with
  | .equal => .ok (a = b)
  | .notEqual => .ok (a ≠ b)
  | .greaterThan => .ok (b < a)
  | .greaterOrEqual => .ok (b ≤ a)
  | .lessThan => .ok (a < b)
  | .lessOrEqual => .ok (a ≤ b)
  | .other name => .error ⟨name⟩

def compareFloat (comparator : Comparator) (a b : Float) : Except UnknownComparator Bool :=
  match comparator with
  | .equal => .ok ((a - b).abs < tolerance)
  | .notEqual => .ok (tolerance ≤ (a - b).abs)
  | .greaterThan => .ok (b + tolerance < a)
  | .greaterOrEqual => .ok (b - tolerance ≤ a)
  | .lessThan => .ok (a < b - tolerance)
  | .lessOrEqual => .ok (a ≤ b + tolerance)
  | .other name => .error ⟨name⟩

/-- Compares two values. -/
def compare (comparator : Comparator) (left right : Value) : Except UnknownComparator Bool :=
  match left, right with
  | .bool a, .bool b => .ok (comparator.compareBool a b)
  | .int a, .int b => comparator.compareInt a b
  | .float a, .float b => comparator.compareFloat a b
  | .text a, .text b => comparator.compareText a b
  | _, _ => .ok (comparator = .notEqual)

end Comparator

end VisualNovel
