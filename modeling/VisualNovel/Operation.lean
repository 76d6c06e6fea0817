import VisualNovel.Value
import VisualNovel.Text.Quoted

/-!
# Operations on story variables

An operation turns the value of a variable into a new one. Integer arithmetic is exact and its result
is clamped to the signed 64-bit range; division drops the fraction. The operand of an arithmetic
operation is whatever the script's author wrote, so it is a document and is checked when the operation
is applied: first the value's kind, then the operand's, then the divisor.
-/

namespace VisualNovel

/-! ## The integer range -/

/-- The least integer that arithmetic gives. -/
def leastInt : Int := -9223372036854775808

/-- The greatest integer that arithmetic gives. -/
def greatestInt : Int := 9223372036854775807

/-- The nearest integer in range. -/
def saturate (n : Int) : Int :=
  max leastInt (min greatestInt n)

/-! ## Operations -/

/-- The four operations of arithmetic. -/
inductive Arithmetic where
  | add
  | subtract
  | multiply
  | divide
deriving DecidableEq, Repr

/-- A change to the value of a variable. -/
inductive Operation where
  /-- Replaces the value. -/
  | set (value : Value)
  /-- Arithmetic on an integer. -/
  | integer (arithmetic : Arithmetic) (operand : Document)
  /-- Arithmetic on a binary64 number. -/
  | real (arithmetic : Arithmetic) (operand : Document)
  /-- Adds to the end of a text. -/
  | append (text : String)
  /-- Negates a truth value. -/
  | toggle
  /-- Something that is no operation; the text is what the author wrote. -/
  | unknown (text : String)

def Arithmetic.name : Arithmetic → String
  | .add => "Add"
  | .subtract => "Subtract"
  | .multiply => "Multiply"
  | .divide => "Divide"

/-- The word for an operation in messages. -/
def Operation.name : Operation → String
  | .set _ => "SetValue"
  | .integer arithmetic _ => arithmetic.name
  | .real arithmetic _ => arithmetic.name ++ "Float"
  | .append _ => "Append"
  | .toggle => "Toggle"
  | .unknown _ => "str"

/-- Why an operation gives no value. -/
inductive OperationFault where
  | wrongKind (operation : String) (kind : Kind)
  | wrongOperand (operation : String) (expected : Kind) (found : String)
  | divisionByZero
  | operandTooLarge
  | unknown (text : String)
deriving DecidableEq, Repr

def OperationFault.message : OperationFault → String
  | .wrongKind operation kind =>
    "Operation " ++ operation ++ " cannot be applied to value type " ++ kind.name
  | .wrongOperand operation expected found =>
    "Operation " ++ operation ++ " needs " ++
      (if expected = .int then "an integer" else "a number") ++ " operand, got " ++ found
  | .divisionByZero => "Division by zero"
  | .operandTooLarge => "int too large to convert to float"
  | .unknown text => "Unknown variable operation: " ++ Text.quoted text

namespace Operation

/-- The kind of value that an operation works on; any for a replacement. Whatever is not an operation
passes for a toggle here. -/
def kind? : Operation → Option Kind
  | .set _ => none
  | .integer _ _ => some .int
  | .real _ _ => some .float
  | .append _ => some .text
  | .toggle | .unknown _ => some .bool

/-- The value that an operation starts from when the variable has none. -/
def start : Operation → Except OperationFault Value
  | .set value => .ok value
  | .integer _ _ => .ok (.int 0)
  | .real _ _ => .ok (.float 0.0)
  | .append _ => .ok (.text "")
  | .toggle => .ok (.bool false)
  | .unknown text => .error (.unknown text)

/-- The quotient without its fraction: that of the absolute values, negated if the two integers differ in
sign. Zero counts as positive. -/
def truncatingDiv (left right : Int) : Int :=
  let quotient : Int := (left.natAbs / right.natAbs : Nat)
  if 0 ≤ left ↔ 0 ≤ right then quotient else -quotient

/-- Arithmetic on integers, before clamping. -/
def evalInt (arithmetic : Arithmetic) (left right : Int) : Except OperationFault Int :=
  match arithmetic with
  | .add => .ok (left + right)
  | .subtract => .ok (left - right)
  | .multiply => .ok (left * right)
  | .divide => if right = 0 then .error .divisionByZero else .ok (truncatingDiv left right)

/-- Arithmetic on binary64 numbers. -/
def evalFloat (arithmetic : Arithmetic) (left right : Float) : Except OperationFault Float :=
  match arithmetic with
  | .add => .ok (left + right)
  | .subtract => .ok (left - right)
  | .multiply => .ok (left * right)
  | .divide => if right == 0.0 then .error .divisionByZero else .ok (left / right)

/-- The operand of arithmetic on integers. -/
def intOperand (operation : String) : Document → Except OperationFault Int
  | .int n => .ok n
  | operand => .error (.wrongOperand operation .int operand.typeName)

/-- The operand of arithmetic on binary64 numbers; an integer is rounded to the nearest one. -/
def floatOperand (operation : String) : Document → Except OperationFault Float
  | .float x => .ok x
  | .int n =>
    match Binary64.ofInt? n with
    | some x => .ok x
    | none => .error .operandTooLarge
  | operand => .error (.wrongOperand operation .float operand.typeName)

/-- The new value of a variable. -/
def apply (operation : Operation) (current : Value) : Except OperationFault Value :=
  match operation, current with
  | .set value, _ => .ok value
  | .integer arithmetic operand, .int left =>
    match intOperand operation.name operand with
    | .error fault => .error fault
    | .ok right => (evalInt arithmetic left right).map fun n => .int (saturate n)
  | .real arithmetic operand, .float left =>
    match floatOperand operation.name operand with
    | .error fault => .error fault
    | .ok right => (evalFloat arithmetic left right).map .float
  | .append text, .text current => .ok (.text (current ++ text))
  | .toggle, .bool current => .ok (.bool !current)
  | .unknown text, _ => .error (.unknown text)
  | _, _ => .error (.wrongKind operation.name current.kind)

end Operation

end VisualNovel
