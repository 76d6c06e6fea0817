import VisualNovel.Condition
import VisualNovel.Operation
import VisualNovel.OrderedMap

/-!
# What the story remembers

Flags and variables, each kept in the order in which they were first written. A flag that was never
written reads as false, and a variable that was never written has no value.
-/

namespace VisualNovel

/-- Story flags by name. -/
abbrev Flags := OrderedMap Bool

/-- Whether a flag is present and true. -/
def Flags.isSet (flags : Flags) (name : String) : Bool :=
  (flags.get? name).getD false

/-- Negates a flag. -/
def Flags.toggle (flags : Flags) (name : String) : Flags :=
  flags.insert name !(flags.isSet name)

/-- Sets every flag of a list. -/
def Flags.setAll (flags : Flags) (names : List String) : Flags :=
  names.foldl (fun flags name => flags.insert name true) flags

/-- Story variables by name. -/
abbrev Variables := OrderedMap Value

/-- The integer of a value that is one. -/
def Value.int? : Value → Option Int
  | .int n => some n
  | _ => none

/-- The integer variables; a save keeps only these. -/
def Variables.integers (vars : Variables) : OrderedMap Int :=
  vars.filterMap Value.int?

/-- Variables with the given integers for values. -/
def Variables.ofIntegers (integers : OrderedMap Int) : Variables :=
  integers.map .int

/-- The flags and variables of a story. -/
structure Memory where
  flags : Flags := .empty
  vars : Variables := .empty
deriving DecidableEq

namespace Memory

/-- What conditions read. -/
def lookup (memory : Memory) : Lookup where
  isSet := memory.flags.isSet
  value? := memory.vars.get?

def setFlag (memory : Memory) (name : String) (value : Bool) : Memory :=
  { memory with flags := memory.flags.insert name value }

def setVariable (memory : Memory) (name : String) (value : Value) : Memory :=
  { memory with vars := memory.vars.insert name value }

/-- Whether a condition holds now. -/
def eval (memory : Memory) (condition : Condition) : Except ConditionFault Bool :=
  condition.eval memory.lookup

/-- Applies an operation to a variable, or to the operation's start value if it has none. -/
def modify (memory : Memory) (name : String) (operation : Operation) :
    Except OperationFault Memory := do
  let current ← match memory.vars.get? name with
    | some value => .ok value
    | none => operation.start
  let updated ← operation.apply current
  return memory.setVariable name updated

end Memory

end VisualNovel
