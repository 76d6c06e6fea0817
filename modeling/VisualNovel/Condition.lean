import VisualNovel.Comparison
import VisualNovel.Text.Quoted

/-!
# Conditions

A condition is a Boolean expression over story flags and variables. It is evaluated from left to right
and stops as soon as the answer is known, so a part that cannot be evaluated only matters if it is
reached. A comparison with a variable that has no value is false, whatever the comparator.
-/

namespace VisualNovel

/-- A Boolean expression over flags and variables. -/
inductive Condition where
  /-- The flag reads as expected. -/
  | flag (name : String) (expected : Bool)
  /-- The variable has a value, and the comparison with the given one holds. -/
  | compared (name : String) (comparator : Comparator) (value : Value)
  /-- Every one of the conditions holds. -/
  | all (conditions : List Condition)
  /-- At least one of the conditions holds. -/
  | any (conditions : List Condition)
  | not (condition : Condition)
  | constant (value : Bool)
  /-- Something that is no condition; the text is what the author wrote. -/
  | unknown (text : String)

/-- Why a condition has no answer. -/
inductive ConditionFault where
  | comparator (fault : UnknownComparator)
  | unknown (text : String)
deriving DecidableEq, Repr

def ConditionFault.message : ConditionFault → String
  | .comparator fault => fault.message
  | .unknown text => "Unknown condition: " ++ Text.quoted text

/-- What conditions are read against: the reading of every flag, and the value of every variable that
has one. -/
structure Lookup where
  isSet : String → Bool
  value? : String → Option Value

namespace Condition

mutual

/-- Whether a condition holds. -/
def eval (lookup : Lookup) : Condition → Except ConditionFault Bool
  | .flag name expected => .ok (lookup.isSet name == expected)
  | .compared name comparator value =>
    match lookup.value? name with
    | none => .ok false
    | some stored => (comparator.compare stored value).mapError .comparator
  | .all conditions => evalAll lookup conditions
  | .any conditions => evalAny lookup conditions
  | .not condition => (condition.eval lookup).map (!·)
  | .constant value => .ok value
  | .unknown text => .error (.unknown text)

/-- Whether every condition holds, up to the first that does not. -/
def evalAll (lookup : Lookup) : List Condition → Except ConditionFault Bool
  | [] => .ok true
  | condition :: rest =>
    match condition.eval lookup with
    | .ok true => evalAll lookup rest
    | outcome => outcome

/-- Whether some condition holds, up to the first that does. -/
def evalAny (lookup : Lookup) : List Condition → Except ConditionFault Bool
  | [] => .ok false
  | condition :: rest =>
    match condition.eval lookup with
    | .ok false => evalAny lookup rest
    | outcome => outcome

end

end Condition

end VisualNovel
