import VisualNovel.Condition
import VisualNovel.Document.Literal
import VisualNovel.Operation
import VisualNovel.Playback.Event

/-!
# Outcomes

An action on a state either succeeds with a result or fails with a fault, and in both cases leaves a
state and the events it reported. A failed action may have changed the state before it failed.
-/

namespace VisualNovel

/-- How many calls may be open at a time. -/
def maxCallDepth : Nat := 100

/-- Why playing cannot go on as asked. -/
inductive Fault where
  | startSceneMissing (scene : String)
  | sceneMissing (scene : String)
  | noCommand
  | notAChoice
  | choiceOutOfRange (index : Int) (count : Nat)
  | noChoiceAvailable
  | returnSceneMissing (scene : String)
  | callsTooDeep
  | nothingToReturnTo
  /-- A command that moves the play head stands inside a branch. -/
  | flowInsideBranch (command : String)
  | condition (fault : ConditionFault)
  /-- An operation on the named variable failed. -/
  | operation (name : String) (fault : OperationFault)
  | unknownCommand (text : String)
  | savedSceneMissing (scene : String)
  | savedIndexNegative (index : Int)
  | savedStackTooDeep
  | savedFrameNegative (scene : String) (index : Int)
  /-- The message would have to show an integer that has too many digits. -/
  | tooManyDigits
deriving DecidableEq, Repr

/-- The fault whose message shows the integer, or what takes its place if it cannot be shown. -/
def Fault.showing (n : Int) (fault : Fault) : Fault :=
  match intLiteral? n with
  | some _ => fault
  | none => .tooManyDigits

/-- The wording of a failed operation; where the author's operand or divisor is to blame, it names
the variable. -/
def OperationFault.messageFor (name : String) (fault : OperationFault) : String :=
  match fault with
  | .wrongKind .. | .wrongOperand .. | .divisionByZero =>
    "Failed to apply operation to variable '" ++ name ++ "': " ++ fault.message
  | .operandTooLarge | .unknown _ => fault.message

/-- The wording of a fault. The integers in it can be shown, since such a fault is made by `Fault.showing`. -/
def Fault.message : Fault → String
  | .startSceneMissing scene => "Start scene '" ++ scene ++ "' not found in scenario"
  | .sceneMissing scene => "Scene '" ++ scene ++ "' not found"
  | .noCommand => "No command at current position"
  | .notAChoice => "Current command is not a choice"
  | .choiceOutOfRange index count =>
    "Invalid choice index: " ++ intText index ++ " (max: " ++ intText count ++ ")"
  | .noChoiceAvailable =>
    "No available choices after condition filtering. At least one choice must be available."
  | .returnSceneMissing scene => "Return scene '" ++ scene ++ "' not found in Call command"
  | .callsTooDeep =>
    "Call stack depth limit exceeded: maximum depth is " ++ intText maxCallDepth ++
      ". This may indicate infinite recursion in your scenario."
  | .nothingToReturnTo =>
    "Return command executed but scene_stack is empty. " ++
      "Make sure Call command was used to enter this subroutine."
  | .flowInsideBranch command =>
    "Command " ++ command ++ " cannot be executed inside If/Else block. " ++
      "Only SetFlag, SetVariable, ModifyVariable, and nested If commands are allowed."
  | .condition fault => fault.message
  | .operation name fault => fault.messageFor name
  | .unknownCommand text => "Unknown scenario command: " ++ Text.quoted text
  | .savedSceneMissing scene => "Save data references non-existent scene: " ++ scene
  | .savedIndexNegative index => "Save data has a negative command index: " ++ intText index
  | .savedStackTooDeep =>
    "Save data scene stack exceeds maximum depth of " ++ intText maxCallDepth
  | .savedFrameNegative scene index =>
    "Save data scene stack has a negative command index: " ++ scene ++ ":" ++ intText index
  | .tooManyDigits => tooManyDigitsMessage

universe u v w

/-- What an action left behind, and its result. -/
structure Outcome (σ : Type u) (α : Type v) where
  state : σ
  log : List Event
  result : Except Fault α

namespace Outcome

variable {σ : Type u} {α : Type v} {β : Type w}

/-- An action that succeeded and reported nothing. -/
def done (state : σ) (a : α) : Outcome σ α := ⟨state, [], .ok a⟩

/-- An action that failed at once. -/
def fail (state : σ) (fault : Fault) : Outcome σ α := ⟨state, [], .error fault⟩

/-- Goes on after a success, and keeps state and fault of a failure. -/
def andThen (first : Outcome σ α) (next : σ → α → Outcome σ β) : Outcome σ β :=
  match first.result with
  | .ok a =>
    let second := next first.state a
    ⟨second.state, first.log ++ second.log, second.result⟩
  | .error fault => ⟨first.state, first.log, .error fault⟩

/-- Changes the result of a success. -/
def map (f : α → β) (outcome : Outcome σ α) : Outcome σ β :=
  ⟨outcome.state, outcome.log, outcome.result.map f⟩

/-- Puts an event in front of the log. -/
def report (event : Event) (outcome : Outcome σ α) : Outcome σ α :=
  { outcome with log := event :: outcome.log }

end Outcome

end VisualNovel
