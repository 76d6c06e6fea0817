import VisualNovel.Sorting.Merge
import VisualNovel.Sorting.Run

/-!
# Sorting by an order that may fail

A list is cut into runs from the front, and runs that stand side by side are merged. Which ones are merged
when depends on where the border between them stands: a border that halves the list comes last, one that
halves a half comes before it, and so on. Elements of which neither comes before the other keep their
order. The order may refuse to compare two elements; then the first refusal is the result. It is always
asked whether a later element of the list comes before an earlier one.
-/

namespace VisualNovel.Sorting

variable {α ε : Type}

/-- The level of the border between two runs of a list of `total` elements, the first of which ends where
the second starts, at `border`: how many binary digits the middles of the two runs share, as fractions of
the list. -/
def level (total border left right : Nat) : Nat :=
  let shares digits :=
    (2 * border - left) * Nat.pow 2 digits / total = (2 * border + right) * Nat.pow 2 digits / total
  ((List.range (total.log2 + 1)).takeWhile (shares ·)).length

/-- A run that waits to be merged, and the level of the border to the run in front of it. -/
structure Waiting (α : Type) where
  level : Nat
  run : List α
deriving Repr

/-- The runs that wait to be merged, the last one first, and the patience of the next merge. -/
structure Pile (α : Type) where
  runs : List (Waiting α)
  patience : Nat
deriving Repr

namespace Pile

def empty : Pile α := ⟨[], longStreak⟩

/-- Merges the last two runs as long as the border between them is of a higher level. -/
def settle (before : α → α → Except ε Bool) (level : Nat) (pile : Pile α) : Except ε (Pile α) :=
  match _runs : pile.runs with
  | last :: previous :: rest =>
    if level < last.level then
      match merge before pile.patience previous.run last.run with
      | .error e => .error e
      | .ok (run, patience) => settle before level ⟨⟨previous.level, run⟩ :: rest, patience⟩
    else .ok pile
  | _ => .ok pile
termination_by pile.runs.length
decreasing_by simp [_runs]

/-- Adds a run that starts at `border`. -/
def push (before : α → α → Except ε Bool) (total border : Nat) (run : List α) (pile : Pile α) :
    Except ε (Pile α) :=
  match pile.runs with
  | [] => .ok { pile with runs := [⟨0, run⟩] }
  | last :: _ =>
    let level := level total border last.run.length run.length
    (pile.settle before level).map fun pile => { pile with runs := ⟨level, run⟩ :: pile.runs }

/-- Merges all runs, the last two first unless the run in front of them is shorter than the last one. -/
def join (before : α → α → Except ε Bool) (pile : Pile α) : Except ε (List α) :=
  match _runs : pile.runs with
  | [] => .ok []
  | [only] => .ok only.run
  | [last, first] => (merge before pile.patience first.run last.run).map (·.1)
  | last :: previous :: first :: rest =>
    if first.run.length < last.run.length then
      match merge before pile.patience first.run previous.run with
      | .error e => .error e
      | .ok (run, patience) => join before ⟨last :: ⟨first.level, run⟩ :: rest, patience⟩
    else
      match merge before pile.patience previous.run last.run with
      | .error e => .error e
      | .ok (run, patience) => join before ⟨⟨previous.level, run⟩ :: first :: rest, patience⟩
termination_by pile.runs.length
decreasing_by all_goals simp [_runs]

end Pile

/-- Adds the runs of what is left of a list to the pile, and merges all. -/
def sortRest (before : α → α → Except ε Bool) (total least : Nat) (pile : Pile α) (rest : List α) :
    Except ε (List α) :=
  if _nonempty : rest = [] then pile.join before
  else
    match _run : nextRun before least rest with
    | .error e => .error e
    | .ok (run, more) =>
      match pile.push before total (total - rest.length) run with
      | .error e => .error e
      | .ok pile => sortRest before total least pile more
termination_by rest.length
decreasing_by exact length_of_nextRun _run _nonempty

/-- Sorts a list. -/
def sort (before : α → α → Except ε Bool) (list : List α) : Except ε (List α) :=
  sortRest before list.length (leastLength list.length) .empty list

end VisualNovel.Sorting
