/-!
# Searching a sorted run from one of its ends

The elements at the near end of a run pass a test and the others do not. How many pass is found by doubling
the distance from the end until an element fails, and then by halving what lies between. The test may
refuse an element; then the first refusal is the result.
-/

namespace VisualNovel.Sorting

variable {α ε : Type}

/-- The end of a run that is near. A run is searched as a list that starts at its near end. -/
inductive End
  | front
  | back
deriving DecidableEq, Repr

/-- The distance of the element that halves `width` candidates. Of two elements in the middle it is the one
that is farther from the front of the run. -/
def End.middle : End → Nat → Nat
  | .front, width => width / 2
  | .back, width => (width - 1) / 2

theorem End.middle_lt (near : End) {width : Nat} (h : 0 < width) : near.middle width < width := by
  cases near <;> simp only [End.middle] <;> omega

/-- Halves the distances from `low` to `high` at which passing may end. -/
def narrow (near : End) (passes : α → Except ε Bool) (run : List α) (low high : Nat) : Except ε Nat :=
  if low < high then
    match run[low + near.middle (high - low)]? with
    | none => .ok low
    | some a =>
      match passes a with
      | .error e => .error e
      | .ok true => narrow near passes run (low + near.middle (high - low) + 1) high
      | .ok false => narrow near passes run low (low + near.middle (high - low))
  else .ok low
termination_by high - low
decreasing_by
  · have := near.middle_lt (Nat.sub_pos_of_lt ‹low < high›)
    omega
  · have := near.middle_lt (Nat.sub_pos_of_lt ‹low < high›)
    omega

/-- Doubles the distance `next` while the element there passes. The result is the distance of the last
element that passed and of the one that did not, or of the far end. -/
def stretch (passes : α → Except ε Bool) (run : List α) (last next : Nat) : Except ε (Nat × Nat) :=
  if h : next < run.length then
    match passes run[next] with
    | .error e => .error e
    | .ok true => stretch passes run next (2 * next + 1)
    | .ok false => .ok (last, next)
  else .ok (last, run.length)
termination_by run.length - next

/-- How many elements at the near end of a run pass. -/
def reach (near : End) (passes : α → Except ε Bool) (run : List α) : Except ε Nat :=
  match run with
  | [] => .ok 0
  | first :: rest => do
    if ← passes first then
      let (last, next) ← stretch passes (first :: rest) 0 1
      narrow near passes (first :: rest) (last + 1) next
    else return 0

end VisualNovel.Sorting
