import VisualNovel.Sorting.Search

/-!
# Runs

A list falls into runs: either each element of a run comes before the one in front of it, and the run is
turned around, or none does. A run that is too short is made longer by inserting the elements behind it.
Elements of which neither comes before the other keep their order.
-/

namespace VisualNovel.Sorting

variable {α ε : Type}

/-- The elements that continue a run behind `last`, falling or not, and the rest. -/
def takeRun (before : α → α → Except ε Bool) (falling : Bool) (last : α) :
    List α → Except ε (List α × List α)
  | [] => .ok ([], [])
  | next :: rest => do
    if (← before next last) = falling then
      let (run, rest) ← takeRun before falling next rest
      return (next :: run, rest)
    else return ([], next :: rest)

/-- Adds an element to a sorted list, behind all that it does not come before. -/
def insert (before : α → α → Except ε Bool) (sorted : List α) (a : α) : Except ε (List α) := do
  let place ← narrow .front (fun b => (before a b).map (!·)) sorted 0 sorted.length
  return sorted.insertIdx place a

/-- The length that a run of a list of `length` elements has at least, unless the list ends: the length
itself below 64, else its part by the power of two that leaves from 32 to 64, rounded up. -/
def leastLength (length : Nat) : Nat :=
  let parts := Nat.pow 2 (length.log2 - 5)
  (length + (parts - 1)) / parts

/-- The run at the front of a list, sorted, and the rest of the list. -/
def nextRun (before : α → α → Except ε Bool) (least : Nat) : List α → Except ε (List α × List α)
  | first :: second :: rest => do
    let falling ← before second first
    let (run, rest) ← takeRun before falling second rest
    let front := first :: second :: run
    let missing := least - front.length
    let sorted ← (rest.take missing).foldlM (insert before) (if falling then front.reverse else front)
    return (sorted, rest.drop missing)
  | short => .ok (short, [])

theorem length_of_takeRun {before : α → α → Except ε Bool} {falling : Bool} {last : α}
    {list run rest : List α} (h : takeRun before falling last list = .ok (run, rest)) :
    run.length + rest.length = list.length := by
  induction list generalizing last run with
  | nil => cases h; rfl
  | cons next list ih =>
    unfold takeRun at h
    cases answer : before next last with
    | error e => rw [answer] at h; cases h
    | ok answer' =>
      rw [answer] at h
      simp only [bind, Except.bind] at h
      split at h
      · cases inner : takeRun before falling next list with
        | error e => rw [inner] at h; cases h
        | ok parts =>
          rw [inner] at h
          cases h
          have := ih inner
          simp only [List.length_cons]
          omega
      · cases h
        simp

/-- A run takes something away. -/
theorem length_of_nextRun {before : α → α → Except ε Bool} {least : Nat} {list run rest : List α}
    (h : nextRun before least list = .ok (run, rest)) (nonempty : list ≠ []) :
    rest.length < list.length := by
  unfold nextRun at h
  split at h
  · rename_i first second list
    cases answer : before second first with
    | error e => rw [answer] at h; cases h
    | ok falling =>
      rw [answer] at h
      simp only [bind, Except.bind] at h
      cases inner : takeRun before falling second list with
      | error e => rw [inner] at h; cases h
      | ok parts =>
        obtain ⟨run', rest'⟩ := parts
        rw [inner] at h
        simp only at h
        split at h
        · cases h
        · cases h
          have := length_of_takeRun inner
          simp only [List.length_drop, List.length_cons]
          omega
  · cases h
    exact List.length_pos_iff.mpr nonempty

end VisualNovel.Sorting
