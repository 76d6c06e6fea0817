import VisualNovel.Sorting.Search

/-!
# Merging two sorted runs

Two runs that stand side by side are merged from the end at which the shorter one stands: from the front if
the left run is the shorter, else from the back, where everything is mirrored. The shorter run is held, and
the merge is over when one element of it is left, which then belongs behind the other run.

A merge takes steps, one element at a time, until one run has given as many elements in a row as the
patience allows. From then on it leaps: it searches how far each run goes before the other comes in.
Leaping goes on while it pays, and makes the next merges less patient; when it does not pay any more they
become more patient. The order may refuse to compare two elements; then the first refusal is the result.
It is always asked whether an element of the right run comes before one of the left run.
-/

namespace VisualNovel.Sorting

variable {α ε : Type}

/-- The elements in a row that make leaping worth while. -/
def longStreak : Nat := 7

/-- How a merge goes on: by steps, with the number of elements that came last in a row from the held and
from the other run, or by leaps. -/
inductive Pace
  | steps (held other : Nat)
  | leaps
deriving DecidableEq, Repr

/-- Where a merge stands: what has been merged, the last element first, and what is left of the two runs,
each from its near end. -/
structure Merge (α : Type) where
  merged : List α
  held : List α
  other : List α
  patience : Nat
  pace : Pace
deriving Repr

namespace Merge

/-- How many elements are left. -/
def size (m : Merge α) : Nat :=
  m.held.length + m.other.length

/-- At most one element of the held run is left, or none of the other. -/
def isOver (m : Merge α) : Bool :=
  match m.held, m.other with
  | _ :: _ :: _, _ :: _ => false
  | _, _ => true

/-- All elements, when the merge is over. -/
def result (m : Merge α) : List α :=
  m.merged.reverse ++ (m.other ++ m.held)

def takeHeld (count : Nat) (m : Merge α) : Merge α :=
  { m with merged := (m.held.take count).reverse ++ m.merged, held := m.held.drop count }

def takeOther (count : Nat) (m : Merge α) : Merge α :=
  { m with merged := (m.other.take count).reverse ++ m.merged, other := m.other.drop count }

@[simp] theorem takeHeld_zero (m : Merge α) : m.takeHeld 0 = m := rfl

@[simp] theorem takeOther_zero (m : Merge α) : m.takeOther 0 = m := rfl

theorem size_takeHeld (count : Nat) (m : Merge α) :
    (m.takeHeld count).size = m.held.length - count + m.other.length := by
  simp [takeHeld, size]

theorem size_takeOther (count : Nat) (m : Merge α) :
    (m.takeOther count).size = m.held.length + (m.other.length - count) := by
  simp [takeOther, size]

theorem length_of_not_isOver {m : Merge α} (h : m.isOver = false) :
    2 ≤ m.held.length ∧ 1 ≤ m.other.length := by
  unfold isOver at h
  split at h
  · simp_all
  · simp at h

/-- The pace after one more element in a row. -/
def paceAfter (patience streak : Nat) (steps : Pace) : Pace :=
  if patience ≤ streak then .leaps else steps

/-- Takes the first element of one of the runs. -/
def step (ahead : α → α → Except ε Bool) (inHeld inOther : Nat) (m : Merge α) :
    Except ε (Merge α) :=
  match m.held, m.other with
  | a :: _, b :: _ =>
    (ahead b a).map fun
      | true =>
        { m.takeOther 1 with pace := paceAfter m.patience (inOther + 1) (.steps 0 (inOther + 1)) }
      | false =>
        { m.takeHeld 1 with pace := paceAfter m.patience (inHeld + 1) (.steps (inHeld + 1) 0) }
  | _, _ => .ok m

/-- Takes all of the held run that the first element of the other run is not ahead of, then that element.
The number tells how many were taken of the held run. -/
def leapHeld (near : End) (ahead : α → α → Except ε Bool) (m : Merge α) : Except ε (Nat × Merge α) :=
  match m.other with
  | [] => .ok (0, m)
  | b :: _ =>
    (reach near (fun a => (ahead b a).map (!·)) m.held).map fun count =>
      (count, if (m.takeHeld count).isOver then m.takeHeld count else (m.takeHeld count).takeOther 1)

/-- Takes all of the other run that is ahead of the first element of the held run, then that element. The
number tells how many were taken of the other run. -/
def leapOther (near : End) (ahead : α → α → Except ε Bool) (m : Merge α) : Except ε (Nat × Merge α) :=
  match m.held with
  | [] => .ok (0, m)
  | a :: _ =>
    (reach near (fun b => ahead b a) m.other).map fun count =>
      (count, if (m.takeOther count).isOver then m.takeOther count else (m.takeOther count).takeHeld 1)

/-- The pace and the patience after a leap in each run, by the number of elements that it took. -/
def settlePace (inLeft inRight : Nat) (m : Merge α) : Merge α :=
  if m.isOver then m
  else if longStreak ≤ inLeft ∨ longStreak ≤ inRight then
    { m with patience := max 1 (m.patience - 1) }
  else { m with patience := m.patience + 1, pace := .steps 0 0 }

/-- Leaps in the left run, which is held in a merge from the front. -/
def leapLeft (near : End) (ahead : α → α → Except ε Bool) (m : Merge α) : Except ε (Nat × Merge α) :=
  match near with
  | .front => m.leapHeld near ahead
  | .back => m.leapOther near ahead

/-- Leaps in the right run, which is held in a merge from the back. -/
def leapRight (near : End) (ahead : α → α → Except ε Bool) (m : Merge α) : Except ε (Nat × Merge α) :=
  match near with
  | .front => m.leapOther near ahead
  | .back => m.leapHeld near ahead

/-- Leaps in both runs. -/
def leap (near : End) (ahead : α → α → Except ε Bool) (m : Merge α) : Except ε (Merge α) :=
  match m.leapLeft near ahead with
  | .error e => .error e
  | .ok (inLeft, m) =>
    if m.isOver then .ok m
    else (m.leapRight near ahead).map fun (inRight, m) => m.settlePace inLeft inRight

/-- Goes on by a step or by a leap. -/
def next (near : End) (ahead : α → α → Except ε Bool) (m : Merge α) : Except ε (Merge α) :=
  match m.pace with
  | .steps inHeld inOther => m.step ahead inHeld inOther
  | .leaps => m.leap near ahead

theorem size_step {ahead : α → α → Except ε Bool} {inHeld inOther : Nat} {m m' : Merge α}
    (running : m.isOver = false) (h : m.step ahead inHeld inOther = .ok m') : m'.size < m.size := by
  unfold step at h
  split at h
  · rename_i a _ b _ held other
    cases answer : ahead b a with
    | error e => rw [answer] at h; cases h
    | ok yes =>
      rw [answer] at h
      cases yes <;> cases h <;> simp [size, takeHeld, takeOther, held, other]
  · rename_i apart
    have := length_of_not_isOver running
    cases held : m.held with
    | nil => simp_all
    | cons a _ =>
      cases other : m.other with
      | nil => simp_all
      | cons b _ => exact absurd other (apart a _ b _ held)

theorem size_leapHeld {near : End} {ahead : α → α → Except ε Bool} {m m' : Merge α} {count : Nat}
    (running : m.isOver = false) (h : m.leapHeld near ahead = .ok (count, m')) :
    m'.size < m.size := by
  have lengths := length_of_not_isOver running
  unfold leapHeld at h
  split at h
  · simp_all
  · rename_i b _ other
    cases answer : reach near (fun a => (ahead b a).map (!·)) m.held with
    | error e => rw [answer] at h; cases h
    | ok n =>
      rw [answer] at h
      cases h
      split
      · rename_i ended
        have : count ≠ 0 := by
          rintro rfl
          simp [running] at ended
        rw [size_takeHeld, size]
        omega
      · rw [size_takeOther]
        simp only [takeHeld, size, List.length_drop]
        omega

theorem size_leapOther {near : End} {ahead : α → α → Except ε Bool} {m m' : Merge α} {count : Nat}
    (running : m.isOver = false) (h : m.leapOther near ahead = .ok (count, m')) :
    m'.size < m.size := by
  have lengths := length_of_not_isOver running
  unfold leapOther at h
  split at h
  · simp_all
  · rename_i a _ held
    cases answer : reach near (fun b => ahead b a) m.other with
    | error e => rw [answer] at h; cases h
    | ok n =>
      rw [answer] at h
      cases h
      split
      · rename_i ended
        have : count ≠ 0 := by
          rintro rfl
          simp [running] at ended
        rw [size_takeOther, size]
        omega
      · rw [size_takeHeld]
        simp only [takeOther, size, List.length_drop]
        omega

theorem size_leapLeft {near : End} {ahead : α → α → Except ε Bool} {m m' : Merge α} {count : Nat}
    (running : m.isOver = false) (h : m.leapLeft near ahead = .ok (count, m')) :
    m'.size < m.size := by
  cases near
  · exact size_leapHeld running h
  · exact size_leapOther running h

theorem size_leapRight {near : End} {ahead : α → α → Except ε Bool} {m m' : Merge α} {count : Nat}
    (running : m.isOver = false) (h : m.leapRight near ahead = .ok (count, m')) :
    m'.size < m.size := by
  cases near
  · exact size_leapOther running h
  · exact size_leapHeld running h

@[simp] theorem size_settlePace (inLeft inRight : Nat) (m : Merge α) :
    (m.settlePace inLeft inRight).size = m.size := by
  unfold settlePace
  split
  · rfl
  · split <;> rfl

theorem size_leap {near : End} {ahead : α → α → Except ε Bool} {m m' : Merge α}
    (running : m.isOver = false) (h : m.leap near ahead = .ok m') : m'.size < m.size := by
  unfold leap at h
  split at h
  · cases h
  · rename_i inLeft m₁ left
    have less := size_leapLeft running left
    split at h
    · cases h
      exact less
    · rename_i running₁
      cases right : m₁.leapRight near ahead with
      | error e => rw [right] at h; cases h
      | ok answer =>
        rw [right] at h
        cases h
        rw [size_settlePace]
        exact Nat.lt_trans (size_leapRight (by simpa using running₁) right) less

theorem size_next {near : End} {ahead : α → α → Except ε Bool} {m m' : Merge α}
    (running : m.isOver = false) (h : m.next near ahead = .ok m') : m'.size < m.size := by
  unfold next at h
  split at h
  · exact size_step running h
  · exact size_leap running h

/-- Goes on until the merge is over. -/
def run (near : End) (ahead : α → α → Except ε Bool) (m : Merge α) : Except ε (Merge α) :=
  if _ended : m.isOver then .ok m
  else
    match _next : m.next near ahead with
    | .error e => .error e
    | .ok m' => run near ahead m'
termination_by m.size
decreasing_by exact size_next (by simpa using ‹¬m.isOver = true›) ‹m.next near ahead = .ok m'›

/-- Starts with the first element of the other run, which is ahead of the whole held run. -/
def start (held other : List α) (patience : Nat) : Merge α :=
  takeOther 1 ⟨[], held, other, patience, .steps 0 0⟩

end Merge

/-- Merges two runs of which the right one has the first element and the left one the last. The result comes
with the patience of the next merge. -/
def mergeInner (before : α → α → Except ε Bool) (patience : Nat) (left right : List α) :
    Except ε (List α × Nat) :=
  if left.length ≤ right.length then
    ((Merge.start left right patience).run .front before).map fun m => (m.result, m.patience)
  else
    ((Merge.start right.reverse left.reverse patience).run .back fun a b => before b a).map fun m =>
      (m.result.reverse, m.patience)

/-- Merges two runs. What of the left run does not come behind the first element of the right one stays in
front, and what of the right run does not come before the last element of the left one stays behind. -/
def merge (before : α → α → Except ε Bool) (patience : Nat) (left right : List α) :
    Except ε (List α × Nat) :=
  match right with
  | [] => .ok (left, patience)
  | first :: _ => do
    let inFront ← reach .front (fun a => (before first a).map (!·)) left
    match (left.drop inFront).getLast? with
    | none => return (left ++ right, patience)
    | some last =>
      let behind ← reach .back (fun b => (before b last).map (!·)) right.reverse
      let inner := right.length - behind
      let (merged, patience) ← mergeInner before patience (left.drop inFront) (right.take inner)
      return (left.take inFront ++ merged ++ right.drop inner, patience)

end VisualNovel.Sorting
