import VisualNovel.Review.Visit
import VisualNovel.SortedSet

/-!
# Which scenes can be reached

A search from the scenes in which play may begin, along the references between scenes that exist.
-/

namespace VisualNovel.Reachability

/-- Visiting one more key of a list leaves fewer of them unvisited. -/
theorem countP_unvisited_lt {known visited : List String} {key : String} (h : key ∈ known)
    (hv : key ∉ visited) :
    known.countP (· ∉ key :: visited) < known.countP (· ∉ visited) := by
  induction known with
  | nil => simp at h
  | cons a rest ih =>
    have hle : rest.countP (· ∉ key :: visited) ≤ rest.countP (· ∉ visited) :=
      List.countP_mono_left fun x _ hx => by simp_all
    by_cases ha : a = key
    · subst ha
      simp only [List.countP_cons, List.mem_cons, true_or, not_true_eq_false, decide_false]
      simp only [hv, not_false_eq_true, decide_true]
      simpa using Nat.lt_succ_of_le hle
    · have hr : key ∈ rest := by
        cases List.mem_cons.1 h with
        | inl e => exact absurd e.symm ha
        | inr hr => exact hr
      have := ih hr
      by_cases hav : a ∈ visited <;> simp_all

/-- Visits the keys on the stack and whatever they lead to, as far as the keys are known, and adds
them to those visited before. -/
def explore (known : List String) (targets : String → List String) (visited : List String) :
    List String → List String
  | [] => visited
  | key :: stack =>
    if _h : key ∈ known ∧ key ∉ visited then
      explore known targets (key :: visited) (targets key ++ stack)
    else explore known targets visited stack
termination_by stack => (known.countP (· ∉ visited), stack.length)
decreasing_by
  · exact Prod.Lex.left _ _ (countP_unvisited_lt _h.1 _h.2)
  · exact Prod.Lex.right _ (by simp)

end VisualNovel.Reachability

namespace VisualNovel.Scenario

/-- The scenes that a scene leads to. -/
def targets (scenario : Scenario) (key : String) : List String :=
  match scenario.scene? key with
  | some scene => scene.references.map Reference.target
  | none => []

/-- The scenes that play can reach from the start scene and the further roots. -/
def reachable (scenario : Scenario) (roots : List String) : List String :=
  Reachability.explore scenario.scenes.keys scenario.targets [] (scenario.startScene :: roots)

/-- The scenes that play cannot reach, sorted. -/
def unreachable (scenario : Scenario) (roots : List String) : List String :=
  let reached := scenario.reachable roots
  (SortedSet.ofList (scenario.scenes.keys.filter fun key => key ∉ reached)).toList

end VisualNovel.Scenario
