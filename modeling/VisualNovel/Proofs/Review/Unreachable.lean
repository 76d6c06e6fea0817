import Mathlib.Algebra.Order.BigOperators.Group.List
import Mathlib.Logic.Function.Iterate
import VisualNovel.Proofs.Review.Reachability
import VisualNovel.Proofs.Review.Reports

/-!
# Unreachable scenes, exactly

1. The search takes a key from its stack at every turn. A key that is visited leaves its targets behind,
   but it is visited only once, so the stack and the targets of the unvisited keys together get fewer
   (`unvisitedTargets_visit`), and the search is over after as many turns at most as there are roots and
   references (`Search.exists_turns`).
2. What is reported then are the scenes without a way to them, in the order of their keys
   (`unreachable_reported_exactly`).
-/

namespace VisualNovel

/-! ## The turns of the search -/

namespace Reachability

/-- The keys that a search has visited, and those that it has yet to look at. -/
structure Search where
  visited : List String
  stack : List String

variable (known : List String) (targets : String → List String)

/-- One turn of the search. -/
def Search.turn (s : Search) : Search :=
  match s.stack with
  | [] => s
  | key :: stack =>
    if key ∈ known ∧ key ∉ s.visited then ⟨key :: s.visited, targets key ++ stack⟩
    else ⟨s.visited, stack⟩

/-- The targets of the unvisited keys, each as often as it is one. -/
def unvisitedTargets (visited : List String) : Nat :=
  ((known.filter (· ∉ visited)).map fun key => (targets key).length).sum

variable {known : List String} {targets : String → List String} {visited : List String} {key : String}

theorem sum_filter_ne_add_le (f : String → Nat) {keys : List String} (h : key ∈ keys) :
    ((keys.filter (· ≠ key)).map f).sum + f key ≤ (keys.map f).sum := by
  induction keys with
  | nil => cases h
  | cons first rest ih =>
    rw [List.map_cons, List.sum_cons]
    by_cases hfirst : first = key
    · have hrest : ((rest.filter (· ≠ key)).map f).sum ≤ (rest.map f).sum :=
        (List.filter_sublist.map f).sum_le_sum fun _ _ => Nat.zero_le _
      rw [List.filter_cons_of_neg (by simpa using hfirst), hfirst]
      omega
    · have hrest : key ∈ rest := by
        rcases List.mem_cons.1 h with heq | hrest
        · exact absurd heq.symm hfirst
        · exact hrest
      have := ih hrest
      rw [List.filter_cons_of_pos (by simpa using hfirst), List.map_cons, List.sum_cons]
      omega

/-- Visiting a key takes its targets off those of the unvisited keys. -/
theorem unvisitedTargets_visit (isKnown : key ∈ known) (fresh : key ∉ visited) :
    unvisitedTargets known targets (key :: visited) + (targets key).length ≤
      unvisitedTargets known targets visited := by
  have hunvisited : key ∈ known.filter (· ∉ visited) := by simpa using ⟨isKnown, fresh⟩
  have hfilter : known.filter (· ∉ key :: visited) =
      (known.filter (· ∉ visited)).filter (· ≠ key) := by
    rw [List.filter_filter]
    congr 1
    funext other
    simp
  unfold unvisitedTargets
  rw [hfilter]
  exact sum_filter_ne_add_le (fun key => (targets key).length) hunvisited

/-- **The search ends.** Every turn takes a key from the stack, and no more keys come onto it than there
are targets of unvisited keys. -/
theorem Search.exists_turns (known : List String) (targets : String → List String)
    (visited stack : List String) :
    ∃ turns ≤ stack.length + unvisitedTargets known targets visited,
      (Search.turn known targets)^[turns] ⟨visited, stack⟩ =
        ⟨explore known targets visited stack, []⟩ := by
  fun_induction explore known targets visited stack with
  | case1 visited => exact ⟨0, Nat.zero_le _, rfl⟩
  | case2 visited key stack fresh ih =>
    obtain ⟨turns, hle, hturns⟩ := ih
    have hless : unvisitedTargets known targets (key :: visited) + (targets key).length ≤
        unvisitedTargets known targets visited := unvisitedTargets_visit fresh.1 fresh.2
    refine ⟨turns + 1, ?_, ?_⟩
    · rw [List.length_append] at hle
      rw [List.length_cons]
      omega
    · have hturn : Search.turn known targets ⟨visited, key :: stack⟩ =
          ⟨key :: visited, targets key ++ stack⟩ := if_pos fresh
      rw [Function.iterate_succ_apply, hturn, hturns]
  | case3 visited key stack stale ih =>
    obtain ⟨turns, hle, hturns⟩ := ih
    refine ⟨turns + 1, ?_, ?_⟩
    · rw [List.length_cons]
      omega
    · have hturn : Search.turn known targets ⟨visited, key :: stack⟩ = ⟨visited, stack⟩ :=
        if_neg stale
      rw [Function.iterate_succ_apply, hturn, hturns]

end Reachability

/-! ## The report -/

namespace Scenario

/-- The references in all scenes. -/
def referenceCount (scenario : Scenario) : Nat :=
  (scenario.scenes.entries.map fun entry => entry.2.references.length).sum

variable {scenario : Scenario} {roots : List String}

/-- Before the search no scene is visited, and what leads on are all references. -/
theorem unvisitedTargets_nil (scenario : Scenario) :
    Reachability.unvisitedTargets scenario.scenes.keys scenario.targets [] =
      scenario.referenceCount := by
  unfold Reachability.unvisitedTargets referenceCount
  rw [List.filter_eq_self.2 fun key _ => by simp]
  show ((scenario.scenes.entries.map Prod.fst).map _).sum = _
  rw [List.map_map]
  congr 1
  refine List.map_congr_left fun ⟨key, scene⟩ hentry => ?_
  have hscene : scenario.scene? key = some scene := OrderedMap.get?_eq_some_iff.2 hentry
  show (scenario.targets key).length = _
  unfold targets
  rw [hscene, List.length_map]

theorem pairwise_unreachable (scenario : Scenario) (roots : List String) :
    (scenario.unreachable roots).Pairwise (· < ·) := by
  unfold unreachable
  exact (SortedSet.sorted _).imp fun h => SortedList.before_iff_lt.1 h

end Scenario

/-- **Unreachable scenes.** The search from the start scene and the further roots ends, after as many turns
at most as there are roots and references. What a review then reports as unreachable are the scenes without
a way to them, one report for each, in the order of their keys. -/
theorem unreachable_reported_exactly (scenario : Scenario) (roots : List String) :
    (∃ turns ≤ (scenario.startScene :: roots).length + scenario.referenceCount,
        (Reachability.Search.turn scenario.scenes.keys scenario.targets)^[turns]
          ⟨[], scenario.startScene :: roots⟩ = ⟨scenario.reachable roots, []⟩) ∧
      ∃ keys : List String, keys.Pairwise (· < ·) ∧
        (∀ key, key ∈ keys ↔ scenario.hasScene key ∧ ¬scenario.LeadsTo roots key) ∧
        scenario.reported roots "UNREACHABLE_SCENE" =
          keys.map fun key => (Issue.unreachable key).report := by
  constructor
  · rw [← scenario.unvisitedTargets_nil]
    exact Reachability.Search.exists_turns _ _ _ _
  · exact ⟨scenario.unreachable roots, scenario.pairwise_unreachable roots,
      fun _ => Scenario.mem_unreachable_iff, scenario.reported_unreachable roots⟩

end VisualNovel
