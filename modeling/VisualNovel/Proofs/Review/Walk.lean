import Mathlib
import VisualNovel.Proofs.OrderedMap
import VisualNovel.Proofs.Playback.Branch
import VisualNovel.Proofs.Playback.Session
import VisualNovel.Review.Issue

/-!
# The walk misses nothing

Every command that occurs in a scene is visited (`exists_visit`), a command at the top of a scene on a
path that is not nested (`mem_visits_of_mem`), and a command in an arm of a branch on one that is
(`exists_nested_visit`).
-/

namespace VisualNovel

open Command

@[simp] theorem CommandPath.isNested_enter (path : CommandPath) (arm : Arm) (index : Nat) :
    (path.enter arm index).isNested = true := by
  simp [isNested, enter]

namespace Command

variable {inner outer : Command}

theorem mem_visits_self (command : Command) (path : CommandPath) :
    ⟨path, command⟩ ∈ command.visits path := by
  cases command <;> simp [visits]

/-- The walk through an arm takes in the walks through its commands, each from some index. -/
theorem visits_subset_visitArm {command : Command} {commands : List Command} (h : command ∈ commands)
    (path : CommandPath) (arm : Arm) (first : Nat) :
    ∃ index, ∀ visit ∈ command.visits (path.enter arm index),
      visit ∈ visitArm path arm first commands := by
  induction commands generalizing first with
  | nil => cases h
  | cons head rest ih =>
    unfold visitArm
    rcases List.mem_cons.1 h with rfl | hrest
    · exact ⟨first, fun visit hv => List.mem_append_left _ hv⟩
    · obtain ⟨index, hi⟩ := ih hrest (first + 1)
      exact ⟨index, fun visit hv => List.mem_append_right _ (hi visit hv)⟩

theorem visits_branch (condition : Condition) (thenDo elseDo : List Command) (path : CommandPath) :
    (branch condition thenDo elseDo).visits path =
      ⟨path, branch condition thenDo elseDo⟩ ::
        (visitArm path .thenDo 0 thenDo ++ visitArm path .elseDo 0 elseDo) := by
  rw [visits]

/-- So does the walk through a branch, with the commands of both its arms. -/
theorem visits_subset_branch {command : Command} {condition : Condition}
    {thenDo elseDo : List Command} (h : command ∈ thenDo ∨ command ∈ elseDo) (path : CommandPath) :
    ∃ arm index, ∀ visit ∈ command.visits (path.enter arm index),
      visit ∈ (branch condition thenDo elseDo).visits path := by
  rw [visits_branch]
  rcases h with hmem | hmem
  · obtain ⟨index, hi⟩ := visits_subset_visitArm hmem path .thenDo 0
    exact ⟨.thenDo, index, fun visit hv =>
      List.mem_cons_of_mem _ (List.mem_append_left _ (hi visit hv))⟩
  · obtain ⟨index, hi⟩ := visits_subset_visitArm hmem path .elseDo 0
    exact ⟨.elseDo, index, fun visit hv =>
      List.mem_cons_of_mem _ (List.mem_append_right _ (hi visit hv))⟩

/-- A command that occurs is visited, inside a branch if the walk starts inside of one. -/
theorem exists_visit_of_occurs (h : inner.Occurs outer) (path : CommandPath) :
    ∃ visit ∈ outer.visits path, visit.command = inner ∧
      (path.isNested = true → visit.path.isNested = true) := by
  induction h generalizing path with
  | self => exact ⟨_, mem_visits_self inner path, rfl, fun hp => hp⟩
  | inside hmem _ ih =>
    obtain ⟨arm, index, hi⟩ := visits_subset_branch hmem path
    obtain ⟨visit, hv, hc, hn⟩ := ih (path.enter arm index)
    exact ⟨visit, hi visit hv, hc, fun _ => hn (path.isNested_enter arm index)⟩

/-- A command in an arm of a branch is visited inside of one. -/
theorem exists_nested_visit_of_occursIn {condition : Condition} {thenDo elseDo : List Command}
    (h : inner.OccursIn thenDo ∨ inner.OccursIn elseDo) (path : CommandPath) :
    ∃ visit ∈ (branch condition thenDo elseDo).visits path, visit.command = inner ∧
      visit.path.isNested = true := by
  obtain ⟨command, hmem, ho⟩ : ∃ command, (command ∈ thenDo ∨ command ∈ elseDo) ∧
      inner.Occurs command := by
    rcases h with ⟨command, hmem, ho⟩ | ⟨command, hmem, ho⟩
    · exact ⟨command, .inl hmem, ho⟩
    · exact ⟨command, .inr hmem, ho⟩
  obtain ⟨arm, index, hi⟩ := visits_subset_branch hmem path
  obtain ⟨visit, hv, hc, hn⟩ := exists_visit_of_occurs ho (path.enter arm index)
  exact ⟨visit, hi visit hv, hc, hn (path.isNested_enter arm index)⟩

end Command

namespace Scene

variable {scene : Scene} {command inner : Command}

/-- The walk through a scene takes in the walks through its commands, each from its index. -/
theorem visits_subset (h : command ∈ scene.commands) :
    ∃ index, ∀ visit ∈ command.visits ⟨index, []⟩, visit ∈ scene.visits := by
  obtain ⟨index, hi, rfl⟩ := List.mem_iff_getElem.1 h
  refine ⟨index, fun visit hv => ?_⟩
  unfold visits
  refine List.mem_flatMap.2 ⟨(scene.commands[index], index), ?_, hv⟩
  rw [List.mem_zipIdx_iff_getElem?, List.getElem?_eq_getElem hi]

theorem mem_visits_of_mem (h : command ∈ scene.commands) :
    ∃ index, ⟨⟨index, []⟩, command⟩ ∈ scene.visits := by
  obtain ⟨index, hi⟩ := visits_subset h
  exact ⟨index, hi _ (mem_visits_self command _)⟩

theorem exists_visit (h : inner.OccursIn scene.commands) :
    ∃ visit ∈ scene.visits, visit.command = inner := by
  obtain ⟨command, hmem, ho⟩ := h
  obtain ⟨index, hi⟩ := visits_subset hmem
  obtain ⟨visit, hv, hc, _⟩ := exists_visit_of_occurs ho ⟨index, []⟩
  exact ⟨visit, hi visit hv, hc⟩

theorem exists_nested_visit {condition : Condition} {thenDo elseDo : List Command}
    (h : .branch condition thenDo elseDo ∈ scene.commands)
    (ho : inner.OccursIn thenDo ∨ inner.OccursIn elseDo) :
    ∃ visit ∈ scene.visits, visit.command = inner ∧ visit.path.isNested = true := by
  obtain ⟨index, hi⟩ := visits_subset h
  obtain ⟨visit, hv, hc, hn⟩ := exists_nested_visit_of_occursIn ho ⟨index, []⟩
  exact ⟨visit, hi visit hv, hc, hn⟩

end Scene

/-- A scene found under a key is an entry of the scenario. -/
theorem Scenario.mem_entries_of_scene? {scenario : Scenario} {key : String} {scene : Scene}
    (h : scenario.scene? key = some scene) : (key, scene) ∈ scenario.scenes.entries :=
  OrderedMap.get?_eq_some_iff.1 h

theorem mem_review {scenario : Scenario} {roots : List String} {issue : Issue} :
    issue ∈ scenario.review roots ↔ issue ∈ scenario.startIssues ∨ issue ∈ scenario.sceneIssues ∨
      issue ∈ scenario.referenceIssues ∨ issue ∈ scenario.kindIssues ∨
      issue ∈ (scenario.unreachable roots).map .unreachable := by
  unfold Scenario.review
  simp only [List.mem_append, or_assoc]

theorem Sample.review_story : story.review [] = [] := by cbv

end VisualNovel
