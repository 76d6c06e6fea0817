import VisualNovel.Proofs.Review.KindTable
import VisualNovel.Proofs.Review.Walk

/-!
# The reports under a code

Each part of a review finds issues of its own, so the reports under a code are those of one part, in the
order in which that part finds them (`reported_references`, `reported_kinds`, `reported_unreachable`). The
issues of the commands themselves have two codes and are told apart by them (`reported_commands`).
-/

namespace VisualNovel

/-- The reports of a review under a code, in order. -/
def Scenario.reported (scenario : Scenario) (roots : List String) (code : String) : List Report :=
  ((scenario.review roots).map Issue.report).filter fun report => report.code = code

namespace Issue

/-- The issue is reported under the code. -/
def hasCode (code : String) (issue : Issue) : Bool :=
  issue.report.code = code

theorem hasCode_iff {code : String} {issue : Issue} :
    issue.hasCode code = true ↔ issue.report.code = code := by
  unfold hasCode
  exact decide_eq_true_iff

/-- Issues that all have one code are all or none of them reported under a code. -/
theorem filter_hasCode {issues : List Issue} {own : String}
    (h : ∀ issue ∈ issues, issue.report.code = own) (code : String) :
    issues.filter (hasCode code) = if own = code then issues else [] := by
  split
  · next heq =>
    rw [List.filter_eq_self]
    intro issue hissue
    rw [hasCode_iff, h issue hissue, heq]
  · next hne =>
    rw [List.filter_eq_nil_iff]
    intro issue hissue
    rw [hasCode_iff, h issue hissue]
    exact hne

end Issue

namespace Scenario

variable {scenario : Scenario} {issue : Issue}

/-! ## The codes of the parts -/

theorem code_of_mem_startIssues (h : issue ∈ scenario.startIssues) :
    issue.report.code = "MISSING_START_SCENE" := by
  unfold startIssues at h
  split at h
  · cases h
  · rw [List.mem_singleton.1 h]
    rfl

theorem code_of_mem_referenceIssues (h : issue ∈ scenario.referenceIssues) :
    issue.report.code = "MISSING_SCENE_REF" := by
  unfold referenceIssues at h
  obtain ⟨⟨key, scene⟩, _, hscene⟩ := List.mem_flatMap.1 h
  obtain ⟨reference, _, rfl⟩ := List.mem_map.1 hscene
  rfl

theorem code_of_mem_kindIssues (h : issue ∈ scenario.kindIssues) :
    issue.report.code = "VARIABLE_TYPE_CONFLICT" := by
  rw [kindIssues_eq] at h
  obtain ⟨name, _, rfl⟩ := List.mem_map.1 h
  rfl

/-- The two things that are wrong with commands. -/
theorem issue?_eq_some_iff {visit : Visit} {key : String} : visit.issue? key = some issue ↔
    (∃ move, visit.command = .flow move ∧ visit.path.isNested = true ∧
        issue = .flowInsideBranch key visit.path move.name) ∨
      ∃ choice, visit.command = .offer choice ∧ choice.options = [] ∧
        issue = .emptyChoice key visit.path := by
  constructor
  · intro h
    unfold Visit.issue? at h
    split at h
    · next move hcommand =>
      split at h
      · next hnested =>
        cases h
        exact .inl ⟨move, hcommand, hnested, rfl⟩
      · cases h
    · next choice hcommand =>
      split at h
      · next hempty =>
        cases h
        exact .inr ⟨choice, hcommand, List.isEmpty_iff.1 hempty, rfl⟩
      · cases h
    · cases h
  · unfold Visit.issue?
    rintro (⟨move, hcommand, hnested, rfl⟩ | ⟨choice, hcommand, hempty, rfl⟩)
    · rw [hcommand]
      exact if_pos hnested
    · rw [hcommand]
      exact if_pos (List.isEmpty_iff.2 hempty)

/-- The issues of the commands, scene by scene in the order of the walk. -/
def commandIssues (scenario : Scenario) : List Issue :=
  scenario.scenes.entries.flatMap fun (key, scene) => scene.visits.filterMap (Visit.issue? key)

theorem filter_sceneIssues {code : String} (h : code ≠ "SCENE_ID_MISMATCH") :
    scenario.sceneIssues.filter (Issue.hasCode code) =
      scenario.commandIssues.filter (Issue.hasCode code) := by
  unfold sceneIssues commandIssues
  rw [List.filter_flatMap, List.filter_flatMap]
  congr 1
  funext ⟨key, scene⟩
  have hmismatch : (if scene.id = key then [] else [Issue.idMismatch key scene.id]).filter
      (Issue.hasCode code) = [] := by
    rw [List.filter_eq_nil_iff]
    intro issue hissue
    rw [Issue.hasCode_iff]
    split at hissue
    · cases hissue
    · rw [List.mem_singleton.1 hissue]
      exact Ne.symm h
  rw [List.filter_append, hmismatch, List.nil_append]

/-! ## The reports -/

variable (roots : List String)

/-- The reports under a code, part by part. -/
theorem reported_eq (scenario : Scenario) {code : String} (h : code ≠ "SCENE_ID_MISMATCH")
    (hstart : code ≠ "MISSING_START_SCENE") : scenario.reported roots code =
      (scenario.commandIssues.filter (Issue.hasCode code) ++
        (if "MISSING_SCENE_REF" = code then scenario.referenceIssues else []) ++
        (if "VARIABLE_TYPE_CONFLICT" = code then scenario.kindIssues else []) ++
        if "UNREACHABLE_SCENE" = code then (scenario.unreachable roots).map Issue.unreachable
        else []).map Issue.report := by
  have hlast : ∀ issue ∈ (scenario.unreachable roots).map Issue.unreachable,
      issue.report.code = "UNREACHABLE_SCENE" := by
    intro issue hissue
    obtain ⟨key, _, rfl⟩ := List.mem_map.1 hissue
    rfl
  unfold reported
  rw [List.filter_map]
  show ((scenario.review roots).filter (Issue.hasCode code)).map Issue.report = _
  unfold review
  simp only [List.filter_append]
  rw [Issue.filter_hasCode (fun _ => code_of_mem_startIssues), if_neg (Ne.symm hstart),
    filter_sceneIssues h, Issue.filter_hasCode (fun _ => code_of_mem_referenceIssues),
    Issue.filter_hasCode (fun _ => code_of_mem_kindIssues), Issue.filter_hasCode hlast,
    List.nil_append]

/-- No command has an issue under another code than the two of commands. -/
theorem filter_commandIssues {code : String} (h : code ≠ "INLINE_COMMAND_NOT_ALLOWED")
    (h' : code ≠ "EMPTY_CHOICE") : scenario.commandIssues.filter (Issue.hasCode code) = [] := by
  rw [List.filter_eq_nil_iff]
  intro issue hissue
  unfold commandIssues at hissue
  obtain ⟨⟨key, scene⟩, _, hscene⟩ := List.mem_flatMap.1 hissue
  obtain ⟨visit, _, hvisit⟩ := List.mem_filterMap.1 hscene
  rw [Issue.hasCode_iff]
  rcases issue?_eq_some_iff.1 hvisit with ⟨move, _, _, rfl⟩ | ⟨choice, _, _, rfl⟩
  · exact Ne.symm h
  · exact Ne.symm h'

theorem reported_references (scenario : Scenario) :
    scenario.reported roots "MISSING_SCENE_REF" = scenario.referenceIssues.map Issue.report := by
  rw [reported_eq roots scenario (by decide) (by decide), filter_commandIssues (by decide) (by decide)]
  simp

theorem reported_kinds (scenario : Scenario) :
    scenario.reported roots "VARIABLE_TYPE_CONFLICT" = scenario.kindIssues.map Issue.report := by
  rw [reported_eq roots scenario (by decide) (by decide), filter_commandIssues (by decide) (by decide)]
  simp

theorem reported_unreachable (scenario : Scenario) : scenario.reported roots "UNREACHABLE_SCENE" =
    (scenario.unreachable roots).map fun key => (Issue.unreachable key).report := by
  rw [reported_eq roots scenario (by decide) (by decide), filter_commandIssues (by decide) (by decide)]
  simp

theorem reported_commands (scenario : Scenario) {code : String}
    (h : code = "INLINE_COMMAND_NOT_ALLOWED" ∨ code = "EMPTY_CHOICE") :
    scenario.reported roots code =
      (scenario.commandIssues.filter (Issue.hasCode code)).map Issue.report := by
  rcases h with rfl | rfl
  · rw [reported_eq roots scenario (by decide) (by decide)]
    simp
  · rw [reported_eq roots scenario (by decide) (by decide)]
    simp

end Scenario

end VisualNovel
