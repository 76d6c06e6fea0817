import VisualNovel.Proofs.Review.Address
import VisualNovel.Proofs.Review.Reachability
import VisualNovel.Proofs.Review.Reports

/-!
# Issues of commands, exactly

1. Three codes are about single commands and their fields: a scene is missing that a field names, a
   command inside a branch moves the play head, a choice has no options. Which places of a scenario have
   such an issue is said without the walk (`SceneMissingAt`, `FlowInsideBranchAt`, `EmptyChoiceAt`).
2. What is found command by command on the walk points to its places once each and in order
   (`points_of_visits`), so the reports under these codes are exactly those of the places
   (`structural_issues_exact`), and no two of them show the same whereabouts (`Points.nodup`).
-/

namespace VisualNovel

/-! ## Places with an issue -/

/-- The scene that a field of a command names. -/
def Command.sceneIn? : Command → SceneField → Option String
  | .flow (.jump key), .target | .flow (.call key _), .target => some key
  | .flow (.call _ returnScene), .returnScene => some returnScene
  | .offer choice, .option index => choice.options[index]?.map ChoiceOption.nextScene
  | _, _ => none

/-- The fields of a command count as references: those of a choice always, those of other commands at the
top of a scene only, because branches refuse these commands. -/
def Command.Refers (command : Command) (path : CommandPath) : Prop :=
  path.isNested = true → ∃ choice, command = .offer choice

namespace Scenario

/-- A reference stands at the address, and the scene that it names is missing. -/
def SceneMissingAt (scenario : Scenario) (a : Address) (target : String) : Prop :=
  ∃ command field, scenario.at? a.scene a.path = some command ∧ command.Refers a.path ∧
    a.field = some field ∧ command.sceneIn? field = some target ∧ target ∉ scenario.scenes.keys

/-- A command that moves the play head stands at the address, inside a branch. -/
def FlowInsideBranchAt (scenario : Scenario) (a : Address) : Prop :=
  ∃ move, scenario.at? a.scene a.path = some (.flow move) ∧ a.path.isNested = true ∧ a.field = none

/-- A choice without options stands at the address. -/
def EmptyChoiceAt (scenario : Scenario) (a : Address) : Prop :=
  ∃ choice, scenario.at? a.scene a.path = some (.offer choice) ∧ choice.options = [] ∧ a.field = none

/-- The reports point to the places of a kind, to each of them once and in the order of the walk. -/
def Points (scenario : Scenario) (reports : List Report) (IsPlace : Address → Prop) : Prop :=
  ∃ addresses : List Address, reports.map Report.address? = addresses.map some ∧
    addresses.Pairwise scenario.Earlier ∧ ∀ a, a ∈ addresses ↔ IsPlace a

/-! ## What is found on the walk -/

variable {scenario : Scenario} {reports : List Report} {IsPlace IsPlace' : Address → Prop}

theorem Points.congr (h : scenario.Points reports IsPlace) (same : ∀ a, IsPlace a ↔ IsPlace' a) :
    scenario.Points reports IsPlace' := by
  obtain ⟨addresses, hreports, horder, hplaces⟩ := h
  exact ⟨addresses, hreports, horder, fun a => (hplaces a).trans (same a)⟩

/-- Reports that point to different places show different whereabouts. -/
theorem Points.nodup (h : scenario.Points reports IsPlace) :
    (reports.map Report.whereabouts).Nodup := by
  obtain ⟨addresses, hreports, horder, _⟩ := h
  have haddresses : addresses.Nodup := by
    refine horder.imp fun {a b} hearlier heq => ?_
    rw [heq] at hearlier
    exact Earlier.irrefl b hearlier
  apply List.Nodup.of_map Address.ofWhereabouts?
  rw [List.map_map]
  show (reports.map Report.address?).Nodup
  rw [hreports]
  exact haddresses.map (Option.some_injective _)

/-- **Command by command.** If the issues that are found at a command point to fields of it in their order,
those found on the whole walk point to all such fields in theirs. -/
theorem points_of_visits (found : String × Visit → List Issue)
    (fields : Visit → List (Option SceneField))
    (shown : ∀ key visit, (found (key, visit)).map (fun issue => issue.report.address?) =
      (fields visit).map fun field => some ⟨key, visit.path, field⟩)
    (ordered : ∀ visit, (fields visit).Pairwise FieldBefore) :
    scenario.Points ((scenario.visits.flatMap found).map Issue.report) fun a =>
      ∃ command, scenario.at? a.scene a.path = some command ∧ a.field ∈ fields ⟨a.path, command⟩ := by
  refine ⟨scenario.visits.flatMap fun item =>
    (fields item.2).map fun field => ⟨item.1, item.2.path, field⟩, ?_, ?_, ?_⟩
  · rw [List.map_map, List.map_flatMap, List.map_flatMap]
    congr 1
    funext ⟨key, visit⟩
    rw [List.map_map]
    exact shown key visit
  · rw [List.pairwise_flatMap]
    constructor
    · rintro ⟨key, visit⟩ _
      rw [List.pairwise_map]
      exact (ordered visit).imp .field
    · refine scenario.pairwise_visits.imp fun hearlier a ha b hb => ?_
      obtain ⟨f, _, rfl⟩ := List.mem_map.1 ha
      obtain ⟨g, _, rfl⟩ := List.mem_map.1 hb
      exact hearlier f g
  · rintro ⟨key, path, field⟩
    rw [List.mem_flatMap]
    constructor
    · rintro ⟨⟨key, visit⟩, hvisit, hfield⟩
      obtain ⟨field, hmem, heq⟩ := List.mem_map.1 hfield
      cases heq
      exact ⟨visit.command, mem_visits_iff.1 hvisit, hmem⟩
    · rintro ⟨command, hcommand, hmem⟩
      exact ⟨(key, ⟨path, command⟩), mem_visits_iff.2 hcommand, List.mem_map_of_mem hmem⟩

end Scenario

/-! ## References -/

namespace Command

/-- The fields of a command that name scenes, in order, each with its scene. -/
def sceneFields : Command → List (SceneField × String)
  | .flow (.jump key) => [(.target, key)]
  | .flow (.call key returnScene) => [(.target, key), (.returnScene, returnScene)]
  | .offer choice => choice.options.zipIdx.map fun item => (.option item.2, item.1.nextScene)
  | _ => []

theorem mem_sceneFields_iff {command : Command} {field : SceneField} {target : String} :
    (field, target) ∈ command.sceneFields ↔ command.sceneIn? field = some target := by
  cases command with
  | flow move => cases move <;> cases field <;> simp [sceneFields, sceneIn?, eq_comm]
  | offer choice =>
    unfold sceneFields
    rw [List.mem_map]
    cases field with
    | option index =>
      show _ ↔ choice.options[index]?.map _ = some target
      rw [Option.map_eq_some_iff]
      constructor
      · rintro ⟨⟨option, place⟩, hitem, heq⟩
        cases heq
        exact ⟨option, List.mem_zipIdx_iff_getElem?.1 hitem, rfl⟩
      · rintro ⟨option, hoption, rfl⟩
        exact ⟨(option, index), List.mem_zipIdx_iff_getElem?.2 hoption, rfl⟩
    | _ => simp [sceneIn?]
  | _ => simp [sceneFields, sceneIn?]

theorem pairwise_sceneFields (command : Command) :
    (command.sceneFields.map fun item => some item.1).Pairwise FieldBefore := by
  cases command with
  | flow move =>
    cases move with
    | call key returnScene => exact List.pairwise_pair.2 .call
    | jump key => exact List.pairwise_singleton _ _
    | _ => exact .nil
  | offer choice =>
    unfold sceneFields
    rw [List.map_map, List.pairwise_map]
    exact (pairwise_zipIdx choice.options).imp .option
  | _ => exact .nil

end Command

namespace Visit

variable {path : CommandPath} {command : Command}

/-- The references at a command are its fields that name scenes, ... -/
theorem references_of_refers (h : command.Refers path) : references ⟨path, command⟩ =
    command.sceneFields.map fun item => ⟨path, item.1, item.2⟩ := by
  unfold references
  cases command with
  | flow move =>
    have htop : path.isNested = false := by
      rw [Bool.eq_false_iff]
      intro hnested
      obtain ⟨choice, heq⟩ := h hnested
      cases heq
    cases move <;> simp [htop, Command.sceneFields]
  | offer choice =>
    unfold Command.sceneFields
    rw [List.map_map]
    rfl
  | _ => rfl

/-- ... unless they do not count. -/
theorem references_of_not_refers (h : ¬command.Refers path) : references ⟨path, command⟩ = [] := by
  have hnested : path.isNested = true := by
    by_contra htop
    exact h fun hnested => absurd hnested htop
  unfold references
  cases command with
  | flow move => cases move <;> simp [hnested]
  | offer choice => exact absurd (fun _ => ⟨choice, rfl⟩) h
  | _ => rfl

theorem mem_references_iff {reference : Reference} : reference ∈ references ⟨path, command⟩ ↔
    command.Refers path ∧ reference.path = path ∧
      command.sceneIn? reference.field = some reference.target := by
  by_cases h : command.Refers path
  · rw [references_of_refers h, List.mem_map]
    constructor
    · rintro ⟨⟨field, target⟩, hitem, rfl⟩
      exact ⟨h, rfl, Command.mem_sceneFields_iff.1 hitem⟩
    · rintro ⟨-, rfl, htarget⟩
      exact ⟨(reference.field, reference.target), Command.mem_sceneFields_iff.2 htarget, rfl⟩
  · rw [references_of_not_refers h]
    constructor
    · intro hmem
      cases hmem
    · exact fun hrefers => absurd hrefers.1 h

theorem pairwise_references (visit : Visit) :
    visit.references.Pairwise fun a b => FieldBefore (some a.field) (some b.field) := by
  obtain ⟨path, command⟩ := visit
  by_cases h : command.Refers path
  · rw [references_of_refers h, List.pairwise_map]
    exact List.pairwise_map.1 command.pairwise_sceneFields
  · rw [references_of_not_refers h]
    exact .nil

/-- The command moves the play head and stands inside a branch. -/
def isFlowInsideBranch (visit : Visit) : Bool :=
  match visit.command with
  | .flow _ => visit.path.isNested
  | _ => false

/-- The command is a choice without options. -/
def isEmptyChoice (visit : Visit) : Bool :=
  match visit.command with
  | .offer choice => choice.options.isEmpty
  | _ => false

theorem isFlowInsideBranch_iff {visit : Visit} : visit.isFlowInsideBranch = true ↔
    ∃ move, visit.command = .flow move ∧ visit.path.isNested = true := by
  obtain ⟨path, command⟩ := visit
  cases command <;> simp [isFlowInsideBranch]

theorem isEmptyChoice_iff {visit : Visit} : visit.isEmptyChoice = true ↔
    ∃ choice, visit.command = .offer choice ∧ choice.options = [] := by
  obtain ⟨path, command⟩ := visit
  cases command <;> simp [isEmptyChoice]

end Visit

namespace Scenario

variable {scenario : Scenario}

/-- The references at a command to scenes that are missing. -/
def dangling (scenario : Scenario) (visit : Visit) : List Reference :=
  visit.references.filter fun reference => !scenario.hasScene reference.target

theorem mem_dangling_iff {visit : Visit} {reference : Reference} :
    reference ∈ scenario.dangling visit ↔
      reference ∈ visit.references ∧ reference.target ∉ scenario.scenes.keys := by
  unfold dangling
  rw [List.mem_filter, mem_keys_iff, Bool.not_eq_true', Bool.not_eq_true]

theorem referenceIssues_eq (scenario : Scenario) :
    scenario.referenceIssues = scenario.visits.flatMap fun item =>
      (scenario.dangling item.2).map (Issue.sceneMissing item.1) := by
  rw [flatMap_visits scenario fun key visit => (scenario.dangling visit).map (Issue.sceneMissing key)]
  unfold referenceIssues
  congr 1
  funext ⟨key, scene⟩
  show (scene.references.filter _).map _ = scene.visits.flatMap _
  unfold Scene.references
  rw [List.filter_flatMap, List.map_flatMap]
  rfl

/-- **Missing scenes.** -/
theorem points_references (scenario : Scenario) :
    scenario.Points (scenario.referenceIssues.map Issue.report)
      fun a => ∃ target, scenario.SceneMissingAt a target := by
  rw [referenceIssues_eq]
  refine (points_of_visits (fun item => (scenario.dangling item.2).map (Issue.sceneMissing item.1))
    (fun visit => (scenario.dangling visit).map fun reference => some reference.field)
    ?_ ?_).congr ?_
  · intro key visit
    rw [List.map_map, List.map_map]
    refine List.map_congr_left fun reference hreference => ?_
    obtain ⟨_, hpath, _⟩ := Visit.mem_references_iff.1 (mem_dangling_iff.1 hreference).1
    rw [Function.comp_apply, Function.comp_apply, address?_sceneMissing, hpath]
  · intro visit
    rw [List.pairwise_map]
    exact visit.pairwise_references.sublist List.filter_sublist
  · rintro ⟨key, path, place⟩
    constructor
    · rintro ⟨command, hcommand, hplace⟩
      obtain ⟨reference, hreference, rfl⟩ := List.mem_map.1 hplace
      obtain ⟨hmem, hmissing⟩ := mem_dangling_iff.1 hreference
      obtain ⟨hrefers, _, htarget⟩ := Visit.mem_references_iff.1 hmem
      exact ⟨_, command, _, hcommand, hrefers, rfl, htarget, hmissing⟩
    · rintro ⟨target, command, field, hcommand, hrefers, rfl, htarget, hmissing⟩
      have hmem : ⟨path, field, target⟩ ∈ Visit.references ⟨path, command⟩ :=
        Visit.mem_references_iff.2 ⟨hrefers, rfl, htarget⟩
      exact ⟨command, hcommand, List.mem_map.2
        ⟨⟨path, field, target⟩, mem_dangling_iff.2 ⟨hmem, hmissing⟩, rfl⟩⟩

/-- What is reported of a missing scene is the key that stands at the address. -/
theorem exists_of_mem_references {report : Report}
    (h : report ∈ scenario.referenceIssues.map Issue.report) : ∃ a target,
      report.address? = some a ∧ report.context.get? "referenced_id" = some target ∧
        scenario.SceneMissingAt a target := by
  rw [referenceIssues_eq] at h
  obtain ⟨issue, hissue, rfl⟩ := List.mem_map.1 h
  obtain ⟨⟨key, visit⟩, hvisit, hfound⟩ := List.mem_flatMap.1 hissue
  obtain ⟨reference, hreference, rfl⟩ := List.mem_map.1 hfound
  obtain ⟨hmem, hmissing⟩ := mem_dangling_iff.1 hreference
  obtain ⟨hrefers, hpath, htarget⟩ := Visit.mem_references_iff.1 hmem
  refine ⟨_, _, address?_sceneMissing key reference, rfl, visit.command, reference.field, ?_, ?_, rfl,
    htarget, hmissing⟩
  · rw [hpath]
    exact mem_visits_iff.1 hvisit
  · rw [hpath]
    exact hrefers

/-! ## Commands -/

theorem commandIssues_eq (scenario : Scenario) (code : String) :
    scenario.commandIssues.filter (Issue.hasCode code) = scenario.visits.flatMap fun item =>
      (item.2.issue? item.1).toList.filter (Issue.hasCode code) := by
  rw [flatMap_visits scenario fun key visit =>
    (visit.issue? key).toList.filter (Issue.hasCode code)]
  unfold commandIssues
  rw [List.filter_flatMap]
  congr 1
  funext ⟨key, scene⟩
  show (scene.visits.filterMap (Visit.issue? key)).filter _ = scene.visits.flatMap _
  rw [List.filterMap_eq_flatMap_toList, List.filter_flatMap]

/-- Issues that some commands have as a whole. -/
theorem points_commands {code : String} (marked : Visit → Bool)
    (found : ∀ key visit, marked visit = true → ∃ issue, visit.issue? key = some issue ∧
      issue.report.code = code ∧ issue.report.address? = some ⟨key, visit.path, none⟩)
    (others : ∀ key visit issue, visit.issue? key = some issue → issue.report.code = code →
      marked visit = true) :
    scenario.Points ((scenario.commandIssues.filter (Issue.hasCode code)).map Issue.report) fun a =>
      ∃ command, scenario.at? a.scene a.path = some command ∧ marked ⟨a.path, command⟩ = true ∧
        a.field = none := by
  rw [commandIssues_eq]
  refine (points_of_visits _ (fun visit => if marked visit then [none] else []) ?_ ?_).congr ?_
  · intro key visit
    show ((visit.issue? key).toList.filter (Issue.hasCode code)).map _ = _
    split
    · next hmarked =>
      obtain ⟨issue, hissue, hcode, haddress⟩ := found key visit hmarked
      rw [hissue, Option.toList_some, List.filter_singleton, Issue.hasCode_iff.2 hcode]
      exact congrArg (fun address => [address]) haddress
    · next hunmarked =>
      rw [List.filter_eq_nil_iff.2]
      · rfl
      · intro issue hissue hcode
        rw [Option.mem_toList] at hissue
        exact hunmarked (others key visit issue hissue (Issue.hasCode_iff.1 hcode))
  · intro visit
    split
    · exact List.pairwise_singleton _ _
    · exact .nil
  · rintro ⟨key, path, field⟩
    simp

theorem points_flowInsideBranch (scenario : Scenario) :
    scenario.Points ((scenario.commandIssues.filter
      (Issue.hasCode "INLINE_COMMAND_NOT_ALLOWED")).map Issue.report) scenario.FlowInsideBranchAt := by
  refine (points_commands Visit.isFlowInsideBranch ?_ ?_).congr ?_
  · intro key visit hmarked
    obtain ⟨move, hcommand, hnested⟩ := Visit.isFlowInsideBranch_iff.1 hmarked
    exact ⟨_, issue?_eq_some_iff.2 (.inl ⟨move, hcommand, hnested, rfl⟩), rfl,
      address?_flowInsideBranch key move.name visit.path⟩
  · intro key visit issue hissue hcode
    rcases issue?_eq_some_iff.1 hissue with ⟨move, hcommand, hnested, _⟩ | ⟨choice, _, _, rfl⟩
    · exact Visit.isFlowInsideBranch_iff.2 ⟨move, hcommand, hnested⟩
    · exact absurd hcode (show "EMPTY_CHOICE" ≠ "INLINE_COMMAND_NOT_ALLOWED" by decide)
  · rintro ⟨key, path, field⟩
    simp only [Visit.isFlowInsideBranch_iff]
    constructor
    · rintro ⟨_, hcommand, ⟨move, rfl, hnested⟩, hfield⟩
      exact ⟨move, hcommand, hnested, hfield⟩
    · rintro ⟨move, hcommand, hnested, hfield⟩
      exact ⟨_, hcommand, ⟨move, rfl, hnested⟩, hfield⟩

theorem points_emptyChoice (scenario : Scenario) :
    scenario.Points ((scenario.commandIssues.filter
      (Issue.hasCode "EMPTY_CHOICE")).map Issue.report) scenario.EmptyChoiceAt := by
  refine (points_commands Visit.isEmptyChoice ?_ ?_).congr ?_
  · intro key visit hmarked
    obtain ⟨choice, hcommand, hempty⟩ := Visit.isEmptyChoice_iff.1 hmarked
    exact ⟨_, issue?_eq_some_iff.2 (.inr ⟨choice, hcommand, hempty, rfl⟩), rfl,
      address?_emptyChoice key visit.path⟩
  · intro key visit issue hissue hcode
    rcases issue?_eq_some_iff.1 hissue with ⟨move, _, _, rfl⟩ | ⟨choice, hcommand, hempty, _⟩
    · exact absurd hcode (show "INLINE_COMMAND_NOT_ALLOWED" ≠ "EMPTY_CHOICE" by decide)
    · exact Visit.isEmptyChoice_iff.2 ⟨choice, hcommand, hempty⟩
  · rintro ⟨key, path, field⟩
    simp only [Visit.isEmptyChoice_iff]
    constructor
    · rintro ⟨_, hcommand, ⟨choice, rfl, hempty⟩, hfield⟩
      exact ⟨choice, hcommand, hempty, hfield⟩
    · rintro ⟨choice, hcommand, hempty, hfield⟩
      exact ⟨_, hcommand, ⟨choice, rfl, hempty⟩, hfield⟩

end Scenario

/-- **Structural issues.** The reports of missing scenes, of commands that branches refuse and of choices
without options point to the places in the scenario that have these issues, to each place once and in
the order of the walk; a missing scene is reported with its key. No two reports under one of these codes
show the same scene and the same way. -/
theorem structural_issues_exact (scenario : Scenario) (roots : List String) :
    scenario.Points (scenario.reported roots "MISSING_SCENE_REF")
        (fun a => ∃ target, scenario.SceneMissingAt a target) ∧
      (∀ report ∈ scenario.reported roots "MISSING_SCENE_REF", ∃ a target,
        report.address? = some a ∧ report.context.get? "referenced_id" = some target ∧
          scenario.SceneMissingAt a target) ∧
      scenario.Points (scenario.reported roots "INLINE_COMMAND_NOT_ALLOWED")
        scenario.FlowInsideBranchAt ∧
      scenario.Points (scenario.reported roots "EMPTY_CHOICE") scenario.EmptyChoiceAt ∧
      ∀ code ∈ ["MISSING_SCENE_REF", "INLINE_COMMAND_NOT_ALLOWED", "EMPTY_CHOICE"],
        ((scenario.reported roots code).map Report.whereabouts).Nodup := by
  have hmissing : scenario.Points (scenario.reported roots "MISSING_SCENE_REF")
      fun a => ∃ target, scenario.SceneMissingAt a target := by
    rw [scenario.reported_references]
    exact scenario.points_references
  have hinside : scenario.Points (scenario.reported roots "INLINE_COMMAND_NOT_ALLOWED")
      scenario.FlowInsideBranchAt := by
    rw [scenario.reported_commands roots (.inl rfl)]
    exact scenario.points_flowInsideBranch
  have hempty : scenario.Points (scenario.reported roots "EMPTY_CHOICE") scenario.EmptyChoiceAt := by
    rw [scenario.reported_commands roots (.inr rfl)]
    exact scenario.points_emptyChoice
  refine ⟨hmissing, ?_, hinside, hempty, ?_⟩
  · intro report hreport
    rw [scenario.reported_references] at hreport
    exact Scenario.exists_of_mem_references hreport
  · intro code hcode
    simp only [List.mem_cons, List.not_mem_nil, or_false] at hcode
    rcases hcode with rfl | rfl | rfl
    · exact hmissing.nodup
    · exact hinside.nodup
    · exact hempty.nodup

end VisualNovel
