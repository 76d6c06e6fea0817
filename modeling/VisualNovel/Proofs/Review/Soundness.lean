import VisualNovel.Proofs.Playback.Placement
import VisualNovel.Proofs.Review.Walk

/-!
# A review without errors

1. A review that reports no error makes sure that every scene which play can ask for exists and that no
   branch holds a command that moves the play head (`wellFormed_of_review`).
2. In such a scenario, commands, choices and games saved on the way never meet a missing scene or a
   refused command (`playable_respond`): the stack holds only scenes that exist, because every playthrough
   stands at a valid place.
-/

namespace VisualNovel

open Command Playback

/-! ## Scenarios without flaws -/

/-- The scenes that a command at the top of a scene leads to. -/
def Command.targets : Command → List String
  | .flow (.jump key) => [key]
  | .flow (.call key returnScene) => [key, returnScene]
  | .offer choice => choice.options.map ChoiceOption.nextScene
  | _ => []

/-- Every scene that is named exists, and no command inside a branch moves the play head. -/
structure Scenario.WellFormed (scenario : Scenario) : Prop where
  start : scenario.hasScene scenario.startScene
  targets : ∀ key scene, scenario.scene? key = some scene → ∀ command ∈ scene.commands,
    ∀ target ∈ command.targets, scenario.hasScene target
  branches : ∀ key scene, scenario.scene? key = some scene → ∀ condition thenDo elseDo,
    .branch condition thenDo elseDo ∈ scene.commands →
      ∀ move, ¬(flow move).OccursIn thenDo ∧ ¬(flow move).OccursIn elseDo

variable {scenario : Scenario} {roots : List String}

/-- At the top of a scene, the walk finds the scenes that a command leads to. -/
theorem targets_references (command : Command) (index : Nat) :
    (Visit.references ⟨⟨index, []⟩, command⟩).map Reference.target = command.targets := by
  cases command with
  | flow move => cases move <;> rfl
  | offer choice =>
    show (choice.options.zipIdx.map _).map Reference.target = choice.options.map ChoiceOption.nextScene
    rw [List.map_map]
    conv => rhs; rw [← List.zipIdx_map_fst 0 choice.options, List.map_map]
    rfl
  | _ => rfl

theorem mem_references_of_targets {scene : Scene} {command : Command} {target : String}
    (hc : command ∈ scene.commands) (ht : target ∈ command.targets) :
    ∃ reference ∈ scene.references, reference.target = target := by
  obtain ⟨index, hv⟩ := Scene.mem_visits_of_mem hc
  rw [← targets_references command index] at ht
  obtain ⟨reference, hr, rfl⟩ := List.mem_map.1 ht
  exact ⟨reference, List.mem_flatMap.2 ⟨_, hv, hr⟩, rfl⟩

theorem mem_referenceIssues {key : String} {scene : Scene} {reference : Reference}
    (hs : scenario.scene? key = some scene) (hr : reference ∈ scene.references)
    (missing : ¬scenario.hasScene reference.target) :
    .sceneMissing key reference ∈ scenario.referenceIssues := by
  unfold Scenario.referenceIssues
  refine List.mem_flatMap.2 ⟨(key, scene), Scenario.mem_entries_of_scene? hs, ?_⟩
  refine List.mem_map.2 ⟨reference, List.mem_filter.2 ⟨hr, ?_⟩, rfl⟩
  simpa using missing

theorem mem_sceneIssues {key : String} {scene : Scene} {visit : Visit} {issue : Issue}
    (hs : scenario.scene? key = some scene) (hv : visit ∈ scene.visits)
    (hi : visit.issue? key = some issue) : issue ∈ scenario.sceneIssues := by
  unfold Scenario.sceneIssues
  refine List.mem_flatMap.2 ⟨(key, scene), Scenario.mem_entries_of_scene? hs, ?_⟩
  exact List.mem_append_right _ (List.mem_filterMap.2 ⟨visit, hv, hi⟩)

/-- **What a review without errors says about a scenario.** -/
theorem wellFormed_of_review
    (clean : ∀ issue ∈ scenario.review roots, issue.report.severity ≠ "ERROR") :
    scenario.WellFormed where
  start := by
    by_cases h : scenario.hasScene scenario.startScene
    · exact h
    · have hmem : .startSceneMissing scenario.startScene ∈ scenario.startIssues := by
        unfold Scenario.startIssues
        rw [if_neg h]
        exact List.mem_singleton_self _
      exact absurd rfl (clean _ (mem_review.2 (.inl hmem)))
  targets := by
    intro key scene hs command hc target ht
    obtain ⟨reference, hr, rfl⟩ := mem_references_of_targets hc ht
    by_cases h : scenario.hasScene reference.target
    · exact h
    · have hmem := mem_referenceIssues hs hr h
      exact absurd rfl (clean _ (mem_review.2 (.inr (.inr (.inl hmem)))))
  branches := by
    intro key scene hs condition thenDo elseDo hb move
    have hnone : ¬((flow move).OccursIn thenDo ∨ (flow move).OccursIn elseDo) := by
      intro h
      obtain ⟨visit, hv, hc, hn⟩ := Scene.exists_nested_visit hb h
      have hi : visit.issue? key = some (.flowInsideBranch key visit.path move.name) := by
        unfold Visit.issue?
        rw [hc]
        exact if_pos hn
      have hmem := mem_sceneIssues hs hv hi
      exact absurd rfl (clean _ (mem_review.2 (.inr (.inl hmem))))
    exact not_or.1 hnone

/-! ## Playing them -/

/-- A scene is missing, or a branch holds a command that moves the play head. -/
def Fault.isStructural : Fault → Bool
  | .startSceneMissing _ | .sceneMissing _ | .returnSceneMissing _ | .savedSceneMissing _
  | .flowInsideBranch _ => true
  | _ => false

/-- The outcome is no structural fault. -/
abbrev Outcome.Playable {σ α : Type} (o : Outcome σ α) : Prop :=
  o.Meets (fun _ => True) (fun fault => fault.isStructural = false)

open Outcome

variable {p : Playback}

/-- A branch without commands that move the play head can be run. -/
theorem playable_runAll {commands : List Command} (h : ∀ move, ¬(flow move).OccursIn commands)
    (memory : Memory) : (memory.runAll commands).Playable := by
  refine Memory.meets_runAll (fun _ => rfl) commands memory trivial fun inner ho hb m _ => ?_
  cases inner with
  | branch condition thenDo elseDo => exact absurd ⟨_, _, _, rfl⟩ hb
  | flow move => exact absurd ho (h move)
  | modifyVariable name operation =>
    unfold Memory.run
    split
    · exact meets_done trivial
    · exact meets_fail trivial rfl
  | _ => unfold Memory.run; exact meets_ok trivial

theorem playable_jump {key : String} (h : scenario.hasScene key) :
    (p.jump scenario key).Playable := by
  obtain ⟨target, ht⟩ := Scenario.hasScene_iff.1 h
  rw [jump_known ht]
  exact meets_ok trivial

theorem playable_call {key returnScene : String} (hk : scenario.hasScene key)
    (hr : scenario.hasScene returnScene) : (p.call scenario key returnScene).Playable := by
  by_cases room : p.stack.length < maxCallDepth
  · rw [call_known hk hr room]
    exact (playable_jump hk).report _
  · have hfull : p.call scenario key returnScene = .fail p .callsTooDeep := by
      unfold call
      simp only [hr, Bool.not_true, Bool.false_eq_true, if_false, Nat.not_lt.1 room, if_true]
    rw [hfull]
    exact meets_fail trivial rfl

/-- The scenes on the stack of a valid place exist, so a return finds its scene. -/
theorem playable_back (hp : p.head.Valid scenario) : (p.back scenario).Playable := by
  cases top : p.stack.getLast? with
  | none =>
    rw [back_empty top]
    exact meets_fail trivial rfl
  | some frame =>
    have known : scenario.hasScene frame.scene := (hp.frames frame (List.mem_of_getLast? top)).1
    obtain ⟨target, ht⟩ := Scenario.hasScene_iff.1 known
    rw [back_known top ht]
    exact meets_ok trivial

theorem playable_branch {condition : Condition} {thenDo elseDo : List Command}
    (h : ∀ move, ¬(flow move).OccursIn thenDo ∧ ¬(flow move).OccursIn elseDo) :
    (p.branch condition thenDo elseDo).Playable := by
  unfold Playback.branch
  split
  · exact meets_fail trivial rfl
  · next answer _ =>
    have hrun : (p.memory.runAll (if answer then thenDo else elseDo)).Playable := by
      apply playable_runAll
      intro move
      cases answer
      · exact (h move).2
      · exact (h move).1
    exact ⟨trivial, (hrun.map fun _ => Signal.proceed).fault⟩

theorem playable_offer (choice : Choice) : (p.offer choice).Playable := by
  unfold Playback.offer
  split
  · exact meets_fail trivial rfl
  · exact meets_fail trivial rfl
  · exact meets_done trivial

theorem playable_execute (hw : scenario.WellFormed) (hp : p.head.Valid scenario) :
    (p.execute scenario).Playable := by
  unfold execute
  cases current : p.currentCommand? scenario with
  | none => exact meets_fail trivial rfl
  | some command =>
    obtain ⟨key, scene, hs, hc⟩ := mem_commands_of_current current
    have known : ∀ target ∈ command.targets, scenario.hasScene target :=
      hw.targets key scene hs command hc
    cases command with
    | flow move =>
      cases move with
      | jump key => exact playable_jump (known key (by simp [targets]))
      | call key returnScene =>
        exact playable_call (known key (by simp [targets])) (known returnScene (by simp [targets]))
      | back => exact playable_back hp
      | finish => exact meets_done trivial
    | branch condition thenDo elseDo =>
      exact playable_branch (hw.branches key scene hs condition thenDo elseDo hc)
    | modifyVariable name operation =>
      show (p.modifyVariable name operation).Playable
      unfold Playback.modifyVariable
      split
      · exact meets_done trivial
      · exact meets_fail trivial rfl
    | offer choice => exact playable_offer choice
    | unknown text => exact meets_fail trivial rfl
    | _ => exact meets_ok trivial

theorem playable_select (hw : scenario.WellFormed) (index : Int) :
    (p.select scenario index).Playable := by
  unfold select
  cases current : p.currentCommand? scenario with
  | none => exact meets_fail trivial rfl
  | some command =>
    obtain ⟨key, scene, hs, hc⟩ := mem_commands_of_current current
    cases command with
    | offer choice =>
      simp only
      split
      · exact meets_fail trivial (Fault.apply_showing Fault.isStructural rfl rfl)
      · next option hsel =>
        have offered : option ∈ choice.options := mem_of_index hsel
        exact playable_jump (hw.targets key scene hs _ hc _ (List.mem_map_of_mem offered))
    | _ => exact meets_fail trivial rfl

/-- Whatever the host asks, short of jumping on its own or loading a foreign game, meets no structural
fault. -/
theorem playable_respond (hw : scenario.WellFormed) (hp : p.head.Valid scenario) {request : Request}
    (noJump : ∀ key, request ≠ .jump key)
    (fits : ∀ data, request = .load data → data.check scenario = .ok ()) :
    (p.respond scenario request).Playable := by
  cases request with
  | start =>
    refine Meets.map ?_ _
    unfold start
    rw [if_pos hw.start]
    exact meets_ok trivial
  | execute => exact (playable_execute hw hp).map _
  | select index => exact (playable_select hw index).map _
  | jump key => exact absurd rfl (noJump key)
  | load data =>
    refine Meets.map ?_ _
    unfold load
    rw [fits data rfl]
    exact meets_ok trivial
  | eval condition =>
    refine Meets.map ?_ _
    unfold eval
    split
    · exact meets_done trivial
    · exact meets_fail trivial rfl
  | _ => exact meets_done trivial

/-! ## Sessions -/

/-- Lets the host play, and load only games saved in this session. -/
def Session.scripted (s : Session) (request : Request) : Prop :=
  s.ownSaves request ∧ ∀ key, request ≠ .jump key

/-- **Soundness of reviews.** If a review of a scenario reports no error, then no request of a host that
plays it, saving and loading its own games, ever fails because a scene is missing or because a command
cannot be executed inside a branch. -/
theorem no_structural_fault {s : Session} {request : Request}
    (clean : ∀ issue ∈ scenario.review roots, issue.report.severity ≠ "ERROR")
    (hs : s.Reached scenario Session.scripted) (asked : s.scripted request) :
    ∀ fault, (s.playback.respond scenario request).result = .error fault →
      fault.isStructural = false := by
  have hw := wellFormed_of_review clean
  have fits : ∀ data, request = .load data → data.check scenario = .ok () := by
    intro data hload
    exact hs.saves_fit data (asked.1 data hload)
  exact (playable_respond hw hs.valid asked.2 fits).fault

/-- Down in the cellar, loading the game that was saved there meets no structural fault. -/
theorem no_structural_fault_in_cellar :
    (∀ issue ∈ Sample.story.review [], issue.report.severity ≠ "ERROR") ∧
      Sample.inCellar.Reached Sample.story Session.scripted ∧
      ∃ data, Sample.inCellar.scripted (.load data) ∧
        ∀ fault, (Sample.inCellar.playback.respond Sample.story (.load data)).result = .error fault →
          fault.isStructural = false := by
  have clean : ∀ issue ∈ Sample.story.review [], issue.report.severity ≠ "ERROR" := by
    rw [Sample.review_story]
    intro issue h
    cases h
  have reached : Sample.inCellar.Reached Sample.story Session.scripted := by
    refine Sample.inCellar_reached fun request hrequest s => ?_
    obtain ⟨noLoad, noJump, _⟩ := Sample.wayDown_plain request hrequest
    exact ⟨fun data h => absurd h (noLoad data), noJump⟩
  have asked : Sample.inCellar.scripted (.load (Sample.inCellar.playback.save 1)) := by
    refine ⟨?_, fun key h => by cases h⟩
    rintro data ⟨rfl⟩
    exact List.mem_cons_self
  exact ⟨clean, reached, _, asked, no_structural_fault clean reached asked⟩

end VisualNovel
