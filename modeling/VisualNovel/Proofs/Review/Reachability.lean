import VisualNovel.Proofs.Review.KindTable
import VisualNovel.Proofs.Review.Soundness

/-!
# Reachability covers every run

1. The search finds exactly the scenes to which references lead from the start scene and the further
   roots (`mem_explore_iff`), so a review reports exactly the other ones (`unreachable_mem_review_iff`).
2. Play never leaves the scenes to which references lead (`Moves.within`). A return goes to a scene that
   its call has named, and an option that is not shown is still a reference. The walk leaves out what
   stands inside branches, and play does not go there either, since branches refuse commands that move the
   play head.
-/

namespace VisualNovel

open Command Playback

/-! ## The search -/

namespace Reachability

/-- The known keys to which targets lead from the roots. -/
inductive LeadsTo (known : List String) (targets : String → List String) (roots : List String) :
    String → Prop
  | root {key : String} (isRoot : key ∈ roots) (isKnown : key ∈ known) :
      LeadsTo known targets roots key
  | target {key next : String} (before : LeadsTo known targets roots key)
      (isTarget : next ∈ targets key) (isKnown : next ∈ known) : LeadsTo known targets roots next

variable {known : List String} {targets : String → List String} {roots visited stack : List String}
  {key : String}

theorem subset_explore (h : key ∈ visited) : key ∈ explore known targets visited stack := by
  fun_induction explore known targets visited stack with
  | case1 => exact h
  | case2 visited first stack fresh ih => exact ih (List.mem_cons_of_mem _ h)
  | case3 visited first stack stale ih => exact ih h

theorem mem_explore_of_mem_stack (h : key ∈ stack) (isKnown : key ∈ known) :
    key ∈ explore known targets visited stack := by
  fun_induction explore known targets visited stack with
  | case1 => cases h
  | case2 visited first stack fresh ih =>
    rcases List.mem_cons.1 h with rfl | hrest
    · exact subset_explore List.mem_cons_self
    · exact ih (List.mem_append_right _ hrest)
  | case3 visited first stack stale ih =>
    rcases List.mem_cons.1 h with rfl | hrest
    · have hvisited : key ∈ visited := by simpa [isKnown] using stale
      exact subset_explore hvisited
    · exact ih hrest

/-- Nothing is found without a way to it. -/
theorem leadsTo_of_mem_explore (hvisited : ∀ key ∈ visited, LeadsTo known targets roots key)
    (hstack : ∀ key ∈ stack, key ∈ known → LeadsTo known targets roots key)
    (h : key ∈ explore known targets visited stack) : LeadsTo known targets roots key := by
  fun_induction explore known targets visited stack with
  | case1 => exact hvisited key h
  | case2 visited first stack fresh ih =>
    obtain ⟨hfirst, hrest⟩ := List.forall_mem_cons.1 hstack
    have found : LeadsTo known targets roots first := hfirst fresh.1
    refine ih (List.forall_mem_cons.2 ⟨found, hvisited⟩) ?_ h
    intro next hnext isKnown
    rcases List.mem_append.1 hnext with htarget | hold
    · exact .target found htarget isKnown
    · exact hrest next hold isKnown
  | case3 visited first stack stale ih =>
    exact ih hvisited (List.forall_mem_cons.1 hstack).2 h

/-- What the search keeps: the known targets of a visited key are visited or wait on the stack. -/
def Pending (known : List String) (targets : String → List String) (visited stack : List String) :
    Prop :=
  ∀ key ∈ visited, ∀ next ∈ targets key, next ∈ known → next ∈ visited ∨ next ∈ stack

theorem Pending.visit {first : String} (h : Pending known targets visited (first :: stack)) :
    Pending known targets (first :: visited) (targets first ++ stack) := by
  intro key hkey next hnext isKnown
  rcases List.mem_cons.1 hkey with rfl | hold
  · exact .inr (List.mem_append_left _ hnext)
  · rcases h key hold next hnext isKnown with hvisited | hstack
    · exact .inl (List.mem_cons_of_mem _ hvisited)
    · rcases List.mem_cons.1 hstack with rfl | hrest
      · exact .inl List.mem_cons_self
      · exact .inr (List.mem_append_right _ hrest)

theorem Pending.skip {first : String} (h : Pending known targets visited (first :: stack))
    (stale : ¬(first ∈ known ∧ first ∉ visited)) : Pending known targets visited stack := by
  intro key hkey next hnext isKnown
  rcases h key hkey next hnext isKnown with hvisited | hstack
  · exact .inl hvisited
  · rcases List.mem_cons.1 hstack with rfl | hrest
    · exact .inl (by simpa [isKnown] using stale)
    · exact .inr hrest

/-- When the stack is empty nothing waits, so what was found leads nowhere else. -/
theorem explore_closed (h : Pending known targets visited stack) :
    Pending known targets (explore known targets visited stack) [] := by
  fun_induction explore known targets visited stack with
  | case1 => exact h
  | case2 visited first stack fresh ih => exact ih h.visit
  | case3 visited first stack stale ih => exact ih (h.skip stale)

/-- **The search is exact.** -/
theorem mem_explore_iff :
    key ∈ explore known targets [] roots ↔ LeadsTo known targets roots key := by
  constructor
  · refine leadsTo_of_mem_explore ?_ fun key isRoot isKnown => .root isRoot isKnown
    intro key h
    cases h
  · intro h
    have closed : Pending known targets (explore known targets [] roots) [] := by
      apply explore_closed
      intro key hkey
      cases hkey
    induction h with
    | root isRoot isKnown => exact mem_explore_of_mem_stack isRoot isKnown
    | target _ isTarget isKnown ih =>
      exact (closed _ ih _ isTarget isKnown).resolve_right List.not_mem_nil

end Reachability

/-! ## What a review reports -/

namespace Scenario

variable {scenario : Scenario} {roots : List String} {key : String}

/-- The scenes to which references lead from the start scene and the further roots. -/
abbrev LeadsTo (scenario : Scenario) (roots : List String) : String → Prop :=
  Reachability.LeadsTo scenario.scenes.keys scenario.targets (scenario.startScene :: roots)

theorem mem_keys_iff : key ∈ scenario.scenes.keys ↔ scenario.hasScene key := by
  rw [hasScene_iff]
  exact OrderedMap.mem_keys_iff

/-- The scenes that cannot be reached are those that exist without a way to them. -/
theorem mem_unreachable_iff :
    key ∈ scenario.unreachable roots ↔ scenario.hasScene key ∧ ¬scenario.LeadsTo roots key := by
  unfold unreachable
  rw [SortedSet.mem_toList, SortedSet.mem_ofList, List.mem_filter, mem_keys_iff, decide_eq_true_iff]
  unfold reachable
  rw [Reachability.mem_explore_iff]

/-- A command at the top of a scene leads from it. -/
theorem LeadsTo.of_targets {scene : Scene} {command : Command} {target : String}
    (before : scenario.LeadsTo roots key) (hs : scenario.scene? key = some scene)
    (hc : command ∈ scene.commands) (ht : target ∈ command.targets)
    (known : scenario.hasScene target) : scenario.LeadsTo roots target := by
  obtain ⟨reference, hr, rfl⟩ := mem_references_of_targets hc ht
  refine .target before ?_ (mem_keys_iff.2 known)
  unfold targets
  rw [hs]
  exact List.mem_map_of_mem hr

end Scenario

variable {scenario : Scenario} {roots : List String}

/-- What is wrong with a command where it stands is not about reachability. -/
theorem issue?_ne_unreachable (visit : Visit) (scene key : String) :
    visit.issue? scene ≠ some (.unreachable key) := by
  unfold Visit.issue?
  intro h
  split at h
  · split at h <;> cases h
  · split at h <;> cases h
  · cases h

/-- A review reports exactly the scenes that exist without a way to them. -/
theorem unreachable_mem_review_iff {key : String} :
    .unreachable key ∈ scenario.review roots ↔
      scenario.hasScene key ∧ ¬scenario.LeadsTo roots key := by
  have hstart : .unreachable key ∉ scenario.startIssues := by
    unfold Scenario.startIssues
    split <;> simp
  have hscene : .unreachable key ∉ scenario.sceneIssues := by
    simp [Scenario.sceneIssues, issue?_ne_unreachable]
  have hreference : .unreachable key ∉ scenario.referenceIssues := by
    simp [Scenario.referenceIssues]
  have hkind : .unreachable key ∉ scenario.kindIssues := by
    simp [Scenario.kindIssues_eq]
  rw [mem_review, ← Scenario.mem_unreachable_iff]
  simp [hstart, hscene, hreference, hkind]

/-- Only scenes that cannot be reached are reported as such, under their key. -/
theorem eq_unreachable_of_code {issue : Issue} (h : issue.report.code = "UNREACHABLE_SCENE") :
    ∃ key, issue = .unreachable key ∧ issue.report.context.get? "scene_id" = some key := by
  cases issue with
  | unreachable key => exact ⟨key, rfl, rfl⟩
  | _ => simp [Issue.report, Report.error, Report.warning] at h

/-! ## Where play goes -/

/-- The current scene and the scenes of the open calls are scenes to which references lead. -/
structure Head.Within (scenario : Scenario) (roots : List String) (h : Head) : Prop where
  scene : ∀ key, h.scene = some key → scenario.LeadsTo roots key
  frames : ∀ frame ∈ h.stack, scenario.LeadsTo roots frame.scene

variable {p : Playback}

theorem within_headAt {key : String} {stack : List Frame} (leads : scenario.LeadsTo roots key)
    (frames : ∀ frame ∈ stack, scenario.LeadsTo roots frame.scene) :
    (headAt key stack).Within scenario roots := by
  refine ⟨?_, frames⟩
  rintro _ ⟨rfl⟩
  exact leads

/-- The current command leads on from the current scene. -/
theorem leadsTo_of_current {command : Command} {target : String}
    (hp : p.head.Within scenario roots) (current : p.currentCommand? scenario = some command)
    (ht : target ∈ command.targets) (known : scenario.hasScene target) :
    scenario.LeadsTo roots target := by
  obtain ⟨key, scene, hkey, hs, hc⟩ := mem_commands_of_current_scene current
  exact (hp.scene key hkey).of_targets hs hc ht known

/-- Every move on the list keeps to scenes to which references lead, if jumps of the host go to roots
and loaded games keep to them. -/
theorem Playback.Moves.within {request : Request} {after : Head} (hp : p.head.Within scenario roots)
    (rooted : ∀ key, request = .jump key → key ∈ roots)
    (loaded : ∀ data, request = .load data → (savedHead data).Within scenario roots)
    (h : Moves scenario p request after) : after.Within scenario roots := by
  cases h with
  | stay => exact hp
  | start known =>
    exact within_headAt (.root List.mem_cons_self (Scenario.mem_keys_iff.2 known)) hp.frames
  | advance => exact ⟨hp.scene, hp.frames⟩
  | @jump key known =>
    have isRoot : key ∈ scenario.startScene :: roots := List.mem_cons_of_mem _ (rooted key rfl)
    exact within_headAt (.root isRoot (Scenario.mem_keys_iff.2 known)) hp.frames
  | select current offered known =>
    -- the walk records every option, whether play shows it or not
    exact within_headAt (leadsTo_of_current hp current (List.mem_map_of_mem offered) known) hp.frames
  | follow current known =>
    exact within_headAt (leadsTo_of_current hp current (by simp [targets]) known) hp.frames
  | call current known returns _ =>
    refine within_headAt (leadsTo_of_current hp current (by simp [targets]) known) ?_
    intro frame hframe
    rcases List.mem_append.1 hframe with hold | hnew
    · exact hp.frames frame hold
    · rw [List.mem_singleton.1 hnew]
      exact leadsTo_of_current hp current (by simp [targets]) returns
  | @back frame _ top known =>
    refine ⟨?_, fun f hf => hp.frames f ((List.dropLast_sublist _).subset hf)⟩
    rintro _ ⟨rfl⟩
    exact hp.frames frame (List.mem_of_getLast? top)
  | strand _ _ _ =>
    exact ⟨hp.scene, fun f hf => hp.frames f ((List.dropLast_sublist _).subset hf)⟩
  | load _ => exact loaded _ rfl

theorem within_savedHead_save (h : p.head.Within scenario roots) (slot : Int) :
    (savedHead (p.save slot)).Within scenario roots := by
  refine ⟨?_, h.frames⟩
  intro key hkey
  exact h.scene key (scene_of_savedHead_save hkey)

/-! ## Sessions -/

/-- Lets the host play, enter roots on its own, and load only games saved in this session. -/
def Session.rooted (roots : List String) (s : Session) (request : Request) : Prop :=
  s.ownSaves request ∧ ∀ key, request = .jump key → key ∈ roots

theorem Session.Reached.within {s : Session} (h : s.Reached scenario (Session.rooted roots)) :
    s.playback.head.Within scenario roots := by
  refine (h.invariant (fun p => p.head.Within scenario roots)
    (fun data => (savedHead data).Within scenario roots) ?_ ?_ ?_).1
  · intro backlog unlocks
    constructor
    · intro key hkey
      cases hkey
    · intro frame hframe
      cases hframe
  · intro p slot hp
    exact within_savedHead_save hp slot
  · intro s request hp hsaves ⟨own, rooted⟩
    exact (moves_respond scenario s.playback request).within hp rooted
      fun data hload => hsaves data (own data hload)

/-- **Reachability.** A scene that a review reports as unreachable is never the current scene, nor the
scene of an open call, however the host plays: it may jump to the roots the review was given, and load
games saved on the way. -/
theorem never_at_unreachable {s : Session} (h : s.Reached scenario (Session.rooted roots)) :
    ∀ issue ∈ scenario.review roots, issue.report.code = "UNREACHABLE_SCENE" →
      ∃ key, issue.report.context.get? "scene_id" = some key ∧ s.playback.scene ≠ some key ∧
        ∀ frame ∈ s.playback.stack, frame.scene ≠ key := by
  intro issue hissue hcode
  obtain ⟨key, rfl, hkey⟩ := eq_unreachable_of_code hcode
  have unled : ¬scenario.LeadsTo roots key := (unreachable_mem_review_iff.1 hissue).2
  refine ⟨key, hkey, ?_, ?_⟩
  · intro hscene
    exact unled (h.within.scene key hscene)
  · rintro frame hframe rfl
    exact unled (h.within.frames frame hframe)

namespace Sample

/-- The story with an attic that leads to the hall, and to which nothing leads. -/
def storyWithAttic : Scenario :=
  { story with
    scenes := story.scenes.insert "attic" ⟨"attic", "Attic", [.flow (.jump "hall")], none, none⟩ }

/-- The session that was sent to the garden first and has then gone down. -/
def belowAttic : Session :=
  Session.after storyWithAttic ⟨{}, []⟩ (.jump "garden" :: wayDown)

theorem review_storyWithAttic : storyWithAttic.review ["garden"] = [.unreachable "attic"] := by cbv

theorem belowAttic_reached : belowAttic.Reached storyWithAttic (Session.rooted ["garden"]) := by
  refine Session.Reached.after (@Session.Reached.created _ _ {} {} {} rfl) ⟨⟨?_, ?_⟩, ?_⟩
  · intro data h
    cases h
  · rintro key ⟨rfl⟩
    exact List.mem_singleton_self _
  · refine Session.permitted_of_forall fun request hrequest s => ?_
    obtain ⟨noLoad, noJump, _⟩ := wayDown_plain request hrequest
    exact ⟨fun data h => absurd h (noLoad data), fun key h => absurd h (noJump key)⟩

end Sample

/-- Down in the cellar with a call from the hall open, play is not in the attic. -/
theorem never_at_unreachable_below_attic :
    Sample.belowAttic.Reached Sample.storyWithAttic (Session.rooted ["garden"]) ∧
      .unreachable "attic" ∈ Sample.storyWithAttic.review ["garden"] ∧
      Sample.belowAttic.playback.stack = [⟨"hall", 3⟩] ∧
      ∃ key, (Issue.unreachable "attic").report.context.get? "scene_id" = some key ∧
        Sample.belowAttic.playback.scene ≠ some key ∧
        ∀ frame ∈ Sample.belowAttic.playback.stack, frame.scene ≠ key := by
  have reported : .unreachable "attic" ∈ Sample.storyWithAttic.review ["garden"] := by
    rw [Sample.review_storyWithAttic]
    exact List.mem_singleton_self _
  exact ⟨Sample.belowAttic_reached, reported, rfl,
    never_at_unreachable Sample.belowAttic_reached _ reported rfl⟩

end VisualNovel
