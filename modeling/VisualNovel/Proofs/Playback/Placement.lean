import VisualNovel.Proofs.Playback.Session

/-!
# Every playthrough stands at a place

`Head.Valid` is what a play head needs to be played on from: scenes that exist, indices that are not
negative, and no more open calls than allowed. No request loses it (`Moves.valid`), so a return always
finds the scene its call named, however long ago, and a saved game can always be loaded.
-/

namespace VisualNovel

open Playback

/-- A play head that can be played on from. -/
structure Head.Valid (scenario : Scenario) (h : Head) : Prop where
  scene : ∀ key, h.scene = some key → scenario.hasScene key
  index : 0 ≤ h.index
  depth : h.stack.length ≤ maxCallDepth
  frames : ∀ frame ∈ h.stack, scenario.hasScene frame.scene ∧ 0 ≤ frame.resume

variable {scenario : Scenario} {p : Playback}

/-! ## Saved games -/

theorem Frame.check_eq_ok_iff {frames : List Frame} :
    Frame.check scenario frames = .ok () ↔
      ∀ frame ∈ frames, scenario.hasScene frame.scene ∧ 0 ≤ frame.resume := by
  induction frames with
  | nil => simp [Frame.check]
  | cons frame rest ih =>
    unfold Frame.check
    rw [List.forall_mem_cons, ← ih]
    by_cases hk : scenario.hasScene frame.scene
    · by_cases hi : frame.resume < 0
      · simp [hk, hi, Int.not_le.2 hi]
      · simp [hk, hi, Int.not_lt.1 hi]
    · simp [hk]

/-- A saved game passes the checks of loading exactly when its play head is valid. -/
theorem SaveData.check_eq_ok_iff {data : SaveData} :
    data.check scenario = .ok () ↔ (savedHead data).Valid scenario := by
  have hscene : (∀ key, (savedHead data).scene = some key → scenario.hasScene key) ↔
      data.scene = "" ∨ scenario.hasScene data.scene := by
    unfold savedHead
    by_cases h : data.scene = "" <;> simp [h]
  constructor
  · intro h
    unfold SaveData.check at h
    split at h
    · cases h
    · split at h
      · cases h
      · split at h
        · cases h
        · next hs hi hd =>
          refine ⟨hscene.2 ?_, Int.not_lt.1 hi, Nat.not_lt.1 hd, Frame.check_eq_ok_iff.1 h⟩
          by_cases he : data.scene = ""
          · exact .inl he
          · exact .inr (by simpa [he] using hs)
  · intro ⟨hs, hi, hd, hf⟩
    have hi' : ¬data.index < 0 := Int.not_lt.2 hi
    have hd' : ¬maxCallDepth < data.stack.length := Nat.not_lt.2 hd
    unfold SaveData.check
    rw [if_neg, if_neg hi', if_neg hd']
    · exact Frame.check_eq_ok_iff.2 hf
    · rcases hscene.1 hs with he | hk
      · simp [he]
      · simp [hk]

theorem valid_savedHead_save (h : p.head.Valid scenario) (slot : Int) :
    (savedHead (p.save slot)).Valid scenario := by
  refine ⟨?_, h.index, h.depth, h.frames⟩
  intro key hkey
  exact h.scene key (scene_of_savedHead_save hkey)

/-- A game saved at a valid place passes the checks of loading. -/
theorem check_save (h : p.head.Valid scenario) (slot : Int) :
    (p.save slot).check scenario = .ok () :=
  SaveData.check_eq_ok_iff.2 (valid_savedHead_save h slot)

theorem result_load_of_check {data : SaveData} (h : data.check scenario = .ok ()) :
    (p.load scenario data).result = .ok () := by
  unfold load
  rw [h]

/-! ## Requests keep the place valid -/

theorem valid_headAt {key : String} {stack : List Frame} (known : scenario.hasScene key)
    (depth : stack.length ≤ maxCallDepth)
    (frames : ∀ frame ∈ stack, scenario.hasScene frame.scene ∧ 0 ≤ frame.resume) :
    (headAt key stack).Valid scenario := by
  refine ⟨?_, Int.le_refl 0, depth, frames⟩
  rintro _ ⟨rfl⟩
  exact known

/-- Every move on the list leads from a valid place to a valid place. -/
theorem Playback.Moves.valid {request : Request} {after : Head} (hp : p.head.Valid scenario)
    (h : Moves scenario p request after) : after.Valid scenario := by
  have hindex : 0 ≤ p.index := hp.index
  have hdepth : p.stack.length ≤ maxCallDepth := hp.depth
  cases h with
  | stay => exact hp
  | start known => exact valid_headAt known hp.depth hp.frames
  | advance =>
    refine ⟨hp.scene, ?_, hp.depth, hp.frames⟩
    show 0 ≤ p.index + 1
    omega
  | jump known => exact valid_headAt known hp.depth hp.frames
  | select _ _ known => exact valid_headAt known hp.depth hp.frames
  | follow _ known => exact valid_headAt known hp.depth hp.frames
  | call _ known returns room =>
    refine valid_headAt known ?_ ?_
    · rw [List.length_append, List.length_singleton]
      exact room
    · intro frame hframe
      rcases List.mem_append.1 hframe with hold | hnew
      · exact hp.frames frame hold
      · rw [List.mem_singleton.1 hnew]
        exact ⟨returns, by show 0 ≤ p.index + 1; omega⟩
  | @back frame _ top known =>
    have hresume : 0 ≤ frame.resume := (hp.frames frame (List.mem_of_getLast? top)).2
    refine ⟨by rintro _ ⟨rfl⟩; exact known, hresume, ?_, ?_⟩
    · show p.stack.dropLast.length ≤ maxCallDepth
      rw [List.length_dropLast]
      omega
    · intro f hf
      exact hp.frames f ((List.dropLast_sublist _).subset hf)
  | @strand frame _ top missing =>
    -- the frames of a valid place exist
    exact absurd (hp.frames frame (List.mem_of_getLast? top)).1 missing
  | load fits => exact SaveData.check_eq_ok_iff.1 fits

theorem valid_created (scenario : Scenario) (backlog : Backlog) (unlocks : Unlocks) :
    (head { backlog, unlocks }).Valid scenario where
  scene := by intro key h; cases h
  index := Int.le_refl 0
  depth := Nat.zero_le _
  frames := by intro frame h; cases h

variable {s : Session} {allowed : Session → Request → Prop}

theorem Session.Reached.valid_and_fit (h : s.Reached scenario allowed) :
    s.playback.head.Valid scenario ∧ ∀ data ∈ s.saves, data.check scenario = .ok () := by
  refine h.invariant (fun p => p.head.Valid scenario) (fun data => data.check scenario = .ok ())
    (valid_created scenario) ?_ ?_
  · intro p slot hp
    exact check_save hp slot
  · intro s request hp _ _
    exact (moves_respond scenario s.playback request).valid hp

/-- A playthrough stands at a valid place after any requests. -/
theorem Session.Reached.valid (h : s.Reached scenario allowed) : s.playback.head.Valid scenario :=
  h.valid_and_fit.1

/-- The games saved in a session pass the checks of loading. -/
theorem Session.Reached.saves_fit (h : s.Reached scenario allowed) :
    ∀ data ∈ s.saves, data.check scenario = .ok () :=
  h.valid_and_fit.2

/-! ## Returns and saved games -/

/-- From a valid place, a return with an open call goes where the call named. -/
theorem execute_back (hp : p.head.Valid scenario)
    (current : p.currentCommand? scenario = some (.flow .back)) (hopen : p.stack ≠ []) :
    ∃ rest frame signal, p.stack = rest ++ [frame] ∧ (p.execute scenario).result = .ok signal ∧
      (p.execute scenario).state.head = ⟨some frame.scene, frame.resume, rest⟩ := by
  obtain ⟨rest, frame, hstack⟩ : ∃ rest frame, p.stack = rest ++ [frame] :=
    ⟨_, _, (List.dropLast_concat_getLast hopen).symm⟩
  have top : p.stack.getLast? = some frame := by rw [hstack, List.getLast?_concat]
  have known : scenario.hasScene frame.scene := (hp.frames frame (List.mem_of_getLast? top)).1
  obtain ⟨target, ht⟩ := Scenario.hasScene_iff.1 known
  have hexec : p.execute scenario = p.back scenario := by
    unfold execute
    rw [current]
    rfl
  rw [hexec, back_known top ht]
  refine ⟨rest, frame, _, hstack, rfl, ?_⟩
  rw [hstack, List.dropLast_concat]
  rfl

/-- **Placement.** After any requests, successful or not, the current scene and the scenes of all open
calls exist, indices are not negative and at most a hundred calls are open. So a return with an open
call never fails, and a game saved there can be loaded by every playthrough of the scenario. -/
theorem placement_of_reached (h : s.Reached scenario Session.anyRequest) :
    (∀ key, s.playback.scene = some key → scenario.hasScene key) ∧ 0 ≤ s.playback.index ∧
      s.playback.stack.length ≤ 100 ∧
      (∀ frame ∈ s.playback.stack, scenario.hasScene frame.scene ∧ 0 ≤ frame.resume) ∧
      (s.playback.currentCommand? scenario = some (.flow .back) → s.playback.stack ≠ [] →
        ∃ rest frame signal, s.playback.stack = rest ++ [frame] ∧
          (s.playback.execute scenario).result = .ok signal ∧
          (s.playback.execute scenario).state.head = ⟨some frame.scene, frame.resume, rest⟩) ∧
      ∀ (slot : Int) (q : Playback), (q.load scenario (s.playback.save slot)).result = .ok () := by
  have hv := h.valid
  refine ⟨hv.scene, hv.index, hv.depth, hv.frames, ?_, ?_⟩
  · exact execute_back hv
  · intro slot q
    exact result_load_of_check (check_save hv slot)

/-- At the end of the cellar a return stands at the play head and one call is open. -/
theorem placement_in_cellar :
    Sample.inCellar.Reached Sample.story Session.anyRequest ∧
      Sample.inCellar.playback.currentCommand? Sample.story = some (.flow .back) ∧
      Sample.inCellar.playback.stack = [⟨"hall", 3⟩] ∧
      ∃ rest frame signal, Sample.inCellar.playback.stack = rest ++ [frame] ∧
        (Sample.inCellar.playback.execute Sample.story).result = .ok signal ∧
        (Sample.inCellar.playback.execute Sample.story).state.head =
          ⟨some frame.scene, frame.resume, rest⟩ :=
  have reached := Sample.inCellar_reached fun _ _ _ => trivial
  ⟨reached, rfl, rfl, (placement_of_reached reached).2.2.2.2.1 rfl (List.cons_ne_nil _ _)⟩

end VisualNovel
