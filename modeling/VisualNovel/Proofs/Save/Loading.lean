import VisualNovel.Proofs.Playback.Resume
import VisualNovel.Proofs.Save.Decoding

/-!
# Loading what was decoded, saving what was loaded

Two checks stand between a document and a playthrough: decoding checks the fields of the document, loading
checks the saved game again. What passes the first passes the second (`check_of_decode`). And a playthrough
that has just loaded a saved game saves the same game (`save_restore`).
-/

namespace VisualNovel

open Playback

/-! ## Decoded games can be loaded -/

namespace SaveData

variable {scenario : Scenario} {document : Document} {state : Fields} {data : SaveData}

theorem OptionalOf.nonneg {n : Int} (h : OptionalOf Counts 0 document n) : 0 ≤ n := by
  rcases h with ⟨-, rfl⟩ | ⟨-, -, hn⟩
  · exact Int.le_refl 0
  · exact hn

theorem Opens.known {scene : String} (h : Opens (some scenario) document scene) :
    scene = "" ∨ scenario.hasScene scene = true := by
  obtain ⟨text, -, hempty | hknows, rfl⟩ := h
  · exact .inl (Text.toString_eq_empty_iff.2 hempty)
  · exact .inr hknows.hasScene

theorem Resumes.valid {frame : Frame} (h : Resumes (some scenario) document frame) :
    scenario.hasScene frame.scene = true ∧ 0 ≤ frame.resume := by
  obtain ⟨scene, index, ⟨_, _, _, _, _, hindex⟩, hknows, rfl⟩ := h
  exact ⟨hknows.hasScene, hindex⟩

theorem frames_valid {items : List Document} {stack : List Frame}
    (h : List.Forall₂ (Resumes (some scenario)) items stack) :
    ∀ frame ∈ stack, scenario.hasScene frame.scene = true ∧ 0 ≤ frame.resume := by
  induction h with
  | nil => simp
  | cons hframe _ ih => exact List.forall_mem_cons.2 ⟨hframe.valid, ih⟩

theorem Stacks.valid {stack : List Frame} (h : Stacks (some scenario) document stack) :
    stack.length ≤ maxCallDepth ∧
      ∀ frame ∈ stack, scenario.hasScene frame.scene = true ∧ 0 ≤ frame.resume := by
  obtain ⟨items, -, hdepth, hframes⟩ := h
  exact ⟨hframes.length_eq ▸ hdepth, frames_valid hframes⟩

/-- The play head of a saved game that a state describes is valid. -/
theorem Describes.valid (h : Describes (some scenario) state data) :
    (savedHead data).Valid scenario := by
  have hstack : data.stack.length ≤ maxCallDepth ∧
      ∀ frame ∈ data.stack, scenario.hasScene frame.scene = true ∧ 0 ≤ frame.resume := by
    rcases h.stack with ⟨-, hempty⟩ | ⟨-, hstacks⟩
    · rw [hempty]
      exact ⟨Nat.zero_le _, by simp⟩
    · exact hstacks.valid
  refine ⟨?_, h.index.nonneg, hstack.1, hstack.2⟩
  intro key hkey
  unfold savedHead at hkey
  by_cases hempty : data.scene = ""
  · simp [hempty] at hkey
  · simp only [hempty, if_false, Option.some.injEq] at hkey
    rw [← hkey]
    exact h.scene.known.resolve_left hempty

theorem check_of_decode (h : decode (some scenario) document = .ok data) :
    data.check scenario = .ok () := by
  obtain ⟨_, _, -, -, -, hstate⟩ := decode_eq_ok_iff.1 h
  exact check_eq_ok_iff.2 hstate.valid

end SaveData

/-! ## Loaded games are saved as they were -/

theorem integers_ofIntegers (integers : OrderedMap Int) :
    (Variables.ofIntegers integers).integers = integers := by
  apply OrderedMap.ext
  show (integers.entries.map _).filterMap _ = integers.entries
  rw [List.filterMap_map]
  exact List.filterMap_some

variable {scenario : Scenario} {p : Playback} {data : SaveData}

/-- Saving right after taking over a saved game gives that game again, without its times. -/
theorem save_restore (data : SaveData) (p : Playback) (slot : Int) :
    (p.restore data).save slot =
      { data with slot := slot, version := saveVersion, timestamp := 0, playTime := 0 } := by
  refine SaveData.ext rfl rfl rfl rfl ?_ rfl rfl ?_ rfl rfl rfl rfl ?_
  · show (if data.scene = "" then none else some data.scene).getD "" = data.scene
    by_cases hempty : data.scene = ""
    · rw [if_pos hempty, hempty]
      rfl
    · rw [if_neg hempty]
      rfl
  · exact integers_ofIntegers data.vars
  · exact toSaved_ofSaved data.characters

theorem state_load_of_ok (h : (p.load scenario data).result = .ok ()) :
    (p.load scenario data).state = p.restore data := by
  unfold load at h ⊢
  cases hcheck : data.check scenario with
  | error fault =>
    rw [hcheck] at h
    cases h
  | ok u => rfl

/-- **Loading.** A saved game that was decoded for a scenario can be loaded by every playthrough of it,
whatever its state. A playthrough that has loaded a saved game saves that game for any slot, with the
version of saved games and without its times. -/
theorem load_and_save (scenario : Scenario) :
    (∀ document data, SaveData.decode (some scenario) document = .ok data →
      ∀ p : Playback, (p.load scenario data).result = .ok ()) ∧
    ∀ (data : SaveData) (p : Playback), (p.load scenario data).result = .ok () → ∀ slot,
      (p.load scenario data).state.save slot =
        { data with slot := slot, version := saveVersion, timestamp := 0, playTime := 0 } := by
  constructor
  · intro document data h p
    exact result_load_of_check (SaveData.check_of_decode h)
  · intro data p h slot
    rw [state_load_of_ok h]
    exact save_restore data p slot

/-- A game saved in the cellar after half a minute of play. -/
def Sample.savedGame : Document :=
  .record [("save_version", .int 1),
    ("state", .record [("slot", .int 1), ("play_time_secs", .int 30),
      ("current_scene", .string "cellar"), ("command_index", .int 1),
      ("scene_stack", .list [.record [("scene_id", .string "hall"), ("command_index", .int 3)]])])]

/-- It can be decoded, loaded by a new playthrough and saved again. -/
theorem load_and_save_in_cellar :
    ∃ data, SaveData.decode (some Sample.story) Sample.savedGame = .ok data ∧
      data.scene = "cellar" ∧ data.stack = [⟨"hall", 3⟩] ∧ data.playTime = 30 ∧
      (load Sample.story data {}).result = .ok () ∧
      (load Sample.story data {}).state.save 2 =
        { data with slot := 2, version := saveVersion, timestamp := 0, playTime := 0 } := by
  have decoded : SaveData.decode (some Sample.story) Sample.savedGame =
      .ok ⟨1, 1, 0, 30, "cellar", 1, .empty, .empty, .empty, [⟨"hall", 3⟩], none, none, .empty⟩ := by
    rfl
  obtain ⟨loads, saves⟩ := load_and_save Sample.story
  have loaded := loads _ _ decoded {}
  exact ⟨_, decoded, rfl, rfl, rfl, loaded, saves _ _ loaded 2⟩

/-! ## What loading replaces -/

/-- **Loading replaces.** Two playthroughs that have loaded the same game are the same, place, calls,
memory, lines read, stage and all, except that each keeps its own backlog and its own unlocks. -/
theorem load_replaces_all_but_backlog {q : Playback} (hp : (p.load scenario data).result = .ok ())
    (hq : (q.load scenario data).result = .ok ()) :
    (p.load scenario data).state =
      { (q.load scenario data).state with
        backlog := p.backlog, unlocks := p.unlocks, unlocksChanged := p.unlocksChanged } := by
  rw [state_load_of_ok hp, state_load_of_ok hq]
  rfl

namespace Sample

/-- A game saved in the garden. -/
def gardenGame : SaveData := { slot := 1, scene := "garden" }

/-- A line that was shown in the hall. -/
def shownLine : BacklogEntry := ⟨⟨"hall", 0⟩, .narrator, "A hall."⟩

/-- The session in which that line was shown before the story was started. -/
def withLine : Session :=
  Session.after story ⟨{}, []⟩ [.record shownLine]

theorem withLine_reached : withLine.Reached story Session.anyRequest :=
  Session.Reached.after (@Session.Reached.created story Session.anyRequest {} {} {} rfl)
    (Session.permitted_of_forall fun _ _ _ => trivial)

end Sample

/-- The playthrough from the cellar and the one that has a line in its backlog load the same game. -/
theorem load_replaces_all_but_backlog_in_cellar :
    (Sample.inCellar.playback.load Sample.story Sample.gardenGame).result = .ok () ∧
      (Sample.withLine.playback.load Sample.story Sample.gardenGame).result = .ok () ∧
      (Sample.inCellar.playback.load Sample.story Sample.gardenGame).state =
        { (Sample.withLine.playback.load Sample.story Sample.gardenGame).state with
          backlog := {}, unlocks := {}, unlocksChanged := false } :=
  ⟨rfl, rfl, load_replaces_all_but_backlog rfl rfl⟩

/-- A line shown before loading is in the backlog afterwards, so that two playthroughs with the same
settings can differ after loading the same game. -/
theorem load_keeps_shown_line :
    Sample.withLine.Reached Sample.story Session.anyRequest ∧
      Sample.inCellar.Reached Sample.story Session.anyRequest ∧
      (Sample.withLine.playback.load Sample.story Sample.gardenGame).result = .ok () ∧
      (Sample.inCellar.playback.load Sample.story Sample.gardenGame).result = .ok () ∧
      (Sample.withLine.playback.load Sample.story Sample.gardenGame).state.backlog =
        ⟨0, [Sample.shownLine]⟩ ∧
      (Sample.inCellar.playback.load Sample.story Sample.gardenGame).state.backlog = ⟨0, []⟩ :=
  ⟨Sample.withLine_reached, Sample.inCellar_reached fun _ _ _ => trivial, rfl, rfl, rfl, rfl⟩

end VisualNovel
