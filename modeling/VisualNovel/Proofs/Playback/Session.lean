import VisualNovel.Proofs.Playback.Head

/-!
# Sessions

A session is a playthrough together with the games that were saved from it. `Session.Reached` are the
sessions that a new one turns into when the host makes requests, one after another, as far as `allowed`
lets it; a request that fails is a step like any other. Whatever a new playthrough has and every allowed
request keeps, every reached playthrough has, and its saved games have what saving makes of it
(`Reached.invariant`).
-/

namespace VisualNovel

/-- A playthrough, and the games saved from it so far, newest first. -/
structure Session where
  playback : Playback
  saves : List SaveData := []

namespace Session

/-- The session after a request. -/
def next (scenario : Scenario) (s : Session) (request : Request) : Session where
  playback := (s.playback.respond scenario request).state
  saves :=
    match request with
    | .save slot => s.playback.save slot :: s.saves
    | _ => s.saves

/-- The sessions that a new playthrough becomes by requests that were allowed where they were made. -/
inductive Reached (scenario : Scenario) (allowed : Session → Request → Prop) : Session → Prop
  | created {settings : Settings} {unlocks : Unlocks} {p : Playback}
      (fresh : Playback.create settings unlocks = .ok p) : Reached scenario allowed ⟨p, []⟩
  | next {s : Session} {request : Request} (before : Reached scenario allowed s)
      (asked : allowed s request) : Reached scenario allowed (s.next scenario request)

/-- Lets the host ask for anything. -/
def anyRequest (_ : Session) (_ : Request) : Prop := True

/-- Lets the host load only games that were saved in this session. -/
def ownSaves (s : Session) (request : Request) : Prop :=
  ∀ data, request = .load data → data ∈ s.saves

variable {scenario : Scenario} {allowed : Session → Request → Prop} {s : Session}

/-- A new playthrough has nothing but the backlog's limit and the unlocks it was given. -/
theorem eq_of_create {settings : Settings} {unlocks : Unlocks} {p : Playback}
    (h : Playback.create settings unlocks = .ok p) : ∃ backlog, p = { backlog, unlocks } := by
  unfold Playback.create at h
  cases hb : Backlog.withLimit settings.backlogLimit with
  | error fault =>
    rw [hb] at h
    cases h
  | ok backlog =>
    rw [hb] at h
    cases h
    exact ⟨backlog, rfl⟩

/-- **Induction over requests.** `P` holds of the playthrough and `Q` of its saved games, if new
playthroughs have `P`, saving turns `P` into `Q`, and every allowed request keeps `P`. -/
theorem Reached.invariant (P : Playback → Prop) (Q : SaveData → Prop)
    (created : ∀ backlog unlocks, P { backlog, unlocks })
    (saved : ∀ p slot, P p → Q (p.save slot))
    (step : ∀ s request, P s.playback → (∀ data ∈ s.saves, Q data) → allowed s request →
      P (s.playback.respond scenario request).state)
    (h : s.Reached scenario allowed) : P s.playback ∧ ∀ data ∈ s.saves, Q data := by
  induction h with
  | @created settings unlocks p fresh =>
    obtain ⟨backlog, rfl⟩ := eq_of_create fresh
    refine ⟨created backlog unlocks, ?_⟩
    intro data hdata
    cases hdata
  | @next s request _ asked ih =>
    obtain ⟨hp, hsaves⟩ := ih
    refine ⟨step s request hp hsaves asked, ?_⟩
    intro data hdata
    cases request with
    | save slot =>
      rcases List.mem_cons.1 hdata with rfl | hold
      · exact saved s.playback slot hp
      · exact hsaves data hold
    | _ => exact hsaves data hdata

/-! ## Runs of requests -/

/-- The session after requests, one after another. -/
def after (scenario : Scenario) (s : Session) : List Request → Session
  | [] => s
  | request :: rest => (s.next scenario request).after scenario rest

/-- Every request of a run is allowed where it is made. -/
def Permitted (scenario : Scenario) (allowed : Session → Request → Prop) (s : Session) :
    List Request → Prop
  | [] => True
  | request :: rest => allowed s request ∧ (s.next scenario request).Permitted scenario allowed rest

theorem Reached.after (h : s.Reached scenario allowed) {requests : List Request}
    (hr : s.Permitted scenario allowed requests) : (s.after scenario requests).Reached scenario allowed := by
  induction requests generalizing s with
  | nil => exact h
  | cons request rest ih => exact ih (.next h hr.1) hr.2

theorem permitted_of_forall {requests : List Request}
    (h : ∀ request ∈ requests, ∀ s, allowed s request) : s.Permitted scenario allowed requests := by
  induction requests generalizing s with
  | nil => trivial
  | cons request rest ih =>
    obtain ⟨hfirst, hrest⟩ := List.forall_mem_cons.1 h
    exact ⟨hfirst s, ih hrest⟩

theorem after_append (scenario : Scenario) (s : Session) (early late : List Request) :
    s.after scenario (early ++ late) = (s.after scenario early).after scenario late := by
  induction early generalizing s with
  | nil => rfl
  | cons request rest ih => exact ih (s.next scenario request)

/-- What each request of a run keeps, the run keeps. -/
theorem after_invariant {P : Playback → Prop} {requests : List Request}
    (step : ∀ request ∈ requests, ∀ p, P p → P (p.respond scenario request).state)
    (h : P s.playback) : P (s.after scenario requests).playback := by
  induction requests generalizing s with
  | nil => exact h
  | cons request rest ih =>
    obtain ⟨hfirst, hrest⟩ := List.forall_mem_cons.1 step
    exact ih hrest (hfirst s.playback h)

end Session

/-! ## A story to try things on -/

namespace Sample

/-- Three coins in the hall become seven; a call leads down to a cat in the cellar and back, and a
choice leads out. -/
def story : Scenario :=
  .ofScenes ⟨"sample", "Sample", none, none, none⟩ "hall"
    [⟨"hall", "Hall",
      [.setVariable "coins" (.int 3),
       .branch (.compared "coins" .greaterThan (.int 2))
         [.modifyVariable "coins" (.integer .add (.int 4)), .setFlag "rich" true] [],
       .flow (.call "cellar" "hall"),
       .offer ⟨[⟨"Leave.", "garden", [], ["left"]⟩], none⟩], none, none⟩,
     ⟨"cellar", "Cellar",
      [.stage (.showCharacter "cat" "cat.png" "left" none none), .flow .back], none, none⟩,
     ⟨"garden", "Garden", [.flow .finish], none, none⟩] []

/-- The way down to the end of the cellar, where the game is saved. -/
def wayDown : List Request :=
  [.start, .execute, .advance, .execute, .advance, .execute, .execute, .advance, .save 1]

/-- The session that has gone down. -/
def inCellar : Session :=
  Session.after story ⟨{}, []⟩ wayDown

theorem wayDown_plain : ∀ request ∈ wayDown, (∀ data, request ≠ .load data) ∧
    (∀ key, request ≠ .jump key) ∧ ∀ name value, request ≠ .setVariable name value := by
  intro request h
  unfold wayDown at h
  simp only [List.mem_cons, List.not_mem_nil, or_false] at h
  rcases h with rfl | rfl | rfl | rfl | rfl | rfl | rfl | rfl | rfl <;> simp

theorem inCellar_reached {allowed : Session → Request → Prop}
    (h : ∀ request ∈ wayDown, ∀ s, allowed s request) : inCellar.Reached story allowed :=
  Session.Reached.after (@Session.Reached.created story allowed {} {} {} rfl)
    (Session.permitted_of_forall h)

end Sample

end VisualNovel
