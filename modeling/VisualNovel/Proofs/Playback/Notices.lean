import VisualNovel.Proofs.Playback.Display

/-!
# What the host is told

Two marks tell the host what changed since it last asked. Between two questions they relate the
playthrough to the one at the first of them:

1. What is unlocked only grows, by the names of the pictures shown at the play head
   (`mem_cgs_after`), and the mark says whether it has grown since the last question
   (`ToldOfUnlocks`, kept by every request but the question).
2. As long as the mark of the characters is not set, they are those of the last question, one by one
   and in the same order (`ToldOfCharacters`).
-/

namespace VisualNovel

open Playback

namespace SortedSet

variable {α : Type} [Ord α]

instance : HasSubset (SortedSet α) := ⟨fun s t => ∀ a ∈ s, a ∈ t⟩

instance : HasSSubset (SortedSet α) := ⟨fun s t => s ⊆ t ∧ ¬t ⊆ s⟩

theorem not_subset_iff {s t : SortedSet α} : ¬s ⊆ t ↔ ∃ a ∈ s, a ∉ t := by
  show ¬(∀ a ∈ s, a ∈ t) ↔ _
  simp only [Classical.not_forall, exists_prop]

end SortedSet

/-! ## Questions -/

/-- The requests end with the question, or there are none yet. -/
def JustAsked (question : Request) (requests : List Request) : Prop :=
  requests = [] ∨ ∃ early, requests = early ++ [question]

variable {scenario : Scenario} {s : Session} {p : Playback} {settings : Settings} {unlocks : Unlocks}

/-- What a new playthrough has and the question restores holds whenever the host has just asked. -/
theorem after_of_justAsked {P : Playback → Prop} {question : Request}
    (created : ∀ backlog unlocks, P { backlog, unlocks })
    (asked : ∀ p : Playback, P (p.respond scenario question).state)
    (fresh : Playback.create settings unlocks = .ok s.playback) {before : List Request}
    (h : JustAsked question before) : P (s.after scenario before).playback := by
  rcases h with rfl | ⟨early, rfl⟩
  · obtain ⟨backlog, hp⟩ := Session.eq_of_create fresh
    show P s.playback
    rw [hp]
    exact created backlog unlocks
  · rw [Session.after_append]
    exact asked (s.after scenario early).playback

/-! ## Pictures that are unlocked -/

namespace Unlocks

variable {change : StageCommand}

theorem mem_cgs_witness {id : String} :
    id ∈ (unlocks.witness change).cgs ↔ id ∈ unlocks.cgs ∨ change.unlocks? = some id := by
  unfold witness
  cases change.unlocks? with
  | none => simp
  | some name =>
    show id ∈ unlocks.cgs.insert name ↔ _
    rw [SortedSet.mem_insert, Option.some_inj, eq_comm, or_comm]

theorem bgm_witness : (unlocks.witness change).bgm = unlocks.bgm := by
  unfold witness
  split <;> rfl

theorem version_witness : (unlocks.witness change).version = unlocks.version := by
  unfold witness
  split <;> rfl

theorem grows_iff :
    unlocks.grows change = true ↔ ∃ id, change.unlocks? = some id ∧ id ∉ unlocks.cgs := by
  unfold grows
  cases change.unlocks? <;> simp

end Unlocks

/-- A change unlocks a picture exactly when it shows one of that name. -/
theorem StageCommand.unlocks?_eq_some_iff {change : StageCommand} {id : String} :
    change.unlocks? = some id ↔
      ∃ asset transition, change = .showCg asset transition ∧ AssetPath.stem? asset = some id := by
  cases change <;> simp [unlocks?]

/-- What a request unlocks: nothing, or the picture that it shows at the play head. -/
theorem Playback.Presents.unlocks_eq {request : Request} {d : Display}
    (h : Presents scenario p request d) :
    d.unlocks = match p.performs? scenario request with
      | some change => p.unlocks.witness change
      | none => p.unlocks := by
  cases h with
  | stay idle =>
    rw [idle]
    rfl
  | perform performs =>
    rw [performs]
    rfl
  | load => rfl
  | tellCharacters => rfl
  | tellUnlocks => rfl

theorem unlocks_respond (scenario : Scenario) (p : Playback) (request : Request) :
    (p.respond scenario request).state.unlocks =
      match p.performs? scenario request with
      | some change => p.unlocks.witness change
      | none => p.unlocks :=
  (presents_respond scenario p request).unlocks_eq

theorem mem_cgs_respond {request : Request} {id : String} :
    id ∈ (p.respond scenario request).state.unlocks.cgs ↔
      id ∈ p.unlocks.cgs ∨ ∃ change ∈ p.performs? scenario request, change.unlocks? = some id := by
  rw [unlocks_respond]
  cases p.performs? scenario request with
  | none => simp
  | some change => simp [Unlocks.mem_cgs_witness]

/-- What is unlocked after a run: what was unlocked before, and what was shown at the play head. -/
theorem mem_cgs_after {requests : List Request} {id : String} :
    id ∈ (s.after scenario requests).playback.unlocks.cgs ↔
      id ∈ s.playback.unlocks.cgs ∨
        ∃ change ∈ s.performed scenario requests, change.unlocks? = some id := by
  induction requests generalizing s with
  | nil => simp [Session.after, Session.performed]
  | cons request rest ih =>
    show id ∈ ((s.next scenario request).after scenario rest).playback.unlocks.cgs ↔ _
    have hstep : id ∈ (s.next scenario request).playback.unlocks.cgs ↔ _ := mem_cgs_respond
    rw [ih, hstep, or_assoc]
    simp only [Session.performed, List.mem_append, Option.mem_toList, Option.mem_def, or_and_right,
      exists_or]

theorem bgm_and_version_after (scenario : Scenario) (s : Session) (requests : List Request) :
    (s.after scenario requests).playback.unlocks.bgm = s.playback.unlocks.bgm ∧
      (s.after scenario requests).playback.unlocks.version = s.playback.unlocks.version := by
  refine Session.after_invariant
    (P := fun p => p.unlocks.bgm = s.playback.unlocks.bgm ∧
      p.unlocks.version = s.playback.unlocks.version) ?_ ⟨rfl, rfl⟩
  rintro request - p hp
  rw [unlocks_respond]
  split
  · rw [Unlocks.bgm_witness, Unlocks.version_witness]
    exact hp
  · exact hp

/-! ## The mark of unlocks -/

/-- The unlocks have grown from `known`, and the mark says whether they are more. -/
structure ToldOfUnlocks (known : SortedSet String) (d : Display) : Prop where
  grown : known ⊆ d.unlocks.cgs
  mark : d.unlocksChanged = true ↔ ¬d.unlocks.cgs ⊆ known

namespace ToldOfUnlocks

variable {known : SortedSet String} {d : Display}

theorem of_unmarked (h : p.unlocksChanged = false) : ToldOfUnlocks p.unlocks.cgs p.display where
  grown := fun _ hid => hid
  mark := by
    show p.unlocksChanged = true ↔ _
    rw [h]
    exact ⟨fun hmark => absurd hmark Bool.false_ne_true, fun hmore => absurd (fun _ hid => hid) hmore⟩

theorem perform (h : ToldOfUnlocks known p.display) (change : StageCommand) :
    ToldOfUnlocks known (p.perform change).display := by
  have hmem : ∀ id, id ∈ (p.perform change).unlocks.cgs ↔
      id ∈ p.unlocks.cgs ∨ change.unlocks? = some id := fun id => Unlocks.mem_cgs_witness
  have hmark : p.unlocksChanged = true ↔ ¬p.unlocks.cgs ⊆ known := h.mark
  refine ⟨fun id hid => (hmem id).2 (.inl (h.grown id hid)), ?_⟩
  show (p.unlocksChanged || p.unlocks.grows change) = true ↔ ¬(p.perform change).unlocks.cgs ⊆ known
  rw [Bool.or_eq_true, hmark, Unlocks.grows_iff, SortedSet.not_subset_iff, SortedSet.not_subset_iff]
  constructor
  · rintro (⟨id, hid, hnew⟩ | ⟨id, hshown, hnew⟩)
    · exact ⟨id, (hmem id).2 (.inl hid), hnew⟩
    · exact ⟨id, (hmem id).2 (.inr hshown), fun hknown => hnew (h.grown id hknown)⟩
  · rintro ⟨id, hid, hnew⟩
    -- a picture that is new since the question, though not new now, was marked before
    by_cases hold : id ∈ p.unlocks.cgs
    · exact .inl ⟨id, hold, hnew⟩
    · exact .inr ⟨id, ((hmem id).1 hid).resolve_left hold, hold⟩

end ToldOfUnlocks

/-- Everything on the list but the question keeps the mark of unlocks right. -/
theorem Playback.Presents.toldOfUnlocks {request : Request} {d : Display} {known : SortedSet String}
    (h : Presents scenario p request d) (unasked : request ≠ .pollUnlocks)
    (told : ToldOfUnlocks known p.display) : ToldOfUnlocks known d := by
  cases h with
  | stay => exact told
  | perform => exact told.perform _
  | load => exact ⟨told.grown, told.mark⟩
  | tellCharacters => exact ⟨told.grown, told.mark⟩
  | tellUnlocks => exact absurd rfl unasked

theorem toldOfUnlocks_after (scenario : Scenario) {known : SortedSet String} {requests : List Request}
    (unasked : .pollUnlocks ∉ requests) (told : ToldOfUnlocks known s.playback.display) :
    ToldOfUnlocks known (s.after scenario requests).playback.display := by
  refine Session.after_invariant (P := fun p => ToldOfUnlocks known p.display) ?_ told
  intro request hrequest p hp
  refine (presents_respond scenario p request).toldOfUnlocks ?_ hp
  rintro rfl
  exact unasked hrequest

/-- **Unlocks.** Whatever is asked of a new playthrough, its pictures are those that were unlocked at the
start and those of which a file was shown by a command at the play head; the music and the version stay.
The host is told that something was unlocked exactly when there are more pictures than when it last asked,
or than at the start. -/
theorem unlocks_grow_and_are_told (scenario : Scenario)
    (fresh : Playback.create settings unlocks = .ok s.playback) (requests : List Request) :
    (∀ id, id ∈ (s.after scenario requests).playback.unlocks.cgs ↔
      id ∈ unlocks.cgs ∨ ∃ asset transition,
        .showCg asset transition ∈ s.performed scenario requests ∧ AssetPath.stem? asset = some id) ∧
    (s.after scenario requests).playback.unlocks.bgm = unlocks.bgm ∧
    (s.after scenario requests).playback.unlocks.version = unlocks.version ∧
    ∀ before between, requests = before ++ between → JustAsked .pollUnlocks before →
      .pollUnlocks ∉ between → ∃ answer,
        ((s.after scenario requests).playback.respond scenario .pollUnlocks).result =
          .ok (.truth answer) ∧
        (answer = true ↔ (s.after scenario before).playback.unlocks.cgs ⊂
          (s.after scenario requests).playback.unlocks.cgs) := by
  obtain ⟨backlog, hcreated⟩ := Session.eq_of_create fresh
  have hstart : s.playback.unlocks = unlocks := by rw [hcreated]
  obtain ⟨hbgm, hversion⟩ := bgm_and_version_after scenario s requests
  rw [hstart] at hbgm hversion
  refine ⟨fun id => ?_, hbgm, hversion, ?_⟩
  · rw [mem_cgs_after, hstart]
    refine or_congr_right ⟨?_, ?_⟩
    · rintro ⟨change, hperformed, hid⟩
      obtain ⟨asset, transition, rfl, hstem⟩ := StageCommand.unlocks?_eq_some_iff.1 hid
      exact ⟨asset, transition, hperformed, hstem⟩
    · rintro ⟨asset, transition, hperformed, hstem⟩
      exact ⟨_, hperformed, StageCommand.unlocks?_eq_some_iff.2 ⟨asset, transition, rfl, hstem⟩⟩
  · rintro before between rfl asked unasked
    have hunmarked : (s.after scenario before).playback.unlocksChanged = false :=
      after_of_justAsked (P := fun p => p.unlocksChanged = false) (fun _ _ => rfl) (fun _ => rfl) fresh
        asked
    rw [Session.after_append]
    have told := toldOfUnlocks_after scenario unasked (.of_unmarked hunmarked)
    exact ⟨_, rfl, told.mark.trans ⟨fun hmore => ⟨told.grown, hmore⟩, And.right⟩⟩

namespace Sample

/-- Pictures at the play head and one inside a branch; the third has the name of the first. -/
def gallery : Scenario :=
  .ofScenes ⟨"gallery", "Gallery", none, none, none⟩ "hall"
    [⟨"hall", "Hall",
      [.stage (.showCg "cg/sunset.png" none),
       .branch (.constant true) [.stage (.showCg "cg/secret.png" none)] [],
       .stage (.showCg "art\\sunset.jpg" none),
       .stage (.showCg "cg/dawn.png" none)], none, none⟩] []

/-- What was unlocked in earlier playthroughs. -/
def earlier : Unlocks := { cgs := .ofList ["prologue"], bgm := .ofList ["theme"] }

/-- A new playthrough with these unlocks. -/
def visitor : Session := ⟨{ unlocks := earlier }, []⟩

/-- The first picture is shown, and the host asks. -/
def firstPicture : List Request := [.start, .execute, .pollUnlocks]

/-- The branch and the third picture. -/
def nothingNew : List Request := [.advance, .execute, .advance, .execute]

/-- All that follows the first picture. -/
def dawn : List Request := nothingNew ++ [.advance, .execute]

end Sample

/-- The host is told nothing after the third picture, and of the dawn after the fourth; the picture in the
branch is not unlocked. -/
theorem unlocks_grow_and_are_told_in_gallery :
    Playback.create {} Sample.earlier = .ok Sample.visitor.playback ∧
      ((Sample.visitor.after Sample.gallery (Sample.firstPicture ++ Sample.nothingNew)).playback.respond
        Sample.gallery .pollUnlocks).result = .ok (.truth false) ∧
      ((Sample.visitor.after Sample.gallery (Sample.firstPicture ++ Sample.dawn)).playback.respond
        Sample.gallery .pollUnlocks).result = .ok (.truth true) ∧
      (Sample.visitor.after Sample.gallery Sample.firstPicture).playback.unlocks.cgs ⊂
        (Sample.visitor.after Sample.gallery (Sample.firstPicture ++ Sample.dawn)).playback.unlocks.cgs ∧
      (Sample.visitor.after Sample.gallery
          (Sample.firstPicture ++ Sample.dawn)).playback.unlocks.cgs.toList =
        ["dawn", "prologue", "sunset"] := by
  have fresh : Playback.create {} Sample.earlier = .ok Sample.visitor.playback := rfl
  have asked : JustAsked .pollUnlocks Sample.firstPicture := .inr ⟨[.start, .execute], rfl⟩
  have unasked : Request.pollUnlocks ∉ Sample.dawn := by simp [Sample.dawn, Sample.nothingNew]
  obtain ⟨-, -, -, told⟩ :=
    unlocks_grow_and_are_told Sample.gallery fresh (Sample.firstPicture ++ Sample.dawn)
  obtain ⟨answer, hresult, hanswer⟩ := told _ _ rfl asked unasked
  have htrue : ((Sample.visitor.after Sample.gallery
      (Sample.firstPicture ++ Sample.dawn)).playback.respond Sample.gallery .pollUnlocks).result =
        .ok (.truth true) := rfl
  cases hresult.symm.trans htrue
  exact ⟨fresh, rfl, htrue, hanswer.1 rfl, rfl⟩

/-! ## The mark of the characters -/

/-- A change after which nothing is to be drawn again has left the characters alone. -/
theorem Stage.characters_perform {stage : Stage} {change : StageCommand}
    (h : stage.redraws change = false) : (stage.perform change).characters = stage.characters := by
  have absent : ∀ id, stage.characters.contains id = false → stage.characters.get? id = none :=
    fun id hid => Option.isNone_iff_eq_none.1 (Option.isSome_eq_false_iff.1 hid)
  cases change with
  | showCharacter id sprite position expression transition => cases h
  | hideCharacter id transition => cases h
  | moveCharacter id position duration =>
    show (stage.update id _).characters = stage.characters
    rw [update_of_absent (absent id h)]
  | changeSprite id sprite =>
    show (stage.update id _).characters = stage.characters
    rw [update_of_absent (absent id h)]
  | showBackground asset transition => rfl
  | hideBackground transition => rfl
  | showCg asset transition => rfl
  | hideCg transition => rfl
  | changeExpression id expression => rfl

/-- Unless the mark is set, the characters are the known ones. -/
def ToldOfCharacters (known : OrderedMap ShownCharacter) (d : Display) : Prop :=
  d.charactersChanged = false → d.stage.characters = known

/-- Everything on the list but the question keeps the mark of the characters right. -/
theorem Playback.Presents.toldOfCharacters {request : Request} {d : Display}
    {known : OrderedMap ShownCharacter} (h : Presents scenario p request d)
    (unasked : request ≠ .pollCharacters) (told : ToldOfCharacters known p.display) :
    ToldOfCharacters known d := by
  cases h with
  | stay => exact told
  | @perform _ change =>
    intro hunmarked
    obtain ⟨hbefore, hredraws⟩ := Bool.or_eq_false_iff.1 hunmarked
    exact (Stage.characters_perform hredraws).trans (told hbefore)
  | load =>
    intro hunmarked
    cases hunmarked
  | tellCharacters => exact absurd rfl unasked
  | tellUnlocks => exact told

theorem eq_execute_of_performs? {request : Request} {change : StageCommand}
    (h : p.performs? scenario request = some change) : request = .execute := by
  cases request with
  | execute => rfl
  | _ => cases h

/-- Only executing and loading set the mark of the characters. -/
theorem Playback.Presents.unmarked {request : Request} {d : Display}
    (h : Presents scenario p request d) (hexecute : request ≠ .execute)
    (hload : ∀ data, request ≠ .load data) (hp : p.charactersChanged = false) :
    d.charactersChanged = false := by
  cases h with
  | stay => exact hp
  | perform performs => exact absurd (eq_execute_of_performs? performs) hexecute
  | @load data => exact absurd rfl (hload data)
  | tellCharacters => rfl
  | tellUnlocks => exact hp

/-- **Characters.** If the host asks whether the characters changed and is told that they did not, they are
what they were when it last asked, or at the start: the same keys in the same order, with the same ids,
sprites, positions and transitions. It is told so if nothing was executed or loaded in between. -/
theorem characters_same_unless_told (scenario : Scenario)
    (fresh : Playback.create settings unlocks = .ok s.playback) {before between : List Request}
    (asked : JustAsked .pollCharacters before) (unasked : .pollCharacters ∉ between) :
    ∃ answer, ((s.after scenario (before ++ between)).playback.respond scenario .pollCharacters).result =
        .ok (.truth answer) ∧
      (answer = false → (s.after scenario (before ++ between)).playback.stage.characters =
        (s.after scenario before).playback.stage.characters) ∧
      ((∀ request ∈ between, request ≠ .execute ∧ ∀ data, request ≠ .load data) → answer = false) := by
  have hunmarked : (s.after scenario before).playback.charactersChanged = false :=
    after_of_justAsked (P := fun p => p.charactersChanged = false) (fun _ _ => rfl) (fun _ => rfl) fresh
      asked
  rw [Session.after_append]
  refine ⟨_, rfl, ?_, ?_⟩
  · have told : ToldOfCharacters (s.after scenario before).playback.stage.characters
        ((s.after scenario before).after scenario between).playback.display := by
      refine Session.after_invariant
        (P := fun p => ToldOfCharacters (s.after scenario before).playback.stage.characters p.display)
        ?_ fun _ => rfl
      intro request hrequest p hp
      refine (presents_respond scenario p request).toldOfCharacters ?_ hp
      rintro rfl
      exact unasked hrequest
    exact told
  · intro hidle
    refine Session.after_invariant (P := fun p => p.charactersChanged = false) ?_ hunmarked
    intro request hrequest p hp
    obtain ⟨hexecute, hload⟩ := hidle request hrequest
    exact (presents_respond scenario p request).unmarked hexecute hload hp

namespace Sample

/-- A cat comes on stage, a dog that is not there is told to move, and the cat changes. -/
def pets : Scenario :=
  .ofScenes ⟨"pets", "Pets", none, none, none⟩ "yard"
    [⟨"yard", "Yard",
      [.stage (.showCharacter "cat" "cat.png" "left" none none),
       .stage (.moveCharacter "dog" "right" 0.5),
       .stage (.changeSprite "cat" "asleep.png")], none, none⟩] []

/-- The cat is shown, and the host asks. -/
def catShown : List Request := [.start, .execute, .pollCharacters]

end Sample

/-- The dog's move is passed over, and the host is told that nothing changed. -/
theorem characters_same_unless_told_in_yard :
    Playback.create {} {} = .ok (⟨{}, []⟩ : Session).playback ∧
      ((Session.after Sample.pets ⟨{}, []⟩ (Sample.catShown ++ [.advance, .execute])).playback.respond
        Sample.pets .pollCharacters).result = .ok (.truth false) ∧
      (Session.after Sample.pets ⟨{}, []⟩
          (Sample.catShown ++ [.advance, .execute])).playback.stage.characters =
        (Session.after Sample.pets ⟨{}, []⟩ Sample.catShown).playback.stage.characters ∧
      ((Session.after Sample.pets ⟨{}, []⟩
          (Sample.catShown ++ [.advance, .execute, .advance, .execute])).playback.respond
        Sample.pets .pollCharacters).result = .ok (.truth true) := by
  have fresh : Playback.create {} {} = .ok (⟨{}, []⟩ : Session).playback := rfl
  have asked : JustAsked .pollCharacters Sample.catShown := .inr ⟨[.start, .execute], rfl⟩
  have unasked : Request.pollCharacters ∉ [Request.advance, .execute] := by simp
  obtain ⟨answer, hresult, hsame, -⟩ :=
    characters_same_unless_told Sample.pets fresh asked unasked
  have hfalse : ((Session.after Sample.pets ⟨{}, []⟩
      (Sample.catShown ++ [.advance, .execute])).playback.respond Sample.pets .pollCharacters).result =
        .ok (.truth false) := rfl
  cases hresult.symm.trans hfalse
  exact ⟨fresh, hfalse, hsame rfl, rfl⟩

end VisualNovel
