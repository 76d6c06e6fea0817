import VisualNovel.Proofs.OrderedMap
import VisualNovel.Proofs.Playback.Session

/-!
# Answering a choice

1. An index answers a choice if it names one of its options (`Playback.Chooses`). Then the flags of that
   option are set and the play head jumps; any other index is refused on the spot.
2. Setting flags touches no others (`Flags.get?_setAll`) and changes nothing only if all of them were set
   (`Flags.setAll_eq_self_iff`).
3. The jump checks its scene after the flags are set. So a choice that fails changes nothing exactly if it
   chose no option, or one whose flags were set before (`choice_atomic_unless_scene_missing`).
-/

namespace VisualNovel

open Playback

/-! ## Setting flags -/

namespace Flags

variable {flags : Flags} {names : List String}

theorem setAll_cons (flags : Flags) (name : String) (rest : List String) :
    flags.setAll (name :: rest) = Flags.setAll (flags.insert name true) rest := rfl

theorem get?_setAll (flags : Flags) (names : List String) (name : String) :
    (flags.setAll names).get? name = if name ∈ names then some true else flags.get? name := by
  induction names generalizing flags with
  | nil => rfl
  | cons first rest ih =>
    rw [setAll_cons, ih, OrderedMap.get?_insert]
    by_cases hrest : name ∈ rest
    · rw [if_pos hrest, if_pos (List.mem_cons_of_mem _ hrest)]
    · by_cases hfirst : name = first
      · rw [if_neg hrest, if_pos hfirst, if_pos (List.mem_cons.2 (.inl hfirst))]
      · rw [if_neg hrest, if_neg hfirst, if_neg]
        intro hmem
        exact (List.mem_cons.1 hmem).elim hfirst hrest

theorem setAll_eq_self_iff :
    flags.setAll names = flags ↔ ∀ name ∈ names, flags.get? name = some true := by
  constructor
  · intro h name hname
    rw [← h, get?_setAll, if_pos hname]
  · intro h
    induction names with
    | nil => rfl
    | cons first rest ih =>
      obtain ⟨hfirst, hrest⟩ := List.forall_mem_cons.1 h
      rw [setAll_cons, OrderedMap.insert_of_get? hfirst]
      exact ih hrest

end Flags

/-! ## Choosing -/

namespace Playback

/-- Sets flags to true. -/
def setFlags (names : List String) (p : Playback) : Playback :=
  { p with memory := { p.memory with flags := p.memory.flags.setAll names } }

/-- The index names an option of the choice at the play head. -/
def Chooses (scenario : Scenario) (p : Playback) (index : Int) (option : ChoiceOption) : Prop :=
  ∃ choice, p.currentCommand? scenario = some (.offer choice) ∧ 0 ≤ index ∧
    choice.options[index.toNat]? = some option

end Playback

variable {scenario : Scenario} {p : Playback} {index : Int} {option : ChoiceOption}

theorem setFlags_eq_self_iff {names : List String} :
    p.setFlags names = p ↔ ∀ name ∈ names, p.memory.flags.get? name = some true := by
  rw [← Flags.setAll_eq_self_iff]
  constructor
  · exact fun h => congrArg (fun q => q.memory.flags) h
  · intro h
    unfold setFlags
    rw [h]

theorem select_of_chooses (h : p.Chooses scenario index option) :
    p.select scenario index = (p.setFlags option.flagsToSet).jump scenario option.nextScene := by
  obtain ⟨choice, current, hindex, hoption⟩ := h
  unfold select
  rw [current]
  simp only [if_neg (Int.not_lt.2 hindex), hoption]
  rfl

/-- An index that names no option is refused at once. -/
theorem select_of_not_chooses (h : ∀ option, ¬p.Chooses scenario index option) :
    ∃ fault, p.select scenario index = .fail p fault := by
  unfold select
  split
  · exact ⟨_, rfl⟩
  · next choice current =>
    split
    · exact ⟨_, rfl⟩
    · next option hoption =>
      split at hoption
      · cases hoption
      · next hindex => exact absurd ⟨choice, current, Int.not_lt.1 hindex, hoption⟩ (h option)
  · exact ⟨_, rfl⟩

theorem Playback.Chooses.unique {other : ChoiceOption} (h : p.Chooses scenario index option)
    (h' : p.Chooses scenario index other) : option = other := by
  obtain ⟨choice, current, -, hoption⟩ := h
  obtain ⟨choice', current', -, hoption'⟩ := h'
  cases current.symm.trans current'
  exact Option.some.inj (hoption.symm.trans hoption')

theorem select_of_known (h : p.Chooses scenario index option)
    (known : scenario.hasScene option.nextScene) :
    (∃ signal, (p.select scenario index).result = .ok signal) ∧ (p.select scenario index).state =
      { p.setFlags option.flagsToSet with scene := some option.nextScene, index := 0 } := by
  obtain ⟨target, ht⟩ := Scenario.hasScene_iff.1 known
  rw [select_of_chooses h, jump_known ht]
  exact ⟨⟨_, rfl⟩, rfl⟩

/-- The flags of an option whose scene does not exist are set nevertheless. -/
theorem select_of_missing (h : p.Chooses scenario index option)
    (missing : ¬scenario.hasScene option.nextScene) : p.select scenario index =
      .fail (p.setFlags option.flagsToSet) (.sceneMissing option.nextScene) := by
  rw [select_of_chooses h, jump_missing missing]

/-- **Choices.** A choice that is answered sets exactly the flags of its option to true and goes to the
first command of the option's scene, within the same calls. A choice that fails leaves the whole
playthrough as it was, unless its index names an option, whose scene then does not exist, and some of that
option's flags were not set before: these stay set. -/
theorem choice_atomic_unless_scene_missing (scenario : Scenario) (p : Playback) (index : Int) :
    (∀ signal, (p.select scenario index).result = .ok signal →
      ∃ option, p.Chooses scenario index option ∧
        (p.select scenario index).state.head = ⟨some option.nextScene, 0, p.stack⟩ ∧
        (p.select scenario index).state.memory.vars = p.memory.vars ∧
        ∀ name, (p.select scenario index).state.memory.flags.get? name =
          if name ∈ option.flagsToSet then some true else p.memory.flags.get? name) ∧
    ∀ fault, (p.select scenario index).result = .error fault →
      ((p.select scenario index).state = p ↔ ∀ option, p.Chooses scenario index option →
        ∀ name ∈ option.flagsToSet, p.memory.flags.get? name = some true) ∧
      ∀ option, p.Chooses scenario index option →
        ¬scenario.hasScene option.nextScene ∧ fault = .sceneMissing option.nextScene ∧
          (p.select scenario index).state = p.setFlags option.flagsToSet := by
  by_cases h : ∃ option, p.Chooses scenario index option
  · obtain ⟨option, chosen⟩ := h
    by_cases known : scenario.hasScene option.nextScene
    · obtain ⟨⟨signal, hresult⟩, hstate⟩ := select_of_known chosen known
      rw [hresult, hstate]
      refine ⟨fun _ _ => ⟨option, chosen, rfl, rfl, Flags.get?_setAll _ _⟩, ?_⟩
      intro fault hfault
      cases hfault
    · rw [select_of_missing chosen known]
      refine ⟨fun signal hsignal => (by cases hsignal), ?_⟩
      rintro fault ⟨rfl⟩
      refine ⟨?_, fun other hother => ?_⟩
      · rw [Outcome.fail, setFlags_eq_self_iff]
        constructor
        · intro hset other hother
          rw [← chosen.unique hother]
          exact hset
        · exact fun hset => hset option chosen
      · cases chosen.unique hother
        exact ⟨known, rfl, rfl⟩
  · have none : ∀ option, ¬p.Chooses scenario index option := fun option hoption => h ⟨option, hoption⟩
    obtain ⟨fault, hselect⟩ := select_of_not_chooses none
    rw [hselect]
    refine ⟨fun signal hsignal => (by cases hsignal), fun _ _ => ⟨?_, ?_⟩⟩
    · exact ⟨fun _ option chosen => absurd chosen (none option), fun _ => rfl⟩
    · exact fun option chosen => absurd chosen (none option)

namespace Sample

/-- Two ways lead on, one of them into a scene that nobody wrote. -/
def crossroads : Scenario :=
  .ofScenes ⟨"crossroads", "Crossroads", none, none, none⟩ "fork"
    [⟨"fork", "Fork",
      [.offer ⟨[⟨"Left.", "mill", [], ["left", "bold"]⟩, ⟨"Right.", "swamp", [], ["right", "bold"]⟩],
        none⟩], none, none⟩,
     ⟨"mill", "Mill", [.flow .finish], none, none⟩] []

/-- The session before the choice. -/
def atFork : Session :=
  Session.after crossroads ⟨{}, []⟩ [.setFlag "bold" true, .start]

theorem atFork_reached : atFork.Reached crossroads Session.anyRequest :=
  Session.Reached.after (@Session.Reached.created crossroads Session.anyRequest {} {} {} rfl)
    (Session.permitted_of_forall fun _ _ _ => trivial)

end Sample

/-- The left way is taken; the right one fails and leaves a flag. -/
theorem choice_atomic_at_fork :
    (∃ signal, (Sample.atFork.playback.select Sample.crossroads 0).result = .ok signal) ∧
      (Sample.atFork.playback.select Sample.crossroads 0).state.head = ⟨some "mill", 0, []⟩ ∧
      (Sample.atFork.playback.select Sample.crossroads 0).state.memory.flags.get? "left" = some true ∧
      (Sample.atFork.playback.select Sample.crossroads 1).result = .error (.sceneMissing "swamp") ∧
      (Sample.atFork.playback.select Sample.crossroads 1).state =
        Sample.atFork.playback.setFlags ["right", "bold"] ∧
      (Sample.atFork.playback.select Sample.crossroads 2).result = .error (.choiceOutOfRange 2 2) ∧
      (Sample.atFork.playback.select Sample.crossroads 2).state = Sample.atFork.playback := by
  obtain ⟨answered, -⟩ := choice_atomic_unless_scene_missing Sample.crossroads Sample.atFork.playback 0
  obtain ⟨option, chosen, hhead, -, hflags⟩ := answered (.sceneChanged none none) rfl
  have left : Sample.atFork.playback.Chooses Sample.crossroads 0 ⟨"Left.", "mill", [], ["left", "bold"]⟩ :=
    ⟨_, rfl, by decide, rfl⟩
  cases chosen.unique left
  have right : Sample.atFork.playback.Chooses Sample.crossroads 1
      ⟨"Right.", "swamp", [], ["right", "bold"]⟩ := ⟨_, rfl, by decide, rfl⟩
  obtain ⟨-, failed⟩ := choice_atomic_unless_scene_missing Sample.crossroads Sample.atFork.playback 1
  obtain ⟨-, stays⟩ := failed (.sceneMissing "swamp") rfl
  obtain ⟨-, refused⟩ := choice_atomic_unless_scene_missing Sample.crossroads Sample.atFork.playback 2
  obtain ⟨hself, -⟩ := refused (.choiceOutOfRange 2 2) rfl
  refine ⟨⟨_, rfl⟩, hhead, hflags "left", rfl, (stays _ right).2.2, rfl, hself.2 ?_⟩
  rintro option ⟨choice, current, -, hoption⟩
  cases current
  cases hoption

/-- A choice that failed has set a flag. -/
theorem failed_choice_sets_flag :
    Sample.atFork.Reached Sample.crossroads Session.anyRequest ∧
      (Sample.atFork.playback.select Sample.crossroads 1).result = .error (.sceneMissing "swamp") ∧
      (Sample.atFork.playback.select Sample.crossroads 1).state ≠ Sample.atFork.playback := by
  refine ⟨Sample.atFork_reached, rfl, ?_⟩
  intro h
  have hflag := congrArg (fun p => p.memory.flags.get? "right") h
  revert hflag
  decide

end VisualNovel
