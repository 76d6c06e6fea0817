import VisualNovel.Proofs.OrderedMap
import VisualNovel.Proofs.Save.Decoding
import VisualNovel.Save.Encoding

/-!
# A saved game and its document

`SaveData.Storable` says which saved games come back from their own document: counts and indices are not
negative, the scenes exist if there is a scenario to check them with, at most a hundred calls are open, and
every character stands at one of the five places. The relations that decoding reads off a document are
functions on the documents that encoding writes, so such a saved game comes back as it was, and any other
is refused (`decode_encode`).
-/

namespace VisualNovel

open Fields

theorem Fields.getD_ofNames (name : String) (entries : List (String × Document)) :
    getD (ofNames entries) name = (Entries.find? name entries).getD .null := by
  unfold getD
  rw [get?_ofNames]

theorem SortedSet.ofList_toList {α : Type} [Ord α] [Std.TransOrd α] [Std.LawfulEqOrd α]
    (s : SortedSet α) : ofList s.toList = s :=
  ext_mem fun x => by rw [mem_ofList, mem_toList]

theorem Document.ofMap_ne_null {α : Type} (encode : α → Document) (m : OrderedMap α) :
    Document.ofMap encode m ≠ .null := by
  simp [ofMap, record]

namespace SaveData

/-- What a saved game needs to come back from its document. -/
structure Storable (scenario : Option Scenario) (data : SaveData) : Prop where
  timestamp : 0 ≤ data.timestamp
  playTime : 0 ≤ data.playTime
  index : 0 ≤ data.index
  read : ∀ line ∈ data.read, 0 ≤ line.index
  scene : data.scene = "" ∨ ∀ story, scenario = some story → story.hasScene data.scene = true
  depth : data.stack.length ≤ 100
  frames : ∀ frame ∈ data.stack, 0 ≤ frame.resume ∧
    ∀ story, scenario = some story → story.hasScene frame.scene = true
  positions : ∀ key saved, data.characters.get? key = some saved →
    saved.position ∈ ["far_left", "left", "center", "right", "far_right"]

/-! ## Reading what was written -/

variable {scenario : Option Scenario}

/-- If each item that `encode` writes is read as one value at most, so is a list of them. -/
theorem forall₂_map_iff {α β γ : Type} {R : β → γ → Prop} {encode : α → β} {decoded : α → γ}
    {good : α → Prop} (h : ∀ a c, R (encode a) c ↔ good a ∧ c = decoded a) {l : List α}
    {values : List γ} :
    List.Forall₂ R (l.map encode) values ↔ (∀ a ∈ l, good a) ∧ values = l.map decoded := by
  induction l generalizing values with
  | nil => simp
  | cons a l ih =>
    rw [List.map_cons, List.map_cons, List.forall₂_cons_left_iff, List.forall_mem_cons]
    constructor
    · rintro ⟨c, rest, hc, hrest, rfl⟩
      obtain ⟨hgood, rfl⟩ := (h a c).1 hc
      obtain ⟨hall, rfl⟩ := ih.1 hrest
      exact ⟨⟨hgood, hall⟩, rfl⟩
    · rintro ⟨⟨hgood, hall⟩, rfl⟩
      exact ⟨_, _, (h a _).2 ⟨hgood, rfl⟩, ih.2 ⟨hall, rfl⟩, rfl⟩

theorem optionalOf_iff {α : Type} {R : Document → α → Prop} {default a : α} {document : Document}
    (h : document ≠ .null) : OptionalOf R default document a ↔ R document a := by
  simp [OptionalOf, h]

theorem opens_string {key scene : String} : Opens scenario (.string key) scene ↔
    (key = "" ∨ ∀ story, scenario = some story → story.hasScene key = true) ∧ scene = key := by
  unfold Opens Document.string
  rw [← knows_ofString]
  constructor
  · rintro ⟨_, ⟨rfl⟩, hscene, rfl⟩
    rw [Text.toString_ofString]
    refine ⟨hscene.imp_left Text.ofString_injective, rfl⟩
  · rintro ⟨hscene, rfl⟩
    exact ⟨_, rfl, hscene.imp_left (congrArg _), (Text.toString_ofString _).symm⟩

theorem optional_counts {n m : Int} : OptionalOf Counts 0 (.int n) m ↔ 0 ≤ n ∧ m = n := by
  rw [optionalOf_iff (by simp)]
  unfold Counts
  constructor
  · rintro ⟨⟨rfl⟩, h⟩
    exact ⟨h, rfl⟩
  · rintro ⟨h, rfl⟩
    exact ⟨rfl, h⟩

theorem optional_depicts {picture other : Option String} :
    OptionalOf Depicts none (.ofText? picture) other ↔ other = picture := by
  cases picture with
  | none => simp [OptionalOf, Document.ofText?]
  | some s =>
    rw [optionalOf_iff (by simp [Document.ofText?, Document.string])]
    simp [Depicts, Document.ofText?, Document.string]

theorem tableOf_ofMap {α : Type} {R : Document → α → Prop} {encode : α → Document} {good : α → Prop}
    (h : ∀ a b, R (encode a) b ↔ good a ∧ b = a) {m other : OrderedMap α} :
    TableOf R (.ofMap encode m) other ↔ (∀ entry ∈ m.entries, good entry.2) ∧ other = m := by
  have hvalues : ∀ values : List (String × α),
      List.Forall₂ (fun (entry : String × Document) (value : String × α) =>
        value.1 = entry.1 ∧ R entry.2 value.2)
        (m.entries.map fun entry => (entry.1, encode entry.2)) values ↔
      (∀ entry ∈ m.entries, good entry.2) ∧ values = m.entries.map id := by
    intro values
    refine forall₂_map_iff ?_
    rintro ⟨key, a⟩ ⟨name, b⟩
    simp only [h, id, Prod.mk.injEq]
    exact and_left_comm
  unfold TableOf Document.ofMap Document.record
  constructor
  · rintro ⟨_, entries, values, ⟨rfl⟩, hn, hv, rfl⟩
    rw [names?_ofNames] at hn
    cases hn
    obtain ⟨hgood, rfl⟩ := (hvalues values).1 hv
    rw [List.map_id]
    exact ⟨hgood, OrderedMap.ofList_entries m⟩
  · rintro ⟨hgood, rfl⟩
    refine ⟨_, _, other.entries.map id, rfl, names?_ofNames _, (hvalues _).2 ⟨hgood, rfl⟩, ?_⟩
    rw [List.map_id, OrderedMap.ofList_entries]

theorem optional_flags {flags other : OrderedMap Bool} :
    OptionalOf (TableOf fun item b => item = .bool b) .empty (.ofMap .bool flags) other ↔
      other = flags := by
  have hbool : ∀ a b : Bool, Document.bool a = .bool b ↔ True ∧ b = a := by simp [eq_comm]
  refine (optionalOf_iff (Document.ofMap_ne_null _ _)).trans ((tableOf_ofMap hbool).trans ?_)
  simp

theorem optional_vars {vars other : OrderedMap Int} :
    OptionalOf (TableOf fun item n => item = .int n) .empty (.ofMap .int vars) other ↔
      other = vars := by
  have hint : ∀ a b : Int, Document.int a = .int b ↔ True ∧ b = a := by simp [eq_comm]
  refine (optionalOf_iff (Document.ofMap_ne_null _ _)).trans ((tableOf_ofMap hint).trans ?_)
  simp

theorem locates_ofPlace {key : String} {n index : Int} {scene : Text} :
    Locates (.ofPlace key n) scene index ↔ 0 ≤ n ∧ scene = .ofString key ∧ index = n := by
  unfold Locates Document.ofPlace Document.record
  constructor
  · rintro ⟨_, ⟨rfl⟩, -, hs, hi, h0⟩
    rw [get?_ofNames] at hs hi
    cases hs
    cases hi
    exact ⟨h0, rfl, rfl⟩
  · rintro ⟨h0, rfl, rfl⟩
    refine ⟨_, rfl, named_ofNames _, ?_, ?_, h0⟩
    · rw [get?_ofNames]
      rfl
    · rw [get?_ofNames]
      rfl

theorem portrays_toDocument {saved other : SavedCharacter} :
    Portrays saved.toDocument other ↔ saved.position ∈ stagePositions ∧ other = saved := by
  unfold Portrays SavedCharacter.toDocument Document.record
  constructor
  · rintro ⟨_, id, sprite, ⟨rfl⟩, -, hid, hsprite, hp, hpos, hotherId, hotherSprite⟩
    rw [get?_ofNames] at hid hsprite hpos
    cases hid
    cases hsprite
    have hposition : saved.position = other.position :=
      Text.ofString_injective (Document.text.inj hpos)
    rw [Text.toString_ofString] at hotherId hotherSprite
    exact ⟨hposition ▸ hp, SavedCharacter.ext hotherId hotherSprite hposition.symm⟩
  · rintro ⟨hp, rfl⟩
    refine ⟨_, .ofString other.id, .ofString other.sprite, rfl, named_ofNames _, ?_, ?_, hp, ?_,
      (Text.toString_ofString _).symm, (Text.toString_ofString _).symm⟩
    · rw [get?_ofNames]
      rfl
    · rw [get?_ofNames]
      rfl
    · rw [get?_ofNames]
      rfl

theorem optional_characters {characters other : OrderedMap SavedCharacter} :
    OptionalOf (TableOf Portrays) .empty (.ofMap SavedCharacter.toDocument characters) other ↔
      (∀ key saved, characters.get? key = some saved → saved.position ∈ stagePositions) ∧
        other = characters := by
  have hentries : (∀ entry ∈ characters.entries, entry.2.position ∈ stagePositions) ↔
      ∀ key saved, characters.get? key = some saved → saved.position ∈ stagePositions := by
    simp only [OrderedMap.get?_eq_some_iff, Prod.forall]
  have hportrays : ∀ saved other : SavedCharacter, Portrays saved.toDocument other ↔
      saved.position ∈ stagePositions ∧ other = saved := by
    intro saved other
    exact portrays_toDocument
  rw [← hentries]
  exact (optionalOf_iff (Document.ofMap_ne_null _ _)).trans (tableOf_ofMap hportrays)

theorem optional_lists {read other : ReadHistory} :
    OptionalOf Lists .empty
        (.list (read.toList.map fun line => .ofPlace line.scene line.index)) other ↔
      (∀ line ∈ read, 0 ≤ line.index) ∧ other = read := by
  have hlines : ∀ lines : List (Text × Int),
      List.Forall₂ (fun (item : Document) (line : Text × Int) => Locates item line.1 line.2)
        (read.toList.map fun line => .ofPlace line.scene line.index) lines ↔
      (∀ line ∈ read.toList, 0 ≤ line.index) ∧
        lines = read.toList.map fun line => (.ofString line.scene, line.index) := by
    intro lines
    refine forall₂_map_iff ?_
    rintro line ⟨scene, index⟩
    rw [locates_ofPlace, Prod.mk.injEq]
  have hback : SortedSet.ofList ((read.toList.map fun line =>
      ((.ofString line.scene, line.index) : Text × Int)).map fun line =>
        (⟨line.1.toString, line.2⟩ : LineId)) = read := by
    rw [List.map_map]
    simp only [Function.comp_def, Text.toString_ofString]
    rw [List.map_id', SortedSet.ofList_toList]
  rw [optionalOf_iff (by simp)]
  unfold Lists
  constructor
  · rintro ⟨_, lines, ⟨rfl⟩, h, rfl⟩
    obtain ⟨hindex, rfl⟩ := (hlines lines).1 h
    exact ⟨hindex, hback⟩
  · rintro ⟨hindex, rfl⟩
    exact ⟨_, _, rfl, (hlines _).2 ⟨hindex, rfl⟩, hback.symm⟩

theorem resumes_ofPlace {frame other : Frame} :
    Resumes scenario (.ofPlace frame.scene frame.resume) other ↔
      (0 ≤ frame.resume ∧ ∀ story, scenario = some story → story.hasScene frame.scene = true) ∧
        other = frame := by
  unfold Resumes
  rw [← knows_ofString]
  constructor
  · rintro ⟨scene, index, hplace, hknows, rfl⟩
    obtain ⟨h0, rfl, rfl⟩ := locates_ofPlace.1 hplace
    rw [Text.toString_ofString]
    exact ⟨⟨h0, hknows⟩, rfl⟩
  · rintro ⟨⟨h0, hknows⟩, rfl⟩
    refine ⟨_, _, locates_ofPlace.2 ⟨h0, rfl, rfl⟩, hknows, ?_⟩
    rw [Text.toString_ofString]

theorem optional_stacks {stack other : List Frame} :
    OptionalOf (Stacks scenario) []
        (.list (stack.map fun frame => .ofPlace frame.scene frame.resume)) other ↔
      stack.length ≤ 100 ∧ (∀ frame ∈ stack, 0 ≤ frame.resume ∧
        ∀ story, scenario = some story → story.hasScene frame.scene = true) ∧ other = stack := by
  have hframes : List.Forall₂ (Resumes scenario)
      (stack.map fun frame => .ofPlace frame.scene frame.resume) other ↔
      (∀ frame ∈ stack, 0 ≤ frame.resume ∧
        ∀ story, scenario = some story → story.hasScene frame.scene = true) ∧
        other = stack.map id := by
    refine forall₂_map_iff ?_
    intro frame other
    exact resumes_ofPlace
  rw [List.map_id] at hframes
  rw [optionalOf_iff (by simp), ← hframes]
  unfold Stacks
  constructor
  · rintro ⟨_, ⟨rfl⟩, hdepth, h⟩
    rw [List.length_map] at hdepth
    exact ⟨hdepth, h⟩
  · rintro ⟨hdepth, h⟩
    refine ⟨_, rfl, ?_, h⟩
    rw [List.length_map]
    exact hdepth

/-! ## The whole state -/

/-- The fields of an encoded state. -/
theorem getD_state {data : SaveData} {state : Fields} (h : data.stateDocument = .table state) :
    state.getD "slot" = .int data.slot ∧
    state.getD "timestamp" = .int data.timestamp ∧
    state.getD "play_time_secs" = .int data.playTime ∧
    state.getD "current_scene" = .string data.scene ∧
    state.getD "command_index" = .int data.index ∧
    state.getD "flags" = .ofMap .bool data.flags ∧
    state.getD "variables" = .ofMap .int data.vars ∧
    state.getD "read_history" =
      .list (data.read.toList.map fun line => .ofPlace line.scene line.index) ∧
    state.getD "scene_stack" =
      .list (data.stack.map fun frame => .ofPlace frame.scene frame.resume) ∧
    state.getD "current_background" = .ofText? data.background ∧
    state.getD "current_cg" = .ofText? data.cg ∧
    state.getD "displayed_characters" = .ofMap SavedCharacter.toDocument data.characters := by
  cases h
  simp only [getD_ofNames]
  refine ⟨rfl, rfl, rfl, rfl, rfl, rfl, rfl, rfl, rfl, rfl, rfl, rfl⟩

/-- **States.** An encoded state describes the saved game that it was made from, if that is storable,
and no other. -/
theorem describes_state_iff {data other : SaveData} {state : Fields}
    (h : data.stateDocument = .table state) :
    Describes scenario state other ↔
      data.Storable scenario ∧ other = { data with version := saveVersion } := by
  obtain ⟨slot, timestamp, playTime, scene, index, flags, vars, read, stack, background, cg,
    characters⟩ := getD_state h
  constructor
  · intro d
    obtain ⟨hscene, escene⟩ := opens_string.1 (scene ▸ d.scene)
    obtain ⟨htimestamp, etimestamp⟩ := optional_counts.1 (timestamp ▸ d.timestamp)
    obtain ⟨hplayTime, eplayTime⟩ := optional_counts.1 (playTime ▸ d.playTime)
    obtain ⟨hindex, eindex⟩ := optional_counts.1 (index ▸ d.index)
    obtain ⟨hread, eread⟩ := optional_lists.1 (read ▸ d.read)
    obtain ⟨hdepth, hframes, estack⟩ := optional_stacks.1 (stack ▸ d.stack)
    obtain ⟨hpositions, echaracters⟩ := optional_characters.1 (characters ▸ d.characters)
    have eslot : other.slot = data.slot := (Document.int.inj (slot.symm.trans d.slot)).symm
    have eflags := optional_flags.1 (flags ▸ d.flags)
    have evars := optional_vars.1 (vars ▸ d.vars)
    have ebackground := optional_depicts.1 (background ▸ d.background)
    have ecg := optional_depicts.1 (cg ▸ d.cg)
    refine ⟨⟨htimestamp, hplayTime, hindex, hread, hscene, hdepth, hframes, hpositions⟩, ?_⟩
    exact SaveData.ext eslot d.version etimestamp eplayTime escene eindex eflags evars eread estack
      ebackground ecg echaracters
  · rintro ⟨s, rfl⟩
    exact {
      scene := scene ▸ opens_string.2 ⟨s.scene, rfl⟩
      slot := slot
      version := rfl
      timestamp := timestamp ▸ optional_counts.2 ⟨s.timestamp, rfl⟩
      playTime := playTime ▸ optional_counts.2 ⟨s.playTime, rfl⟩
      index := index ▸ optional_counts.2 ⟨s.index, rfl⟩
      flags := flags ▸ optional_flags.2 rfl
      vars := vars ▸ optional_vars.2 rfl
      read := read ▸ optional_lists.2 ⟨s.read, rfl⟩
      stack := stack ▸ optional_stacks.2 ⟨s.depth, s.frames, rfl⟩
      background := background ▸ optional_depicts.2 rfl
      cg := cg ▸ optional_depicts.2 rfl
      characters := characters ▸ optional_characters.2 ⟨s.positions, rfl⟩ }

theorem decode_encode_eq_ok_iff {savedAt : String} {data other : SaveData} :
    decode scenario (data.encode scenario savedAt) = .ok other ↔
      data.Storable scenario ∧ other = { data with version := saveVersion } := by
  rw [decode_eq_ok_iff]
  unfold encode Document.record
  constructor
  · rintro ⟨_, state, ⟨rfl⟩, -, hstate, h⟩
    rw [getD_ofNames] at hstate
    exact (describes_state_iff hstate).1 h
  · intro h
    obtain ⟨state, hstate⟩ : ∃ state, data.stateDocument = .table state := ⟨_, rfl⟩
    refine ⟨_, state, rfl, ?_, ?_, (describes_state_iff hstate).2 h⟩
    · rw [getD_ofNames]
      rfl
    · rw [getD_ofNames]
      exact hstate

/-- **Round trip.** Decoding the document of a saved game succeeds exactly when the saved game is
storable. It then gives the saved game back, with the version of saved games, and otherwise fails with a
fault of saved games. -/
theorem decode_encode (scenario : Option Scenario) (savedAt : String) (data : SaveData) :
    ((∃ other, decode scenario (data.encode scenario savedAt) = .ok other) ↔
        data.Storable scenario) ∧
      (∀ other, decode scenario (data.encode scenario savedAt) = .ok other →
        other = { data with version := saveVersion }) ∧
      ((∃ fault : SaveFault, decode scenario (data.encode scenario savedAt) = .error (.save fault)) ↔
        ¬data.Storable scenario) := by
  have hok : (∃ other, decode scenario (data.encode scenario savedAt) = .ok other) ↔
      data.Storable scenario := by
    simp only [decode_encode_eq_ok_iff, exists_and_left, exists_eq, and_true]
  refine ⟨hok, ?_, ?_⟩
  · intro other h
    exact (decode_encode_eq_ok_iff.1 h).2
  · have hone : ∀ fields, data.encode scenario savedAt = .table fields →
        (Fields.getD fields "save_version").isOne = true := by
      rintro _ ⟨⟩
      rw [getD_ofNames]
      rfl
    obtain ⟨fields, hfields⟩ : ∃ fields, data.encode scenario savedAt = .table fields := ⟨_, rfl⟩
    rw [exists_saveFault_iff, hok, hfields]
    exact and_iff_left (decode_ne_tooManyDigits_of_isOne (hone fields hfields))

end SaveData

end VisualNovel
