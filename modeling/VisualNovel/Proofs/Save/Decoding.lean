import VisualNovel.Proofs.Document
import VisualNovel.Proofs.Except
import VisualNovel.Save.Decoding

/-!
# What the parts of a saved game are read from

A decoder succeeds with a value exactly when a relation holds between the document and the value, and the
place that its faults name does not enter the relation. There is one such statement for each decoder, from
scalars up to the whole state (`decodeState_eq_ok_iff`), and later proofs use these alone.
-/

namespace VisualNovel

theorem Fields.getD_eq_iff {fields : Fields} {name : String} {value : Document}
    (h : value ≠ .null) : fields.getD name = value ↔ fields.get? name = some value := by
  unfold getD
  cases fields.get? name with
  | none => simp [h.symm]
  | some found => simp

theorem Fields.getD_of_names? {fields : Fields} {entries : List (String × Document)}
    (h : names? fields = some entries) {name : String} (plain : '\ufffd' ∉ name.toList) :
    getD (ofNames entries) name = fields.getD name := by
  unfold getD
  rw [get?_of_names? h plain]

namespace SaveData

open Fields

variable {place : String} {document : Document} {scenario : Option Scenario}

/-! ## Scalars -/

theorem decodeText_eq_ok_iff {s : Text} :
    decodeText place document = .ok s ↔ document = .text s := by
  cases document <;> simp [decodeText]

theorem decodeInt_eq_ok_iff {n : Int} : decodeInt place document = .ok n ↔ document = .int n := by
  cases document <;> simp [decodeInt]

theorem decodeBool_eq_ok_iff {b : Bool} :
    decodeBool place document = .ok b ↔ document = .bool b := by
  cases document <;> simp [decodeBool]

theorem decodeList_eq_ok_iff {items : List Document} :
    decodeList place document = .ok items ↔ document = .list items := by
  cases document <;> simp [decodeList]

/-- The document is a number of things. -/
def Counts (document : Document) (n : Int) : Prop :=
  document = .int n ∧ 0 ≤ n

theorem decodeNonNegative_eq_ok_iff {n : Int} :
    decodeNonNegative place document = .ok n ↔ Counts document n := by
  unfold decodeNonNegative Counts
  rw [bind_eq_ok_iff]
  simp only [decodeInt_eq_ok_iff]
  constructor
  · rintro ⟨m, rfl, h⟩
    split at h
    · cases h
    · next hm =>
      cases h
      exact ⟨rfl, Int.not_lt.1 hm⟩
  · rintro ⟨rfl, hn⟩
    exact ⟨n, rfl, if_neg (Int.not_lt.2 hn)⟩

/-- The document is the path of a picture. -/
def Depicts (document : Document) (picture : Option String) : Prop :=
  ∃ s, document = .text s ∧ picture = some s.toString

theorem decodePicture_eq_ok_iff {picture : Option String} :
    decodePicture place document = .ok picture ↔ Depicts document picture := by
  unfold decodePicture Depicts
  simp only [map_eq_ok_iff, decodeText_eq_ok_iff]

/-- The document is nothing, which stands for the default, or it is read as `R` tells. -/
def OptionalOf {α : Type} (R : Document → α → Prop) (default : α) (document : Document) (a : α) :
    Prop :=
  document = .null ∧ a = default ∨ document ≠ .null ∧ R document a

theorem decodeOptional_eq_ok_iff {α : Type} {decode : Document → Except SaveFault α}
    {R : Document → α → Prop} (hR : ∀ item a, decode item = .ok a ↔ R item a) {default a : α} :
    decodeOptional decode default document = .ok a ↔ OptionalOf R default document a := by
  unfold OptionalOf
  rw [← hR]
  cases document <;> simp [decodeOptional, eq_comm]

/-! ## Tables and lists -/

theorem decodeObject_eq_ok_iff {entries : List (String × Document)} :
    decodeObject place document = .ok entries ↔
      ∃ fields, document = .table fields ∧ Fields.names? fields = some entries := by
  cases document with
  | table fields =>
    unfold decodeObject
    cases h : Fields.names? fields <;> simp [h]
  | _ => simp [decodeObject]

/-- The values of a table are read as `R` tells, under the names that stand there. -/
def TableOf {α : Type} (R : Document → α → Prop) (document : Document) (m : OrderedMap α) : Prop :=
  ∃ fields entries values, document = .table fields ∧ Fields.names? fields = some entries ∧
    List.Forall₂ (fun entry value => value.1 = entry.1 ∧ R entry.2 value.2) entries values ∧
    m = .ofList values

theorem decodeMap_eq_ok_iff {α : Type} {decode : String → Document → Except SaveFault α}
    {R : Document → α → Prop} (hR : ∀ key item a, decode key item = .ok a ↔ R item a)
    {m : OrderedMap α} : decodeMap place decode document = .ok m ↔ TableOf R document m := by
  unfold decodeMap TableOf
  simp only [bind_eq_ok_iff, pure_eq_ok_iff, decodeObject_eq_ok_iff, mapM_eq_ok_iff, hR]
  have hentry : ∀ (entry : String × Document) (value : String × α),
      (∃ a, R entry.2 a ∧ value = (entry.1, a)) ↔ value.1 = entry.1 ∧ R entry.2 value.2 := by
    rintro entry ⟨name, b⟩
    constructor
    · rintro ⟨a, ha, heq⟩
      cases heq
      exact ⟨rfl, ha⟩
    · rintro ⟨rfl, hb⟩
      exact ⟨b, hb, rfl⟩
  simp only [hentry]
  constructor
  · rintro ⟨entries, ⟨fields, hd, hn⟩, values, hv, rfl⟩
    exact ⟨fields, entries, values, hd, hn, hv, rfl⟩
  · rintro ⟨fields, entries, values, hd, hn, hv, rfl⟩
    exact ⟨entries, ⟨fields, hd, hn⟩, values, hv, rfl⟩

theorem decodeItems_eq_ok_iff {α : Type} {decode : String → Document → Except SaveFault α}
    {R : Document → α → Prop} (hR : ∀ place item a, decode place item = .ok a ↔ R item a)
    {items : List Document} {values : List α} :
    decodeItems place decode items = .ok values ↔ List.Forall₂ R items values := by
  unfold decodeItems
  simp only [mapM_eq_ok_iff, hR]
  conv_rhs => rw [← List.zipIdx_map_fst 0 items, List.forall₂_map_left_iff]

/-! ## Scenes and characters -/

/-- The scenario, if there is one, has a scene under the text. -/
def Knows (scenario : Option Scenario) (scene : Text) : Prop :=
  ∀ story, scenario = some story → ∃ key, scene = .ofString key ∧ story.hasScene key = true

theorem knows_ofString {key : String} :
    Knows scenario (.ofString key) ↔ ∀ story, scenario = some story → story.hasScene key = true := by
  unfold Knows
  constructor
  · intro h story hs
    obtain ⟨other, heq, hk⟩ := h story hs
    rw [Text.ofString_injective heq]
    exact hk
  · intro h story hs
    exact ⟨key, rfl, h story hs⟩

theorem Knows.hasScene {story : Scenario} {scene : Text} (h : Knows (some story) scene) :
    story.hasScene scene.toString = true := by
  obtain ⟨key, rfl, hk⟩ := h story rfl
  rw [Text.toString_ofString]
  exact hk

theorem checkScene_eq_ok_iff {scene : Text} {u : Unit} :
    checkScene scenario place scene = .ok u ↔ Knows scenario scene := by
  cases scenario with
  | none => simp [checkScene, Knows]
  | some story =>
    have hany : scene.string?.any story.hasScene = true ↔
        ∃ key, scene = .ofString key ∧ story.hasScene key = true := by
      simp only [Option.any_eq_true, Text.string?_eq_some_iff]
    unfold checkScene Knows
    simp only [Option.some.injEq, forall_eq']
    rw [← hany]
    by_cases h : scene.string?.any story.hasScene = true <;> simp [h]

/-- The document is a place in a scene. -/
def Locates (document : Document) (scene : Text) (index : Int) : Prop :=
  ∃ fields : Fields, document = .table fields ∧ fields.Named ∧
    fields.get? "scene_id" = some (.text scene) ∧
    fields.get? "command_index" = some (.int index) ∧ 0 ≤ index

theorem decodePlace_eq_ok_iff {scene : Text} {index : Int} :
    decodePlace place document = .ok (scene, index) ↔ Locates document scene index := by
  unfold decodePlace Locates
  simp only [bind_eq_ok_iff, pure_eq_ok_iff, decodeObject_eq_ok_iff, decodeText_eq_ok_iff,
    decodeNonNegative_eq_ok_iff, Counts]
  constructor
  · rintro ⟨entries, ⟨fields, hd, hn⟩, s, hs, n, ⟨hi, h0⟩, heq⟩
    cases heq
    rw [getD_of_names? hn (by decide), getD_eq_iff (by simp)] at hs hi
    exact ⟨fields, hd, exists_names?_iff.1 ⟨entries, hn⟩, hs, hi, h0⟩
  · rintro ⟨fields, hd, hn, hs, hi, h0⟩
    obtain ⟨entries, hn⟩ := exists_names?_iff.2 hn
    rw [← getD_eq_iff (by simp), ← getD_of_names? hn (by decide)] at hs hi
    exact ⟨entries, ⟨fields, hd, hn⟩, scene, hs, index, ⟨hi, h0⟩, rfl⟩

/-- The document is a place to return to. -/
def Resumes (scenario : Option Scenario) (document : Document) (frame : Frame) : Prop :=
  ∃ scene index, Locates document scene index ∧ Knows scenario scene ∧
    frame = ⟨scene.toString, index⟩

theorem decodeFrame_eq_ok_iff {frame : Frame} :
    decodeFrame scenario place document = .ok frame ↔ Resumes scenario document frame := by
  unfold decodeFrame Resumes
  simp only [bind_eq_ok_iff, pure_eq_ok_iff, Prod.exists, decodePlace_eq_ok_iff,
    checkScene_eq_ok_iff, exists_const]

/-- The document is a character on stage. -/
def Portrays (document : Document) (saved : SavedCharacter) : Prop :=
  ∃ (fields : Fields) (id sprite : Text), document = .table fields ∧ fields.Named ∧
    fields.get? "character_id" = some (.text id) ∧ fields.get? "sprite" = some (.text sprite) ∧
    saved.position ∈ stagePositions ∧
    (fields.get? "position").getD (.string "center") = .string saved.position ∧
    saved.id = id.toString ∧ saved.sprite = sprite.toString

theorem decodePosition_eq_ok_iff {position : String} :
    decodePosition place document = .ok position ↔
      position ∈ stagePositions ∧ document = .string position := by
  have plain : ∀ position ∈ stagePositions, '\ufffd' ∉ position.toList := by decide
  cases document with
  | text text =>
    rw [decodePosition, Document.string, Document.text.injEq]
    constructor
    · intro h
      split at h
      · next hp =>
        cases h
        exact ⟨hp, (Text.toString_eq_iff (plain _ hp)).1 rfl⟩
      · cases h
    · rintro ⟨hp, rfl⟩
      rw [Text.toString_ofString, if_pos hp]
  | _ => simp [decodePosition, Document.string]

theorem decodeCharacter_eq_ok_iff {key : String} {saved : SavedCharacter} :
    decodeCharacter key document = .ok saved ↔ Portrays document saved := by
  unfold decodeCharacter Portrays
  simp only [bind_eq_ok_iff, pure_eq_ok_iff, decodeObject_eq_ok_iff, decodeText_eq_ok_iff,
    decodePosition_eq_ok_iff]
  constructor
  · rintro ⟨entries, ⟨fields, hd, hn⟩, position, ⟨hp, hpos⟩, id, hid, sprite, hsprite, rfl⟩
    rw [getD_of_names? hn (by decide), getD_eq_iff (by simp)] at hid hsprite
    rw [get?_of_names? hn (by decide)] at hpos
    exact ⟨fields, id, sprite, hd, exists_names?_iff.1 ⟨entries, hn⟩, hid, hsprite, hp, hpos,
      rfl, rfl⟩
  · rintro ⟨fields, id, sprite, hd, hn, hid, hsprite, hp, hpos, hsid, hssprite⟩
    obtain ⟨entries, hn⟩ := exists_names?_iff.2 hn
    rw [← getD_eq_iff (by simp), ← getD_of_names? hn (by decide)] at hid hsprite
    rw [← get?_of_names? hn (by decide)] at hpos
    refine ⟨entries, ⟨fields, hd, hn⟩, saved.position, ⟨hp, hpos⟩, id, hid, sprite, hsprite, ?_⟩
    rw [← hsid, ← hssprite]

/-! ## The parts of the state -/

/-- The document is the scene in which play goes on. -/
def Opens (scenario : Option Scenario) (document : Document) (scene : String) : Prop :=
  ∃ text, document = .text text ∧ (text = .ofString "" ∨ Knows scenario text) ∧
    scene = text.toString

theorem decodeScene_eq_ok_iff {scene : String} :
    decodeScene scenario place document = .ok scene ↔ Opens scenario document scene := by
  unfold decodeScene Opens
  simp only [bind_eq_ok_iff, decodeText_eq_ok_iff]
  refine exists_congr fun text => and_congr_right fun _ => ?_
  by_cases hempty : text.toString = ""
  · rw [if_neg (not_not.2 hempty), pure_eq_ok_iff]
    simp [Text.toString_eq_empty_iff.1 hempty]
  · rw [if_pos hempty]
    have hne : text ≠ .ofString "" := fun h => hempty (Text.toString_eq_empty_iff.2 h)
    simp only [bind_eq_ok_iff, pure_eq_ok_iff, checkScene_eq_ok_iff, hne, false_or, exists_const]

theorem decodeFlags_eq_ok_iff {flags : OrderedMap Bool} :
    decodeFlags document = .ok flags ↔ TableOf (fun item b => item = .bool b) document flags := by
  unfold decodeFlags
  refine decodeMap_eq_ok_iff ?_
  intro key item a
  exact decodeBool_eq_ok_iff

theorem decodeVariables_eq_ok_iff {vars : OrderedMap Int} :
    decodeVariables document = .ok vars ↔ TableOf (fun item n => item = .int n) document vars := by
  unfold decodeVariables
  refine decodeMap_eq_ok_iff ?_
  intro key item a
  exact decodeInt_eq_ok_iff

theorem decodeCharacters_eq_ok_iff {characters : OrderedMap SavedCharacter} :
    decodeCharacters document = .ok characters ↔ TableOf Portrays document characters := by
  unfold decodeCharacters
  refine decodeMap_eq_ok_iff ?_
  intro key item a
  exact decodeCharacter_eq_ok_iff

/-- The document lists the lines that were read. -/
def Lists (document : Document) (read : ReadHistory) : Prop :=
  ∃ (items : List Document) (lines : List (Text × Int)), document = .list items ∧
    List.Forall₂ (fun item line => Locates item line.1 line.2) items lines ∧
    read = .ofList (lines.map fun line => ⟨line.1.toString, line.2⟩)

theorem decodeHistory_eq_ok_iff {read : ReadHistory} :
    decodeHistory document = .ok read ↔ Lists document read := by
  have hline : ∀ (place : String) (item : Document) (line : Text × Int),
      decodePlace place item = .ok line ↔ Locates item line.1 line.2 := by
    intro place item line
    exact decodePlace_eq_ok_iff
  unfold decodeHistory Lists
  simp only [bind_eq_ok_iff, pure_eq_ok_iff, decodeList_eq_ok_iff, decodeItems_eq_ok_iff hline]
  constructor
  · rintro ⟨items, hd, lines, hp, rfl⟩
    exact ⟨items, lines, hd, hp, rfl⟩
  · rintro ⟨items, lines, hd, hp, rfl⟩
    exact ⟨items, hd, lines, hp, rfl⟩

/-- The document lists the open calls. -/
def Stacks (scenario : Option Scenario) (document : Document) (stack : List Frame) : Prop :=
  ∃ items, document = .list items ∧ items.length ≤ maxCallDepth ∧
    List.Forall₂ (Resumes scenario) items stack

theorem decodeStack_eq_ok_iff {stack : List Frame} :
    decodeStack scenario document = .ok stack ↔ Stacks scenario document stack := by
  have hframes : ∀ items, decodeItems "state.scene_stack" (decodeFrame scenario) items = .ok stack ↔
      List.Forall₂ (Resumes scenario) items stack := by
    intro items
    refine decodeItems_eq_ok_iff ?_
    intro place item frame
    exact decodeFrame_eq_ok_iff
  unfold decodeStack Stacks
  simp only [bind_eq_ok_iff, decodeList_eq_ok_iff]
  constructor
  · rintro ⟨items, hd, h⟩
    split at h
    · cases h
    · next hdepth =>
      exact ⟨items, hd, Nat.not_lt.1 hdepth, (hframes items).1 h⟩
  · rintro ⟨items, hd, hdepth, h⟩
    refine ⟨items, hd, ?_⟩
    rw [if_neg (Nat.not_lt.2 hdepth)]
    exact (hframes items).2 h

/-- The fields of a state are those of a saved game. -/
structure Describes (scenario : Option Scenario) (state : Fields) (data : SaveData) : Prop where
  scene : Opens scenario (state.getD "current_scene") data.scene
  slot : state.getD "slot" = .int data.slot
  version : data.version = saveVersion
  timestamp : OptionalOf Counts 0 (state.getD "timestamp") data.timestamp
  playTime : OptionalOf Counts 0 (state.getD "play_time_secs") data.playTime
  index : OptionalOf Counts 0 (state.getD "command_index") data.index
  flags : OptionalOf (TableOf fun item b => item = .bool b) .empty (state.getD "flags") data.flags
  vars : OptionalOf (TableOf fun item n => item = .int n) .empty (state.getD "variables") data.vars
  read : OptionalOf Lists .empty (state.getD "read_history") data.read
  stack : OptionalOf (Stacks scenario) [] (state.getD "scene_stack") data.stack
  background : OptionalOf Depicts none (state.getD "current_background") data.background
  cg : OptionalOf Depicts none (state.getD "current_cg") data.cg
  characters :
    OptionalOf (TableOf Portrays) .empty (state.getD "displayed_characters") data.characters

theorem decodeState_eq_ok_iff {state : Fields} {data : SaveData} :
    decodeState scenario state = .ok data ↔ Describes scenario state data := by
  unfold decodeState decodeState.optional
  simp only [bind_eq_ok_iff, pure_eq_ok_iff, decodeScene_eq_ok_iff, decodeInt_eq_ok_iff,
    decodeOptional_eq_ok_iff fun _ _ => decodeNonNegative_eq_ok_iff,
    decodeOptional_eq_ok_iff fun _ _ => decodeFlags_eq_ok_iff,
    decodeOptional_eq_ok_iff fun _ _ => decodeVariables_eq_ok_iff,
    decodeOptional_eq_ok_iff fun _ _ => decodeHistory_eq_ok_iff,
    decodeOptional_eq_ok_iff fun _ _ => decodeStack_eq_ok_iff,
    decodeOptional_eq_ok_iff fun _ _ => decodePicture_eq_ok_iff,
    decodeOptional_eq_ok_iff fun _ _ => decodeCharacters_eq_ok_iff]
  constructor
  · rintro ⟨scene, h1, slot, h2, timestamp, h3, playTime, h4, index, h5, flags, h6, vars, h7, read, h8,
      stack, h9, background, h10, cg, h11, characters, h12, rfl⟩
    exact ⟨h1, h2, rfl, h3, h4, h5, h6, h7, h8, h9, h10, h11, h12⟩
  · intro h
    refine ⟨_, h.scene, _, h.slot, _, h.timestamp, _, h.playTime, _, h.index, _, h.flags, _, h.vars, _,
      h.read, _, h.stack, _, h.background, _, h.cg, _, h.characters, ?_⟩
    rw [← h.version]

/-- **Decoding.** A document is decoded exactly when its version is one and its state describes the
saved game. -/
theorem decode_eq_ok_iff {data : SaveData} :
    decode scenario document = .ok data ↔ ∃ fields state, document = .table fields ∧
      (getD fields "save_version").isOne = true ∧ getD fields "state" = .table state ∧
      Describes scenario state data := by
  cases document with
  | table fields =>
    rw [decode]
    constructor
    · intro h
      split at h
      · split at h <;> cases h
      · next hversion =>
        split at h
        · next state hstate =>
          have hdescribes := decodeState_eq_ok_iff.1 (mapError_eq_ok_iff.1 h)
          exact ⟨fields, state, rfl, by simpa using hversion, hstate, hdescribes⟩
        · cases h
    · rintro ⟨_, state, ⟨rfl⟩, hversion, hstate, h⟩
      rw [hversion, hstate]
      exact mapError_eq_ok_iff.2 (decodeState_eq_ok_iff.2 h)
  | _ => simp [decode]

/-! ## Why decoding fails -/

theorem exists_saveFault_iff {α : Type} {x : Except DecodeFault α} :
    (∃ fault, x = .error (.save fault)) ↔ (¬∃ a, x = .ok a) ∧ x ≠ .error .tooManyDigits := by
  cases x with
  | ok a => simp
  | error fault => cases fault <;> simp

/-- A version that is one is not shown. -/
theorem decode_ne_tooManyDigits_of_isOne {fields : Fields}
    (h : (getD fields "save_version").isOne = true) :
    decode scenario (.table fields) ≠ .error .tooManyDigits := by
  have hstate : ∀ state,
      (decodeState scenario state).mapError DecodeFault.save ≠ .error .tooManyDigits := by
    intro state
    cases decodeState scenario state <;> simp [Except.mapError]
  rw [decode, h]
  cases getD fields "state" with
  | table state => exact hstate state
  | _ => nofun

end SaveData

end VisualNovel
