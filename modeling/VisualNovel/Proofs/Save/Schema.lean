import Mathlib
import VisualNovel.Proofs.Document.Literal
import VisualNovel.Proofs.Save.Decoding

/-!
# The schema of saved games

`SaveData.Fits` says which documents are saved games: a table with version one and a state, whose scene and
slot are there, whose other fields may be missing or null, and whose values have the right types all the way
down. It speaks of the document alone. Decoding accepts these documents and no others
(`decode_accepts_iff_unless_overlong`). It refuses the others as no saved games, unless the version cannot be
shown in the message (`SaveData.OverlongVersion`). Documents that come from files never have such a version
(`decode_of_read`).
-/

namespace VisualNovel

/-! ## Shapes of documents -/

namespace Fields

/-- The field is there, with a value in `P`. -/
def Has (fields : Fields) (name : String) (P : Document → Prop) : Prop :=
  ∃ value, fields.get? name = some value ∧ P value

/-- The field is missing or null, or there with a value in `P`. -/
def MayHave (fields : Fields) (name : String) (P : Document → Prop) : Prop :=
  fields.get? name = none ∨ fields.get? name = some .null ∨ fields.Has name P

end Fields

namespace Document

def IsText (P : Text → Prop) (document : Document) : Prop :=
  ∃ text, document = .text text ∧ P text

def IsBoolean (document : Document) : Prop :=
  ∃ b, document = .bool b

/-- An integer; a truth value is none. -/
def IsInteger (document : Document) : Prop :=
  ∃ n, document = .int n

def IsCount (document : Document) : Prop :=
  ∃ n, document = .int n ∧ 0 ≤ n

/-- A table under names, with fields in `P`. -/
def IsObject (P : Fields → Prop) (document : Document) : Prop :=
  ∃ fields, document = .table fields ∧ Fields.Named fields ∧ P fields

/-- A table under names, with all values in `P`. -/
def IsObjectOf (P : Document → Prop) : Document → Prop :=
  IsObject fun fields => ∀ field ∈ fields, P field.2

def IsListOf (P : Document → Prop) (document : Document) : Prop :=
  ∃ items, document = .list items ∧ ∀ item ∈ items, P item

end Document

/-! ## Saved games -/

namespace SaveData

open Document

/-- A place in a scene in `P`. -/
def IsPlace (P : Text → Prop) : Document → Prop :=
  IsObject fun fields =>
    fields.Has "scene_id" (IsText P) ∧ fields.Has "command_index" IsCount

/-- A character on stage; a position that is given has to be one of the five. -/
def IsCharacter : Document → Prop :=
  IsObject fun fields =>
    fields.Has "character_id" (IsText fun _ => True) ∧ fields.Has "sprite" (IsText fun _ => True) ∧
    (fields.get? "position" = none ∨
      fields.Has "position" fun value => ∃ position ∈ stagePositions, value = .string position)

/-- What the state of a saved game looks like. -/
structure StateFits (scenario : Option Scenario) (state : Fields) : Prop where
  scene : state.Has "current_scene" (IsText fun scene => scene = .ofString "" ∨ Knows scenario scene)
  slot : state.Has "slot" IsInteger
  timestamp : state.MayHave "timestamp" IsCount
  playTime : state.MayHave "play_time_secs" IsCount
  index : state.MayHave "command_index" IsCount
  flags : state.MayHave "flags" (IsObjectOf IsBoolean)
  vars : state.MayHave "variables" (IsObjectOf IsInteger)
  read : state.MayHave "read_history" (IsListOf (IsPlace fun _ => True))
  stack : state.MayHave "scene_stack" fun value =>
    ∃ items, value = .list items ∧ items.length ≤ 100 ∧ ∀ item ∈ items, IsPlace (Knows scenario) item
  background : state.MayHave "current_background" (IsText fun _ => True)
  cg : state.MayHave "current_cg" (IsText fun _ => True)
  characters : state.MayHave "displayed_characters" (IsObjectOf IsCharacter)

/-- What the document of a saved game looks like. The version may be written as an integer, as a truth
value or as a number. -/
def Fits (scenario : Option Scenario) (document : Document) : Prop :=
  ∃ fields state, document = .table fields ∧
    Fields.Has fields "save_version" (fun value =>
      value = .int 1 ∨ value = .bool true ∨ value = .float 1.0) ∧
    Fields.get? "state" fields = some (.table state) ∧ StateFits scenario state

/-! ## What can be read at all -/

section

variable {α : Type} {R : Document → α → Prop} {P : Document → Prop} {document : Document}
  {fields : Fields} {name : String}

theorem has_iff_getD (h : ¬P .null) :
    fields.Has name P ↔ P (fields.getD name) := by
  unfold Fields.Has Fields.getD
  cases fields.get? name with
  | none => simp [h]
  | some value => simp

/-- A field that may be left out can be read when it is left out, or its value can be read. -/
theorem exists_optionalOf_iff (h : ∀ value, (∃ a, R value a) ↔ P value) {default : α} :
    (∃ a, OptionalOf R default (fields.getD name) a) ↔ fields.MayHave name P := by
  unfold Fields.MayHave Fields.Has Fields.getD OptionalOf
  cases fields.get? name with
  | none => simp
  | some value => by_cases hnull : value = .null <;> simp [hnull, h]

/-- The names of a table play no part in whether its values can be read. -/
theorem forall_values_iff {entries : List (String × Document)}
    (h : Fields.names? fields = some entries) :
    (∀ entry ∈ entries, P entry.2) ↔ ∀ field ∈ fields, P field.2 := by
  have hvalues := Fields.values_of_names? h
  calc (∀ entry ∈ entries, P entry.2) ↔ ∀ value ∈ entries.map Prod.snd, P value := by
        rw [List.forall_mem_map]
    _ ↔ ∀ value ∈ fields.map Prod.snd, P value := by rw [hvalues]
    _ ↔ ∀ field ∈ fields, P field.2 := by rw [List.forall_mem_map]

theorem exists_tableOf_iff (h : ∀ value, (∃ a, R value a) ↔ P value) :
    (∃ m, TableOf R document m) ↔ IsObjectOf P document := by
  have hentries : ∀ entries : List (String × Document),
      (∃ values : List (String × α), List.Forall₂ (fun entry value =>
        value.1 = entry.1 ∧ R entry.2 value.2) entries values) ↔ ∀ entry ∈ entries, P entry.2 := by
    intro entries
    rw [exists_forall₂_iff]
    refine forall₂_congr fun entry _ => ?_
    rw [← h]
    constructor
    · rintro ⟨value, -, hv⟩
      exact ⟨value.2, hv⟩
    · rintro ⟨a, ha⟩
      exact ⟨(entry.1, a), rfl, ha⟩
  unfold TableOf IsObjectOf IsObject
  constructor
  · rintro ⟨m, fields, entries, values, hd, hn, hv, -⟩
    have hall := (hentries entries).1 ⟨values, hv⟩
    exact ⟨fields, hd, Fields.exists_names?_iff.1 ⟨entries, hn⟩, (forall_values_iff hn).1 hall⟩
  · rintro ⟨fields, hd, hn, hall⟩
    obtain ⟨entries, hn⟩ := Fields.exists_names?_iff.2 hn
    obtain ⟨values, hv⟩ := (hentries entries).2 ((forall_values_iff hn).2 hall)
    exact ⟨.ofList values, fields, entries, values, hd, hn, hv, rfl⟩

end

variable {scenario : Option Scenario} {document : Document}

theorem exists_locates_iff {P : Text → Prop} :
    (∃ scene index, Locates document scene index ∧ P scene) ↔ IsPlace P document := by
  unfold Locates IsPlace IsObject Fields.Has IsText IsCount
  constructor
  · rintro ⟨scene, index, ⟨fields, hd, hn, hs, hi, h0⟩, hP⟩
    exact ⟨fields, hd, hn, ⟨_, hs, scene, rfl, hP⟩, ⟨_, hi, index, rfl, h0⟩⟩
  · rintro ⟨fields, hd, hn, ⟨_, hs, scene, rfl, hP⟩, ⟨_, hi, index, rfl, h0⟩⟩
    exact ⟨scene, index, ⟨fields, hd, hn, hs, hi, h0⟩, hP⟩

theorem exists_portrays_iff : (∃ saved, Portrays document saved) ↔ IsCharacter document := by
  unfold Portrays IsCharacter IsObject Fields.Has IsText
  constructor
  · rintro ⟨saved, fields, id, sprite, hd, hn, hid, hsprite, hp, hpos, -, -⟩
    refine ⟨fields, hd, hn, ⟨_, hid, id, rfl, trivial⟩, ⟨_, hsprite, sprite, rfl, trivial⟩, ?_⟩
    cases hget : fields.get? "position" with
    | none => exact .inl rfl
    | some value =>
      rw [hget] at hpos
      exact .inr ⟨value, rfl, saved.position, hp, hpos⟩
  · rintro ⟨fields, hd, hn, ⟨_, hid, id, rfl, -⟩, ⟨_, hsprite, sprite, rfl, -⟩, hpos⟩
    have hcenter : "center" ∈ stagePositions := by decide
    rcases hpos with hnone | ⟨_, hsome, position, hp, rfl⟩
    · refine ⟨⟨id.toString, sprite.toString, "center"⟩, fields, id, sprite, hd, hn, hid, hsprite,
        hcenter, ?_, rfl, rfl⟩
      rw [hnone]
      rfl
    · refine ⟨⟨id.toString, sprite.toString, position⟩, fields, id, sprite, hd, hn, hid, hsprite,
        hp, ?_, rfl, rfl⟩
      rw [hsome]
      rfl

theorem exists_opens_iff : (∃ scene, Opens scenario document scene) ↔
    IsText (fun scene => scene = .ofString "" ∨ Knows scenario scene) document := by
  unfold Opens IsText
  constructor
  · rintro ⟨_, text, hd, hscene, -⟩
    exact ⟨text, hd, hscene⟩
  · rintro ⟨text, hd, hscene⟩
    exact ⟨text.toString, text, hd, hscene, rfl⟩

theorem exists_depicts_iff : (∃ picture, Depicts document picture) ↔
    IsText (fun _ => True) document := by
  unfold Depicts IsText
  constructor
  · rintro ⟨_, text, hd, -⟩
    exact ⟨text, hd, trivial⟩
  · rintro ⟨text, hd, -⟩
    exact ⟨some text.toString, text, hd, rfl⟩

theorem exists_lists_iff : (∃ read, Lists document read) ↔
    IsListOf (IsPlace fun _ => True) document := by
  have hitem : ∀ item, (∃ line : Text × Int, Locates item line.1 line.2) ↔
      IsPlace (fun _ => True) item := by
    intro item
    rw [← exists_locates_iff]
    simp
  unfold Lists IsListOf
  constructor
  · rintro ⟨_, items, lines, hd, hlines, -⟩
    refine ⟨items, hd, fun item hmem => (hitem item).1 ?_⟩
    exact exists_forall₂_iff.1 ⟨lines, hlines⟩ item hmem
  · rintro ⟨items, hd, hall⟩
    obtain ⟨lines, hlines⟩ := exists_forall₂_iff.2 fun item hmem => (hitem item).2 (hall item hmem)
    exact ⟨_, items, lines, hd, hlines, rfl⟩

theorem exists_stacks_iff : (∃ stack, Stacks scenario document stack) ↔
    ∃ items, document = .list items ∧ items.length ≤ 100 ∧
      ∀ item ∈ items, IsPlace (Knows scenario) item := by
  have hitem : ∀ item, (∃ frame, Resumes scenario item frame) ↔ IsPlace (Knows scenario) item := by
    intro item
    rw [← exists_locates_iff]
    unfold Resumes
    constructor
    · rintro ⟨_, scene, index, hplace, hknows, -⟩
      exact ⟨scene, index, hplace, hknows⟩
    · rintro ⟨scene, index, hplace, hknows⟩
      exact ⟨_, scene, index, hplace, hknows, rfl⟩
  unfold Stacks
  constructor
  · rintro ⟨stack, items, hd, hdepth, hframes⟩
    refine ⟨items, hd, hdepth, fun item hmem => (hitem item).1 ?_⟩
    exact exists_forall₂_iff.1 ⟨stack, hframes⟩ item hmem
  · rintro ⟨items, hd, hdepth, hall⟩
    obtain ⟨stack, hframes⟩ := exists_forall₂_iff.2 fun item hmem => (hitem item).2 (hall item hmem)
    exact ⟨stack, items, hd, hdepth, hframes⟩

theorem exists_flags_iff : (∃ flags, TableOf (fun item b => item = .bool b) document flags) ↔
    IsObjectOf IsBoolean document :=
  exists_tableOf_iff fun _ => Iff.rfl

theorem exists_vars_iff : (∃ vars, TableOf (fun item n => item = .int n) document vars) ↔
    IsObjectOf IsInteger document :=
  exists_tableOf_iff fun _ => Iff.rfl

theorem exists_characters_iff : (∃ characters, TableOf Portrays document characters) ↔
    IsObjectOf IsCharacter document :=
  exists_tableOf_iff fun _ => exists_portrays_iff

variable {state : Fields}

theorem exists_scene_iff : (∃ scene, Opens scenario (state.getD "current_scene") scene) ↔
    state.Has "current_scene" (IsText fun scene => scene = .ofString "" ∨ Knows scenario scene) := by
  rw [exists_opens_iff, has_iff_getD]
  simp [IsText]

theorem exists_slot_iff : (∃ slot, state.getD "slot" = .int slot) ↔ state.Has "slot" IsInteger := by
  rw [has_iff_getD]
  · rfl
  · simp [IsInteger]

theorem exists_count_iff {name : String} : (∃ n, OptionalOf Counts 0 (state.getD name) n) ↔
    state.MayHave name IsCount :=
  exists_optionalOf_iff fun _ => Iff.rfl

theorem exists_picture_iff {name : String} :
    (∃ picture, OptionalOf Depicts none (state.getD name) picture) ↔
      state.MayHave name (IsText fun _ => True) :=
  exists_optionalOf_iff fun _ => exists_depicts_iff

/-- **States.** The fields that fit are those that describe some saved game. -/
theorem exists_describes_iff : (∃ data, Describes scenario state data) ↔ StateFits scenario state := by
  constructor
  · rintro ⟨data, h⟩
    exact {
      scene := exists_scene_iff.1 ⟨_, h.scene⟩
      slot := exists_slot_iff.1 ⟨_, h.slot⟩
      timestamp := exists_count_iff.1 ⟨_, h.timestamp⟩
      playTime := exists_count_iff.1 ⟨_, h.playTime⟩
      index := exists_count_iff.1 ⟨_, h.index⟩
      flags := (exists_optionalOf_iff fun _ => exists_flags_iff).1 ⟨_, h.flags⟩
      vars := (exists_optionalOf_iff fun _ => exists_vars_iff).1 ⟨_, h.vars⟩
      read := (exists_optionalOf_iff fun _ => exists_lists_iff).1 ⟨_, h.read⟩
      stack := (exists_optionalOf_iff fun _ => exists_stacks_iff).1 ⟨_, h.stack⟩
      background := exists_picture_iff.1 ⟨_, h.background⟩
      cg := exists_picture_iff.1 ⟨_, h.cg⟩
      characters := (exists_optionalOf_iff fun _ => exists_characters_iff).1 ⟨_, h.characters⟩ }
  · intro h
    obtain ⟨scene, hscene⟩ := exists_scene_iff.2 h.scene
    obtain ⟨slot, hslot⟩ := exists_slot_iff.2 h.slot
    obtain ⟨timestamp, htimestamp⟩ := exists_count_iff.2 h.timestamp
    obtain ⟨playTime, hplayTime⟩ := exists_count_iff.2 h.playTime
    obtain ⟨index, hindex⟩ := exists_count_iff.2 h.index
    obtain ⟨flags, hflags⟩ := (exists_optionalOf_iff fun _ => exists_flags_iff).2 h.flags
    obtain ⟨vars, hvars⟩ := (exists_optionalOf_iff fun _ => exists_vars_iff).2 h.vars
    obtain ⟨read, hread⟩ := (exists_optionalOf_iff fun _ => exists_lists_iff).2 h.read
    obtain ⟨stack, hstack⟩ := (exists_optionalOf_iff fun _ => exists_stacks_iff).2 h.stack
    obtain ⟨background, hbackground⟩ := exists_picture_iff.2 h.background
    obtain ⟨cg, hcg⟩ := exists_picture_iff.2 h.cg
    obtain ⟨characters, hcharacters⟩ :=
      (exists_optionalOf_iff fun _ => exists_characters_iff).2 h.characters
    exact ⟨⟨slot, saveVersion, timestamp, playTime, scene, index, flags, vars, read, stack,
      background, cg, characters⟩, hscene, hslot, rfl, htimestamp, hplayTime, hindex, hflags, hvars,
      hread, hstack, hbackground, hcg, hcharacters⟩

/-- Of the numbers, only one is equal to one. -/
theorem float_beq_one_iff {x : Float} : (x == 1.0) = true ↔ x = 1.0 := by
  have hnan : (1.0 : Float) ≠ Float.nan := by decide
  have hzero : (1.0 : Float) ≠ 0 := by decide
  have hnegative : (1.0 : Float) ≠ -0 := by decide
  rw [Float.beq_iff_ne_nan_and_eq]
  constructor
  · rintro ⟨-, -, h | ⟨-, h⟩ | ⟨-, h⟩⟩
    · exact h
    · exact absurd h hnegative
    · exact absurd h hzero
  · rintro rfl
    exact ⟨hnan, hnan, .inl rfl⟩

theorem isOne_iff : document.isOne = true ↔
    document = .int 1 ∨ document = .bool true ∨ document = .float 1.0 := by
  cases document with
  | float x => simpa [isOne] using float_beq_one_iff
  | _ => simp [isOne]

theorem getD_isOne_iff {fields : Fields} {name : String} : (fields.getD name).isOne = true ↔
    fields.Has name fun value => value = .int 1 ∨ value = .bool true ∨ value = .float 1.0 := by
  rw [isOne_iff, has_iff_getD (by simp)]

/-- A document can be decoded exactly when it fits the schema. -/
theorem exists_decode_iff : (∃ data, decode scenario document = .ok data) ↔ Fits scenario document := by
  unfold Fits
  simp only [decode_eq_ok_iff, getD_isOne_iff, ← exists_describes_iff,
    Fields.getD_eq_iff (show Document.table _ ≠ .null by simp)]
  constructor
  · rintro ⟨data, fields, state, hd, hv, hs, h⟩
    exact ⟨fields, state, hd, hv, hs, data, h⟩
  · rintro ⟨fields, state, hd, hv, hs, data, h⟩
    exact ⟨data, fields, state, hd, hv, hs, h⟩

/-! ## Versions that cannot be shown -/

/-- The document is a table whose version is or holds an integer with too many digits. -/
def OverlongVersion (document : Document) : Prop :=
  ∃ fields, document = .table fields ∧ Fields.Has fields "save_version" Document.Overlong

theorem not_overlong_null : ¬Document.null.Overlong := by
  rintro ⟨⟩

theorem overlongVersion_table_iff {fields : Fields} :
    OverlongVersion (.table fields) ↔ (Fields.getD fields "save_version").Overlong := by
  rw [← has_iff_getD not_overlong_null]
  constructor
  · rintro ⟨_, ⟨⟩, h⟩
    exact h
  · intro h
    exact ⟨fields, rfl, h⟩

theorem not_overlong_of_isOne (h : document.isOne = true) : ¬document.Overlong := by
  rcases isOne_iff.1 h with rfl | rfl | rfl
  · rw [overlong_int_iff]
    decide
  · rintro ⟨⟩
  · rintro ⟨⟩

/-- Decoding fails for want of a message exactly when the version has an integer with too many digits. -/
theorem decode_eq_tooManyDigits_iff :
    decode scenario document = .error .tooManyDigits ↔ OverlongVersion document := by
  cases document with
  | table fields =>
    rw [overlongVersion_table_iff]
    cases hone : (Fields.getD fields "save_version").isOne with
    | true => exact iff_of_false (decode_ne_tooManyDigits_of_isOne hone) (not_overlong_of_isOne hone)
    | false =>
      rw [← literal?_eq_none_iff, decode, hone]
      cases (Fields.getD fields "save_version").literal? <;> simp
  | _ =>
    refine iff_of_false ?_ ?_
    · simp [decode]
    · rintro ⟨_, ⟨⟩, _⟩

/-- A document that was read from a text is never refused for want of a message. -/
theorem decode_of_read {chars : List Char} (h : Document.read chars = .ok document) :
    (∃ data, decode scenario document = .ok data) ∨
      ∃ fault, decode scenario document = .error (.save fault) := by
  have hshown : decode scenario document ≠ .error .tooManyDigits := by
    intro hdecode
    obtain ⟨fields, rfl, hversion⟩ := decode_eq_tooManyDigits_iff.1 hdecode
    exact not_overlong_of_read h (Overlong.of_getD ((has_iff_getD not_overlong_null).1 hversion))
  rw [exists_saveFault_iff, and_iff_left hshown]
  exact em _

/-- **The schema.** Decoding succeeds on the documents that fit the schema. On every other document it
fails with a fault of saved games, unless the version is or holds an integer with too many digits to be shown.
Then, and only then, it fails for that. -/
theorem decode_accepts_iff_unless_overlong (scenario : Option Scenario) (document : Document) :
    ((∃ data, decode scenario document = .ok data) ↔ Fits scenario document) ∧
      ((∃ fault, decode scenario document = .error (.save fault)) ↔
        ¬Fits scenario document ∧ ¬OverlongVersion document) ∧
      (decode scenario document = .error .tooManyDigits ↔ OverlongVersion document) := by
  refine ⟨exists_decode_iff, ?_, decode_eq_tooManyDigits_iff⟩
  rw [← exists_decode_iff, ← decode_eq_tooManyDigits_iff]
  exact exists_saveFault_iff

end SaveData

/-- A document whose version is a one with too many zeros behind it. -/
def Sample.overlongGame : Document :=
  .table [(.text (.ofString "save_version"), .int (10 ^ Document.digitLimit))]

/-- It is no saved game, and is not refused as none. -/
theorem overlong_version_escapes :
    ¬SaveData.Fits none Sample.overlongGame ∧
      ∀ fault, SaveData.decode none Sample.overlongGame ≠ .error (.save fault) := by
  have hversion : SaveData.OverlongVersion Sample.overlongGame := by
    refine ⟨_, rfl, _, if_pos rfl, .int ?_⟩
    have hten : (10 : Int).natAbs = 10 := rfl
    rw [Int.natAbs_pow, hten]
    exact Document.lt_length_digitsOf_pow (by decide)
  have hdecode : SaveData.decode none Sample.overlongGame = .error .tooManyDigits :=
    SaveData.decode_eq_tooManyDigits_iff.2 hversion
  rw [← SaveData.exists_decode_iff, hdecode]
  simp

end VisualNovel
