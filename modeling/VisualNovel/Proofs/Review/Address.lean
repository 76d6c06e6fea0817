import VisualNovel.Proofs.Document.Integer
import VisualNovel.Proofs.Review.Preorder
import VisualNovel.Review.Issue

/-!
# Where issues point to

A report shows the way to a command, or to a field of one, as a text. Read back, the text gives that
very way (`Address.read?_text`), so what a report shows points to one place only (`Report.address?`). The
addresses of a scenario come in the order of the walk, scene by scene (`Scenario.Earlier`).
-/

namespace VisualNovel

/-- A place in a scenario: the key of a scene, the way to a command, and a field of the command if it is
one of these. -/
structure Address where
  scene : String
  path : CommandPath
  field : Option SceneField := none

namespace Address

/-! ## Reading the way to a place -/

/-- A name with an index after it, such as `then[3]`. -/
def indexed? (piece : List Char) : Option (List Char × Nat) :=
  match piece.dropWhile (· ≠ '[') with
  | [] => none
  | _ :: behind =>
    if behind.takeWhile Document.isDigit ≠ [] ∧ behind.dropWhile Document.isDigit = [']'] then
      some (piece.takeWhile (· ≠ '['), Document.digitsValue (behind.takeWhile Document.isDigit))
    else none

/-- A step into an arm of a branch. -/
def step? (piece : List Char) : Option (Arm × Nat) :=
  match indexed? piece with
  | some (name, index) =>
    if name = Arm.thenDo.name.toList then some (.thenDo, index)
    else if name = Arm.elseDo.name.toList then some (.elseDo, index)
    else none
  | none => none

/-- The steps into the arms of branches, and what comes behind them. -/
def readSteps : List (List Char) → List (Arm × Nat) × List (List Char)
  | [] => ([], [])
  | piece :: pieces =>
    match step? piece with
    | some step => (step :: (readSteps pieces).1, (readSteps pieces).2)
    | none => ([], piece :: pieces)

/-- The field of a command at the end of the way, if there is one. -/
def readField? : List (List Char) → Option (Option SceneField)
  | [] => some none
  | [name] =>
    if name = "scene_id".toList then some (some .target)
    else if name = "return_scene".toList then some (some .returnScene)
    else none
  | [list, name] =>
    match indexed? list with
    | some (word, index) =>
      if word = "options".toList ∧ name = "next_scene".toList then some (some (.option index)) else none
    | none => none
  | _ => none

/-- Reads the way to a command or to a field of one. -/
def read? (text : String) : Option (CommandPath × Option SceneField) :=
  match text.toList.splitOn '.' with
  | [] => none
  | first :: rest =>
    match indexed? first with
    | some (word, index) =>
      if word = "commands".toList then
        (readField? (readSteps rest).2).map fun field => (⟨index, (readSteps rest).1⟩, field)
      else none
    | none => none

/-- The way to a place as reports show it. -/
def text (path : CommandPath) (field : Option SceneField) : String :=
  path.text ++ (field.map SceneField.text).getD ""

/-! ## The pieces of a way -/

/-- A name with an index after it. -/
def indexed (name : String) (index : Nat) : List Char :=
  name.toList ++ '[' :: (digitsOf index ++ [']'])

/-- A field of a command. -/
def fieldPieces : Option SceneField → List (List Char)
  | none => []
  | some .target => ["scene_id".toList]
  | some .returnScene => ["return_scene".toList]
  | some (.option index) => [indexed "options" index, "next_scene".toList]

/-- What stands between the points of a way, behind the first command. -/
def pieces (steps : List (Arm × Nat)) (field : Option SceneField) : List (List Char) :=
  steps.map (fun step => indexed step.1.name step.2) ++ fieldPieces field

theorem toList_indexText (index : Nat) :
    (CommandPath.indexText index).toList = '[' :: (digitsOf index ++ [']']) := by
  unfold CommandPath.indexText
  rw [String.toList_append, String.toList_append,
    show intText (index : Int) = intText (.ofNat index) from rfl, Document.toList_intText_ofNat]
  rfl

theorem intercalate_eq (separator : Char) (first : List Char) (rest : List (List Char)) :
    [separator].intercalate (first :: rest) =
      first ++ rest.flatMap fun piece => separator :: piece := by
  induction rest generalizing first with
  | nil => simp
  | cons second rest ih =>
    rw [List.intercalate_cons_cons, ih, List.flatMap_cons]
    simp

theorem toList_text (path : CommandPath) (field : Option SceneField) : (text path field).toList =
    ['.'].intercalate (indexed "commands" path.index :: pieces path.inner field) := by
  have hsteps : ∀ steps : List (Arm × Nat),
      (String.join (steps.map fun step =>
        "." ++ step.1.name ++ CommandPath.indexText step.2)).toList =
      (steps.map fun step => indexed step.1.name step.2).flatMap fun piece => '.' :: piece := by
    intro steps
    rw [String.toList_join, List.flatMap_map, List.flatMap_map]
    congr 1
    funext step
    rw [String.toList_append, String.toList_append, toList_indexText]
    rfl
  have hfield : ((field.map SceneField.text).getD "").toList =
      (fieldPieces field).flatMap fun piece => '.' :: piece := by
    match field with
    | none => rfl
    | some .target => rfl
    | some .returnScene => rfl
    | some (.option index) =>
      show (".options" ++ CommandPath.indexText index ++ ".next_scene").toList = _
      rw [String.toList_append, String.toList_append, toList_indexText]
      simp [fieldPieces, indexed]
  unfold text CommandPath.text
  rw [String.toList_append, String.toList_append, String.toList_append, toList_indexText, hsteps,
    hfield, intercalate_eq]
  unfold pieces indexed
  rw [List.flatMap_append, List.append_assoc, List.append_assoc]

/-! ## Reading what was shown -/

/-- Before an index there is a name. -/
theorem indexed?_indexed {name : String} (h : '[' ∉ name.toList) (index : Nat) :
    indexed? (indexed name index) = some (name.toList, index) := by
  have hname : ∀ c ∈ name.toList, decide (c ≠ '[') = true := by
    intro c hc
    rw [decide_eq_true_iff]
    rintro rfl
    exact h hc
  have hstops : Document.Stops [']'] := by
    rintro c ⟨rfl⟩
    decide
  have hdigits : ∀ c ∈ digitsOf index, Document.isDigit c :=
    fun c => Document.isDigit_of_mem_digitsOf
  obtain ⟨htake, hdrop⟩ := Document.takeWhile_digits hdigits hstops
  have hne : digitsOf index ≠ [] := Nat.toDigits_ne_nil
  have hbehind : (indexed name index).dropWhile (· ≠ '[') = '[' :: (digitsOf index ++ [']']) := by
    unfold indexed
    rw [List.dropWhile_append_of_pos hname]
    rfl
  have hbefore : (indexed name index).takeWhile (· ≠ '[') = name.toList := by
    unfold indexed
    rw [List.takeWhile_append_of_pos hname]
    exact List.append_nil _
  unfold indexed?
  rw [hbehind, hbefore]
  show (if _ ∧ _ then _ else none) = _
  rw [htake, hdrop, if_pos ⟨hne, rfl⟩, Document.digitsValue_digitsOf]

theorem step?_indexed (arm : Arm) (index : Nat) :
    step? (indexed arm.name index) = some (arm, index) := by
  unfold step?
  cases arm with
  | thenDo => rw [indexed?_indexed (by decide)]; rfl
  | elseDo => rw [indexed?_indexed (by decide)]; rfl

/-- The field at the end of a way is not taken for a step. -/
theorem readSteps_fieldPieces (field : Option SceneField) :
    readSteps (fieldPieces field) = ([], fieldPieces field) := by
  match field with
  | none => rfl
  | some .target => rfl
  | some .returnScene => rfl
  | some (.option index) =>
    have hstep : step? (indexed "options" index) = none := by
      unfold step?
      rw [indexed?_indexed (by decide)]
      rfl
    unfold fieldPieces readSteps
    rw [hstep]

theorem readSteps_pieces (steps : List (Arm × Nat)) (field : Option SceneField) :
    readSteps (pieces steps field) = (steps, fieldPieces field) := by
  induction steps with
  | nil => exact readSteps_fieldPieces field
  | cons step steps ih =>
    show readSteps (indexed step.1.name step.2 :: pieces steps field) = _
    unfold readSteps
    rw [step?_indexed, ih]

theorem readField?_fieldPieces (field : Option SceneField) :
    readField? (fieldPieces field) = some field := by
  match field with
  | none => rfl
  | some .target => rfl
  | some .returnScene => rfl
  | some (.option index) =>
    show readField? [indexed "options" index, "next_scene".toList] = _
    rw [readField?, indexed?_indexed (by decide)]
    rfl

theorem point_not_mem_indexed {name : String} (h : '.' ∉ name.toList) (index : Nat) :
    '.' ∉ indexed name index := by
  have hdigits : '.' ∉ digitsOf index := by
    intro hmem
    cases Document.isDigit_of_mem_digitsOf hmem
  unfold indexed
  simp [h, hdigits]

theorem point_not_mem_pieces (steps : List (Arm × Nat)) (field : Option SceneField) :
    ∀ piece ∈ pieces steps field, '.' ∉ piece := by
  intro piece hpiece
  rcases List.mem_append.1 hpiece with hstep | hfield
  · obtain ⟨⟨arm, index⟩, _, rfl⟩ := List.mem_map.1 hstep
    cases arm with
    | thenDo => exact @point_not_mem_indexed "then" (by decide) index
    | elseDo => exact @point_not_mem_indexed "else" (by decide) index
  · match field with
    | none => cases hfield
    | some .target =>
      rw [List.mem_singleton.1 hfield]
      decide
    | some .returnScene =>
      rw [List.mem_singleton.1 hfield]
      decide
    | some (.option index) =>
      rcases List.mem_cons.1 hfield with rfl | hlast
      · exact point_not_mem_indexed (by decide) index
      · rw [List.mem_singleton.1 hlast]
        decide

/-- **The way reads back.** -/
theorem read?_text (path : CommandPath) (field : Option SceneField) :
    read? (text path field) = some (path, field) := by
  have hpoints : ∀ piece ∈ indexed "commands" path.index :: pieces path.inner field, '.' ∉ piece :=
    List.forall_mem_cons.2
      ⟨point_not_mem_indexed (by decide) path.index, point_not_mem_pieces path.inner field⟩
  unfold read?
  rw [toList_text, List.splitOn_intercalate '.' hpoints (List.cons_ne_nil _ _)]
  show (match indexed? (indexed "commands" path.index) with
    | some (word, index) => if word = "commands".toList then _ else none
    | none => none) = _
  rw [indexed?_indexed (by decide)]
  show (if _ then _ else none) = _
  rw [if_pos rfl, readSteps_pieces]
  show (readField? (fieldPieces field)).map _ = _
  rw [readField?_fieldPieces]
  rfl

example : read? "commands[3].else[0].options[12].next_scene" =
    some (⟨3, [(.elseDo, 0)]⟩, some (.option 12)) := by decide

end Address

/-- What a report shows of the place it points to: the scene, and the way to the command. -/
def Report.whereabouts (report : Report) : Option String × Option String :=
  (report.context.get? "scene_id", report.context.get? "field_path")

/-- The address that a scene and the text of a way make up. -/
def Address.ofWhereabouts? : Option String × Option String → Option Address
  | (some scene, some text) => (Address.read? text).map fun (path, field) => ⟨scene, path, field⟩
  | _ => none

/-- Where a report points to. -/
def Report.address? (report : Report) : Option Address :=
  Address.ofWhereabouts? report.whereabouts

theorem address?_of_whereabouts {report : Report} {a : Address}
    (h : report.whereabouts = (some a.scene, some (Address.text a.path a.field))) :
    report.address? = some a := by
  unfold Report.address?
  rw [h]
  unfold Address.ofWhereabouts?
  simp only
  rw [Address.read?_text]
  rfl

theorem address?_flowInsideBranch (scene command : String) (path : CommandPath) :
    (Issue.flowInsideBranch scene path command).report.address? = some ⟨scene, path, none⟩ := by
  apply address?_of_whereabouts
  show (some scene, some path.text) = (some scene, some (path.text ++ ""))
  rw [String.append_empty]

theorem address?_emptyChoice (scene : String) (path : CommandPath) :
    (Issue.emptyChoice scene path).report.address? = some ⟨scene, path, none⟩ := by
  apply address?_of_whereabouts
  show (some scene, some path.text) = (some scene, some (path.text ++ ""))
  rw [String.append_empty]

theorem address?_sceneMissing (scene : String) (reference : Reference) :
    (Issue.sceneMissing scene reference).report.address? =
      some ⟨scene, reference.path, some reference.field⟩ :=
  address?_of_whereabouts rfl

/-! ## The order of addresses -/

/-- One field of a command comes before another. -/
inductive FieldBefore : Option SceneField → Option SceneField → Prop
  | call : FieldBefore (some .target) (some .returnScene)
  | option {i j : Nat} (h : i < j) : FieldBefore (some (.option i)) (some (.option j))

/-- One address comes before another: the scenes are in the order of the scenario, the commands of a
scene in the order of the walk. -/
inductive Scenario.Earlier (scenario : Scenario) : Address → Address → Prop
  | scene {key later : String} {a b : CommandPath} {f g : Option SceneField}
    (h : scenario.scenes.keys.idxOf key < scenario.scenes.keys.idxOf later) :
    Earlier scenario ⟨key, a, f⟩ ⟨later, b, g⟩
  | path {key : String} {a b : CommandPath} {f g : Option SceneField} (h : a.Before b) :
    Earlier scenario ⟨key, a, f⟩ ⟨key, b, g⟩
  | field {key : String} {path : CommandPath} {f g : Option SceneField} (h : FieldBefore f g) :
    Earlier scenario ⟨key, path, f⟩ ⟨key, path, g⟩

theorem Scenario.Earlier.irrefl {scenario : Scenario} (a : Address) : ¬scenario.Earlier a a := by
  intro h
  cases h with
  | scene h => exact Nat.lt_irrefl _ h
  | path h => exact CommandPath.Before.irrefl _ h
  | field h =>
    cases h with
    | option h => exact Nat.lt_irrefl _ h

/-! ## All commands of a scenario -/

namespace Scenario

variable {scenario : Scenario} {key : String}

/-- The command to which a path leads in the scene of a key. -/
def at? (scenario : Scenario) (key : String) (path : CommandPath) : Option Command :=
  (scenario.scene? key).bind fun scene => scene.at? path

/-- The walk through all scenes. -/
def visits (scenario : Scenario) : List (String × Visit) :=
  scenario.scenes.entries.flatMap fun (key, scene) => scene.visits.map fun visit => (key, visit)

/-- What is found at every command, scene by scene. -/
theorem flatMap_visits {α : Type} (scenario : Scenario) (f : String → Visit → List α) :
    (scenario.visits.flatMap fun item => f item.1 item.2) =
      scenario.scenes.entries.flatMap fun (key, scene) => scene.visits.flatMap (f key) := by
  unfold visits
  rw [List.flatMap_assoc]
  congr 1
  funext ⟨key, scene⟩
  show (scene.visits.map _).flatMap _ = _
  rw [List.flatMap_map]

theorem mem_visits_iff {visit : Visit} :
    (key, visit) ∈ scenario.visits ↔ scenario.at? key visit.path = some visit.command := by
  unfold visits at?
  rw [List.mem_flatMap, Option.bind_eq_some_iff]
  constructor
  · rintro ⟨⟨other, scene⟩, hentry, hvisit⟩
    obtain ⟨inner, hinner, heq⟩ := List.mem_map.1 hvisit
    cases heq
    exact ⟨scene, OrderedMap.get?_eq_some_iff.2 hentry, Scene.mem_visits_iff.1 hinner⟩
  · rintro ⟨scene, hscene, hcommand⟩
    exact ⟨(key, scene), OrderedMap.get?_eq_some_iff.1 hscene,
      List.mem_map_of_mem (Scene.mem_visits_iff.2 hcommand)⟩

/-- Distinct keys stand in the order of their places. -/
theorem pairwise_idxOf {keys : List String} (h : keys.Nodup) :
    keys.Pairwise fun a b => keys.idxOf a < keys.idxOf b := by
  rw [List.pairwise_iff_getElem]
  intro i j hi hj hlt
  rw [h.idxOf_getElem i hi, h.idxOf_getElem j hj]
  exact hlt

/-- **The walk is in order.** -/
theorem pairwise_visits (scenario : Scenario) : scenario.visits.Pairwise fun a b =>
    ∀ f g, scenario.Earlier ⟨a.1, a.2.path, f⟩ ⟨b.1, b.2.path, g⟩ := by
  unfold visits
  rw [List.pairwise_flatMap]
  constructor
  · rintro ⟨key, scene⟩ _
    rw [List.pairwise_map]
    exact scene.pairwise_visits.imp fun h f g => .path h
  · have hkeys := pairwise_idxOf scenario.scenes.nodup
    refine (List.pairwise_map.1 hkeys).imp fun {first second} hlt a ha b hb f g => ?_
    obtain ⟨_, _, rfl⟩ := List.mem_map.1 ha
    obtain ⟨_, _, rfl⟩ := List.mem_map.1 hb
    exact .scene hlt

end Scenario

end VisualNovel
