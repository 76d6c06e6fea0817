import VisualNovel.Review.KindTable
import VisualNovel.Review.Reachability

/-!
# Reviewing a scenario

A review lists what is wrong with a scenario before anyone plays it: scenes that are missing, commands
that branches refuse, choices without options, variables of more than one kind, and scenes that cannot
be reached.
-/

namespace VisualNovel

/-- Something wrong with a scenario. -/
inductive Issue where
  | startSceneMissing (scene : String)
  | idMismatch (key id : String)
  /-- A command that moves the play head stands inside a branch. -/
  | flowInsideBranch (scene : String) (path : CommandPath) (command : String)
  | emptyChoice (scene : String) (path : CommandPath)
  | sceneMissing (scene : String) (reference : Reference)
  /-- A variable is used as one of several kinds; `uses` has the first use of each. -/
  | kindConflict (name : String) (uses : List LocatedUse)
  | unreachable (scene : String)
deriving DecidableEq, Repr

/-! ## Finding issues -/

/-- What is wrong with a command where it stands. -/
def Visit.issue? (scene : String) (visit : Visit) : Option Issue :=
  match visit.command with
  | .flow move =>
    if visit.path.isNested then some (.flowInsideBranch scene visit.path move.name) else none
  | .offer choice => if choice.options.isEmpty then some (.emptyChoice scene visit.path) else none
  | _ => none

/-- The variable is used as more than one kind. -/
def KindTable.conflict? (table : KindTable LocatedUse) (name : String) : Option Issue :=
  if (table.kindsOf name).size < 2 then none else some (.kindConflict name (table.firstUses name))

namespace Scenario

/-- The start scene is missing. -/
def startIssues (scenario : Scenario) : List Issue :=
  if scenario.hasScene scenario.startScene then [] else [.startSceneMissing scenario.startScene]

/-- What is wrong with the scenes themselves. -/
def sceneIssues (scenario : Scenario) : List Issue :=
  scenario.scenes.entries.flatMap fun (key, scene) =>
    (if scene.id = key then [] else [.idMismatch key scene.id]) ++
      scene.visits.filterMap (Visit.issue? key)

/-- References to scenes that are missing. -/
def referenceIssues (scenario : Scenario) : List Issue :=
  scenario.scenes.entries.flatMap fun (key, scene) =>
    (scene.references.filter fun reference => !scenario.hasScene reference.target).map
      (.sceneMissing key)

/-- Variables that are used as more than one kind. -/
def kindIssues (scenario : Scenario) : List Issue :=
  let table := scenario.kindTable
  table.names.filterMap table.conflict?

/-- Everything wrong with a scenario; `roots` are scenes that the host enters on its own. -/
def review (scenario : Scenario) (roots : List String) : List Issue :=
  scenario.startIssues ++ scenario.sceneIssues ++ scenario.referenceIssues ++
    scenario.kindIssues ++ (scenario.unreachable roots).map .unreachable

end Scenario

/-! ## Reporting issues -/

/-- An issue as it is reported. -/
structure Report where
  severity : String
  code : String
  message : String
  context : OrderedMap String
deriving DecidableEq

namespace Report

/-- An issue that breaks the story. -/
def error (code message : String) (context : List (String × String)) : Report :=
  ⟨"ERROR", code, message, .ofList context⟩

/-- An issue that the story survives. -/
def warning (code message : String) (context : List (String × String)) : Report :=
  ⟨"WARN", code, message, .ofList context⟩

/-- The report on one line. -/
def line (report : Report) : String :=
  let context := " ".intercalate (report.context.entries.map fun (key, value) => key ++ "=" ++ value)
  "[" ++ report.severity ++ "] " ++ report.code ++ ": " ++ report.message ++
    (if context = "" then "" else " (" ++ context ++ ")")

end Report

/-- A use as reports show it. -/
def LocatedUse.text (located : LocatedUse) : String :=
  located.scene ++ ":" ++ located.use.path.text

def Issue.report : Issue → Report
  | .startSceneMissing scene =>
    .error "MISSING_START_SCENE" "Start scene is not defined in the scenario."
      [("referenced_id", scene)]
  | .idMismatch key id =>
    .warning "SCENE_ID_MISMATCH" "Scene is registered under a different id than its own."
      [("scene_id", key), ("declared_id", id)]
  | .flowInsideBranch scene path command =>
    .error "INLINE_COMMAND_NOT_ALLOWED" (command ++ " cannot be used inside an If branch.")
      [("scene_id", scene), ("field_path", path.text)]
  | .emptyChoice scene path =>
    .error "EMPTY_CHOICE" "Choice has no options." [("scene_id", scene), ("field_path", path.text)]
  | .sceneMissing scene reference =>
    .error "MISSING_SCENE_REF" "Command references missing scene."
      [("scene_id", scene), ("field_path", reference.text), ("referenced_id", reference.target)]
  | .kindConflict name uses =>
    .warning "VARIABLE_TYPE_CONFLICT" "Variable is used with more than one value type."
      [("variable", name), ("kinds", ",".intercalate (uses.map (·.use.kind.name))),
       ("first_uses", " ".intercalate (uses.map LocatedUse.text))]
  | .unreachable scene =>
    .warning "UNREACHABLE_SCENE" "Scene is unreachable from the start scene." [("scene_id", scene)]

end VisualNovel
