import VisualNovel.Number.Decimal
import VisualNovel.Script.Scenario

/-!
# Walking through the commands of a scene

A walk visits every command of a scene, a branch before the commands in its arms and its first arm
before its second, and knows the way to each (`CommandPath`).
-/

namespace VisualNovel

/-- One of the two arms of a branch. -/
inductive Arm where
  | thenDo
  | elseDo
deriving DecidableEq, Repr

/-- The way to a command: its index in the scene, or that of the outermost branch around it, and for
every branch entered the arm and the index there. -/
structure CommandPath where
  index : Nat
  inner : List (Arm × Nat) := []
deriving DecidableEq, Repr

def Arm.name : Arm → String
  | .thenDo => "then"
  | .elseDo => "else"

namespace CommandPath

/-- The way on into an arm of the branch at the end of a path. -/
def enter (path : CommandPath) (arm : Arm) (index : Nat) : CommandPath :=
  ⟨path.index, path.inner ++ [(arm, index)]⟩

/-- Whether the command stands inside a branch. -/
def isNested (path : CommandPath) : Bool :=
  !path.inner.isEmpty

/-- An index as paths show it. -/
def indexText (index : Nat) : String :=
  "[" ++ intText index ++ "]"

def text (path : CommandPath) : String :=
  "commands" ++ indexText path.index ++
    String.join (path.inner.map fun step => "." ++ step.1.name ++ indexText step.2)

end CommandPath

/-- A command on the walk. -/
structure Visit where
  path : CommandPath
  command : Command

mutual

/-- The walk through a command. -/
def Command.visits (path : CommandPath) : Command → List Visit
  | .branch condition thenDo elseDo =>
    ⟨path, .branch condition thenDo elseDo⟩ ::
      (visitArm path .thenDo 0 thenDo ++ visitArm path .elseDo 0 elseDo)
  | command => [⟨path, command⟩]

/-- The walk through the commands of an arm from the given index on. -/
def Command.visitArm (path : CommandPath) (arm : Arm) (index : Nat) : List Command → List Visit
  | [] => []
  | command :: rest =>
    command.visits (path.enter arm index) ++ visitArm path arm (index + 1) rest

end

/-- The walk through a scene. -/
def Scene.visits (scene : Scene) : List Visit :=
  scene.commands.zipIdx.flatMap fun item => item.1.visits ⟨item.2, []⟩

/-! ## What is found on the walk -/

/-- The field of a command that names a scene. -/
inductive SceneField where
  | target
  | returnScene
  | option (index : Nat)
deriving DecidableEq, Repr

def SceneField.text : SceneField → String
  | .target => ".scene_id"
  | .returnScene => ".return_scene"
  | .option index => ".options" ++ CommandPath.indexText index ++ ".next_scene"

/-- A command's mention of a scene. -/
structure Reference where
  path : CommandPath
  field : SceneField
  target : String
deriving DecidableEq, Repr

def Reference.text (reference : Reference) : String :=
  reference.path.text ++ reference.field.text

/-- A command's use of a variable as one of a kind. -/
structure VariableUse where
  name : String
  kind : Kind
  path : CommandPath
deriving DecidableEq, Repr

namespace Visit

/-- The scenes that a command leads to. Inside a branch, commands that move the play head are refused,
so they lead nowhere. -/
def references (visit : Visit) : List Reference :=
  match visit.command with
  | .flow (.jump scene) =>
    if visit.path.isNested then [] else [⟨visit.path, .target, scene⟩]
  | .flow (.call scene returnScene) =>
    if visit.path.isNested then []
    else [⟨visit.path, .target, scene⟩, ⟨visit.path, .returnScene, returnScene⟩]
  | .offer choice =>
    choice.options.zipIdx.map fun item => ⟨visit.path, .option item.2, item.1.nextScene⟩
  | _ => []

/-- The kind that a command gives a variable. -/
def use? (visit : Visit) : Option VariableUse :=
  match visit.command with
  | .setVariable name value => some ⟨name, value.kind, visit.path⟩
  | .modifyVariable name (.set value) => some ⟨name, value.kind, visit.path⟩
  | .modifyVariable name operation => operation.kind?.map fun kind => ⟨name, kind, visit.path⟩
  | _ => none

end Visit

/-- The scenes that a scene leads to, in the order of the walk. -/
def Scene.references (scene : Scene) : List Reference :=
  scene.visits.flatMap Visit.references

/-- The variables that a scene writes, in the order of the walk. -/
def Scene.uses (scene : Scene) : List VariableUse :=
  scene.visits.filterMap Visit.use?

end VisualNovel
