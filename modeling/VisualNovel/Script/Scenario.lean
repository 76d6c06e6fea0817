import VisualNovel.OrderedMap
import VisualNovel.Script.Command

/-!
# Scenarios

A scenario is a set of scenes that refer to each other by their keys, and the key of the scene in
which the story starts.
-/

namespace VisualNovel

/-- A titled list of commands. -/
structure Scene where
  id : String
  title : String
  commands : List Command := []
  entryTransition : Option Transition := none
  exitTransition : Option Transition := none

/-- The command at an index, if the index lies inside the scene. -/
def Scene.command? (scene : Scene) (index : Int) : Option Command :=
  if index < 0 then none else scene.commands[index.toNat]?

/-- What a scenario says about itself. -/
structure Metadata where
  id : String
  title : String
  description : Option String := none
  author : Option String := none
  version : Option String := none
deriving DecidableEq, Repr

/-- A story, ready to be played. -/
structure Scenario where
  metadata : Metadata
  startScene : String
  scenes : OrderedMap Scene := .empty
  characters : List String := []

namespace Scenario

/-- A scenario whose scenes are found under their own ids; of two scenes with one id the later one
takes the place of the earlier. -/
def ofScenes (metadata : Metadata) (startScene : String) (scenes : List Scene)
    (characters : List String) : Scenario where
  metadata := metadata
  startScene := startScene
  scenes := .ofList (scenes.map fun scene => (scene.id, scene))
  characters := characters

def scene? (scenario : Scenario) (key : String) : Option Scene :=
  scenario.scenes.get? key

def hasScene (scenario : Scenario) (key : String) : Bool :=
  (scenario.scene? key).isSome

/-- The scene in which the story starts. -/
def opening? (scenario : Scenario) : Option Scene :=
  scenario.scene? scenario.startScene

end Scenario

end VisualNovel
