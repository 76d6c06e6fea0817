import VisualNovel.LineId
import VisualNovel.OrderedMap

/-!
# Saved games

What a saved game holds. The scene is empty if the story had not been started. Of the variables only
the integers are kept.
-/

namespace VisualNovel

/-- The version of saved games and of their files. -/
def saveVersion : Int := 1

/-- A scene to return to, and the index of the command to go on with there. -/
structure Frame where
  scene : String
  resume : Int
deriving DecidableEq, Repr

/-- A character on stage, as it is saved. -/
@[ext]
structure SavedCharacter where
  id : String
  sprite : String
  position : String := "center"
deriving DecidableEq, Repr

/-- A saved game. -/
@[ext]
structure SaveData where
  slot : Int
  version : Int := saveVersion
  timestamp : Int := 0
  playTime : Int := 0
  scene : String := ""
  index : Int := 0
  flags : OrderedMap Bool := .empty
  vars : OrderedMap Int := .empty
  read : ReadHistory := .empty
  /-- The open calls, oldest first. -/
  stack : List Frame := []
  background : Option String := none
  cg : Option String := none
  characters : OrderedMap SavedCharacter := .empty
deriving DecidableEq

end VisualNovel
