import VisualNovel.Number.Binary64
import VisualNovel.SortedSet

/-!
# Unlocked pictures and music

What the player has unlocked outlives every single playthrough: the pictures (CGs) of the gallery and
the pieces of music.
-/

namespace VisualNovel

/-- The version of unlock data and of their file. -/
def unlocksVersion : Int := 1

/-- Everything unlocked so far. -/
structure Unlocks where
  version : Int := unlocksVersion
  cgs : SortedSet String := .empty
  bgm : SortedSet String := .empty
deriving DecidableEq

namespace Unlocks

def unlockCg (unlocks : Unlocks) (id : String) : Unlocks :=
  { unlocks with cgs := unlocks.cgs.insert id }

def unlockBgm (unlocks : Unlocks) (id : String) : Unlocks :=
  { unlocks with bgm := unlocks.bgm.insert id }

/-- The share of `total` pictures that is unlocked; all of them if there are none. -/
def cgRate (unlocks : Unlocks) (total : Int) : Float :=
  if total ≤ 0 then 1.0 else Binary64.nearest false unlocks.cgs.size total.natAbs

end Unlocks

end VisualNovel
