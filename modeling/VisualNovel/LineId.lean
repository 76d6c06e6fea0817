import VisualNovel.SortedSet

/-!
# Lines of dialogue that were read

A line is known by its scene and its index there; lines are ordered by scene, then by index.
-/

namespace VisualNovel

/-- The place of a line of dialogue. -/
structure LineId where
  scene : String
  index : Int
deriving DecidableEq, Repr

namespace LineId

instance : Ord LineId where
  compare := compareLex (compareOn LineId.scene) (compareOn LineId.index)

instance : Std.TransOrd LineId :=
  inferInstanceAs (Std.TransCmp (compareLex (compareOn LineId.scene) (compareOn LineId.index)))

instance : Std.LawfulEqOrd LineId where
  eq_of_compare {a b} h := by
    obtain ⟨hs, hi⟩ := compareLex_eq_eq.1 h
    cases a
    cases b
    simp only [compareOn] at hs hi
    simp [Std.LawfulEqOrd.eq_of_compare hs, Std.LawfulEqOrd.eq_of_compare hi]

end LineId

/-- The lines that the player has seen. -/
abbrev ReadHistory := SortedSet LineId

end VisualNovel
