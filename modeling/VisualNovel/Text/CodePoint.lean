/-!
# Texts by code point

A text is a list of code points. A code point is a character, or one half of a surrogate pair whose
other half is missing; a document file can name such a half, and no `String` can hold it. The texts
of characters alone are the strings (`Text.ofString`), and reading one back as a string gives it
again (`Text.toString_ofString`).
-/

namespace VisualNovel

/-- A code point of a text. -/
inductive CodePoint where
  | char (c : Char)
  /-- Half of a surrogate pair, by its distance from the first one. -/
  | half (offset : Fin 2048)
deriving DecidableEq, Repr

namespace CodePoint

/-- The number of a code point. -/
def toNat : CodePoint → Nat
  | .char c => c.toNat
  | .half offset => 0xd800 + offset

/-- The code point with a number. -/
def ofNat (n : Nat) : CodePoint :=
  if h : 0xd800 ≤ n ∧ n < 0xe000 then .half ⟨n - 0xd800, by omega⟩ else .char (Char.ofNat n)

/-- The character that stands for a code point where only characters can stand: half a pair gives
the replacement character. -/
def toChar : CodePoint → Char
  | .char c => c
  | .half _ => '\ufffd'

end CodePoint

/-- A text that may hold halves of surrogate pairs. -/
structure Text where
  points : List CodePoint
deriving DecidableEq, Repr

namespace Text

def ofString (s : String) : Text :=
  ⟨s.toList.map .char⟩

/-- The text as a string, halves of pairs replaced. -/
def toString (text : Text) : String :=
  String.ofList (text.points.map CodePoint.toChar)

@[simp] theorem toString_ofString (s : String) : (ofString s).toString = s := by
  simp [ofString, toString, Function.comp_def, CodePoint.toChar]

theorem ofString_injective {s t : String} (h : ofString s = ofString t) : s = t := by
  rw [← toString_ofString s, h, toString_ofString]

/-- The string that a text is, if it holds no half of a pair. -/
def string? (text : Text) : Option String :=
  if ofString text.toString = text then some text.toString else none

/-- The numbers of the code points; texts are ordered by them. -/
def numbers (text : Text) : List Nat :=
  text.points.map CodePoint.toNat

end Text

end VisualNovel
