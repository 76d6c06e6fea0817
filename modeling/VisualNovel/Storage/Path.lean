import VisualNovel.Text.Pieces

/-!
# Paths

A path is a root and a list of names. Repeated slashes, a slash at the end and names that stay in place
do not matter; two slashes at the start are a root of their own, while three or more count as one.
-/

namespace VisualNovel

/-- A root, empty for a relative path, and the names below it. -/
structure Path where
  root : String := ""
  parts : List String := []
deriving DecidableEq, Repr

namespace Path

/-- The names in a text. -/
def partsOf (text : String) : List String :=
  ((Text.pieces '/' text.toList).filter fun piece => piece ≠ [] && piece ≠ ['.']).map String.ofList

/-- The root that a text starts with. -/
def rootOf (text : String) : String :=
  match (text.toList.takeWhile (· = '/')).length with
  | 0 => ""
  | 2 => "//"
  | _ => "/"

/-- The path that a text names. -/
def ofText (text : String) : Path :=
  ⟨rootOf text, partsOf text⟩

/-- The path that a text names from a path on; a text with a root of its own leaves the path. -/
def child (path : Path) (text : String) : Path :=
  if rootOf text = "" then ⟨path.root, path.parts ++ partsOf text⟩ else ofText text

/-- The path without its last name. -/
def parent (path : Path) : Path :=
  ⟨path.root, path.parts.dropLast⟩

/-- The name that leads back to the folder before. -/
def back : String := ".."

/-- The folder that holds a place. Nothing holds the root; above the start of a relative path there is
always one more folder. -/
def up (place : Path) : Path :=
  match place.parts.getLast? with
  | some name =>
    if name = back then ⟨place.root, place.parts ++ [back]⟩ else place.parent
  | none => if place.root = "" then ⟨"", [back]⟩ else place

/-- The text of a path. -/
def text (path : Path) : String :=
  let joined := path.root ++ "/".intercalate path.parts
  if joined = "" then "." else joined

end Path

end VisualNovel
