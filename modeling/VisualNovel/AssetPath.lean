import VisualNovel.Text.Pieces

/-!
# Names of assets

An asset is known by the name of its file, without the folders before it and the extension behind it.
A path may use slashes and backslashes alike, may start with a drive letter or a network share, and
may carry the prefix that marks an extended path; none of these belong to the name.
-/

namespace VisualNovel.AssetPath

/-- Slashes count as backslashes. -/
def unify (path : List Char) : List Char :=
  path.map fun c => if c = '/' then '\\' else c

/-- The path without the prefix of extended paths; a share written in the extended form gets its two
backslashes back. -/
def dropExtended : List Char → List Char
  | '\\' :: '\\' :: '?' :: '\\' :: 'U' :: 'N' :: 'C' :: '\\' :: rest => '\\' :: '\\' :: rest
  | '\\' :: '\\' :: '?' :: '\\' :: rest => rest
  | path => path

/-- What follows the server and the folder of a network share, if the path starts with one. -/
def afterShare? : List Char → Option (List Char)
  | '\\' :: '\\' :: rest =>
    if rest.head? = some '\\' then none
    else match rest.dropWhile (· ≠ '\\') with
      | _ :: share =>
        if share.head? = some '\\' then none else some ((share.dropWhile (· ≠ '\\')).drop 1)
      | [] => none
  | _ => none

/-- The path without its drive letter. -/
def dropDrive : List Char → List Char
  | c :: ':' :: rest => if c.isAlpha then rest else c :: ':' :: rest
  | path => path

/-- The part of the path behind drive or share. -/
def relative (path : List Char) : List Char :=
  let path := dropExtended (unify path)
  (afterShare? path).getD (dropDrive path)

/-- The folders and the file of a path, without empty ones and those that stay in place. -/
def components (path : List Char) : List (List Char) :=
  (Text.pieces '\\' (relative path)).filter fun piece => piece ≠ [] && piece ≠ ['.']

/-- The name without its extension: what stands before the last dot, if something stands on either
side of it. -/
def dropExtension (name : List Char) : List Char :=
  match name.reverse.dropWhile (· ≠ '.') with
  | _ :: base =>
    if base = [] || name.reverse.head? = some '.' then name else base.reverse
  | [] => name

/-- The name of an asset. -/
def stem? (path : String) : Option String :=
  (components path.toList).getLast?.map fun name => String.ofList (dropExtension name)

end VisualNovel.AssetPath
