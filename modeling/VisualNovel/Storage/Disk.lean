import VisualNovel.OrderedMap
import VisualNovel.SortedSet
import VisualNovel.Storage.Path

/-!
# The disk

What a disk holds: at each place nothing, a folder, or a file of bytes. A path is followed name by name
(`Disk.resolve`): every name but the last has to lead to a folder, and two dots lead back to the folder
before. Writing makes the folders that lead to a file; those it made stay if it fails after all.
-/

namespace VisualNovel

/-- What stands at a place. -/
inductive Node where
  | folder
  | file (bytes : List UInt8)
deriving DecidableEq

/-- A disk: what stands at each place, under its text. -/
abbrev Disk := OrderedMap Node

/-- Why the disk refuses. -/
inductive DiskFault where
  /-- Nothing stands at the place, or at one on the way. -/
  | missing
  /-- A folder stands where a file is needed. -/
  | isFolder
  /-- Something stands already where a folder is to be made. -/
  | taken
  /-- A file stands on the way. -/
  | notAFolder
  | nameTooLong
  /-- The path holds the character that ends paths. -/
  | nullCharacter
deriving DecidableEq, Repr

/-- The wording for a path that ends before its end. -/
def nullCharacterMessage : String := "embedded null byte"

/-- The greatest number of bytes in a name. -/
def longestName : Nat := 255

/-- The greatest number of bytes in a path. -/
def longestPath : Nat := 4095

namespace Disk

/-! ## Following paths -/

/-- What stands at a place. The root, the start of a relative path and what lies above are folders. -/
def node? (disk : Disk) (place : Path) : Option Node :=
  if place.parts.all (· = Path.back) then some .folder else OrderedMap.get? disk place.text

/-- The place one name further. -/
def step (disk : Disk) (place : Path) (name : String) : Except DiskFault Path :=
  match disk.node? place with
  | none => .error .missing
  | some (.file _) => .error .notAFolder
  | some .folder =>
    if name = Path.back then .ok place.up
    else if longestName < name.utf8ByteSize then .error .nameTooLong
    else .ok ⟨place.root, place.parts ++ [name]⟩

/-- The place to which a path leads; nothing has to stand there. -/
def resolve (disk : Disk) (path : Path) : Except DiskFault Path :=
  if path.text.toList.contains '\x00' then .error .nullCharacter
  else if longestPath < path.text.utf8ByteSize then .error .nameTooLong
  else path.parts.foldlM disk.step ⟨path.root, []⟩

/-- What stands under a path. -/
def find (disk : Disk) (path : Path) : Except DiskFault Node := do
  let place ← disk.resolve path
  match disk.node? place with
  | some node => .ok node
  | none => .error .missing

/-! ## Reading -/

/-- Whether something stands under a path. Whether a name is too long depends on where it stands, so
that is not an answer but a failure. -/
def holds (disk : Disk) (path : Path) : Except DiskFault Bool :=
  match disk.find path with
  | .ok _ => .ok true
  | .error .nameTooLong => .error .nameTooLong
  | .error _ => .ok false

/-- The bytes of a file. -/
def read (disk : Disk) (path : Path) : Except DiskFault (List UInt8) := do
  match ← disk.find path with
  | .file bytes => .ok bytes
  | .folder => .error .isFolder

/-! ## Changing -/

/-- The disk after an action, and whether the action went through. -/
structure Change where
  disk : Disk
  result : Except DiskFault Unit

namespace Change

/-- An action that did all or nothing. -/
def ofExcept (before : Disk) : Except DiskFault Disk → Change
  | .ok after => ⟨after, .ok ()⟩
  | .error fault => ⟨before, .error fault⟩

/-- Goes on after a success, and keeps a failure. -/
def andThen (first : Change) (next : Disk → Change) : Change :=
  match first.result with
  | .ok () => next first.disk
  | .error _ => first

end Change

/-- Makes a folder in a folder, where nothing stands yet. -/
def makeNew (disk : Disk) (path : Path) : Except DiskFault Disk := do
  let place ← disk.resolve path
  match disk.node? place with
  | some _ => .error .taken
  | none => .ok (OrderedMap.insert disk place.text .folder)

/-- Makes a folder in a folder, unless it is there already. -/
def makeOne (disk : Disk) (path : Path) : Except DiskFault Disk :=
  match disk.find path with
  | .ok .folder => .ok disk
  | _ => disk.makeNew path

/-- Makes a folder and, where one on the way is missing, those that lead to it. -/
def makeFolder (disk : Disk) (path : Path) : Change :=
  match disk.makeOne path with
  | .ok after => ⟨after, .ok ()⟩
  | .error .missing =>
    if path.parts.isEmpty then ⟨disk, .error .missing⟩
    else (makeFolder disk path.parent).andThen fun made => .ofExcept made (made.makeOne path)
  | .error fault => ⟨disk, .error fault⟩
termination_by path.parts.length
decreasing_by
  cases h : path.parts <;> simp_all [Path.parent]

/-- Makes a folder that is not there yet and, where one on the way is missing, those that lead to it. -/
def makeNewFolder (disk : Disk) (path : Path) : Change :=
  match disk.makeNew path with
  | .ok after => ⟨after, .ok ()⟩
  | .error .missing =>
    (disk.makeFolder path.parent).andThen fun made => .ofExcept made (made.makeNew path)
  | .error fault => ⟨disk, .error fault⟩

/-- Writes a file into a folder, replacing what it held. -/
def put (disk : Disk) (path : Path) (bytes : List UInt8) : Except DiskFault Disk := do
  let place ← disk.resolve path
  match disk.node? place with
  | some .folder => .error .isFolder
  | _ => .ok (OrderedMap.insert disk place.text (.file bytes))

/-- Writes a file and makes the folders that lead to it. -/
def write (disk : Disk) (path : Path) (bytes : List UInt8) : Change :=
  (disk.makeFolder path.parent).andThen fun made => .ofExcept made (made.put path bytes)

/-- Deletes a file. -/
def delete (disk : Disk) (path : Path) : Except DiskFault Disk := do
  let place ← disk.resolve path
  match disk.node? place with
  | some (.file _) => .ok (OrderedMap.erase disk place.text)
  | some .folder => .error .isFolder
  | none => .error .missing

/-! ## Listing -/

/-- The files and folders below a folder by their way from there, sorted; a folder is marked by a slash
at its end. -/
def listing (disk : Disk) (folder : Path) : List String :=
  let start := (folder.text ++ "/").toList
  let shown := disk.entries.filterMap fun (path, node) =>
    if start.isPrefixOf path.toList then
      let way := String.ofList (path.toList.drop start.length)
      some (match node with
        | .folder => way ++ "/"
        | .file _ => way)
    else none
  (SortedSet.ofList shown).toList

end Disk

end VisualNovel
