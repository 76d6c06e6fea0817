import VisualNovel.Document.Literal
import VisualNovel.Storage.DocumentFile
import VisualNovel.Unlocks

/-!
# The unlock file

A missing file means that nothing is unlocked yet. A file that is there and does not hold unlocks is an
error, so that a damaged file is never taken for a fresh start.
-/

namespace VisualNovel

namespace Unlocks

/-- The texts of a list, if it holds nothing else. -/
def texts? : List Document → Option (List String)
  | [] => some []
  | .text s :: rest => (texts? rest).map (s.toString :: ·)
  | _ :: _ => none

/-- A set of names; a field left out is the empty set. -/
def decodeNames (field : String) : Document → Except ContentFault (SortedSet String)
  | .null => .ok .empty
  | .list items =>
    match texts? items with
    | some names => .ok (.ofList names)
    | none => .error (.notTexts field)
  | _ => .error (.notTexts field)

/-- The unlocks that the fields of a document give. -/
def decode (fields : Fields) : Except StorageFault Unlocks := do
  let version := fields.getD "version"
  if !version.isOne then
    match version.literal? with
    | some text => .error (.content (.unlocksVersion text))
    | none => .error (.unwritable .tooManyDigits)
  else
    let cgs ← (decodeNames "unlocked_cgs" (fields.getD "unlocked_cgs")).mapError .content
    let bgm ← (decodeNames "unlocked_bgm" (fields.getD "unlocked_bgm")).mapError .content
    return { cgs, bgm }

/-- The unlocks as a document. -/
def toDocument (unlocks : Unlocks) : Document :=
  .record
    [("version", .int unlocks.version),
     ("unlocked_cgs", .list (unlocks.cgs.toList.map .string)),
     ("unlocked_bgm", .list (unlocks.bgm.toList.map .string))]

end Unlocks

namespace Disk

/-- Loads the unlocks. -/
def loadUnlocks (disk : Disk) (path : Path) : Logged Unlocks :=
  match disk.holds path with
  | .error fault => .fail (.disk fault)
  | .ok false => ⟨[.noUnlocks path], .ok {}⟩
  | .ok true =>
    (disk.loadDocument path).andThen fun document =>
      match document with
      | .table fields =>
        match Unlocks.decode fields with
        | .ok unlocks => .ok unlocks
        | .error fault => .fail fault
      | _ => .fail (.content (.unlocksNotATable path))

/-- Writes the unlocks. -/
def saveUnlocks (disk : Disk) (path : Path) (unlocks : Unlocks) : Written :=
  (disk.saveDocument path unlocks.toDocument).report (.unlocksSaved unlocks.cgs.size path)

end Disk

end VisualNovel
