import VisualNovel.Document.Reader
import VisualNovel.Document.Writer
import VisualNovel.Playback.Event
import VisualNovel.Storage.Disk
import VisualNovel.Text.Quoted
import VisualNovel.Text.Utf8

/-!
# Files that hold documents

Loading a document reports why it fails: the file is missing, cannot be read, is no text, or holds no
document. Saving writes the one text that documents equal up to the order of fields share. It makes the
folders first and then the text, so that a document without a text leaves the folders but no file.
-/

namespace VisualNovel

/-- Why a file gives no document. -/
inductive LoadFault where
  | notFound (path : Path)
  | unreadable (path : Path)
  | malformed (path : Path) (misread : Document.Misread)
deriving DecidableEq, Repr

def LoadFault.message : LoadFault → String
  | .notFound path => "File not found: " ++ path.text
  | .unreadable path => "Unable to read file: " ++ path.text
  | .malformed path misread => "Invalid JSON in " ++ path.text ++ ": " ++ misread.message

/-- Why the content of a document is refused. -/
inductive ContentFault where
  | unlocksNotATable (path : Path)
  /-- The version, as messages show it. -/
  | unlocksVersion (version : String)
  | notTexts (field : String)
  | slotNotATable (slot : Int)
deriving DecidableEq, Repr

def ContentFault.message : ContentFault → String
  | .unlocksNotATable path => "Unlock file " ++ path.text ++ " must contain a JSON object."
  | .unlocksVersion version => "Unsupported unlock file version: " ++ version ++ "."
  | .notTexts field => field ++ " must be a list of strings."
  | .slotNotATable slot => "Save slot " ++ intText slot ++ " does not contain a JSON object."

/-- A slot number, or a number of slots, out of range. -/
inductive SlotFault where
  | tooFewSlots
  | outOfRange (count : Int)
deriving DecidableEq, Repr

def SlotFault.message : SlotFault → String
  | .tooFewSlots => "slot_count must be at least 1."
  | .outOfRange count =>
    match intLiteral? count with
    | some shown => "Slot index must be between 1 and " ++ shown ++ "."
    | none => tooManyDigitsMessage

/-- The wording of bytes that are no text. -/
def Utf8.Fault.message (fault : Utf8.Fault) : String :=
  let place :=
    if fault.length = 1 then
      "byte 0x" ++ String.ofList (Text.hex 2 fault.first.toNat) ++ " in position " ++
        intText fault.position
    else
      "bytes in position " ++ intText fault.position ++ "-" ++
        intText (fault.position + fault.length - 1)
  "'utf-8' codec can't decode " ++ place ++ ": " ++
    match fault.reason with
    | .invalidStart => "invalid start byte"
    | .invalidContinuation => "invalid continuation byte"
    | .unexpectedEnd => "unexpected end of data"

/-- Why an action on files fails. -/
inductive StorageFault where
  | load (fault : LoadFault)
  | content (fault : ContentFault)
  | slot (fault : SlotFault)
  | encoding (fault : Utf8.Fault)
  /-- An integer in the file has too many digits. -/
  | digits (misread : Document.Misread)
  /-- A document that is to be stored, or shown in a message, has no text. -/
  | unwritable (fault : Document.Unwritable)
  | disk (fault : DiskFault)
deriving DecidableEq, Repr

/-- Something that happened to files. -/
inductive FileEvent where
  | malformed (path : Path)
  | settingsDefaulted (fault : LoadFault)
  | settingsIgnored (path : Path)
  | noUnlocks (path : Path)
  | unlocksSaved (count : Nat) (path : Path)
  | slotUnreadable (slot : Int) (fault : LoadFault)
  | slotWritten (slot : Int)
deriving DecidableEq, Repr

namespace FileEvent

def level : FileEvent → Level
  | .malformed _ | .settingsDefaulted _ | .noUnlocks _ => .debug
  | .settingsIgnored _ | .slotUnreadable _ _ => .warning
  | .unlocksSaved _ _ | .slotWritten _ => .info

def message : FileEvent → String
  | .malformed path => "Rejected malformed JSON in " ++ path.text
  | .settingsDefaulted fault => "Using default runtime config: " ++ fault.message
  | .settingsIgnored path => "Ignoring config at " ++ path.text ++ ": expected a JSON object"
  | .noUnlocks path => "No unlock file at " ++ path.text ++ ", starting empty"
  | .unlocksSaved count path =>
    "Saved unlocks (" ++ intText count ++ " CGs) to " ++ path.text
  | .slotUnreadable slot fault =>
    "Save slot " ++ intText slot ++ " is unreadable: " ++ fault.message
  | .slotWritten slot => "Wrote save slot " ++ intText slot

end FileEvent

universe u

/-- The result of an action on files, and what it reported. -/
structure Logged (α : Type u) where
  log : List FileEvent
  result : Except StorageFault α

namespace Logged

variable {α : Type u}

/-- A result with nothing to report. -/
def ok (a : α) : Logged α := ⟨[], .ok a⟩

/-- A failure with nothing to report. -/
def fail (fault : StorageFault) : Logged α := ⟨[], .error fault⟩

/-- Puts events in front of the log. -/
def after (events : List FileEvent) (logged : Logged α) : Logged α :=
  { logged with log := events ++ logged.log }

/-- Goes on after a success, and keeps a failure. -/
def andThen {β : Type u} (first : Logged α) (next : α → Logged β) : Logged β :=
  match first.result with
  | .ok a => (next a).after first.log
  | .error fault => ⟨first.log, .error fault⟩

end Logged

/-- The disk after an action on files, what the action reported, and whether it went through. -/
structure Written where
  disk : Disk
  log : List FileEvent
  result : Except StorageFault Unit

namespace Written

/-- An action on a disk as one on files. -/
def ofChange (change : Disk.Change) : Written :=
  ⟨change.disk, [], change.result.mapError .disk⟩

/-- An action that was refused before it began. -/
def refused (disk : Disk) (fault : StorageFault) : Written :=
  ⟨disk, [], .error fault⟩

/-- Reports an event after a success. -/
def report (event : FileEvent) (written : Written) : Written :=
  match written.result with
  | .ok () => { written with log := written.log ++ [event] }
  | .error _ => written

end Written

namespace Disk

/-- Loads the document that a file holds. -/
def loadDocument (disk : Disk) (path : Path) : Logged Document :=
  match disk.read path with
  | .error .missing => .fail (.load (.notFound path))
  | .error .nullCharacter => .fail (.disk .nullCharacter)
  | .error _ => .fail (.load (.unreadable path))
  | .ok bytes =>
    match Utf8.decode bytes with
    | .error fault => .fail (.encoding fault)
    | .ok text =>
      match Document.read (Utf8.unifyNewlines text) with
      | .ok document => .ok document
      | .error misread =>
        match misread.problem with
        | .tooManyDigits _ => .fail (.digits misread)
        | _ => ⟨[.malformed path], .error (.load (.malformed path misread))⟩

/-- Writes a document to a file. -/
def saveDocument (disk : Disk) (path : Path) (document : Document) : Written :=
  let made := disk.makeFolder path.parent
  match made.result, document.toText .file with
  | .ok (), .ok text => .ofChange (.ofExcept made.disk (made.disk.put path (Utf8.encode text)))
  | .ok (), .error fault => .refused made.disk (.unwritable fault)
  | .error _, _ => .ofChange made

end Disk

end VisualNovel
