import VisualNovel.Settings
import VisualNovel.Storage.DocumentFile

/-!
# Save slots

Saves are kept in numbered slots, one file each in one folder. A menu lists every slot with the
section of its document made for menus; a file without one counts as corrupt.
-/

namespace VisualNovel

/-- A folder with slots numbered from one. -/
structure SlotStore where
  folder : Path
  count : Int
  count_pos : 1 ≤ count

/-- What a menu shows of a slot. -/
structure SlotEntry where
  slot : Int
  present : Bool
  metadata : Option Fields := none
  corrupt : Bool := false

namespace SlotStore

/-- The slots in a folder. -/
def create (folder : Path) (count : Int) : Except SlotFault SlotStore :=
  if h : 1 ≤ count then .ok ⟨folder, count, h⟩ else .error .tooFewSlots

/-- The file of a slot. The number is taken to have no more digits than can be shown; with that many digits it
would not be the name of a file either. -/
def slotPath (store : SlotStore) (slot : Int) : Path :=
  store.folder.child ("slot_" ++ intText slot ++ ".json")

/-- The file of a slot that exists. -/
def file (store : SlotStore) (slot : Int) : Except StorageFault Path :=
  if 1 ≤ slot ∧ slot ≤ store.count then .ok (store.slotPath slot)
  else .error (.slot (.outOfRange store.count))

/-- Whether something is stored in a slot. -/
def occupied (store : SlotStore) (disk : Disk) (slot : Int) : Logged Bool :=
  match store.file slot with
  | .error fault => .fail fault
  | .ok path =>
    match disk.holds path with
    | .ok answer => .ok answer
    | .error fault => .fail (.disk fault)

/-- The document in a slot. -/
def read (store : SlotStore) (disk : Disk) (slot : Int) : Logged Document :=
  match store.file slot with
  | .error fault => .fail fault
  | .ok path =>
    (disk.loadDocument path).andThen fun document =>
      match document with
      | .table fields => .ok (.table fields)
      | _ => .fail (.content (.slotNotATable slot))

/-- Stores a document in a slot. -/
def write (store : SlotStore) (disk : Disk) (slot : Int) (document : Document) : Written :=
  match store.file slot with
  | .error fault => .refused disk fault
  | .ok path => (disk.saveDocument path document).report (.slotWritten slot)

/-- Empties a slot. -/
def delete (store : SlotStore) (disk : Disk) (slot : Int) : Written :=
  match store.file slot with
  | .error fault => .refused disk fault
  | .ok path =>
    match disk.delete path with
    | .error .missing => ⟨disk, [], .ok ()⟩
    | outcome => .ofChange (.ofExcept disk outcome)

/-- What a menu shows of a document. -/
def entryOf (slot : Int) (document : Document) : SlotEntry :=
  match document with
  | .table fields =>
    match Fields.get? "metadata" fields with
    | some (.table metadata) => ⟨slot, true, some metadata, false⟩
    | _ => ⟨slot, true, none, true⟩
  | _ => ⟨slot, true, none, true⟩

/-- What a menu shows of a slot. -/
def entry (store : SlotStore) (disk : Disk) (slot : Int) : Logged SlotEntry :=
  let path := store.slotPath slot
  match disk.holds path with
  | .error fault => .fail (.disk fault)
  | .ok false => .ok ⟨slot, false, none, false⟩
  | .ok true =>
    match disk.loadDocument path with
    | ⟨log, .error (.load fault)⟩ =>
      ⟨log ++ [.slotUnreadable slot fault], .ok ⟨slot, true, none, true⟩⟩
    | ⟨log, .error fault⟩ => ⟨log, .error fault⟩
    | ⟨log, .ok document⟩ => ⟨log, .ok (entryOf slot document)⟩

/-- The entries of slots, one after another. -/
def entries (store : SlotStore) (disk : Disk) : List Int → Logged (List SlotEntry)
  | [] => .ok []
  | slot :: rest =>
    (store.entry disk slot).andThen fun entry =>
      (entries store disk rest).andThen fun more => .ok (entry :: more)

/-- What a menu shows of all slots. -/
def list (store : SlotStore) (disk : Disk) : Logged (List SlotEntry) :=
  store.entries disk ((List.range store.count.toNat).map fun (index : Nat) => (index : Int) + 1)

end SlotStore

end VisualNovel
