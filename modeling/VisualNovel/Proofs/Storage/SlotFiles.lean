import Mathlib.Logic.Function.Basic
import VisualNovel.Proofs.Storage.Disk
import VisualNovel.Proofs.Storage.DocumentFile
import VisualNovel.Storage.SlotStore

/-!
# The files of slots

What a folder of slots holds, as a map from the numbers of the slots to what was stored last.

1. What is stored is a table that a file holds without loss (`Payload`).
2. Every slot has a file of its own: different numbers have different names (`slotName_injective`).
3. A disk represents a map (`Represents`) when the folder is open and each slot's file holds the text of
   what the map has under the slot. Storing or erasing one file changes the map at its slot alone
   (`Represents.insert`, `Represents.erase`), and reading, looking and listing show the map
   (`Represents.load_some`, `Represents.holds`, `Represents.entries`).
-/

namespace VisualNovel

/-! ## Payloads -/

/-- A table that a file holds without loss. -/
structure Payload where
  fields : Fields
  plain : (Document.table fields).Plain

/-- The payload as a document. -/
def Payload.document (payload : Payload) : Document :=
  .table payload.fields

theorem Payload.succeedsIff_toText (payload : Payload) :
    SucceedsIff payload.document.Storable .tooManyDigits (payload.document.toText .file) :=
  Document.succeedsIff_toText payload.plain

/-! ## Slots -/

namespace SlotStore

/-- The store has a slot with this number. -/
def Numbers (store : SlotStore) (slot : Int) : Prop :=
  1 ≤ slot ∧ slot ≤ store.count

instance (store : SlotStore) (slot : Int) : Decidable (store.Numbers slot) :=
  inferInstanceAs (Decidable (1 ≤ slot ∧ slot ≤ store.count))

/-- The numbers of the slots. -/
def slots (store : SlotStore) : List Int :=
  (List.range store.count.toNat).map fun (index : Nat) => (index : Int) + 1

end SlotStore

/-! ## The map -/

/-- What was stored last in each slot. -/
abbrev SlotMap := Int → Option Payload

namespace SlotMap

/-- What a menu shows of a slot: the metadata of its payload, if they are a table. -/
def entry (contents : SlotMap) (slot : Int) : SlotEntry :=
  match contents slot with
  | none => { slot, present := false }
  | some payload =>
    match payload.fields.get? "metadata" with
    | some (.table metadata) =>
      { slot, present := true, metadata := some (Document.sortedFields metadata).sort }
    | _ => { slot, present := true, corrupt := true }

end SlotMap

/-! ## Names of files -/

namespace SlotStore

/-- The name of a slot's file. -/
def slotName (slot : Int) : String :=
  "slot_" ++ intText slot ++ ".json"

theorem slotName_injective {m n : Int} (h : slotName m = slotName n) : m = n := by
  unfold slotName at h
  rw [String.append_left_inj, String.append_right_inj] at h
  exact Document.intText_injective h

theorem toList_slotName (slot : Int) :
    (slotName slot).toList = 's' :: ("lot_".toList ++ ((intText slot).toList ++ ".json".toList)) := by
  unfold slotName
  rw [String.toList_append, String.toList_append, List.append_assoc]
  rfl

theorem slash_not_mem_slotName (slot : Int) : '/' ∉ (slotName slot).toList := by
  have hdigits : '/' ∉ (intText slot).toList := by
    intro h
    rcases Document.mem_intText h with heq | hdigit
    · cases heq
    · cases hdigit
  rw [toList_slotName]
  simp [hdigits]

theorem slotName_ne {slot : Int} {text : String} (h : text.toList.head? ≠ some 's') :
    slotName slot ≠ text := by
  rintro rfl
  rw [toList_slotName] at h
  exact h rfl

theorem isName_slotName (slot : Int) : Disk.IsName (slotName slot) :=
  ⟨slotName_ne (by decide), slotName_ne (by decide)⟩

theorem slotPath_eq (store : SlotStore) (slot : Int) :
    store.slotPath slot = store.folder.inside (slotName slot) :=
  store.folder.child_eq_inside (slash_not_mem_slotName slot) (isName_slotName slot).1
    (slotName_ne (by decide))

end SlotStore

/-! ## Entries of a menu -/

theorem Payload.entryOf_sorted (payload : Payload) (slot : Int) :
    SlotStore.entryOf slot payload.document.sorted =
      match payload.fields.get? "metadata" with
      | some (.table metadata) =>
        { slot, present := true, metadata := some (Document.sortedFields metadata).sort }
      | _ => { slot, present := true, corrupt := true } := by
  unfold document SlotStore.entryOf
  rw [Document.sorted_table]
  simp only [Fields.get?_map_values, Fields.get?_sort payload.plain.distinct]
  cases payload.fields.get? "metadata" with
  | none => rfl
  | some d => cases d <;> rfl

/-! ## Disks that represent a map -/

/-- What stands at the place of a slot's file, by what the map has under the slot. -/
def Stored : Option Payload → Option Node → Prop
  | none, node => node = none
  | some payload, node =>
    ∃ text, payload.document.toText .file = .ok text ∧ node = some (.file (Utf8.encode text))

/-- The store's folder is open, and the file of each slot holds the text of what the map has there. -/
structure Represents (store : SlotStore) (place : Path) (disk : Disk) (contents : SlotMap) : Prop where
  opens : disk.Opens store.folder place
  slots : ∀ slot, store.Numbers slot →
    Stored (contents slot) (disk.node? (place.inside (SlotStore.slotName slot)))

/-- The disk takes the paths of all slots. -/
def SlotStore.Fits (store : SlotStore) : Prop :=
  ∀ slot, store.Numbers slot → (store.slotPath slot).Fits

theorem Stored.ne_folder {payload : Option Payload} {node : Option Node} (h : Stored payload node) :
    node ≠ some .folder := by
  cases payload with
  | none =>
    cases h
    exact Option.some_ne_none _ |>.symm
  | some payload =>
    obtain ⟨text, _, rfl⟩ := h
    intro heq
    cases heq

namespace Represents

variable {store : SlotStore} {place : Path} {disk : Disk} {contents : SlotMap} {slot : Int}

theorem resolve (h : Represents store place disk contents) (fits : store.Fits)
    (hslot : store.Numbers slot) :
    disk.resolve (store.slotPath slot) = .ok (place.inside (SlotStore.slotName slot)) := by
  have hfits := fits slot hslot
  rw [SlotStore.slotPath_eq] at hfits ⊢
  exact h.opens.resolve_inside (SlotStore.isName_slotName slot).2 hfits

/-- A change of one slot's file alone is a change of the map at that slot. -/
theorem update (h : Represents store place disk contents) {after : Disk} {stored : Option Payload}
    (keeps : Disk.KeepsFolders disk after)
    (own : Stored stored (after.node? (place.inside (SlotStore.slotName slot))))
    (others : ∀ other, other ≠ slot → after.node? (place.inside (SlotStore.slotName other)) =
      disk.node? (place.inside (SlotStore.slotName other))) :
    Represents store place after (Function.update contents slot stored) := by
  refine ⟨h.opens.of_keeps keeps, fun other hother => ?_⟩
  by_cases heq : other = slot
  · rw [heq, Function.update_self]
    exact own
  · rw [Function.update_of_ne heq, others other heq]
    exact h.slots other hother

theorem free (h : Represents store place disk contents) (hslot : store.Numbers slot) :
    OrderedMap.get? disk (place.inside (SlotStore.slotName slot)).text ≠ some .folder := by
  rw [← Disk.node?_inside (SlotStore.isName_slotName slot).2]
  exact (h.slots slot hslot).ne_folder

theorem insert (h : Represents store place disk contents) (hslot : store.Numbers slot)
    {payload : Payload} {text : List Char} (htext : payload.document.toText .file = .ok text) :
    Represents store place
      (OrderedMap.insert disk (place.inside (SlotStore.slotName slot)).text (.file (Utf8.encode text)))
      (Function.update contents slot (some payload)) := by
  have hname := SlotStore.isName_slotName slot
  refine h.update (Disk.keepsFolders_insert (h.free hslot) _) ?_ fun other hother => ?_
  · rw [Disk.node?_insert_inside hname hname, if_pos rfl]
    exact ⟨text, htext, rfl⟩
  · rw [Disk.node?_insert_inside hname (SlotStore.isName_slotName other),
      if_neg fun heq => hother (SlotStore.slotName_injective heq)]

theorem erase (h : Represents store place disk contents) (hslot : store.Numbers slot) :
    Represents store place (OrderedMap.erase disk (place.inside (SlotStore.slotName slot)).text)
      (Function.update contents slot none) := by
  have hname := SlotStore.isName_slotName slot
  refine h.update (Disk.keepsFolders_erase (h.free hslot)) ?_ fun other hother => ?_
  · rw [Disk.node?_erase_inside hname hname, if_pos rfl]
    rfl
  · rw [Disk.node?_erase_inside hname (SlotStore.isName_slotName other),
      if_neg fun heq => hother (SlotStore.slotName_injective heq)]

/-! ## Reading slots -/

theorem node_none (h : Represents store place disk contents) (hslot : store.Numbers slot)
    (hcontents : contents slot = none) :
    disk.node? (place.inside (SlotStore.slotName slot)) = none := by
  have hstored := h.slots slot hslot
  rw [hcontents] at hstored
  exact hstored

theorem node_some (h : Represents store place disk contents) (hslot : store.Numbers slot)
    {payload : Payload} (hcontents : contents slot = some payload) :
    ∃ text, payload.document.toText .file = .ok text ∧
      disk.node? (place.inside (SlotStore.slotName slot)) = some (.file (Utf8.encode text)) := by
  have hstored := h.slots slot hslot
  rw [hcontents] at hstored
  exact hstored

theorem holds (h : Represents store place disk contents) (fits : store.Fits)
    (hslot : store.Numbers slot) : disk.holds (store.slotPath slot) = .ok (contents slot).isSome := by
  rw [Disk.holds_of_resolve (h.resolve fits hslot)]
  cases hcontents : contents slot with
  | none => rw [h.node_none hslot hcontents, Option.isSome_none, Option.isSome_none]
  | some payload =>
    obtain ⟨text, _, hnode⟩ := h.node_some hslot hcontents
    rw [hnode, Option.isSome_some, Option.isSome_some]

theorem load_none (h : Represents store place disk contents) (fits : store.Fits)
    (hslot : store.Numbers slot) (hcontents : contents slot = none) :
    disk.loadDocument (store.slotPath slot) = .fail (.load (.notFound (store.slotPath slot))) := by
  unfold Disk.loadDocument
  rw [Disk.read_of_resolve (h.resolve fits hslot), h.node_none hslot hcontents]

theorem load_some (h : Represents store place disk contents) (fits : store.Fits)
    (hslot : store.Numbers slot) {payload : Payload} (hcontents : contents slot = some payload) :
    disk.loadDocument (store.slotPath slot) = .ok payload.document.sorted := by
  obtain ⟨text, htext, hnode⟩ := h.node_some hslot hcontents
  refine Disk.loadDocument_of_read payload.plain htext ?_
  rw [Disk.read_of_resolve (h.resolve fits hslot), hnode]

theorem entry (h : Represents store place disk contents) (fits : store.Fits)
    (hslot : store.Numbers slot) : store.entry disk slot = .ok (contents.entry slot) := by
  unfold SlotStore.entry SlotMap.entry
  simp only [h.holds fits hslot]
  cases hcontents : contents slot with
  | none => rfl
  | some payload =>
    simp only [h.load_some fits hslot hcontents, Logged.ok, Option.isSome_some]
    rw [payload.entryOf_sorted]

theorem entries (h : Represents store place disk contents) (fits : store.Fits) {slots : List Int}
    (hslots : ∀ slot ∈ slots, store.Numbers slot) :
    store.entries disk slots = .ok (slots.map contents.entry) := by
  induction slots with
  | nil => rfl
  | cons slot rest ih =>
    obtain ⟨hslot, hrest⟩ := List.forall_mem_cons.1 hslots
    rw [SlotStore.entries, h.entry fits hslot, ih hrest]
    rfl

end Represents

end VisualNovel
