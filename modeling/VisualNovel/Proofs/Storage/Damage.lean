import VisualNovel.Proofs.Storage.Slots
import VisualNovel.Storage.SettingsFile

/-!
# Damaged files

What a file that is no document does to loading, to the list of slots and to the settings. A path may lead
nowhere, to a folder, or to a file with any bytes at all.

1. Loading gives the document that a file holds (`Disk.HasDocument`) or says what is wrong with the file. It
   does neither exactly when the file is illegible (`Disk.Illegible`): its bytes are no text, or an integer
   in it has too many digits (`Disk.loadDocument_cases`).
2. The slots are listed one by one (`SlotStore.entries_eq_mapM`), each as what its file holds
   (`SlotStore.entry_cases`).
3. So damage is contained, up to illegible files (`damage_contained_unless_illegible`). One such file
   takes down all that reads it (`damage_escapes`).
-/

namespace VisualNovel

namespace Disk

variable {disk : Disk} {path : Path}

/-! ## Why a path cannot be followed -/

/-- A fault of following a path says what is wrong with it. -/
def Explains (path : Path) : DiskFault → Prop
  | .missing | .notAFolder => True
  | .nameTooLong => ¬path.Fits
  | .nullCharacter => '\x00' ∈ path.text.toList
  | .isFolder | .taken => False

theorem explains_of_foldlM {parts : List String} {start : Path} {fault : DiskFault}
    (hparts : ∀ name ∈ parts, name ∈ path.parts) (h : parts.foldlM disk.step start = .error fault) :
    Explains path fault := by
  induction parts generalizing start with
  | nil => cases h
  | cons name rest ih =>
    obtain ⟨hname, hrest⟩ := List.forall_mem_cons.1 hparts
    rw [List.foldlM_cons] at h
    cases hstep : disk.step start name with
    | ok next =>
      rw [hstep] at h
      exact ih hrest h
    | error other =>
      rw [hstep] at h
      cases h
      unfold step at hstep
      split at hstep
      · cases hstep
        trivial
      · cases hstep
        trivial
      · split_ifs at hstep with hback hlong
        cases hstep
        exact fun fits => Nat.not_lt.2 (fits.names name hname) hlong

theorem explains_of_resolve {fault : DiskFault} (h : disk.resolve path = .error fault) :
    Explains path fault := by
  unfold resolve at h
  split_ifs at h with hnull hlong
  · cases h
    show '\x00' ∈ path.text.toList
    simpa using hnull
  · cases h
    exact fun fits => Nat.not_lt.2 fits.length hlong
  · exact explains_of_foldlM (fun _ => id) h

theorem explains_of_find {fault : DiskFault} (h : disk.find path = .error fault) :
    Explains path fault := by
  cases hresolve : disk.resolve path with
  | error other =>
    unfold find at h
    rw [hresolve] at h
    cases h
    exact explains_of_resolve hresolve
  | ok place =>
    rw [find_of_resolve hresolve] at h
    split at h
    · cases h
    · cases h
      trivial

theorem read_eq_ok_iff {bytes : List UInt8} :
    disk.read path = .ok bytes ↔ disk.find path = .ok (.file bytes) := by
  unfold Disk.read
  rw [bind_eq_ok_iff]
  constructor
  · rintro ⟨node, hfind, hnode⟩
    cases node with
    | folder => cases hnode
    | file other =>
      cases hnode
      exact hfind
  · intro h
    exact ⟨_, h, rfl⟩

/-- Only a path with the character that ends paths is refused for it. -/
theorem read_ne_nullCharacter (hnull : '\x00' ∉ path.text.toList) :
    disk.read path ≠ .error .nullCharacter := by
  intro h
  unfold Disk.read at h
  cases hfind : disk.find path with
  | error fault =>
    rw [hfind] at h
    cases h
    exact hnull (explains_of_find hfind)
  | ok node =>
    rw [hfind] at h
    cases node <;> cases h

/-- Whether something stands under a path that the disk takes is always known. -/
theorem exists_holds (disk : Disk) (fits : path.Fits) : ∃ answer, disk.holds path = .ok answer := by
  unfold holds
  split
  · exact ⟨true, rfl⟩
  · next hfind => exact absurd fits (explains_of_find hfind)
  · exact ⟨false, rfl⟩

theorem holds_of_read {bytes : List UInt8} (h : disk.read path = .ok bytes) :
    disk.holds path = .ok true := by
  unfold holds
  rw [read_eq_ok_iff.1 h]

/-! ## Documents and illegible files -/

/-- The path leads to a file with a text of the document. -/
def HasDocument (disk : Disk) (path : Path) (document : Document) : Prop :=
  ∃ bytes text, disk.read path = .ok bytes ∧ Utf8.decode bytes = .ok text ∧
    Document.read (Utf8.unifyNewlines text) = .ok document

/-- The path leads to a file that holds bytes that are no text, or an integer with too many digits. -/
def Illegible (disk : Disk) (path : Path) : Prop :=
  ∃ bytes, disk.read path = .ok bytes ∧
    ((∃ fault, Utf8.decode bytes = .error fault) ∨
      ∃ text misread count, Utf8.decode bytes = .ok text ∧
        Document.read (Utf8.unifyNewlines text) = .error misread ∧
        misread.problem = .tooManyDigits count)

/-- The path leads to a file with a document that has these metadata. -/
def HasMetadata (disk : Disk) (path : Path) (metadata : Fields) : Prop :=
  ∃ fields, disk.HasDocument path (.table fields) ∧
    Fields.get? "metadata" fields = some (.table metadata)

theorem HasMetadata.holds {metadata : Fields} (h : disk.HasMetadata path metadata) :
    disk.holds path = .ok true := by
  obtain ⟨_, ⟨_, _, hread, _⟩, _⟩ := h
  exact holds_of_read hread

theorem Illegible.holds (h : disk.Illegible path) : disk.holds path = .ok true := by
  obtain ⟨_, hread, _⟩ := h
  exact holds_of_read hread

/-- **Loading.** Loading gives the document of a file, says what is wrong with a file that has none, or fails
otherwise. The last happens to illegible files only, which have no document either. -/
theorem loadDocument_cases (disk : Disk) (hnull : '\x00' ∉ path.text.toList) :
    (∃ document, disk.loadDocument path = .ok document ∧ ¬disk.Illegible path ∧
      ∀ other, disk.HasDocument path other ↔ other = document) ∨
    (∃ log fault, disk.loadDocument path = ⟨log, .error (.load fault)⟩ ∧ ¬disk.Illegible path ∧
      ∀ other, ¬disk.HasDocument path other) ∨
    (∃ fault, disk.loadDocument path = .fail fault ∧ (∀ other, fault ≠ .load other) ∧
      disk.Illegible path ∧ ∀ other, ¬disk.HasDocument path other) := by
  unfold Illegible HasDocument
  cases hread : disk.read path with
  | error fault =>
    refine .inr (.inl ?_)
    cases fault with
    | nullCharacter => exact absurd hread (read_ne_nullCharacter hnull)
    | missing =>
      have hload : disk.loadDocument path = .fail (.load (.notFound path)) := by
        simp only [loadDocument, hread]
      exact ⟨[], .notFound path, hload, by simp, by simp⟩
    | isFolder | taken | notAFolder | nameTooLong =>
      have hload : disk.loadDocument path = .fail (.load (.unreadable path)) := by
        simp only [loadDocument, hread]
      exact ⟨[], .unreadable path, hload, by simp, by simp⟩
  | ok bytes =>
    cases hdecode : Utf8.decode bytes with
    | error fault =>
      have hload : disk.loadDocument path = .fail (.encoding fault) := by
        simp only [loadDocument, hread, hdecode]
      exact .inr (.inr ⟨.encoding fault, hload, by simp, by simp [hdecode], by simp [hdecode]⟩)
    | ok text =>
      cases hdocument : Document.read (Utf8.unifyNewlines text) with
      | ok document =>
        have hload : disk.loadDocument path = .ok document := by
          simp only [loadDocument, hread, hdecode, hdocument]
        exact .inl ⟨document, hload, by simp [hdecode, hdocument], by simp [hdecode, hdocument, eq_comm]⟩
      | error misread =>
        by_cases hlong : ∃ count, misread.problem = .tooManyDigits count
        · obtain ⟨count, hcount⟩ := hlong
          have hload : disk.loadDocument path = .fail (.digits misread) := by
            simp only [loadDocument, hread, hdecode, hdocument, hcount]
          exact .inr (.inr ⟨.digits misread, hload, by simp, by simp [hdecode, hdocument, hcount],
            by simp [hdecode, hdocument]⟩)
        · have hload : disk.loadDocument path =
              ⟨[.malformed path], .error (.load (.malformed path misread))⟩ := by
            simp only [loadDocument, hread, hdecode, hdocument]
            split
            · next count hcount => exact absurd ⟨count, hcount⟩ hlong
            · rfl
          exact .inr (.inl ⟨_, _, hload, by simpa [hdecode, hdocument] using hlong,
            by simp [hdecode, hdocument]⟩)

/-- Loading gives a document or says what is wrong with the file exactly when the file is not illegible. -/
theorem loadDocument_contained_iff (hnull : '\x00' ∉ path.text.toList) :
    ((∃ document, (disk.loadDocument path).result = .ok document) ∨
      ∃ fault, (disk.loadDocument path).result = .error (.load fault)) ↔ ¬disk.Illegible path := by
  rcases loadDocument_cases disk hnull with ⟨document, hload, hlegible, _⟩ |
    ⟨log, fault, hload, hlegible, _⟩ | ⟨fault, hload, hfault, hillegible, _⟩
  · simp [hload, hlegible, Logged.ok]
  · simp [hload, hlegible]
  · simp [hload, hfault, hillegible, Logged.fail]

/-! ## Settings -/

/-- The settings are loaded exactly when their file is not illegible: from the table that the file holds, and
as the defaults if it holds none. -/
theorem loadSettings_contained_iff (hnull : '\x00' ∉ path.text.toList) :
    ((∃ settings, (disk.loadSettings path).result = .ok settings) ↔ ¬disk.Illegible path) ∧
      (∀ fields, disk.HasDocument path (.table fields) →
        (disk.loadSettings path).result = .ok (.ofFields fields)) ∧
      (¬disk.Illegible path → (∀ fields, ¬disk.HasDocument path (.table fields)) →
        (disk.loadSettings path).result = .ok {}) := by
  rcases loadDocument_cases disk hnull with ⟨document, hload, hlegible, hdocument⟩ |
    ⟨log, fault, hload, hlegible, hnone⟩ | ⟨fault, hload, hfault, hillegible, hnone⟩
  · simp only [loadSettings, hload, hdocument, Logged.ok]
    cases document <;> simp [hlegible]
  · simp [loadSettings, hload, hlegible, hnone]
  · have hfailed : (disk.loadSettings path).result = .error fault := by
      unfold loadSettings
      rw [hload]
      cases fault with
      | load other => exact absurd rfl (hfault other)
      | _ => rfl
    simp [hfailed, hillegible, hnone]

end Disk

/-! ## Lists of slots -/

theorem Logged.result_andThen {α β : Type} (first : Logged α) (next : α → Logged β) :
    (first.andThen next).result = first.result >>= fun a => (next a).result := by
  unfold andThen
  cases first.result <;> rfl

namespace SlotStore

variable {store : SlotStore} {disk : Disk} {slot : Int}

/-- What a menu is to show of a slot: whether anything stands under its path, the metadata of its document,
and that it is corrupt if something without metadata stands there. -/
structure Shows (store : SlotStore) (disk : Disk) (slot : Int) (entry : SlotEntry) : Prop where
  number : entry.slot = slot
  present : entry.present = true ↔ disk.holds (store.slotPath slot) = .ok true
  metadata : ∀ fields, entry.metadata = some fields ↔ disk.HasMetadata (store.slotPath slot) fields
  corrupt : entry.corrupt = true ↔ disk.holds (store.slotPath slot) = .ok true ∧
    ∀ fields, ¬disk.HasMetadata (store.slotPath slot) fields

theorem shows_absent (hholds : disk.holds (store.slotPath slot) = .ok false) :
    store.Shows disk slot ⟨slot, false, none, false⟩ := by
  have hnone : ∀ fields, ¬disk.HasMetadata (store.slotPath slot) fields := by
    intro fields h
    rw [h.holds] at hholds
    cases hholds
  exact ⟨rfl, by simp [hholds], by simp [hnone], by simp [hholds]⟩

theorem shows_corrupt (hholds : disk.holds (store.slotPath slot) = .ok true)
    (hnone : ∀ fields, ¬disk.HasMetadata (store.slotPath slot) fields) :
    store.Shows disk slot ⟨slot, true, none, true⟩ :=
  ⟨rfl, by simp [hholds], by simp [hnone], by simp [hholds, hnone]⟩

theorem shows_metadata {metadata : Fields} (hholds : disk.holds (store.slotPath slot) = .ok true)
    (hmetadata : ∀ fields, disk.HasMetadata (store.slotPath slot) fields ↔ fields = metadata) :
    store.Shows disk slot ⟨slot, true, some metadata, false⟩ :=
  ⟨rfl, by simp [hholds], by simp [hmetadata, eq_comm], by simp [hmetadata]⟩

/-- The entry of a document shows its metadata. -/
theorem shows_entryOf {document : Document} (hholds : disk.holds (store.slotPath slot) = .ok true)
    (hdocument : ∀ other, disk.HasDocument (store.slotPath slot) other ↔ other = document) :
    store.Shows disk slot (entryOf slot document) := by
  have hmetadata : ∀ metadata, disk.HasMetadata (store.slotPath slot) metadata ↔
      ∃ fields, Document.table fields = document ∧
        Fields.get? "metadata" fields = some (.table metadata) := by
    intro metadata
    simp only [Disk.HasMetadata, hdocument]
  unfold entryOf
  split
  · next fields =>
    split
    · next metadata hget =>
      refine shows_metadata hholds fun other => ?_
      simp [hmetadata, hget, eq_comm]
    · next hget =>
      refine shows_corrupt hholds fun other h => ?_
      obtain ⟨_, hfields, hother⟩ := (hmetadata other).1 h
      cases hfields
      exact hget other hother
  · next htable =>
    refine shows_corrupt hholds fun other h => ?_
    obtain ⟨fields, hfields, _⟩ := (hmetadata other).1 h
    exact htable fields hfields.symm

/-- **Entries.** A slot is shown as its file stands exactly when the file is not illegible. -/
theorem entry_cases (disk : Disk) (fits : (store.slotPath slot).Fits) :
    (∃ entry, (store.entry disk slot).result = .ok entry ∧ store.Shows disk slot entry ∧
      ¬disk.Illegible (store.slotPath slot)) ∨
    (∃ fault, (store.entry disk slot).result = .error fault ∧
      disk.Illegible (store.slotPath slot)) := by
  unfold entry
  obtain ⟨answer, hholds⟩ := disk.exists_holds fits
  cases answer with
  | false =>
    have hlegible : ¬disk.Illegible (store.slotPath slot) := by
      intro h
      rw [h.holds] at hholds
      cases hholds
    simp only [hholds]
    exact .inl ⟨_, rfl, shows_absent hholds, hlegible⟩
  | true =>
    rcases Disk.loadDocument_cases disk fits.no_null with ⟨document, hload, hlegible, hdocument⟩ |
      ⟨log, fault, hload, hlegible, hnone⟩ | ⟨fault, hload, hfault, hillegible, hnone⟩
    · simp only [hholds, hload, Logged.ok]
      exact .inl ⟨_, rfl, shows_entryOf hholds hdocument, hlegible⟩
    · simp only [hholds, hload]
      refine .inl ⟨_, rfl, shows_corrupt hholds fun other h => ?_, hlegible⟩
      obtain ⟨fields, hfields, _⟩ := h
      exact hnone _ hfields
    · simp only [hholds, hload, Logged.fail]
      refine .inr ⟨fault, ?_, hillegible⟩
      cases fault with
      | load other => exact absurd rfl (hfault other)
      | _ => rfl

theorem entries_eq_mapM (store : SlotStore) (disk : Disk) (slots : List Int) :
    (store.entries disk slots).result = slots.mapM fun slot => (store.entry disk slot).result := by
  induction slots with
  | nil => rfl
  | cons slot rest ih =>
    rw [List.mapM_cons, entries]
    simp only [Logged.result_andThen, ih]
    rfl

theorem mem_slots_iff : slot ∈ store.slots ↔ store.Numbers slot := by
  refine ⟨numbers_of_mem_slots, ?_⟩
  rintro ⟨hlow, hhigh⟩
  refine List.mem_map.2 ⟨(slot - 1).toNat, List.mem_range.2 ?_, ?_⟩ <;> omega

/-- **Lists.** All slots are listed, each as its file stands, exactly when no file of them is illegible. -/
theorem list_contained_iff (disk : Disk) (fits : store.Fits) :
    ((∃ entries, (store.list disk).result = .ok entries) ↔
        ∀ slot, store.Numbers slot → ¬disk.Illegible (store.slotPath slot)) ∧
      ∀ entries, (store.list disk).result = .ok entries →
        List.Forall₂ (store.Shows disk) store.slots entries := by
  have hlist : ∀ entries, (store.list disk).result = .ok entries ↔
      List.Forall₂ (fun slot entry => (store.entry disk slot).result = .ok entry) store.slots entries := by
    intro entries
    rw [← mapM_eq_ok_iff, ← entries_eq_mapM]
    rfl
  constructor
  · simp only [hlist, exists_forall₂_iff, mem_slots_iff]
    refine forall₂_congr fun slot hslot => ?_
    rcases entry_cases disk (fits slot hslot) with ⟨entry, hentry, _, hlegible⟩ |
      ⟨fault, hentry, hillegible⟩
    · simp [hentry, hlegible]
    · simp [hentry, hillegible]
  · intro entries h
    refine forall₂_of_mapM (mapM_eq_ok_iff.2 ((hlist entries).1 h)) fun slot hslot entry hentry => ?_
    rcases entry_cases disk (fits slot (mem_slots_iff.1 hslot)) with ⟨other, hother, hshows, _⟩ |
      ⟨fault, hfault, _⟩
    · rw [hother] at hentry
      cases hentry
      exact hshows
    · rw [hfault] at hentry
      cases hentry

end SlotStore

/-- **Damaged files.** Whatever stands under the paths of files, damage is contained exactly up to illegible
files. Loading gives the document or says what is wrong with the file; all slots are listed in their order,
those that are corrupt marked as such; the settings are loaded, with the defaults in place of a file that
holds no table. Each of the three fails otherwise exactly when a file it reads is illegible. -/
theorem damage_contained_unless_illegible (disk : Disk) :
    (∀ path : Path, '\x00' ∉ path.text.toList →
      (((∃ document, (disk.loadDocument path).result = .ok document) ∨
        ∃ fault, (disk.loadDocument path).result = .error (.load fault)) ↔ ¬disk.Illegible path)) ∧
    (∀ store : SlotStore, store.Fits →
      ((∃ entries, (store.list disk).result = .ok entries) ↔
        ∀ slot, store.Numbers slot → ¬disk.Illegible (store.slotPath slot)) ∧
      ∀ entries, (store.list disk).result = .ok entries →
        List.Forall₂ (store.Shows disk) store.slots entries) ∧
    ∀ path : Path, '\x00' ∉ path.text.toList →
      ((∃ settings, (disk.loadSettings path).result = .ok settings) ↔ ¬disk.Illegible path) ∧
      (∀ fields, disk.HasDocument path (.table fields) →
        (disk.loadSettings path).result = .ok (.ofFields fields)) ∧
      (¬disk.Illegible path → (∀ fields, ¬disk.HasDocument path (.table fields)) →
        (disk.loadSettings path).result = .ok {}) := by
  refine ⟨fun path hnull => ?_, fun store fits => ?_, fun path hnull => ?_⟩
  · exact Disk.loadDocument_contained_iff hnull
  · exact SlotStore.list_contained_iff disk fits
  · exact Disk.loadSettings_contained_iff hnull

namespace Sample

/-- A disk with a folder in the place of the first slot, nothing in that of the second, and a list in that
of the third. -/
def worn : Disk where
  entries := [("saves", .folder), ("saves/slot_1.json", .folder),
    ("saves/slot_3.json", .file [0x5b, 0x5d])]
  nodup := by simp [Entries.names]

/-- A disk with a byte that is no text in the first slot. -/
def torn : Disk where
  entries := [("saves", .folder), ("saves/slot_1.json", .file [0xff])]
  nodup := by simp [Entries.names]

theorem worn_legible {slot : Int} (hslot : saves.Numbers slot) : ¬worn.Illegible (saves.slotPath slot) := by
  rintro ⟨bytes, hread, h⟩
  have hslots : slot = 1 ∨ slot = 2 ∨ slot = 3 := by
    have hcount : saves.count = 3 := rfl
    obtain ⟨hlow, hhigh⟩ := hslot
    omega
  rcases hslots with rfl | rfl | rfl
  · cases hread
  · cases hread
  · have hbytes : worn.read (saves.slotPath 3) = .ok [0x5b, 0x5d] := rfl
    rw [hbytes] at hread
    cases hread
    have hdecode : Utf8.decode [0x5b, 0x5d] = .ok ['[', ']'] := rfl
    have hdocument : Document.read (Utf8.unifyNewlines ['[', ']']) = .ok (.list []) := rfl
    simp [hdecode, hdocument] at h

end Sample

theorem damage_contained_in_worn_saves :
    (∃ entries, (Sample.saves.list Sample.worn).result = .ok entries ∧
      List.Forall₂ (Sample.saves.Shows Sample.worn) [1, 2, 3] entries) ∧
    (Sample.worn.loadSettings (Sample.saves.slotPath 1)).result = .ok {} := by
  obtain ⟨_, hlist, hsettings⟩ := damage_contained_unless_illegible Sample.worn
  obtain ⟨hlisted, hshows⟩ := hlist Sample.saves Sample.saves_fits
  obtain ⟨entries, hentries⟩ := hlisted.2 fun slot hslot => Sample.worn_legible hslot
  refine ⟨⟨entries, hentries, hshows entries hentries⟩, ?_⟩
  refine (hsettings (Sample.saves.slotPath 1) (by decide)).2.2 (Sample.worn_legible (by decide)) ?_
  rintro fields ⟨bytes, _, hread, _⟩
  cases hread

theorem damage_escapes :
    (Sample.torn.loadDocument (Sample.saves.slotPath 1)).result =
        .error (.encoding ⟨0, 1, 0xff, .invalidStart⟩) ∧
      (Sample.saves.list Sample.torn).result = .error (.encoding ⟨0, 1, 0xff, .invalidStart⟩) ∧
      (Sample.torn.loadSettings (Sample.saves.slotPath 1)).result =
        .error (.encoding ⟨0, 1, 0xff, .invalidStart⟩) :=
  ⟨rfl, rfl, rfl⟩

end VisualNovel
