import Mathlib.Data.List.Permutation
import VisualNovel.Proofs.Storage.SlotFiles

/-!
# Slots as a map

A store of slots behaves as a map from the numbers of its slots to what was stored last
(`slots_answer_as_map`). One request to the store gives the answer of the map and leaves a disk that
represents the map after it (`Represents.follows`), so a run of requests does (`Represents.run`).
-/

namespace VisualNovel

/-! ## Requests -/

/-- What can be asked of a store. -/
inductive SlotRequest where
  | write (slot : Int) (payload : Payload)
  | delete (slot : Int)
  | read (slot : Int)
  | occupied (slot : Int)
  | list

/-- What a store answers. -/
inductive SlotAnswer where
  | done
  | document (document : Document)
  | occupied (answer : Bool)
  | entries (entries : List SlotEntry)

/-- The slot that a request names. -/
def SlotRequest.slot? : SlotRequest → Option Int
  | .write slot _ | .delete slot | .read slot | .occupied slot => some slot
  | .list => none

namespace SlotStore

/-- The store's answer to a request, and the disk after it. -/
def respond (store : SlotStore) (disk : Disk) : SlotRequest → Disk × Except StorageFault SlotAnswer
  | .write slot payload =>
    let written := store.write disk slot payload.document
    (written.disk, written.result.map fun _ => .done)
  | .delete slot =>
    let written := store.delete disk slot
    (written.disk, written.result.map fun _ => .done)
  | .read slot => (disk, (store.read disk slot).result.map .document)
  | .occupied slot => (disk, (store.occupied disk slot).result.map .occupied)
  | .list => (disk, (store.list disk).result.map .entries)

end SlotStore

/-! ## Requests to a map -/

namespace SlotMap

/-- The map's answer to a request to a store, and the map after it. A number that is out of range is
refused, and so is a payload with an integer that has too many digits. -/
def respond (store : SlotStore) (contents : SlotMap) :
    SlotRequest → SlotMap × Except StorageFault SlotAnswer
  | .write slot payload =>
    if ¬store.Numbers slot then (contents, .error (.slot (.outOfRange store.count)))
    else if ¬payload.document.Storable then (contents, .error (.unwritable .tooManyDigits))
    else (Function.update contents slot (some payload), .ok .done)
  | .delete slot =>
    if ¬store.Numbers slot then (contents, .error (.slot (.outOfRange store.count)))
    else (Function.update contents slot none, .ok .done)
  | .read slot =>
    if ¬store.Numbers slot then (contents, .error (.slot (.outOfRange store.count)))
    else match contents slot with
      | some payload => (contents, .ok (.document payload.document.sorted))
      | none => (contents, .error (.load (.notFound (store.slotPath slot))))
  | .occupied slot =>
    if ¬store.Numbers slot then (contents, .error (.slot (.outOfRange store.count)))
    else (contents, .ok (.occupied (contents slot).isSome))
  | .list => (contents, .ok (.entries (store.slots.map contents.entry)))

end SlotMap

/-! ## Single requests -/

namespace SlotStore

variable {store : SlotStore} {slot : Int}

theorem file_of_numbers (hslot : store.Numbers slot) : store.file slot = .ok (store.slotPath slot) :=
  if_pos hslot

theorem file_of_not_numbers (hslot : ¬store.Numbers slot) :
    store.file slot = .error (.slot (.outOfRange store.count)) :=
  if_neg hslot

/-- A request with a number out of range is refused and leaves the disk as it is. -/
theorem respond_of_not_numbers (disk : Disk) {request : SlotRequest}
    (hrequest : request.slot? = some slot) (hslot : ¬store.Numbers slot) :
    store.respond disk request = (disk, .error (.slot (.outOfRange store.count))) := by
  have hfile := file_of_not_numbers hslot
  cases request with
  | write _ payload =>
    cases hrequest
    simp only [respond, write, hfile]
    rfl
  | delete _ =>
    cases hrequest
    simp only [respond, delete, hfile]
    rfl
  | read _ =>
    cases hrequest
    simp only [respond, read, hfile]
    rfl
  | occupied _ =>
    cases hrequest
    simp only [respond, occupied, hfile]
    rfl
  | list => cases hrequest

theorem numbers_of_mem_slots (h : slot ∈ store.slots) : store.Numbers slot := by
  obtain ⟨index, hindex, rfl⟩ := List.mem_map.1 h
  have hcount := store.count_pos
  have hlt := List.mem_range.1 hindex
  constructor <;> omega

end SlotStore

theorem SlotMap.respond_of_not_numbers {store : SlotStore} (contents : SlotMap) {request : SlotRequest}
    {slot : Int} (hrequest : request.slot? = some slot) (hslot : ¬store.Numbers slot) :
    respond store contents request = (contents, .error (.slot (.outOfRange store.count))) := by
  cases request <;> cases hrequest <;> exact if_pos hslot

/-- The store gives the answer of the map, and the disk after it represents the map after it. -/
def Follows (store : SlotStore) (place : Path) (disk : Disk) (contents : SlotMap)
    (request : SlotRequest) : Prop :=
  (store.respond disk request).2 = (SlotMap.respond store contents request).2 ∧
    Represents store place (store.respond disk request).1 (SlotMap.respond store contents request).1

theorem follows_of_eq {store : SlotStore} {place : Path} {disk after : Disk} {contents later : SlotMap}
    {request : SlotRequest} {answer : Except StorageFault SlotAnswer}
    (hstore : store.respond disk request = (after, answer))
    (hmap : SlotMap.respond store contents request = (later, answer))
    (h : Represents store place after later) : Follows store place disk contents request := by
  unfold Follows
  rw [hstore, hmap]
  exact ⟨rfl, h⟩

namespace Represents

variable {store : SlotStore} {place : Path} {disk : Disk} {contents : SlotMap} {slot : Int}

theorem follows_write (h : Represents store place disk contents) (fits : store.Fits)
    (hslot : store.Numbers slot) (payload : Payload) :
    Follows store place disk contents (.write slot payload) := by
  have hparent : (store.slotPath slot).parent = store.folder := by
    rw [SlotStore.slotPath_eq, Path.parent_inside]
  have hfile := SlotStore.file_of_numbers hslot
  rcases payload.succeedsIff_toText with ⟨hstorable, text, htext⟩ | ⟨hstorable, htext⟩
  · have hmap : SlotMap.respond store contents (.write slot payload) =
        (Function.update contents slot (some payload), .ok .done) := by
      rw [SlotMap.respond, if_neg (not_not.2 hslot), if_neg (not_not.2 hstorable)]
    have hfree := (h.slots slot hslot).ne_folder
    have hsave := h.opens.saveDocument hparent (h.resolve fits hslot) hfree htext
    refine follows_of_eq ?_ hmap (h.insert hslot htext)
    simp only [SlotStore.respond, SlotStore.write, hfile, hsave]
    rfl
  · have hmap : SlotMap.respond store contents (.write slot payload) =
        (contents, .error (.unwritable .tooManyDigits)) := by
      rw [SlotMap.respond, if_neg (not_not.2 hslot), if_pos hstorable]
    have hsave := h.opens.saveDocument_unwritable hparent htext
    refine follows_of_eq ?_ hmap h
    simp only [SlotStore.respond, SlotStore.write, hfile, hsave]
    rfl

theorem follows_delete (h : Represents store place disk contents) (fits : store.Fits)
    (hslot : store.Numbers slot) : Follows store place disk contents (.delete slot) := by
  have hfile := SlotStore.file_of_numbers hslot
  have hdelete := Disk.delete_of_resolve (h.resolve fits hslot)
  have hmap : SlotMap.respond store contents (.delete slot) =
      (Function.update contents slot none, .ok .done) := if_neg (not_not.2 hslot)
  cases hcontents : contents slot with
  | none =>
    rw [h.node_none hslot hcontents] at hdelete
    have hsame : Function.update contents slot none = contents :=
      Function.update_eq_self_iff.2 hcontents.symm
    rw [hsame] at hmap
    refine follows_of_eq ?_ hmap h
    simp only [SlotStore.respond, SlotStore.delete, hfile, hdelete]
    rfl
  | some payload =>
    obtain ⟨text, _, hnode⟩ := h.node_some hslot hcontents
    rw [hnode] at hdelete
    refine follows_of_eq ?_ hmap (h.erase hslot)
    simp only [SlotStore.respond, SlotStore.delete, hfile, hdelete]
    rfl

theorem follows_read (h : Represents store place disk contents) (fits : store.Fits)
    (hslot : store.Numbers slot) : Follows store place disk contents (.read slot) := by
  have hfile := SlotStore.file_of_numbers hslot
  cases hcontents : contents slot with
  | none =>
    have hmap : SlotMap.respond store contents (.read slot) =
        (contents, .error (.load (.notFound (store.slotPath slot)))) := by
      rw [SlotMap.respond, if_neg (not_not.2 hslot), hcontents]
    refine follows_of_eq ?_ hmap h
    simp only [SlotStore.respond, SlotStore.read, hfile, h.load_none fits hslot hcontents]
    rfl
  | some payload =>
    have hmap : SlotMap.respond store contents (.read slot) =
        (contents, .ok (.document payload.document.sorted)) := by
      rw [SlotMap.respond, if_neg (not_not.2 hslot), hcontents]
    refine follows_of_eq ?_ hmap h
    simp only [SlotStore.respond, SlotStore.read, hfile, h.load_some fits hslot hcontents]
    rfl

theorem follows_occupied (h : Represents store place disk contents) (fits : store.Fits)
    (hslot : store.Numbers slot) : Follows store place disk contents (.occupied slot) := by
  have hfile := SlotStore.file_of_numbers hslot
  refine follows_of_eq ?_ (if_neg (not_not.2 hslot)) h
  simp only [SlotStore.respond, SlotStore.occupied, hfile, h.holds fits hslot]
  rfl

theorem follows_list (h : Represents store place disk contents) (fits : store.Fits) :
    Follows store place disk contents .list := by
  refine follows_of_eq ?_ rfl h
  have hlist : store.list disk = .ok (store.slots.map contents.entry) :=
    h.entries fits fun _ => SlotStore.numbers_of_mem_slots
  simp only [SlotStore.respond, hlist]
  rfl

/-- Every request gets the answer of the map. -/
theorem follows (h : Represents store place disk contents) (fits : store.Fits)
    (request : SlotRequest) : Follows store place disk contents request := by
  cases hrequest : request.slot? with
  | none =>
    cases request with
    | list => exact h.follows_list fits
    | _ => cases hrequest
  | some slot =>
    by_cases hslot : store.Numbers slot
    · cases request with
      | write _ payload =>
        cases hrequest
        exact h.follows_write fits hslot payload
      | delete _ =>
        cases hrequest
        exact h.follows_delete fits hslot
      | read _ =>
        cases hrequest
        exact h.follows_read fits hslot
      | occupied _ =>
        cases hrequest
        exact h.follows_occupied fits hslot
      | list => cases hrequest
    · exact follows_of_eq (SlotStore.respond_of_not_numbers disk hrequest hslot)
        (SlotMap.respond_of_not_numbers contents hrequest hslot) h

end Represents

/-! ## Runs -/

/-- The state after requests made one after another. -/
def afterAll {σ ρ α : Type} (respond : σ → ρ → σ × α) (s : σ) (requests : List ρ) : σ :=
  requests.foldl (fun s request => (respond s request).1) s

/-- The answers to requests made one after another. -/
def answers {σ ρ α : Type} (respond : σ → ρ → σ × α) : σ → List ρ → List α
  | _, [] => []
  | s, request :: rest => (respond s request).2 :: answers respond (respond s request).1 rest

/-- Each request that is made answers as the map does. -/
theorem Represents.run {store : SlotStore} (fits : store.Fits) {place : Path} {disk : Disk}
    {contents : SlotMap} (h : Represents store place disk contents) (requests : List SlotRequest) :
    answers store.respond disk requests = answers (SlotMap.respond store) contents requests ∧
      Represents store place (afterAll store.respond disk requests)
        (afterAll (SlotMap.respond store) contents requests) := by
  induction requests generalizing disk contents with
  | nil => exact ⟨rfl, h⟩
  | cons request rest ih =>
    obtain ⟨hanswer, hafter⟩ := h.follows fits request
    obtain ⟨hanswers, hrest⟩ := ih hafter
    refine ⟨?_, hrest⟩
    rw [answers, answers, hanswer, hanswers]

/-- The path leads to a folder, and no name in it leads to anything. -/
def Disk.EmptyFolder (disk : Disk) (folder : Path) : Prop :=
  ∃ place, disk.Opens folder place ∧ ∀ name, Disk.IsName name → disk.node? (place.inside name) = none

theorem Represents.of_empty {store : SlotStore} {place : Path} {disk : Disk}
    (opens : disk.Opens store.folder place)
    (empty : ∀ name, Disk.IsName name → disk.node? (place.inside name) = none) :
    Represents store place disk fun _ => none :=
  ⟨opens, fun slot _ => empty _ (SlotStore.isName_slotName slot)⟩

/-- **Slots are a map.** Whatever is asked of a store whose folder was empty at the start, each answer is
that of a map from its numbers to the payloads stored last, which starts without any: a payload is read
with its fields sorted, and stays until it is replaced or deleted under its own number. A number out of
range is refused and changes nothing on the disk. -/
theorem slots_answer_as_map {store : SlotStore} (fits : store.Fits) {disk : Disk}
    (empty : disk.EmptyFolder store.folder) (requests : List SlotRequest) :
    answers store.respond disk requests = answers (SlotMap.respond store) (fun _ => none) requests ∧
      ∀ request slot, request.slot? = some slot → ¬store.Numbers slot →
        store.respond (afterAll store.respond disk requests) request =
          (afterAll store.respond disk requests, .error (.slot (.outOfRange store.count))) := by
  obtain ⟨place, opens, hnone⟩ := empty
  refine ⟨((Represents.of_empty opens hnone).run fits requests).1, fun request slot hrequest hslot => ?_⟩
  exact SlotStore.respond_of_not_numbers _ hrequest hslot

namespace Sample

/-- A store of three slots. -/
def saves : SlotStore where
  folder := ⟨"", ["saves"]⟩
  count := 3
  count_pos := by decide

/-- A disk with nothing but the store's folder. -/
def fresh : Disk where
  entries := [("saves", .folder)]
  nodup := by simp [Entries.names]

theorem saves_fits : saves.Fits := by
  rintro slot ⟨hlow, hhigh⟩
  have hslot : slot = 1 ∨ slot = 2 ∨ slot = 3 := by
    have hcount : saves.count = 3 := rfl
    omega
  rcases hslot with rfl | rfl | rfl <;> exact ⟨by decide, by decide, by decide⟩

theorem fresh_empty : fresh.EmptyFolder saves.folder := by
  refine ⟨⟨"", ["saves"]⟩, ⟨rfl, rfl⟩, fun name hname => ?_⟩
  have htext : "saves" ≠ (Path.inside ⟨"", ["saves"]⟩ name).text := by
    intro h
    have hlist := congrArg String.toList h
    simp [Path.inside, Path.text, String.intercalate_cons_cons] at hlist
  rw [Disk.node?_inside hname.2]
  show Entries.find? _ [("saves", Node.folder)] = none
  rw [Entries.find?, if_neg htext]
  rfl

/-- A payload with metadata, its fields out of order. -/
def note : Payload where
  fields := Fields.ofNames [("scene", .string "garden"),
    ("metadata", .record [("title", .string "夜🌸"), ("chapter", .int (-12))]),
    ("marks", .list [.bool true, .null, .record []])]
  plain := by
    refine Document.plain_record (by decide) ?_
    simp only [List.forall_mem_cons]
    have hempty : (Document.record []).Plain :=
      Document.plain_record List.nodup_nil (List.forall_mem_nil _)
    refine ⟨Document.plain_string _, Document.plain_record (by decide) ?_, .list ?_,
      List.forall_mem_nil _⟩
    · simp only [List.forall_mem_cons]
      exact ⟨Document.plain_string _, .int _, List.forall_mem_nil _⟩
    · simp only [List.forall_mem_cons]
      exact ⟨.bool _, .null, hempty, List.forall_mem_nil _⟩

/-- The note as it is read back. -/
def sortedNote : Document :=
  .record [("marks", .list [.bool true, .null, .record []]),
    ("metadata", .record [("chapter", .int (-12)), ("title", .string "夜🌸")]),
    ("scene", .string "garden")]

/-- Storing, looking, reading and deleting. -/
def visits : List SlotRequest :=
  [.write 2 note, .occupied 1, .read 2, .delete 2, .read 2]

theorem note_sorted : note.document.sorted = sortedNote := by cbv

theorem note_storable : note.document.Storable := by decide

end Sample

theorem slots_answer_as_map_in_saves :
    Sample.saves.Fits ∧ Sample.fresh.EmptyFolder Sample.saves.folder ∧
      answers Sample.saves.respond Sample.fresh Sample.visits =
        [.ok .done, .ok (.occupied false), .ok (.document Sample.sortedNote), .ok .done,
          .error (.load (.notFound ⟨"", ["saves", "slot_2.json"]⟩))] ∧
      Sample.saves.respond (afterAll Sample.saves.respond Sample.fresh Sample.visits)
          (.write 4 Sample.note) =
        (afterAll Sample.saves.respond Sample.fresh Sample.visits, .error (.slot (.outOfRange 3))) := by
  obtain ⟨hanswers, hrefused⟩ := slots_answer_as_map Sample.saves_fits Sample.fresh_empty Sample.visits
  have hnumbers : Sample.saves.Numbers 1 ∧ Sample.saves.Numbers 2 := by decide
  have hpath : Sample.saves.slotPath 2 = ⟨"", ["saves", "slot_2.json"]⟩ := by decide
  have hmap : answers (SlotMap.respond Sample.saves) (fun _ => none) Sample.visits =
      [.ok .done, .ok (.occupied false), .ok (.document Sample.sortedNote), .ok .done,
        .error (.load (.notFound ⟨"", ["saves", "slot_2.json"]⟩))] := by
    simp [answers, Sample.visits, SlotMap.respond, hnumbers, Sample.note_storable, Sample.note_sorted,
      hpath]
  exact ⟨Sample.saves_fits, Sample.fresh_empty, hanswers.trans hmap,
    hrefused (.write 4 Sample.note) 4 rfl (by decide)⟩

end VisualNovel
