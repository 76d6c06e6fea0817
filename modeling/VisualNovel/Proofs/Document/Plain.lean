import VisualNovel.Proofs.Document.Text
import VisualNovel.Proofs.Except

/-!
# Plain documents and when they have a text

The documents that a file can hold without loss are the plain ones (`Document.Plain`): no binary64 number
in them, every text whole, and the keys of every table distinct texts. A file holds them with the fields of
every table in the order of their keys (`Document.sorted`), which changes no look-up (`Fields.get?_sort`).

The file layout has a text for a plain document exactly when none of its integers has too many digits
(`Document.Storable`); that is the only reason to refuse one (`succeedsIff_write`).
-/

namespace VisualNovel

/-- The fields in the order of their keys. -/
def Fields.sort (fields : Fields) : Fields :=
  fields.mergeSort fun a b => !decide (b.1.numbers < a.1.numbers)

namespace Fields

variable {fields : Fields} {name : String}

theorem mem_sort {field : Key × Document} : field ∈ fields.sort ↔ field ∈ fields :=
  List.mem_mergeSort

theorem sort_perm (fields : Fields) : fields.sort.Perm fields :=
  List.mergeSort_perm _ _

theorem nodup_sort (h : (fields.map Prod.fst).Nodup) : (fields.sort.map Prod.fst).Nodup :=
  ((sort_perm fields).map Prod.fst).nodup_iff.2 h

theorem get?_eq_some_iff (distinct : (fields.map Prod.fst).Nodup) {d : Document} :
    fields.get? name = some d ↔ (Key.text (.ofString name), d) ∈ fields := by
  induction fields with
  | nil => simp [get?]
  | cons field rest ih =>
    obtain ⟨key, value⟩ := field
    obtain ⟨hkey, hrest⟩ := List.nodup_cons.1 distinct
    unfold get?
    by_cases h : key = .text (.ofString name)
    · have hnone : (Key.text (.ofString name), d) ∉ rest := fun hmem =>
        hkey (List.mem_map.2 ⟨_, hmem, h.symm⟩)
      simp [h, hnone, eq_comm]
    · have hne : ¬Key.text (.ofString name) = key := fun heq => h heq.symm
      simp [h, hne, ih hrest]

/-- Sorting distinct keys changes no look-up. -/
theorem get?_sort (distinct : (fields.map Prod.fst).Nodup) :
    fields.sort.get? name = fields.get? name := by
  apply Option.ext
  intro d
  rw [get?_eq_some_iff distinct, get?_eq_some_iff (nodup_sort distinct), mem_sort]

theorem get?_map_values (f : Document → Document) (fields : Fields) :
    Fields.get? name (fields.map fun field => (field.1, f field.2)) = (fields.get? name).map f := by
  induction fields with
  | nil => rfl
  | cons field rest ih =>
    rw [List.map_cons]
    unfold get?
    split
    · rfl
    · exact ih

/-- Distinct names are distinct keys. -/
theorem nodup_ofNames {entries : List (String × Document)} (distinct : (entries.map Prod.fst).Nodup) :
    ((ofNames entries).map Prod.fst).Nodup := by
  unfold ofNames
  rw [List.map_map]
  refine List.pairwise_map.2 ((List.pairwise_map.1 distinct).imp fun {s t} hne h => hne ?_)
  exact Text.ofString_injective (Key.text.inj h)

end Fields

namespace Document

/-- The documents of nothing, truth values, integers, whole texts, lists, and tables with distinct whole
texts for keys. -/
inductive Plain : Document → Prop
  | null : Plain .null
  | bool (b : Bool) : Plain (.bool b)
  | int (n : Int) : Plain (.int n)
  | text {text : Text} (whole : text.Whole) : Plain (.text text)
  | list {items : List Document} (plain : ∀ item ∈ items, Plain item) : Plain (.list items)
  | table {fields : Fields} (named : ∀ field ∈ fields, ∃ name : Text, field.1 = .text name ∧ name.Whole)
      (distinct : (fields.map Prod.fst).Nodup) (plain : ∀ field ∈ fields, Plain field.2) :
      Plain (.table fields)

theorem Plain.distinct {fields : Fields} (plain : Plain (.table fields)) :
    (fields.map Prod.fst).Nodup := by
  cases plain with
  | table _ distinct _ => exact distinct

theorem plain_string (s : String) : (string s).Plain :=
  .text (Text.whole_ofString s)

theorem plain_record {fields : List (String × Document)} (distinct : (fields.map Prod.fst).Nodup)
    (plain : ∀ field ∈ fields, field.2.Plain) : (record fields).Plain := by
  refine .table ?_ ?_ ?_
  · intro field hfield
    obtain ⟨entry, _, rfl⟩ := List.mem_map.1 hfield
    exact ⟨_, rfl, Text.whole_ofString entry.1⟩
  · exact Fields.nodup_ofNames distinct
  · intro field hfield
    obtain ⟨entry, hentry, rfl⟩ := List.mem_map.1 hfield
    exact plain entry hentry

/-! ## Sorted documents -/

mutual

/-- The document with the fields of every table in the order of their keys. -/
def sorted : Document → Document
  | .list items => .list (sortedItems items)
  | .table fields => .table (sortedFields fields).sort
  | document => document

/-- The items of a list, each sorted. -/
def sortedItems : List Document → List Document
  | [] => []
  | item :: rest => item.sorted :: sortedItems rest

/-- The fields of a table in their order, each value sorted. -/
def sortedFields : Fields → Fields
  | [] => []
  | (key, value) :: rest => (key, value.sorted) :: sortedFields rest

end

theorem sortedItems_eq (items : List Document) : sortedItems items = items.map sorted := by
  induction items with
  | nil => rfl
  | cons item rest ih => rw [sortedItems, List.map_cons, ih]

theorem sortedFields_eq (fields : Fields) :
    sortedFields fields = fields.map fun field => (field.1, field.2.sorted) := by
  induction fields with
  | nil => rfl
  | cons field rest ih => rw [sortedFields, List.map_cons, ih]

/-- Sorting by keys does not look at the values. -/
theorem mergeSort_map_values {α : Type} (f : Document → α) (fields : Fields) :
    (fields.map fun field => (field.1, f field.2)).mergeSort
        (fun a b => !decide (b.1.numbers < a.1.numbers)) =
      fields.sort.map fun field => (field.1, f field.2) := by
  refine (List.map_mergeSort ?_).symm
  intro a _ b _
  rfl

theorem sorted_list (items : List Document) : (list items).sorted = .list (items.map sorted) := by
  rw [sorted, sortedItems_eq]

theorem sorted_table (fields : Fields) :
    (table fields).sorted = .table (fields.sort.map fun field => (field.1, field.2.sorted)) := by
  rw [sorted, sortedFields_eq]
  exact congrArg table (mergeSort_map_values sorted fields)

/-! ## Integers -/

mutual

/-- The integers in a document. -/
def integers : Document → List Int
  | .int n => [n]
  | .list items => integersOfItems items
  | .table fields => integersOfFields fields
  | _ => []

/-- The integers in the items of a list. -/
def integersOfItems : List Document → List Int
  | [] => []
  | item :: rest => item.integers ++ integersOfItems rest

/-- The integers in the values of a table. -/
def integersOfFields : Fields → List Int
  | [] => []
  | (_, value) :: rest => value.integers ++ integersOfFields rest

end

/-- No integer in the document has more digits than a file takes. -/
def Storable (d : Document) : Prop :=
  ∀ n ∈ d.integers, (digitsOf n.natAbs).length ≤ digitLimit

instance (d : Document) : Decidable d.Storable :=
  inferInstanceAs (Decidable (∀ n ∈ d.integers, (digitsOf n.natAbs).length ≤ digitLimit))

theorem storable_list {items : List Document} :
    (list items).Storable ↔ ∀ item ∈ items, item.Storable := by
  unfold Storable
  rw [integers]
  induction items with
  | nil => simp [integersOfItems]
  | cons item rest ih =>
    rw [integersOfItems, List.forall_mem_append, List.forall_mem_cons, ih]

theorem storable_table {fields : Fields} :
    (table fields).Storable ↔ ∀ field ∈ fields, field.2.Storable := by
  unfold Storable
  rw [integers]
  induction fields with
  | nil => simp [integersOfFields]
  | cons field rest ih =>
    rw [integersOfFields, List.forall_mem_append, List.forall_mem_cons, ih]

/-! ## Texts of documents -/

theorem writeItems_eq (layout : Layout) (level : Nat) (items : List Document) :
    writeItems layout level items = items.mapM (write layout level) := by
  induction items with
  | nil => rfl
  | cons item rest ih =>
    rw [writeItems, List.mapM_cons, ih]
    cases item.write layout level with
    | error fault => rfl
    | ok text => cases rest.mapM (write layout level) <;> rfl

theorem writeFields_eq (layout : Layout) (level : Nat) (fields : Fields) :
    writeFields layout level fields =
      fields.map fun field => (field.1, field.2.write layout level) := by
  induction fields with
  | nil => rfl
  | cons field rest ih => rw [writeFields, List.map_cons, ih]

/-- The text of a field. -/
def fieldText (layout : Layout) (level : Nat) (field : Key × Document) :
    Except Unwritable (List Char) := do
  let name ← keyName field.1
  let value ← field.2.write layout level
  return writeField name value

theorem fieldText_of_name {layout : Layout} {level : Nat} {field : Key × Document} {name : Text}
    (h : field.1 = .text name) :
    fieldText layout level field = (field.2.write layout level).map (writeField name) := by
  unfold fieldText
  rw [h]
  show (field.2.write layout level >>= fun value => pure (writeField name value)) = _
  cases field.2.write layout level <;> rfl

theorem write_list (layout : Layout) (level : Nat) (items : List Document) :
    (list items).write layout level =
      (items.mapM (write layout (level + 1))).map (bracketed layout level '[' ']') := by
  rw [write, writeItems_eq]

/-- A table whose keys are texts is written field by field, in the order of the keys. -/
theorem write_table {layout : Layout} (hsorted : layout.sorted) (level : Nat) {fields : Fields}
    (named : ∀ field ∈ fields, ∃ name : Text, field.1 = .text name ∧ name.Whole) :
    (table fields).write layout level =
      (fields.sort.mapM (fieldText layout (level + 1))).map (bracketed layout level '\x7b' '\x7d') := by
  have hall : (fields.map fun field => (field.1, field.2.write layout (level + 1))).all
      (fun field => field.1.isText) := by
    rw [List.all_map, List.all_eq_true]
    intro field hfield
    obtain ⟨name, hname, _⟩ := named field hfield
    show field.1.isText
    rw [hname]
    rfl
  rw [write, writeFields_eq, joinFields, arrange, if_pos hsorted, sortByKey, if_pos hall,
    mergeSort_map_values]
  show Except.map _ ((fields.sort.map _).mapM _) = _
  rw [List.mapM_map]
  rfl

/-- **Having a text.** A plain document has a text exactly when no integer in it has too many digits, and
is refused for that if one has. -/
theorem succeedsIff_write {d : Document} (plain : d.Plain) {layout : Layout} (hsorted : layout.sorted)
    (level : Nat) : SucceedsIff d.Storable .tooManyDigits (d.write layout level) := by
  induction plain generalizing level with
  | null => exact .inl ⟨List.forall_mem_nil _, _, rfl⟩
  | bool b => cases b <;> exact .inl ⟨List.forall_mem_nil _, _, rfl⟩
  | int n =>
    rw [write, writeInt]
    split
    · next h => exact .inr ⟨fun hn => Nat.not_le.2 h (hn n List.mem_cons_self), rfl⟩
    · next h => exact .inl ⟨List.forall_mem_singleton.2 (Nat.not_lt.1 h), _, rfl⟩
  | text _ => exact .inl ⟨List.forall_mem_nil _, _, rfl⟩
  | list _ ih =>
    rw [write_list, storable_list]
    exact (succeedsIff_mapM fun item hitem => ih item hitem (level + 1)).map _
  | @table fields named _ _ ih =>
    rw [write_table hsorted level named, storable_table]
    have hsort : (∀ field ∈ fields, field.2.Storable) ↔ ∀ field ∈ fields.sort, field.2.Storable := by
      simp only [Fields.mem_sort]
    rw [hsort]
    refine (succeedsIff_mapM fun field hfield => ?_).map _
    obtain ⟨name, hname, _⟩ := named field (Fields.mem_sort.1 hfield)
    rw [fieldText_of_name hname]
    exact (ih field (Fields.mem_sort.1 hfield) (level + 1)).map _

theorem succeedsIff_toText {d : Document} (plain : d.Plain) :
    SucceedsIff d.Storable .tooManyDigits (d.toText .file) :=
  succeedsIff_write plain rfl 0

end Document

end VisualNovel
