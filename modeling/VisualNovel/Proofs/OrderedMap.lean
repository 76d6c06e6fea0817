import VisualNovel.OrderedMap

/-!
# Entries and changed values of ordered maps

A look-up finds exactly the entries (`get?_eq_some_iff`), and changing every value commutes with looking
up, storing and erasing. A map is made from its own entries (`ofList_entries`).
-/

namespace VisualNovel

universe u v

namespace Entries

variable {α : Type u} {β : Type v}

theorem find?_cons (name : String) (entry : String × α) (rest : List (String × α)) :
    find? name (entry :: rest) = if entry.1 = name then some entry.2 else find? name rest := rfl

theorem mem_of_find? {name : String} {a : α} {entries : List (String × α)}
    (h : find? name entries = some a) : (name, a) ∈ entries := by
  induction entries with
  | nil => cases h
  | cons entry rest ih =>
    obtain ⟨other, value⟩ := entry
    unfold find? at h
    split at h
    · next heq =>
      cases h
      rw [heq]
      exact List.mem_cons_self
    · exact List.mem_cons_of_mem _ (ih h)

theorem find?_of_mem {name : String} {a : α} {entries : List (String × α)}
    (hn : (names entries).Nodup) (h : (name, a) ∈ entries) : find? name entries = some a := by
  induction entries with
  | nil => cases h
  | cons entry rest ih =>
    obtain ⟨other, value⟩ := entry
    obtain ⟨hother, hrest⟩ := List.nodup_cons.1 hn
    unfold find?
    rcases List.mem_cons.1 h with heq | hmem
    · cases heq
      rw [if_pos rfl]
    · have hne : other ≠ name := by
        rintro rfl
        exact hother (List.mem_map.2 ⟨_, hmem, rfl⟩)
      rw [if_neg hne]
      exact ih hrest hmem

theorem find?_map (f : α → β) (name : String) (entries : List (String × α)) :
    find? name (entries.map fun entry => (entry.1, f entry.2)) = (find? name entries).map f := by
  induction entries with
  | nil => rfl
  | cons entry rest ih =>
    rw [List.map_cons]
    unfold find?
    split
    · rfl
    · exact ih

theorem map_store (f : α → β) (name : String) (a : α) (entries : List (String × α)) :
    (store name a entries).map (fun entry => (entry.1, f entry.2)) =
      store name (f a) (entries.map fun entry => (entry.1, f entry.2)) := by
  induction entries with
  | nil => rfl
  | cons entry rest ih =>
    rw [List.map_cons]
    unfold store
    split
    · rfl
    · rw [List.map_cons, ih]

theorem store_of_not_mem {name : String} (a : α) {entries : List (String × α)}
    (h : name ∉ names entries) : store name a entries = entries ++ [(name, a)] := by
  induction entries with
  | nil => rfl
  | cons entry rest ih =>
    obtain ⟨other, value⟩ := entry
    have hother : other ≠ name := fun heq => h (List.mem_cons.2 (.inl heq.symm))
    have hrest : name ∉ names rest := fun hmem => h (List.mem_cons_of_mem _ hmem)
    unfold store
    rw [if_neg hother, ih hrest, List.cons_append]

theorem store_of_find? {name : String} {a : α} {entries : List (String × α)}
    (h : find? name entries = some a) : store name a entries = entries := by
  induction entries with
  | nil => cases h
  | cons entry rest ih =>
    obtain ⟨other, value⟩ := entry
    unfold find? at h
    unfold store
    split at h
    · next heq =>
      cases h
      rw [if_pos heq, heq]
    · next hne => rw [if_neg hne, ih h]

end Entries

namespace OrderedMap

open Entries

variable {α : Type u} {β : Type v} {m : OrderedMap α}

/-- A value is found under a name exactly when the two are an entry. -/
theorem get?_eq_some_iff {name : String} {a : α} :
    m.get? name = some a ↔ (name, a) ∈ m.entries :=
  ⟨mem_of_find?, find?_of_mem m.nodup⟩

theorem mem_keys_iff {name : String} : name ∈ m.keys ↔ ∃ a, m.get? name = some a := by
  constructor
  · intro h
    obtain ⟨⟨other, a⟩, hmem, rfl⟩ := List.mem_map.1 h
    exact ⟨a, get?_eq_some_iff.2 hmem⟩
  · rintro ⟨a, h⟩
    exact List.mem_map.2 ⟨_, get?_eq_some_iff.1 h, rfl⟩

theorem keys_erase (m : OrderedMap α) (name : String) :
    (m.erase name).keys = m.keys.filter (· ≠ name) := by
  show (m.entries.filter _).map Prod.fst = (m.entries.map Prod.fst).filter _
  rw [List.filter_map]
  rfl

theorem get?_map (f : α → β) (m : OrderedMap α) (name : String) :
    (m.map f).get? name = (m.get? name).map f :=
  find?_map f name m.entries

/-- Storing what is stored already changes nothing. -/
theorem insert_of_get? {name : String} {a : α} (h : m.get? name = some a) : m.insert name a = m :=
  ext (store_of_find? h)

/-- What holds of every entry and of a new one, holds of every entry when that is stored. -/
theorem forall_insert {P : String → α → Prop} {name : String} {a : α}
    (h : ∀ other b, m.get? other = some b → P other b) (ha : P name a) :
    ∀ other b, (m.insert name a).get? other = some b → P other b := by
  intro other b hb
  rw [get?_insert] at hb
  split at hb
  · next heq =>
    cases hb
    rw [heq]
    exact ha
  · exact h other b hb

theorem forall_erase {P : String → α → Prop} (h : ∀ other b, m.get? other = some b → P other b)
    (name : String) : ∀ other b, (m.erase name).get? other = some b → P other b := by
  intro other b hb
  rw [get?_erase] at hb
  split at hb
  · cases hb
  · exact h other b hb

theorem map_insert (f : α → β) (m : OrderedMap α) (name : String) (a : α) :
    (m.insert name a).map f = (m.map f).insert name (f a) :=
  ext (map_store f name a m.entries)

theorem map_erase (f : α → β) (m : OrderedMap α) (name : String) :
    (m.erase name).map f = (m.map f).erase name := by
  apply ext
  show (m.entries.filter _).map _ = (m.entries.map _).filter _
  rw [List.filter_map]
  rfl

theorem entries_foldl_insert {m : OrderedMap α} {entries : List (String × α)}
    (h : (names (m.entries ++ entries)).Nodup) :
    (entries.foldl (fun m entry => m.insert entry.1 entry.2) m).entries = m.entries ++ entries := by
  induction entries generalizing m with
  | nil => rw [List.foldl_nil, List.append_nil]
  | cons entry rest ih =>
    have hnew : entry.1 ∉ names m.entries := by
      intro hmem
      unfold names at h hmem
      rw [List.map_append, List.map_cons, List.nodup_append] at h
      exact h.2.2 _ hmem _ List.mem_cons_self rfl
    have hinsert : (m.insert entry.1 entry.2).entries = m.entries ++ [entry] :=
      store_of_not_mem entry.2 hnew
    rw [List.foldl_cons, ih, hinsert, List.append_assoc, List.singleton_append]
    rw [hinsert, List.append_assoc, List.singleton_append]
    exact h

/-- Inserting the entries of a map one after another gives the map. -/
theorem ofList_entries (m : OrderedMap α) : ofList m.entries = m :=
  ext (entries_foldl_insert m.nodup)

/-- Dropping and changing values keeps no entry that was not there. -/
theorem get?_filterMap_eq_some_iff {f : α → Option β} {name : String} {b : β} :
    (m.filterMap f).get? name = some b ↔ ∃ a, m.get? name = some a ∧ f a = some b := by
  simp only [get?_eq_some_iff]
  constructor
  · intro h
    obtain ⟨⟨other, a⟩, hmem, hf⟩ := List.mem_filterMap.1 h
    obtain ⟨c, hc, heq⟩ := Option.map_eq_some_iff.1 hf
    cases heq
    exact ⟨a, hmem, hc⟩
  · rintro ⟨a, hmem, hf⟩
    refine List.mem_filterMap.2 ⟨(name, a), hmem, ?_⟩
    rw [hf]
    rfl

/-- Of several values stored under a name as far as it is new, the first stays. -/
theorem get?_foldl_insertNew (f : α → β) (entries : List (String × α)) (m : OrderedMap β)
    (name : String) :
    (entries.foldl (fun m entry => m.insertNew entry.1 (f entry.2)) m).get? name =
      (m.get? name).or ((Entries.find? name entries).map f) := by
  induction entries generalizing m with
  | nil => exact (Option.or_none ..).symm
  | cons entry rest ih =>
    rw [List.foldl_cons, ih, get?_insertNew, Option.or_assoc, Entries.find?_cons]
    by_cases h : entry.1 = name
    · rw [if_pos h.symm, if_pos h, Option.some_or, Option.map_some]
    · rw [if_neg (Ne.symm h), if_neg h, Option.none_or]

/-- A map has several entries exactly when it has several names. -/
theorem not_size_lt_two_iff (m : OrderedMap α) :
    ¬m.size < 2 ↔ ∃ a ∈ m.keys, ∃ b ∈ m.keys, a ≠ b := by
  obtain ⟨entries, hnodup⟩ := m
  show ¬entries.length < 2 ↔ ∃ a ∈ Entries.names entries, ∃ b ∈ Entries.names entries, a ≠ b
  match entries with
  | [] => simp [Entries.names]
  | [entry] => simp [Entries.names]
  | first :: second :: rest =>
    have hfresh : first.1 ∉ Entries.names (second :: rest) := (List.nodup_cons.1 hnodup).1
    have hne : first.1 ≠ second.1 := by
      intro heq
      rw [heq] at hfresh
      exact hfresh List.mem_cons_self
    constructor
    · exact fun _ => ⟨_, List.mem_cons_self, _, List.mem_cons_of_mem _ List.mem_cons_self, hne⟩
    · intro _
      rw [List.length_cons, List.length_cons]
      omega

end OrderedMap

end VisualNovel
