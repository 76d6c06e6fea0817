/-!
# Insertion-ordered maps

A map from names to values that remembers the order in which its names were first inserted.
Storing under a name already present keeps its place; a name erased and inserted again moves to the
end. No name occurs twice (`nodup`), so the entry list is a function of the history alone and two
maps are equal exactly when they list the same entries in the same order.
-/

namespace VisualNovel

universe u v

namespace Entries

variable {α : Type u}

/-- The names of an entry list, in order. -/
def names (entries : List (String × α)) : List String :=
  entries.map Prod.fst

/-- The value of the first entry with the given name. -/
def find? (name : String) : List (String × α) → Option α
  | [] => none
  | (other, value) :: rest => if other = name then some value else find? name rest

/-- Replaces the value stored under `name` in place, or adds the entry at the end. -/
def store (name : String) (value : α) : List (String × α) → List (String × α)
  | [] => [(name, value)]
  | (other, old) :: rest =>
    if other = name then (name, value) :: rest else (other, old) :: store name value rest

theorem names_store (name : String) (value : α) (entries : List (String × α)) :
    names (store name value entries) =
      if name ∈ names entries then names entries else names entries ++ [name] := by
  induction entries with
  | nil => simp [store, names]
  | cons entry rest ih =>
    obtain ⟨other, old⟩ := entry
    by_cases h : other = name
    · simp [store, names, h]
    · have h' : ¬name = other := fun e => h e.symm
      simp only [names] at ih
      by_cases hm : name ∈ List.map Prod.fst rest <;> simp_all [store, names]

theorem nodup_names_store {name : String} {value : α} {entries : List (String × α)}
    (h : (names entries).Nodup) : (names (store name value entries)).Nodup := by
  rw [names_store]
  split
  · exact h
  · next hn =>
    rw [List.nodup_append]
    exact ⟨h, by simp, fun a ha b hb => by
      rintro rfl
      exact hn (by simpa [List.mem_singleton.1 hb] using ha)⟩

theorem find?_store (name other : String) (value : α) (entries : List (String × α)) :
    find? other (store name value entries) =
      if other = name then some value else find? other entries := by
  induction entries with
  | nil => by_cases h : name = other <;> simp [store, find?, h, Ne.symm]
  | cons entry rest ih =>
    obtain ⟨k, old⟩ := entry
    by_cases hk : k = name <;> by_cases ho : other = name <;> by_cases hko : k = other <;>
      simp_all [store, find?]

theorem find?_filter_ne (name other : String) (entries : List (String × α)) :
    find? other (entries.filter (fun entry => entry.1 ≠ name)) =
      if other = name then none else find? other entries := by
  induction entries with
  | nil => simp [find?]
  | cons entry rest ih =>
    obtain ⟨k, old⟩ := entry
    by_cases hk : k = name <;> by_cases ho : other = name <;> by_cases hko : k = other <;>
      simp_all [find?]

end Entries

open Entries

/-- A map from names to values, listed in the order of first insertion. -/
structure OrderedMap (α : Type u) where
  entries : List (String × α) := []
  nodup : (names entries).Nodup := by simp [names]
deriving DecidableEq

namespace OrderedMap

variable {α : Type u} {β : Type v}

/-- The map without entries. -/
def empty : OrderedMap α := {}

instance : EmptyCollection (OrderedMap α) := ⟨empty⟩

instance : Inhabited (OrderedMap α) := ⟨empty⟩

theorem ext {m n : OrderedMap α} (h : m.entries = n.entries) : m = n := by
  cases m; cases n; cases h; rfl

/-- The names in order of first insertion. -/
def keys (m : OrderedMap α) : List String :=
  names m.entries

def size (m : OrderedMap α) : Nat :=
  m.entries.length

/-- The value stored under `name`. -/
def get? (m : OrderedMap α) (name : String) : Option α :=
  find? name m.entries

def contains (m : OrderedMap α) (name : String) : Bool :=
  (m.get? name).isSome

/-- Stores `value` under `name`, in place if the name is present and at the end otherwise. -/
def insert (m : OrderedMap α) (name : String) (value : α) : OrderedMap α where
  entries := store name value m.entries
  nodup := nodup_names_store m.nodup

/-- Stores `value` under `name` unless the name is present. -/
def insertNew (m : OrderedMap α) (name : String) (value : α) : OrderedMap α :=
  if m.contains name then m else m.insert name value

/-- Removes the entry of `name`, if any. -/
def erase (m : OrderedMap α) (name : String) : OrderedMap α where
  entries := m.entries.filter (fun entry => entry.1 ≠ name)
  nodup := m.nodup.sublist (List.filter_sublist.map _)

/-- Inserts the entries of a list one after another: a repeated name keeps its first place and
takes its last value. -/
def ofList (entries : List (String × α)) : OrderedMap α :=
  entries.foldl (fun m entry => m.insert entry.1 entry.2) empty

/-- Changes every value and keeps names and order. -/
def map (f : α → β) (m : OrderedMap α) : OrderedMap β where
  entries := m.entries.map (fun entry => (entry.1, f entry.2))
  nodup := by
    have h : names (m.entries.map (fun entry => (entry.1, f entry.2))) = names m.entries := by
      simp [names]
    rw [h]
    exact m.nodup

/-- Changes the values that `f` accepts and drops the other entries. -/
def filterMap (f : α → Option β) (m : OrderedMap α) : OrderedMap β where
  entries := m.entries.filterMap (fun entry => (f entry.2).map (entry.1, ·))
  nodup := by
    have h : ∀ l : List (String × α),
        (names (l.filterMap (fun entry => (f entry.2).map (entry.1, ·)))).Sublist (names l) := by
      intro l
      induction l with
      | nil => simp [names]
      | cons entry rest ih =>
        simp only [names] at ih
        cases hf : f entry.2 <;> simp_all [names]
    exact m.nodup.sublist (h m.entries)

/-! ## The entries after each operation -/

@[simp] theorem keys_empty : (empty : OrderedMap α).keys = [] := rfl

theorem keys_insert (m : OrderedMap α) (name : String) (value : α) :
    (m.insert name value).keys = if name ∈ m.keys then m.keys else m.keys ++ [name] :=
  names_store name value m.entries

@[simp] theorem get?_empty (name : String) : (empty : OrderedMap α).get? name = none := rfl

theorem get?_insert (m : OrderedMap α) (name other : String) (value : α) :
    (m.insert name value).get? other = if other = name then some value else m.get? other :=
  find?_store name other value m.entries

theorem get?_insertNew (m : OrderedMap α) (name other : String) (value : α) :
    (m.insertNew name value).get? other =
      (m.get? other).or (if other = name then some value else none) := by
  unfold insertNew contains
  split
  · next h =>
    obtain ⟨old, hold⟩ := Option.isSome_iff_exists.1 h
    split
    · next heq => rw [heq, hold, Option.some_or]
    · rw [Option.or_none]
  · next h =>
    rw [get?_insert]
    split
    · next heq => rw [heq, Option.not_isSome_iff_eq_none.1 h, Option.none_or]
    · rw [Option.or_none]

theorem get?_erase (m : OrderedMap α) (name other : String) :
    (m.erase name).get? other = if other = name then none else m.get? other :=
  find?_filter_ne name other m.entries

end OrderedMap

end VisualNovel
