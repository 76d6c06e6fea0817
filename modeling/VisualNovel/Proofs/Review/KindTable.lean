import VisualNovel.Proofs.OrderedMap
import VisualNovel.Review.Issue

/-!
# First uses

1. A table keeps the first use that it is told of, for every variable and every kind. Noting a use, or
   merging a whole table into another, changes nothing of what is there (`first?_note`, `first?_merge`).
2. So the tables of the scenes, merged in order, have the same first uses as all scenes walked through at
   once (`first?_kindTable`).
-/

namespace VisualNovel

universe u v

variable {α : Type u} {β : Type v}

namespace KindTable

/-! ## Noting uses -/

/-- The first use of a variable as a kind. -/
def first? (table : KindTable α) (name kind : String) : Option α :=
  (table.kindsOf name).get? kind

@[simp] theorem first?_empty (name kind : String) : first? ({} : KindTable α) name kind = none := rfl

/-- A change of the kinds of one variable. -/
theorem first?_insert (table : KindTable α) (name : String) (kinds : OrderedMap α)
    (other kind : String) : first? ⟨table.entries.insert name kinds⟩ other kind =
      if other = name then kinds.get? kind else table.first? other kind := by
  unfold first? kindsOf
  rw [OrderedMap.get?_insert]
  split <;> rfl

theorem first?_note (table : KindTable α) (name kind : String) (use : α) (other kind' : String) :
    (table.note name kind use).first? other kind' =
      (table.first? other kind').or (if name = other ∧ kind = kind' then some use else none) := by
  unfold note
  rw [first?_insert, OrderedMap.get?_insertNew]
  by_cases h : other = name
  · rw [if_pos h, h]
    simp only [true_and, eq_comm]
    rfl
  · rw [if_neg h, if_neg fun both => h both.1.symm, Option.or_none]

theorem first?_noteAll (table : KindTable β) (name : String) (f : α → β) (kinds : OrderedMap α)
    (other kind : String) : (table.noteAll name f kinds).first? other kind =
      (table.first? other kind).or (if name = other then (kinds.get? kind).map f else none) := by
  unfold noteAll
  rw [first?_insert, OrderedMap.get?_foldl_insertNew]
  by_cases h : other = name
  · rw [if_pos h, if_pos h.symm, h]
    rfl
  · rw [if_neg h, if_neg (Ne.symm h), Option.or_none]

theorem first?_foldl_noteAll (f : α → β) {entries : List (String × OrderedMap α)}
    (h : (Entries.names entries).Nodup) (table : KindTable β) (name kind : String) :
    first? (entries.foldl (fun table entry => table.noteAll entry.1 f entry.2) table) name kind =
      (table.first? name kind).or
        ((((Entries.find? name entries).getD .empty).get? kind).map f) := by
  induction entries generalizing table with
  | nil => exact (Option.or_none ..).symm
  | cons entry rest ih =>
    obtain ⟨hfresh, hrest⟩ := List.nodup_cons.1 h
    rw [List.foldl_cons, ih hrest, first?_noteAll, Option.or_assoc, Entries.find?_cons]
    congr 1
    -- An entry is the only one of its variable, so behind it nothing more is found.
    by_cases hname : entry.1 = name
    · have hnone : Entries.find? name rest = none := by
        rw [Option.eq_none_iff_forall_ne_some]
        rintro kinds hkinds
        exact hfresh (List.mem_map.2 ⟨_, Entries.mem_of_find? hkinds, hname.symm⟩)
      rw [if_pos hname, if_pos hname, hnone]
      exact Option.or_none ..
    · rw [if_neg hname, if_neg hname, Option.none_or]

/-- **Merging.** What a table has already stays, and the rest comes from the other table. -/
theorem first?_merge (table : KindTable β) (f : α → β) (other : KindTable α) (name kind : String) :
    (table.merge f other).first? name kind =
      (table.first? name kind).or ((other.first? name kind).map f) :=
  first?_foldl_noteAll f other.entries.nodup table name kind

/-- The use is one of the variable as the kind. -/
def isUse (name kind : String) (use : VariableUse) : Bool :=
  use.name = name && use.kind.name = kind

theorem first?_foldl_note (uses : List VariableUse) (table : KindTable VariableUse)
    (name kind : String) :
    first? (uses.foldl (fun table use => table.note use.name use.kind.name use) table) name kind =
      (table.first? name kind).or (uses.find? (isUse name kind)) := by
  induction uses generalizing table with
  | nil => exact (Option.or_none ..).symm
  | cons use rest ih =>
    rw [List.foldl_cons, ih, first?_note, Option.or_assoc, List.find?_cons]
    congr 1
    by_cases h : use.name = name ∧ use.kind.name = kind
    · have huse : isUse name kind use = true := by simpa [isUse] using h
      rw [if_pos h, huse, Option.some_or]
    · have huse : isUse name kind use = false := by simpa [isUse] using h
      rw [if_neg h, huse, Option.none_or]

theorem first?_scene (scene : Scene) (name kind : String) :
    scene.kindTable.first? name kind = scene.uses.find? (isUse name kind) := by
  unfold Scene.kindTable
  rw [first?_foldl_note, first?_empty, Option.none_or]

/-! ## What a table has -/

variable {table : KindTable α} {name kind : String}

theorem mem_keys_kindsOf_iff :
    kind ∈ (table.kindsOf name).keys ↔ ∃ use, table.first? name kind = some use :=
  OrderedMap.mem_keys_iff

theorem mem_firstUses_iff {use : α} :
    use ∈ table.firstUses name ↔ ∃ kind, table.first? name kind = some use := by
  unfold firstUses
  rw [List.mem_filterMap]
  constructor
  · rintro ⟨kind, _, huse⟩
    exact ⟨kind, huse⟩
  · rintro ⟨kind, huse⟩
    refine ⟨kind, ?_, huse⟩
    rw [SortedSet.mem_toList, SortedSet.mem_ofList]
    exact mem_keys_kindsOf_iff.2 ⟨use, huse⟩

theorem mem_names_of_first? {use : α} (h : table.first? name kind = some use) :
    name ∈ table.names := by
  unfold names
  rw [SortedSet.mem_toList, SortedSet.mem_ofList, OrderedMap.mem_keys_iff]
  unfold first? kindsOf at h
  cases hname : table.entries.get? name with
  | none =>
    rw [hname] at h
    cases h
  | some kinds => exact ⟨kinds, rfl⟩

theorem pairwise_names (table : KindTable α) : table.names.Pairwise (· < ·) :=
  (SortedSet.sorted _).imp fun h => SortedList.before_iff_lt.1 h

end KindTable

theorem Kind.name_injective : Function.Injective Kind.name := by
  intro a b h
  cases a <;> cases b <;> simp [name] at h ⊢

/-! ## The table of a scenario -/

namespace Scenario

/-- All uses of variables, scene by scene in the order of the walk. -/
def uses (scenario : Scenario) : List LocatedUse :=
  scenario.scenes.entries.flatMap fun (key, scene) => scene.uses.map (LocatedUse.mk key)

theorem first?_foldl_merge (entries : List (String × Scene)) (table : KindTable LocatedUse)
    (name kind : String) :
    KindTable.first? (entries.foldl
        (fun table entry => table.merge (LocatedUse.mk entry.1) entry.2.kindTable) table) name kind =
      (table.first? name kind).or
        ((entries.flatMap fun (key, scene) => scene.uses.map (LocatedUse.mk key)).find?
          fun located => KindTable.isUse name kind located.use) := by
  induction entries generalizing table with
  | nil => exact (Option.or_none ..).symm
  | cons entry rest ih =>
    rw [List.foldl_cons, ih, KindTable.first?_merge, KindTable.first?_scene, Option.or_assoc,
      List.flatMap_cons, List.find?_append, List.find?_map]
    rfl

/-- **First uses.** The tables of the scenes, merged one after another, agree with one walk through all
scenes on which use is the first. -/
theorem first?_kindTable (scenario : Scenario) (name kind : String) :
    scenario.kindTable.first? name kind =
      scenario.uses.find? fun located => KindTable.isUse name kind located.use := by
  unfold kindTable uses
  rw [first?_foldl_merge, KindTable.first?_empty, Option.none_or]

variable {scenario : Scenario} {name kind : String}

theorem exists_first?_of_mem {located : LocatedUse} (h : located ∈ scenario.uses) :
    ∃ first, scenario.kindTable.first? located.use.name located.use.kind.name = some first := by
  rw [first?_kindTable]
  cases hfind : scenario.uses.find? fun other =>
      KindTable.isUse located.use.name located.use.kind.name other.use with
  | some first => exact ⟨first, rfl⟩
  | none =>
    have := List.find?_eq_none.1 hfind located h
    simp [KindTable.isUse] at this

theorem of_first? {first : LocatedUse} (h : scenario.kindTable.first? name kind = some first) :
    first ∈ scenario.uses ∧ first.use.name = name ∧ first.use.kind.name = kind := by
  rw [first?_kindTable] at h
  have huse := List.find?_some h
  unfold KindTable.isUse at huse
  rw [Bool.and_eq_true, decide_eq_true_iff, decide_eq_true_iff] at huse
  exact ⟨List.mem_of_find?_eq_some h, huse⟩

/-! ## Conflicts -/

/-- The variables that are used as more than one kind. -/
def conflicting (scenario : Scenario) : List String :=
  scenario.kindTable.names.filter fun name => ¬(scenario.kindTable.kindsOf name).size < 2

theorem pairwise_conflicting (scenario : Scenario) : scenario.conflicting.Pairwise (· < ·) :=
  scenario.kindTable.pairwise_names.sublist List.filter_sublist

theorem kindIssues_eq (scenario : Scenario) : scenario.kindIssues =
    scenario.conflicting.map fun name => .kindConflict name (scenario.kindTable.firstUses name) := by
  show scenario.kindTable.names.filterMap scenario.kindTable.conflict? = _
  unfold conflicting
  rw [← List.filterMap_eq_map, List.filterMap_filter]
  congr 1
  funext name
  unfold KindTable.conflict?
  split
  · next h => rw [decide_eq_false fun hnot => hnot h]; rfl
  · next h => rw [decide_eq_true h]; rfl

theorem mem_conflicting_iff : name ∈ scenario.conflicting ↔ ∃ a ∈ scenario.uses, ∃ b ∈ scenario.uses,
    a.use.name = name ∧ b.use.name = name ∧ a.use.kind ≠ b.use.kind := by
  unfold conflicting
  rw [List.mem_filter, decide_eq_true_iff, OrderedMap.not_size_lt_two_iff]
  constructor
  · rintro ⟨-, kind, hkind, other, hother, hne⟩
    obtain ⟨a, ha⟩ := KindTable.mem_keys_kindsOf_iff.1 hkind
    obtain ⟨b, hb⟩ := KindTable.mem_keys_kindsOf_iff.1 hother
    obtain ⟨hamem, haname, hakind⟩ := of_first? ha
    obtain ⟨hbmem, hbname, hbkind⟩ := of_first? hb
    refine ⟨a, hamem, b, hbmem, haname, hbname, ?_⟩
    intro heq
    rw [← hakind, ← hbkind, heq] at hne
    exact hne rfl
  · rintro ⟨a, hamem, b, hbmem, rfl, hbname, hne⟩
    obtain ⟨first, hfirst⟩ := exists_first?_of_mem hamem
    obtain ⟨second, hsecond⟩ := exists_first?_of_mem hbmem
    rw [hbname] at hsecond
    exact ⟨KindTable.mem_names_of_first? hfirst,
      _, KindTable.mem_keys_kindsOf_iff.2 ⟨first, hfirst⟩,
      _, KindTable.mem_keys_kindsOf_iff.2 ⟨second, hsecond⟩, fun heq => hne (Kind.name_injective heq)⟩

end Scenario

end VisualNovel
