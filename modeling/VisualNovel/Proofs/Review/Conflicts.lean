import VisualNovel.Proofs.Review.Address
import VisualNovel.Proofs.Review.Kinds
import VisualNovel.Proofs.Review.Reports

/-!
# Variables of several kinds, exactly

1. The uses on the walk are the commands of the scenario that give a variable a kind, in the order of the
   walk (`mem_uses_iff`, `pairwise_uses`). So the first use that the table of a review has is the first such
   command (`firstGives_of_first?`).
2. What is reported are the variables that commands give several kinds, in the order of their names, and
   for each its kinds and the first command of each (`kind_conflicts_exact`).
-/

namespace VisualNovel

/-! ## Commands that give kinds -/

/-- The command at an address gives the variable the kind. -/
def Scenario.GivesAt (scenario : Scenario) (name : String) (kind : Kind) (a : Address) : Prop :=
  a.field = none ∧
    ∃ command, scenario.at? a.scene a.path = some command ∧ command.gives? = some (name, kind)

/-- The command at the address is the first that gives the variable the kind. -/
def Scenario.FirstGives (scenario : Scenario) (name : String) (kind : Kind) (a : Address) : Prop :=
  scenario.GivesAt name kind a ∧ ∀ b, scenario.GivesAt name kind b → b = a ∨ scenario.Earlier a b

/-- Where a use stands. -/
def LocatedUse.address (located : LocatedUse) : Address :=
  ⟨located.scene, located.use.path, none⟩

/-- The command at an address as conflicts show it. -/
def Address.inScene (a : Address) : String :=
  a.scene ++ ":" ++ a.path.text

/-- The report is that of a conflict: it tells of all kinds that the variable is given, in the order of
their names, and of the first command that gives it each. -/
def Scenario.TellsConflict (scenario : Scenario) (name : String) (report : Report) : Prop :=
  ∃ (kinds : List Kind) (firsts : List Address),
    (kinds.map Kind.name).Pairwise (· < ·) ∧
      (∀ kind, kind ∈ kinds ↔ ∃ a, scenario.GivesAt name kind a) ∧
      List.Forall₂ (scenario.FirstGives name) kinds firsts ∧
      report = .warning "VARIABLE_TYPE_CONFLICT" "Variable is used with more than one value type."
        [("variable", name), ("kinds", ",".intercalate (kinds.map Kind.name)),
         ("first_uses", " ".intercalate (firsts.map Address.inScene))]

namespace Scenario

variable {scenario : Scenario} {name : String} {kind : Kind}

/-! ## Uses on the walk -/

theorem uses_eq (scenario : Scenario) : scenario.uses = scenario.visits.filterMap fun item =>
    item.2.use?.map (LocatedUse.mk item.1) := by
  rw [List.filterMap_eq_flatMap_toList,
    flatMap_visits scenario fun key visit => (visit.use?.map (LocatedUse.mk key)).toList]
  unfold uses
  congr 1
  funext ⟨key, scene⟩
  show (scene.visits.filterMap Visit.use?).map _ = scene.visits.flatMap _
  rw [List.map_filterMap, List.filterMap_eq_flatMap_toList]

/-- A use at a visit is what the command there gives. -/
theorem use_eq_some_iff {key : String} {visit : Visit} {located : LocatedUse} :
    visit.use?.map (LocatedUse.mk key) = some located ↔
      located.address = ⟨key, visit.path, none⟩ ∧
        visit.command.gives? = some (located.use.name, located.use.kind) := by
  obtain ⟨scene, ⟨name, kind, path⟩⟩ := located
  rw [use?_eq_gives?, Option.map_map, Option.map_eq_some_iff]
  constructor
  · rintro ⟨given, hgiven, heq⟩
    cases heq
    exact ⟨rfl, hgiven⟩
  · rintro ⟨haddress, hgiven⟩
    cases haddress
    exact ⟨_, hgiven, rfl⟩

theorem mem_uses_iff {located : LocatedUse} : located ∈ scenario.uses ↔
    scenario.GivesAt located.use.name located.use.kind located.address := by
  rw [uses_eq, List.mem_filterMap]
  constructor
  · rintro ⟨⟨key, visit⟩, hvisit, huse⟩
    obtain ⟨haddress, hgives⟩ := use_eq_some_iff.1 huse
    rw [haddress]
    exact ⟨rfl, visit.command, mem_visits_iff.1 hvisit, hgives⟩
  · rintro ⟨-, command, hcommand, hgives⟩
    exact ⟨(located.scene, ⟨located.use.path, command⟩), mem_visits_iff.2 hcommand,
      use_eq_some_iff.2 ⟨rfl, hgives⟩⟩

theorem exists_use_of_givesAt {a : Address} (h : scenario.GivesAt name kind a) :
    ∃ located ∈ scenario.uses, located.use.name = name ∧ located.use.kind = kind ∧
      located.address = a := by
  obtain ⟨key, path, field⟩ := a
  obtain ⟨rfl, h⟩ := h
  exact ⟨⟨key, ⟨name, kind, path⟩⟩, mem_uses_iff.2 ⟨rfl, h⟩, rfl, rfl, rfl⟩

theorem pairwise_uses (scenario : Scenario) :
    scenario.uses.Pairwise fun a b => scenario.Earlier a.address b.address := by
  rw [uses_eq]
  refine scenario.pairwise_visits.filterMap _ fun item later hearlier a ha b hb => ?_
  rw [(use_eq_some_iff.1 ha).1, (use_eq_some_iff.1 hb).1]
  exact hearlier none none

/-! ## First uses -/

/-- What is found first in a list comes before all else that could be found. -/
theorem of_find?_of_pairwise {α : Type} {R : α → α → Prop} {l : List α} {p : α → Bool} {a : α}
    (order : l.Pairwise R) (h : l.find? p = some a) : ∀ b ∈ l, p b = true → b = a ∨ R a b := by
  obtain ⟨_, before, after, rfl, hbefore⟩ := List.find?_eq_some_iff_append.1 h
  intro b hb hp
  rcases List.mem_append.1 hb with hearly | hlate
  · have := hbefore b hearly
    simp [hp] at this
  · rcases List.mem_cons.1 hlate with heq | hafter
    · exact .inl heq
    · exact .inr ((List.pairwise_cons.1 (List.pairwise_append.1 order).2.1).1 b hafter)

/-- **First uses.** The use that the table has of a variable as a kind is the first command that gives the
variable the kind. -/
theorem firstGives_of_first? {first : LocatedUse}
    (h : scenario.kindTable.first? name first.use.kind.name = some first) :
    scenario.FirstGives name first.use.kind first.address := by
  obtain ⟨hmem, hname, _⟩ := of_first? h
  rw [first?_kindTable] at h
  constructor
  · rw [← hname]
    exact mem_uses_iff.1 hmem
  · intro b hgives
    obtain ⟨other, hother, hothername, hotherkind, rfl⟩ := exists_use_of_givesAt hgives
    have huse : KindTable.isUse name first.use.kind.name other.use = true := by
      simp [KindTable.isUse, hothername, hotherkind]
    rcases of_find?_of_pairwise scenario.pairwise_uses h other hother huse with heq | hearlier
    · exact .inl (congrArg LocatedUse.address heq)
    · exact .inr hearlier

theorem firstGives_of_mem {first : LocatedUse} (h : first ∈ scenario.kindTable.firstUses name) :
    scenario.FirstGives name first.use.kind first.address := by
  obtain ⟨kind, hkind⟩ := KindTable.mem_firstUses_iff.1 h
  obtain ⟨_, _, rfl⟩ := of_first? hkind
  exact firstGives_of_first? hkind

/-- The first uses of a variable are as different kinds, in the order of their names. -/
theorem map_kind_firstUses (scenario : Scenario) (name : String) :
    (scenario.kindTable.firstUses name).map (fun first => first.use.kind.name) =
      (SortedSet.ofList (scenario.kindTable.kindsOf name).keys).toList := by
  have hkinds : ∀ kind ∈ (SortedSet.ofList (scenario.kindTable.kindsOf name).keys).toList,
      ((scenario.kindTable.kindsOf name).get? kind).map (fun first => first.use.kind.name) =
        some kind := by
    intro kind hkind
    rw [SortedSet.mem_toList, SortedSet.mem_ofList] at hkind
    obtain ⟨first, hfirst⟩ := KindTable.mem_keys_kindsOf_iff.1 hkind
    obtain ⟨_, _, rfl⟩ := of_first? hfirst
    exact Option.map_eq_some_iff.2 ⟨first, hfirst, rfl⟩
  unfold KindTable.firstUses
  rw [List.map_filterMap, List.filterMap_congr hkinds, List.filterMap_some]

/-- They are as all kinds that the variable is given. -/
theorem exists_mem_firstUses_iff :
    (∃ first ∈ scenario.kindTable.firstUses name, first.use.kind = kind) ↔
      ∃ a, scenario.GivesAt name kind a := by
  constructor
  · rintro ⟨first, hfirst, rfl⟩
    exact ⟨_, (firstGives_of_mem hfirst).1⟩
  · rintro ⟨a, hgives⟩
    obtain ⟨located, hmem, rfl, rfl, _⟩ := exists_use_of_givesAt hgives
    obtain ⟨first, hfirst⟩ := exists_first?_of_mem hmem
    exact ⟨first, KindTable.mem_firstUses_iff.2 ⟨_, hfirst⟩,
      Kind.name_injective (of_first? hfirst).2.2⟩

/-! ## Conflicts -/

theorem tellsConflict (scenario : Scenario) (name : String) : scenario.TellsConflict name
    (Issue.kindConflict name (scenario.kindTable.firstUses name)).report := by
  refine ⟨(scenario.kindTable.firstUses name).map fun first => first.use.kind,
    (scenario.kindTable.firstUses name).map LocatedUse.address, ?_, ?_, ?_, ?_⟩
  · rw [List.map_map]
    show ((scenario.kindTable.firstUses name).map fun first => first.use.kind.name).Pairwise _
    rw [map_kind_firstUses]
    exact (SortedSet.sorted _).imp fun h => SortedList.before_iff_lt.1 h
  · intro kind
    rw [List.mem_map]
    exact exists_mem_firstUses_iff
  · rw [List.forall₂_map_left_iff, List.forall₂_map_right_iff, List.forall₂_same]
    exact fun first hfirst => firstGives_of_mem hfirst
  · rw [List.map_map, List.map_map]
    rfl

end Scenario

/-- **Conflicts of kinds.** A review reports exactly the variables that commands of the scenario give
several kinds, one report for each, in the order of their names. It tells of all kinds of the variable and
of the first command that gives it each. -/
theorem kind_conflicts_exact (scenario : Scenario) (roots : List String) :
    ∃ names : List String, names.Pairwise (· < ·) ∧
      (∀ name, name ∈ names ↔ ∃ kind other, kind ≠ other ∧
        (∃ a, scenario.GivesAt name kind a) ∧ ∃ a, scenario.GivesAt name other a) ∧
      List.Forall₂ scenario.TellsConflict names
        (scenario.reported roots "VARIABLE_TYPE_CONFLICT") := by
  refine ⟨scenario.conflicting, scenario.pairwise_conflicting, ?_, ?_⟩
  · intro name
    rw [Scenario.mem_conflicting_iff]
    constructor
    · rintro ⟨a, ha, b, hb, rfl, hname, hne⟩
      refine ⟨_, _, hne, ⟨_, Scenario.mem_uses_iff.1 ha⟩, ?_⟩
      rw [← hname]
      exact ⟨_, Scenario.mem_uses_iff.1 hb⟩
    · rintro ⟨kind, other, hne, ⟨a, ha⟩, b, hb⟩
      obtain ⟨first, hfirst, hfirstname, rfl, _⟩ := Scenario.exists_use_of_givesAt ha
      obtain ⟨second, hsecond, hsecondname, rfl, _⟩ := Scenario.exists_use_of_givesAt hb
      exact ⟨first, hfirst, second, hsecond, hfirstname, hsecondname, hne⟩
  · rw [scenario.reported_kinds, Scenario.kindIssues_eq, List.map_map, List.forall₂_map_right_iff,
      List.forall₂_same]
    exact fun name _ => scenario.tellsConflict name

end VisualNovel
