import VisualNovel.OrderedMap
import VisualNovel.Review.Visit
import VisualNovel.SortedSet

/-!
# The kinds of variables

A table lists for every variable the kinds that it is used as, and for each kind its first use. Every
scene has a table of its own; they are merged, scene by scene, into the table of the scenario.
-/

namespace VisualNovel

universe u v

/-- For every variable the kinds that it is used as, by their names, each with its first use. -/
structure KindTable (α : Type u) where
  entries : OrderedMap (OrderedMap α) := .empty

namespace KindTable

variable {α : Type u} {β : Type v}

/-- The kinds of a variable. -/
def kindsOf (table : KindTable α) (name : String) : OrderedMap α :=
  (table.entries.get? name).getD .empty

/-- Notes a use of a variable as a kind, unless there is an earlier one. -/
def note (table : KindTable α) (name kind : String) (use : α) : KindTable α :=
  ⟨table.entries.insert name ((table.kindsOf name).insertNew kind use)⟩

/-- Notes the kinds of a variable in another table, each as far as it is new. -/
def noteAll (table : KindTable β) (name : String) (f : α → β) (kinds : OrderedMap α) : KindTable β :=
  ⟨table.entries.insert name
    (kinds.entries.foldl (fun known entry => known.insertNew entry.1 (f entry.2)) (table.kindsOf name))⟩

/-- Notes all that is in another table, as far as it is new. -/
def merge (table : KindTable β) (f : α → β) (other : KindTable α) : KindTable β :=
  other.entries.entries.foldl (fun table entry => table.noteAll entry.1 f entry.2) table

/-- The names of all variables, sorted. -/
def names (table : KindTable α) : List String :=
  (SortedSet.ofList table.entries.keys).toList

/-- The first uses of a variable, in the order of the names of their kinds. -/
def firstUses (table : KindTable α) (name : String) : List α :=
  (SortedSet.ofList (table.kindsOf name).keys).toList.filterMap (table.kindsOf name).get?

end KindTable

/-- A use of a variable, and the scene it stands in. -/
structure LocatedUse where
  scene : String
  use : VariableUse
deriving DecidableEq, Repr

/-- The kinds of the variables in a scene. -/
def Scene.kindTable (scene : Scene) : KindTable VariableUse :=
  scene.uses.foldl (fun table use => table.note use.name use.kind.name use) {}

/-- The kinds of the variables in all scenes. -/
def Scenario.kindTable (scenario : Scenario) : KindTable LocatedUse :=
  scenario.scenes.entries.foldl
    (fun table entry => table.merge (LocatedUse.mk entry.1) entry.2.kindTable) {}

end VisualNovel
