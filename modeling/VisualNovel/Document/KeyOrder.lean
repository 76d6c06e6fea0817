import VisualNovel.Document.Basic
import VisualNovel.Sorting

/-!
# The order of keys

Texts are ordered by code point and numbers by value, truth values counting as zero and one. Keys of
different sorts have no order, so a table that mixes them cannot be sorted. What is no number comes
before nothing and nothing comes before it, so that its place depends on the elements it is compared with.
-/

namespace VisualNovel

/-- Two keys without an order, by the words for their kinds. -/
structure Unordered where
  left : String
  right : String
deriving DecidableEq, Repr

def Unordered.message (fault : Unordered) : String :=
  "'<' not supported between instances of '" ++ fault.left ++ "' and '" ++ fault.right ++ "'"

namespace Key

/-- The word for the kind of a key in messages. -/
def typeName (key : Key) : String :=
  key.toDocument.typeName

def isText : Key → Bool
  | .text _ => true
  | _ => false

/-- The code points of a text. -/
def numbers : Key → List Nat
  | .text s => s.numbers
  | _ => []

/-- Whether a key comes before another. -/
def before (a b : Key) : Except Unordered Bool :=
  match a, b with
  | .text s, .text t => .ok (s.numbers < t.numbers)
  | _, _ =>
    match a.number?, b.number? with
    | some x, some y => .ok (x.compare? y = some .lt)
    | _, _ => .error ⟨a.typeName, b.typeName⟩

end Key

/-- Sorts what stands under keys. Texts have a total order, so that any stable sort will do for them. -/
def sortByKey {α : Type} (fields : List (Key × α)) : Except Unordered (List (Key × α)) :=
  if fields.all fun field => field.1.isText then
    .ok (fields.mergeSort fun a b => !decide (b.1.numbers < a.1.numbers))
  else Sorting.sort (fun a b => a.1.before b.1) fields

end VisualNovel
