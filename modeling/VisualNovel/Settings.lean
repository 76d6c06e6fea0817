import VisualNovel.Document.Basic

/-!
# Settings

The limits that a host may set. Values in a settings document that are no integers or too small are
replaced by the defaults.
-/

namespace VisualNovel

/-- The number of slots unless the settings say otherwise. -/
def defaultSlotCount : Int := 10

/-- The limits that a host may set; a backlog limit of zero is no limit. -/
structure Settings where
  backlogLimit : Int := 0
  slotCount : Int := defaultSlotCount
deriving DecidableEq, Repr

namespace Settings

/-- An integer that is large enough, or the default. -/
def limitOr (default least : Int) (document : Document) : Int :=
  match document.int? with
  | some n => if n < least then default else n
  | none => default

/-- The settings that the fields of a document give. -/
def ofFields (fields : Fields) : Settings where
  backlogLimit := limitOr 0 0 (fields.getD "backlog_max_entries")
  slotCount := limitOr defaultSlotCount 1 (fields.getD "save_slot_count")

/-- The settings as a document. -/
def toDocument (settings : Settings) : Document :=
  .record [("backlog_max_entries", .int settings.backlogLimit),
    ("save_slot_count", .int settings.slotCount)]

end Settings

end VisualNovel
