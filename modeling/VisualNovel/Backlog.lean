import VisualNovel.LineId
import VisualNovel.Script.Dialogue

/-!
# The backlog

The lines that were shown, oldest first, for the player to read again. A line that is in the backlog
is not added twice. When there is a limit, the oldest lines make room; a line that was dropped may
come back at the end.
-/

namespace VisualNovel

/-- A line as it was shown. -/
structure BacklogEntry where
  line : LineId
  speaker : Speaker
  text : String
deriving DecidableEq, Repr

/-- The lines that were shown, oldest first; a limit of zero is no limit. -/
structure Backlog where
  limit : Nat := 0
  entries : List BacklogEntry := []
deriving DecidableEq, Repr

/-- A limit below zero was asked for. -/
structure NegativeLimit where
deriving DecidableEq, Repr

def NegativeLimit.message (_ : NegativeLimit) : String :=
  "max_entries cannot be negative."

namespace Backlog

/-- The empty backlog with the given limit. -/
def withLimit (limit : Int) : Except NegativeLimit Backlog :=
  if limit < 0 then .error {} else .ok ⟨limit.toNat, []⟩

def contains (backlog : Backlog) (line : LineId) : Bool :=
  backlog.entries.any fun entry => entry.line = line

/-- The newest entries that fit. -/
def fit (limit : Nat) (entries : List BacklogEntry) : List BacklogEntry :=
  if limit = 0 then entries else entries.drop (entries.length - limit)

/-- Records a line, unless it is there already. -/
def add (backlog : Backlog) (entry : BacklogEntry) : Backlog :=
  if backlog.contains entry.line then backlog
  else { backlog with entries := fit backlog.limit (backlog.entries ++ [entry]) }

def clear (backlog : Backlog) : Backlog :=
  { backlog with entries := [] }

/-- The entry at an index counted from the oldest one. -/
def get? (backlog : Backlog) (index : Int) : Option BacklogEntry :=
  if index < 0 then none else backlog.entries[index.toNat]?

def size (backlog : Backlog) : Nat :=
  backlog.entries.length

/-- The entries, newest first. -/
def newestFirst (backlog : Backlog) : List BacklogEntry :=
  backlog.entries.reverse

end Backlog

end VisualNovel
