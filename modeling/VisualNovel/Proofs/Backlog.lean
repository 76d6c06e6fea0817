import Mathlib.Data.List.DropRight
import VisualNovel.Backlog

/-!
# What the backlog retains

An addition is accepted if its line is not retained at that moment. Which lines are retained depends on
all that was accepted before; so what a history accepts (`Backlog.accepted`) is read off the backlogs it
passes through. At every moment the backlog has the newest of the entries accepted since it was last
cleared, as many as fit, and no line twice (`Backlog.Retains`, kept by each change).
-/

namespace VisualNovel.Backlog

/-- The lines that are retained, oldest first. -/
def lines (b : Backlog) : List LineId :=
  b.entries.map BacklogEntry.line

/-- A change of a backlog. -/
inductive Change where
  | add (entry : BacklogEntry)
  | clear

/-- The backlog after a change. -/
def change (b : Backlog) : Change → Backlog
  | .add entry => b.add entry
  | .clear => b.clear

/-- The backlog after changes, one after another. -/
def after (b : Backlog) (history : List Change) : Backlog :=
  history.foldl change b

/-- The entries that are accepted and not followed by a clearing, oldest first: those of `known`, accepted
before, and the additions whose lines are not retained when they are made. -/
def accepted (b : Backlog) (known : List BacklogEntry) : List Change → List BacklogEntry
  | [] => known
  | .clear :: rest => accepted b.clear [] rest
  | .add entry :: rest =>
    accepted (b.add entry) (if entry.line ∈ b.lines then known else known ++ [entry]) rest

variable {b : Backlog} {known : List BacklogEntry} {entry : BacklogEntry} {limit : Nat}

/-! ## One addition -/

theorem contains_iff {line : LineId} : b.contains line = true ↔ line ∈ b.lines := by
  simp [contains, lines]

theorem add_of_mem (h : entry.line ∈ b.lines) : b.add entry = b := by
  unfold add
  rw [if_pos (contains_iff.2 h)]

theorem add_of_not_mem (h : entry.line ∉ b.lines) :
    b.add entry = { b with entries := fit b.limit (b.entries ++ [entry]) } := by
  unfold add
  rw [if_neg (mt contains_iff.1 h)]

theorem limit_add (b : Backlog) (entry : BacklogEntry) : (b.add entry).limit = b.limit := by
  unfold add
  split <;> rfl

theorem fit_suffix (limit : Nat) (entries : List BacklogEntry) : fit limit entries <:+ entries := by
  unfold fit
  split
  · exact List.suffix_rfl
  · exact List.drop_suffix _ _

theorem length_fit_le (h : 0 < limit) (entries : List BacklogEntry) :
    (fit limit entries).length ≤ limit := by
  unfold fit
  rw [if_neg (Nat.ne_of_gt h), List.length_drop]
  omega

/-- What does not fit before an addition does not fit after it either. -/
theorem fit_fit_append (limit : Nat) (entries : List BacklogEntry) (entry : BacklogEntry) :
    fit limit (fit limit entries ++ [entry]) = fit limit (entries ++ [entry]) := by
  unfold fit
  by_cases h : limit = 0
  · simp only [if_pos h]
  · simp only [if_neg h]
    have hleft : (entries.drop (entries.length - limit)).length + 1 - limit ≤
        (entries.drop (entries.length - limit)).length := by omega
    have hright : entries.length + 1 - limit ≤ entries.length := by omega
    rw [List.length_append, List.length_append, List.length_singleton,
      List.drop_append_of_le_length hleft, List.drop_append_of_le_length hright, List.drop_drop,
      List.length_drop]
    congr 2
    omega

/-- An accepted entry goes to the end; the oldest ones may make room for it. -/
theorem exists_kept (h : entry.line ∉ b.lines) :
    ∃ kept, kept <:+ b.entries ∧ (b.add entry).entries = kept ++ [entry] := by
  rw [add_of_not_mem h]
  show ∃ kept, kept <:+ b.entries ∧ fit b.limit (b.entries ++ [entry]) = kept ++ [entry]
  unfold fit
  by_cases h0 : b.limit = 0
  · exact ⟨b.entries, List.suffix_rfl, if_pos h0⟩
  · have hle : b.entries.length + 1 - b.limit ≤ b.entries.length := by omega
    refine ⟨b.entries.drop (b.entries.length + 1 - b.limit), List.drop_suffix _ _, ?_⟩
    rw [if_neg h0, List.length_append, List.length_singleton,
      List.drop_append_of_le_length hle]

/-! ## Histories -/

/-- The backlog has the newest of the entries known to have been accepted, and no line twice. -/
structure Retains (b : Backlog) (known : List BacklogEntry) : Prop where
  entries : b.entries = fit b.limit known
  distinct : b.lines.Nodup

theorem retains_nil (limit : Nat) : Retains ⟨limit, []⟩ [] where
  entries := by simp [fit]
  distinct := List.nodup_nil

theorem Retains.add (h : b.Retains known) (entry : BacklogEntry) :
    (b.add entry).Retains (if entry.line ∈ b.lines then known else known ++ [entry]) := by
  by_cases hmem : entry.line ∈ b.lines
  · rw [add_of_mem hmem, if_pos hmem]
    exact h
  · rw [add_of_not_mem hmem, if_neg hmem]
    constructor
    · show fit b.limit (b.entries ++ [entry]) = fit b.limit (known ++ [entry])
      rw [h.entries, fit_fit_append]
    · have hsub : (fit b.limit (b.entries ++ [entry])).map BacklogEntry.line <:+
          b.lines ++ [entry.line] := by
        have hsuffix := (fit_suffix b.limit (b.entries ++ [entry])).map BacklogEntry.line
        rwa [List.map_append] at hsuffix
      refine List.Nodup.sublist hsub.sublist (List.nodup_append.2 ⟨h.distinct, by simp, ?_⟩)
      rintro line hline other hother rfl
      exact hmem (List.mem_singleton.1 hother ▸ hline)

theorem retains_after (h : b.Retains known) (history : List Change) :
    (b.after history).Retains (b.accepted known history) := by
  induction history generalizing b known with
  | nil => exact h
  | cons change rest ih =>
    cases change with
    | add entry => exact ih (h.add entry)
    | clear => exact ih (retains_nil b.limit)

theorem limit_after (b : Backlog) (history : List Change) : (b.after history).limit = b.limit := by
  induction history generalizing b with
  | nil => rfl
  | cons change rest ih =>
    cases change with
    | add entry => exact (ih (b.add entry)).trans (limit_add b entry)
    | clear => exact ih b.clear

/-- **The backlog.** After any additions and clearings of a new backlog its entries are the newest of those
that were accepted since it was last cleared, all of them if the limit is zero. So no line is there twice
and there are no more entries than a positive limit; a line that is not there, dropped or new, is added at
the end. All questions to the backlog are answered from these entries. -/
theorem keeps_newest_accepted (limit : Nat) (history : List Change) :
    withLimit limit = .ok ⟨limit, []⟩ ∧ ∀ b, b = after ⟨limit, []⟩ history →
      (b.entries = if limit = 0 then accepted ⟨limit, []⟩ [] history
        else (accepted ⟨limit, []⟩ [] history).rtake limit) ∧
      b.lines.Nodup ∧ (0 < limit → b.size ≤ limit) ∧
      (∀ entry, entry.line ∉ b.lines →
        ∃ kept, kept <:+ b.entries ∧ (b.add entry).entries = kept ++ [entry]) ∧
      b.size = b.entries.length ∧ (∀ line, b.contains line = true ↔ line ∈ b.lines) ∧
      (∀ index, b.get? index = if 0 ≤ index then b.entries[index.toNat]? else none) ∧
      b.newestFirst = b.entries.reverse := by
  refine ⟨if_neg (by omega), ?_⟩
  rintro b rfl
  obtain ⟨hentries, hdistinct⟩ := retains_after (retains_nil limit) history
  rw [limit_after] at hentries
  refine ⟨hentries, hdistinct, fun hpos => ?_, fun _ => exists_kept, rfl, fun _ => contains_iff,
    fun index => ?_, rfl⟩
  · unfold size
    rw [hentries]
    exact length_fit_le hpos _
  · unfold get?
    by_cases hneg : index < 0
    · rw [if_pos hneg, if_neg (Int.not_le.2 hneg)]
    · rw [if_neg hneg, if_pos (Int.not_lt.1 hneg)]

namespace Sample

def door : BacklogEntry := ⟨⟨"hall", 0⟩, .narrator, "A door."⟩

def stairs : BacklogEntry := ⟨⟨"hall", 1⟩, .narrator, "Stairs."⟩

def cat : BacklogEntry := ⟨⟨"cellar", 0⟩, .character "cat", "Meow."⟩

/-- The door is read three times: before a clearing, after it, and when the cat has pushed it out. -/
def reading : List Change :=
  [.add door, .clear, .add door, .add stairs, .add stairs, .add cat, .add door]

end Sample

/-- The door comes back at the end, and pushes out the stairs. -/
theorem keeps_newest_accepted_while_reading :
    withLimit 2 = .ok ⟨2, []⟩ ∧
      accepted ⟨2, []⟩ [] Sample.reading = [Sample.door, Sample.stairs, Sample.cat, Sample.door] ∧
      (after ⟨2, []⟩ Sample.reading).entries = [Sample.cat, Sample.door] ∧
      (after ⟨2, []⟩ Sample.reading).size ≤ 2 := by
  obtain ⟨made, kept⟩ := keeps_newest_accepted 2 Sample.reading
  obtain ⟨hentries, -, hsize, -⟩ := kept _ rfl
  have haccepted : accepted ⟨2, []⟩ [] Sample.reading =
      [Sample.door, Sample.stairs, Sample.cat, Sample.door] := by decide
  refine ⟨made, haccepted, ?_, hsize (by decide)⟩
  rw [hentries, haccepted]
  rfl

end VisualNovel.Backlog
