import VisualNovel.Playback.Branch
import VisualNovel.Proofs.Playback.Outcome

/-!
# Branches, command by command

A run of a branch is made of runs of the commands that occur in its arms. What each of these meets on its
own, the whole run meets (`meets_runAll`), whichever arms are taken.
-/

namespace VisualNovel

/-- `inner` is `outer` or stands, at any depth, inside an arm of it. -/
inductive Command.Occurs (inner : Command) : Command → Prop
  | self : Occurs inner inner
  | inside {condition : Condition} {thenDo elseDo : List Command} {command : Command}
      (h : command ∈ thenDo ∨ command ∈ elseDo) (within : Occurs inner command) :
      Occurs inner (.branch condition thenDo elseDo)

/-- `inner` occurs in one of the commands. -/
def Command.OccursIn (inner : Command) (commands : List Command) : Prop :=
  ∃ command ∈ commands, inner.Occurs command

theorem Command.Occurs.trans {a b c : Command} (hab : a.Occurs b) (hbc : b.Occurs c) : a.Occurs c := by
  induction hbc with
  | self => exact hab
  | inside hmem _ ih => exact .inside hmem ih

def Command.IsBranch (command : Command) : Prop :=
  ∃ condition thenDo elseDo, command = .branch condition thenDo elseDo

namespace Command

variable {inner outer : Command} {rest : List Command}

theorem occurs_iff_eq (simple : ¬outer.IsBranch) : inner.Occurs outer ↔ inner = outer := by
  constructor
  · intro h
    cases h with
    | self => rfl
    | inside => exact absurd ⟨_, _, _, rfl⟩ simple
  · rintro rfl
    exact .self

theorem occurs_branch_iff {condition : Condition} {thenDo elseDo : List Command} :
    inner.Occurs (.branch condition thenDo elseDo) ↔
      inner = .branch condition thenDo elseDo ∨ inner.OccursIn thenDo ∨ inner.OccursIn elseDo := by
  constructor
  · intro h
    cases h with
    | self => exact .inl rfl
    | inside hmem within =>
      rcases hmem with hthen | helse
      · exact .inr (.inl ⟨_, hthen, within⟩)
      · exact .inr (.inr ⟨_, helse, within⟩)
  · rintro (rfl | ⟨command, hmem, within⟩ | ⟨command, hmem, within⟩)
    · exact .self
    · exact .inside (.inl hmem) within
    · exact .inside (.inr hmem) within

theorem not_occursIn_nil : ¬inner.OccursIn [] := by
  rintro ⟨command, hmem, -⟩
  cases hmem

theorem occursIn_cons_iff :
    inner.OccursIn (outer :: rest) ↔ inner.Occurs outer ∨ inner.OccursIn rest := by
  constructor
  · rintro ⟨command, hmem, within⟩
    rcases List.mem_cons.1 hmem with rfl | hrest
    · exact .inl within
    · exact .inr ⟨command, hrest, within⟩
  · rintro (within | ⟨command, hrest, within⟩)
    · exact ⟨outer, List.mem_cons_self, within⟩
    · exact ⟨command, List.mem_cons_of_mem _ hrest, within⟩

end Command

namespace Memory

open Command

variable {P : Memory → Prop} {E : Fault → Prop}

mutual

theorem meets_run (hc : ∀ fault, E (.condition fault)) (command : Command) (memory : Memory)
    (hm : P memory)
    (single : ∀ inner, inner.Occurs command → ¬inner.IsBranch → ∀ m, P m → (run m inner).Meets P E) :
    (run memory command).Meets P E := by
  by_cases hb : command.IsBranch
  · obtain ⟨condition, thenDo, elseDo, rfl⟩ := hb
    unfold run
    split
    · exact meets_runAll hc thenDo memory hm fun inner ⟨c, hmem, ho⟩ =>
        single inner (.inside (.inl hmem) ho)
    · exact meets_runAll hc elseDo memory hm fun inner ⟨c, hmem, ho⟩ =>
        single inner (.inside (.inr hmem) ho)
    · exact Outcome.meets_fail hm (hc _)
  · exact single command .self hb memory hm
termination_by sizeOf command

/-- **Runs of branches.** What every command that occurs in a list meets on its own, running the list
meets. -/
theorem meets_runAll (hc : ∀ fault, E (.condition fault)) (commands : List Command) (memory : Memory)
    (hm : P memory)
    (single : ∀ inner, inner.OccursIn commands → ¬inner.IsBranch →
      ∀ m, P m → (run m inner).Meets P E) : (runAll memory commands).Meets P E := by
  cases commands with
  | nil => exact Outcome.meets_done hm
  | cons command rest =>
    have hfirst : (run memory command).Meets P E :=
      meets_run hc command memory hm fun inner ho => single inner ⟨command, List.mem_cons_self, ho⟩
    refine hfirst.andThen fun after _ hafter => ?_
    exact meets_runAll hc rest after hafter fun inner ⟨c, hmem, ho⟩ =>
      single inner ⟨c, List.mem_cons_of_mem _ hmem, ho⟩
termination_by sizeOf commands

end

end Memory

end VisualNovel
