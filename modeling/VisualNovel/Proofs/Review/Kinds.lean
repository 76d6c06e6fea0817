import VisualNovel.Proofs.Operation
import VisualNovel.Proofs.OrderedMap
import VisualNovel.Proofs.Playback.Session
import VisualNovel.Proofs.Playback.Writing
import VisualNovel.Proofs.Review.KindTable
import VisualNovel.Proofs.Review.Walk

/-!
# Variables keep their kind

1. The commands of a scenario give kinds to the variables they write (`Scenario.Gives`). If a review
   reports no conflict, they give each variable one kind at most (`gives_unique`).
2. A modification stores a value of the kind that its operation gives and refuses values of other kinds
   only. So the writes of such a scenario keep the kinds that variables have (`keeps_typed`), and no
   operation meets a value of the wrong kind (`kinds_hold`).
-/

namespace VisualNovel

open Command

/-! ## The kinds that commands give -/

/-- The variable that a command writes, and the kind that it gives it. -/
def Command.gives? : Command → Option (String × Kind)
  | .setVariable name value => some (name, value.kind)
  | .modifyVariable name operation => operation.gives?.map fun kind => (name, kind)
  | _ => none

/-- Some command of the scenario gives the variable the kind. -/
def Scenario.Gives (scenario : Scenario) (name : String) (kind : Kind) : Prop :=
  ∃ command, scenario.Has command ∧ command.gives? = some (name, kind)

variable {scenario : Scenario} {roots : List String} {name : String}

theorem use?_eq_gives? (visit : Visit) :
    visit.use? = visit.command.gives?.map fun given => ⟨given.1, given.2, visit.path⟩ := by
  obtain ⟨path, command⟩ := visit
  cases command with
  | modifyVariable name operation => cases operation <;> rfl
  | _ => rfl

/-- What a command gives, the review has among its uses. -/
theorem exists_use_of_gives {kind : Kind} (h : scenario.Gives name kind) :
    ∃ located ∈ scenario.uses, located.use.name = name ∧ located.use.kind = kind := by
  obtain ⟨command, ⟨key, scene, hs, ho⟩, hg⟩ := h
  obtain ⟨visit, hv, rfl⟩ := Scene.exists_visit ho
  have huse : visit.use? = some ⟨name, kind, visit.path⟩ := by
    rw [use?_eq_gives?, hg]
    rfl
  have hmem : ⟨name, kind, visit.path⟩ ∈ scene.uses := List.mem_filterMap.2 ⟨visit, hv, huse⟩
  refine ⟨⟨key, ⟨name, kind, visit.path⟩⟩, ?_, rfl, rfl⟩
  unfold Scenario.uses
  exact List.mem_flatMap.2
    ⟨(key, scene), Scenario.mem_entries_of_scene? hs, List.mem_map_of_mem hmem⟩

/-- **One kind for each variable.** Without a reported conflict, all commands that write a variable give
it the same kind. -/
theorem gives_unique
    (clean : ∀ issue ∈ scenario.review roots, issue.report.code ≠ "VARIABLE_TYPE_CONFLICT")
    {kind other : Kind} (h : scenario.Gives name kind) (h' : scenario.Gives name other) :
    kind = other := by
  by_cases hne : kind = other
  · exact hne
  · obtain ⟨a, hamem, haname, rfl⟩ := exists_use_of_gives h
    obtain ⟨b, hbmem, hbname, rfl⟩ := exists_use_of_gives h'
    have hconflict : name ∈ scenario.conflicting :=
      Scenario.mem_conflicting_iff.2 ⟨a, hamem, b, hbmem, haname, hbname, hne⟩
    have hmem : .kindConflict name (scenario.kindTable.firstUses name) ∈ scenario.kindIssues := by
      rw [Scenario.kindIssues_eq]
      exact List.mem_map_of_mem hconflict
    exact absurd rfl (clean _ (mem_review.2 (.inr (.inr (.inr (.inl hmem))))))

/-! ## What variables hold -/

/-- Every variable holds a value of a kind that some command gives it. -/
def Memory.Typed (scenario : Scenario) (memory : Memory) : Prop :=
  ∀ name value, memory.vars.get? name = some value → scenario.Gives name value.kind

/-- A variable has a value of another kind than an operation on it needs. -/
def Fault.isWrongKind : Fault → Bool
  | .operation _ (.wrongKind _ _) => true
  | _ => false

/-- Every variable has one kind at most. -/
def Scenario.Unmixed (scenario : Scenario) : Prop :=
  ∀ name kind other, scenario.Gives name kind → scenario.Gives name other → kind = other

variable {memory : Memory} {p : Playback}

theorem Memory.Typed.setVariable {value : Value} (h : memory.Typed scenario)
    (hv : scenario.Gives name value.kind) : (memory.setVariable name value).Typed scenario :=
  OrderedMap.forall_insert h hv

theorem typed_modify {operation : Operation} {after : Memory} (h : memory.Typed scenario)
    (hg : ∀ kind, operation.gives? = some kind → scenario.Gives name kind)
    (hm : memory.modify name operation = .ok after) : after.Typed scenario := by
  obtain ⟨value, rfl, hkind⟩ := Memory.modify_eq_ok hm
  exact h.setVariable (hg _ hkind)

/-- An operation that occurs in the scenario finds a value of the kind it needs. -/
theorem not_wrongKind_modify (hu : scenario.Unmixed) {operation : Operation} {fault : OperationFault}
    (h : memory.Typed scenario)
    (hg : ∀ kind, operation.gives? = some kind → scenario.Gives name kind)
    (hm : memory.modify name operation = .error fault) :
    (Fault.operation name fault).isWrongKind = false := by
  cases fault with
  | wrongKind word kind =>
    obtain ⟨current, expected, hvar, hgives, hne⟩ := Memory.modify_eq_wrongKind hm
    exact absurd (hu name _ _ (hg _ hgives) (h name current hvar)) hne
  | _ => rfl

theorem Scenario.Has.gives_modify {operation : Operation}
    (h : scenario.Has (.modifyVariable name operation)) :
    ∀ kind, operation.gives? = some kind → scenario.Gives name kind := by
  intro kind hkind
  refine ⟨_, h, ?_⟩
  show operation.gives?.map _ = _
  rw [hkind]
  rfl

/-- **Writes keep the kinds.** -/
theorem keeps_typed (hu : scenario.Unmixed) :
    scenario.Keeps (Memory.Typed scenario) (fun fault => fault.isWrongKind = false) where
  flags flags h := h
  set has h := h.setVariable ⟨_, has, rfl⟩
  modify has h hm := typed_modify h has.gives_modify hm
  refuse has h hm := not_wrongKind_modify hu h has.gives_modify hm
  others hf := by
    unfold Fault.isWrongKind
    split
    · cases hf
    · rfl

theorem Memory.Typed.erase (h : memory.Typed scenario) (name : String) :
    Memory.Typed scenario { memory with vars := memory.vars.erase name } :=
  OrderedMap.forall_erase h name

/-! ## Sessions -/

/-- What is saved are integers, and variables that are given integers. -/
theorem typed_save (h : p.memory.Typed scenario) (slot : Int) :
    (p.save slot).memory.Typed scenario := by
  intro name value hvalue
  obtain ⟨n, hn, rfl⟩ := SaveData.get?_memory_eq_some_iff.1 hvalue
  exact h name _ (get?_save_eq_some_iff.1 hn)

/-- Lets the host do everything but write variables itself and load games of other sessions. -/
def Session.handsOff (s : Session) (request : Request) : Prop :=
  s.ownSaves request ∧ ∀ name value, request ≠ .setVariable name value

variable {s : Session}

theorem meets_typed_respond (hu : scenario.Unmixed) (ht : s.playback.memory.Typed scenario)
    (saves : ∀ data ∈ s.saves, data.memory.Typed scenario) {request : Request}
    (asked : s.handsOff request) : (s.playback.respond scenario request).MeetsMemory
      (Memory.Typed scenario) (fun fault => fault.isWrongKind = false) := by
  refine keeps_respond (keeps_typed hu) ht ⟨?_, ?_, ?_⟩
  · intro name value heq
    exact absurd heq (asked.2 name value)
  · intro name _
    exact ht.erase name
  · intro data hload
    exact saves data (asked.1 data hload)

theorem Session.Reached.typed (hu : scenario.Unmixed) (hs : s.Reached scenario Session.handsOff) :
    s.playback.memory.Typed scenario ∧ ∀ data ∈ s.saves, data.memory.Typed scenario := by
  refine hs.invariant (fun p => p.memory.Typed scenario) (fun data => data.memory.Typed scenario)
    ?_ ?_ ?_
  · intro backlog unlocks name value h
    cases h
  · intro p slot h
    exact typed_save h slot
  · intro s request ht saves asked
    exact (meets_typed_respond hu ht saves asked).state

/-- An operation does not fit its variable's value, or its operand. -/
def Fault.isTypeMismatch : Fault → Bool
  | .operation _ (.wrongKind _ _) | .operation _ (.wrongOperand _ _ _) => true
  | _ => false

/-- **Soundness of kinds.** If a review reports no conflict and only the scenario writes variables, then
every variable always holds a value of the one kind that the scenario's commands give it, and an
operation on a variable is never refused for the kind of its value, only for its operand. -/
theorem kinds_hold
    (clean : ∀ issue ∈ scenario.review roots, issue.report.code ≠ "VARIABLE_TYPE_CONFLICT")
    (hs : s.Reached scenario Session.handsOff) :
    (∀ name value, s.playback.memory.vars.get? name = some value →
        ∀ kind, scenario.Gives name kind ↔ kind = value.kind) ∧
      ∀ request, s.handsOff request → ∀ fault,
        (s.playback.respond scenario request).result = .error fault → fault.isWrongKind = false ∧
          (fault.isTypeMismatch = true → ∃ name operation expected found,
            fault = .operation name (.wrongOperand operation expected found)) := by
  have hu : scenario.Unmixed := fun name kind other => gives_unique clean
  obtain ⟨ht, saves⟩ := hs.typed hu
  constructor
  · intro name value hvalue kind
    have hgives := ht name value hvalue
    constructor
    · exact fun h => hu name kind value.kind h hgives
    · rintro rfl
      exact hgives
  · intro request asked fault hfault
    have hkind := (meets_typed_respond hu ht saves asked).fault fault hfault
    refine ⟨hkind, ?_⟩
    intro hmismatch
    cases fault with
    | operation name reason =>
      cases reason with
      | wrongKind word kind => cases hkind
      | wrongOperand operation expected found => exact ⟨name, operation, expected, found, rfl⟩
      | _ => cases hmismatch
    | _ => cases hmismatch

/-- Down in the cellar there are seven coins, an integer like in every command that writes them, and a
return is not refused for any kind. -/
theorem kinds_hold_in_cellar :
    (∀ issue ∈ Sample.story.review [], issue.report.code ≠ "VARIABLE_TYPE_CONFLICT") ∧
      Sample.inCellar.Reached Sample.story Session.handsOff ∧
      Sample.inCellar.playback.memory.vars.get? "coins" = some (.int 7) ∧
      (∀ kind, Sample.story.Gives "coins" kind ↔ kind = .int) ∧
      Sample.inCellar.handsOff .execute ∧
      ∀ fault, (Sample.inCellar.playback.respond Sample.story .execute).result = .error fault →
        fault.isWrongKind = false := by
  have clean : ∀ issue ∈ Sample.story.review [], issue.report.code ≠ "VARIABLE_TYPE_CONFLICT" := by
    rw [Sample.review_story]
    intro issue h
    cases h
  have reached : Sample.inCellar.Reached Sample.story Session.handsOff := by
    refine Sample.inCellar_reached fun request hrequest s => ?_
    obtain ⟨noLoad, _, noWrite⟩ := Sample.wayDown_plain request hrequest
    exact ⟨fun data h => absurd h (noLoad data), noWrite⟩
  have asked : Sample.inCellar.handsOff .execute := by
    constructor
    · intro data h
      cases h
    · intro name value h
      cases h
  obtain ⟨hvars, hfaults⟩ := kinds_hold clean reached
  have hcoins : Sample.inCellar.playback.memory.vars.get? "coins" = some (.int 7) := by decide
  refine ⟨clean, reached, hcoins, hvars _ _ hcoins, asked, ?_⟩
  intro fault hfault
  exact (hfaults .execute asked fault hfault).1

end VisualNovel
