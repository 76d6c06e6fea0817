import Mathlib.Data.List.Forall2
import VisualNovel.Proofs.OrderedMap
import VisualNovel.Proofs.Playback.Placement

/-!
# A loaded game goes on like the one that was saved

1. Two playthroughs agree (`Playback.Agrees`) when they have in common all that a save keeps, and the
   variables that are no integers. What they do not share is the backlog, the unlocks, how characters
   entered, and whether the host has asked for changes.
2. Nothing a request does or answers depends on the rest, except for the two requests that ask for
   changes (`alike_respond`), so playthroughs that agree go on alike (`alike_playOn`).
3. Loading a saved game makes a playthrough agree with the one it was saved from (`agrees_restore_save`).
-/

namespace VisualNovel

open Playback

/-- Both stages show the same, up to the transitions with which characters entered. -/
structure Stage.Agrees (s t : Stage) : Prop where
  background : s.background = t.background
  cg : s.cg = t.cg
  characters : s.characters.map ShownCharacter.toSaved = t.characters.map ShownCharacter.toSaved

/-- Both playthroughs stand at the same place, remember the same and show the same. -/
structure Playback.Agrees (p q : Playback) : Prop where
  scene : p.scene = q.scene
  index : p.index = q.index
  stack : p.stack = q.stack
  memory : p.memory = q.memory
  read : p.read = q.read
  stage : p.stage.Agrees q.stage

/-- Both outcomes have the same result and leave playthroughs that agree. -/
structure Outcome.Alike {α : Type} (a b : Outcome Playback α) : Prop where
  result : a.result = b.result
  state : a.state.Agrees b.state

/-- Asks whether something changed since it was asked last; a save does not keep that. -/
def Request.isPoll : Request → Bool
  | .pollCharacters | .pollUnlocks => true
  | _ => false

/-- The outcomes of requests, one after another. -/
def Playback.playOn (scenario : Scenario) (p : Playback) : List Request → List (Outcome Playback Reply)
  | [] => []
  | request :: rest =>
    let outcome := p.respond scenario request
    outcome :: outcome.state.playOn scenario rest

variable {scenario : Scenario} {p q : Playback}

/-! ## Changing both playthroughs alike -/

namespace Playback.Agrees

theorem goTo (h : p.Agrees q) (scene : Option String) (index : Int) :
    Agrees { p with scene, index } { q with scene, index } :=
  { h with scene := rfl, index := rfl }

theorem withStack (h : p.Agrees q) (stack : List Frame) :
    Agrees { p with stack } { q with stack } :=
  { h with stack := rfl }

/-- Both playthroughs may write the same to their memories. -/
theorem write (h : p.Agrees q) (f : Memory → Memory) :
    Agrees { p with memory := f p.memory } { q with memory := f q.memory } :=
  { h with memory := congrArg f h.memory }

theorem currentScene? (h : p.Agrees q) : p.currentScene? scenario = q.currentScene? scenario := by
  unfold Playback.currentScene?
  rw [h.scene]

theorem currentCommand? (h : p.Agrees q) :
    p.currentCommand? scenario = q.currentCommand? scenario := by
  unfold Playback.currentCommand?
  rw [h.currentScene?, h.index]

theorem isRead (h : p.Agrees q) (line : LineId) : p.isRead line = q.isRead line := by
  unfold Playback.isRead
  rw [h.read]

theorem isEnded (h : p.Agrees q) : p.isEnded scenario = q.isEnded scenario := by
  unfold Playback.isEnded
  rw [h.currentCommand?]

theorem save (h : p.Agrees q) (slot : Int) : p.save slot = q.save slot := by
  unfold Playback.save
  rw [h.scene, h.index, h.stack, h.memory, h.read, h.stage.background, h.stage.cg,
    h.stage.characters]

theorem restore (data : SaveData) (p q : Playback) : (p.restore data).Agrees (q.restore data) :=
  ⟨rfl, rfl, rfl, rfl, rfl, ⟨rfl, rfl, rfl⟩⟩

end Playback.Agrees

namespace Outcome.Alike

variable {α β : Type} {a b : Outcome Playback α}

theorem map (h : a.Alike b) (f : α → β) : (a.map f).Alike (b.map f) := by
  refine ⟨?_, h.state⟩
  rw [result_map, result_map, h.result]

theorem report (h : a.Alike b) (event event' : Event) : (a.report event).Alike (b.report event') :=
  ⟨h.result, h.state⟩

theorem andThen {next next' : Playback → α → Outcome Playback β} (h : a.Alike b)
    (hnext : ∀ s t x, s.Agrees t → (next s x).Alike (next' t x)) :
    (a.andThen next).Alike (b.andThen next') := by
  unfold Outcome.andThen
  rw [h.result]
  cases b.result with
  | ok x =>
    have hx := hnext _ _ x h.state
    exact ⟨hx.result, hx.state⟩
  | error fault => exact ⟨rfl, h.state⟩

end Outcome.Alike

/-! ## The stage -/

namespace Stage.Agrees

variable {s t : Stage}

theorem insert (h : s.Agrees t) (id : String) {shown other : ShownCharacter}
    (hsaved : shown.toSaved = other.toSaved) :
    Agrees { s with characters := s.characters.insert id shown }
      { t with characters := t.characters.insert id other } := by
  refine { h with characters := ?_ }
  rw [OrderedMap.map_insert, OrderedMap.map_insert, h.characters, hsaved]

theorem erase (h : s.Agrees t) (id : String) :
    Agrees { s with characters := s.characters.erase id }
      { t with characters := t.characters.erase id } := by
  refine { h with characters := ?_ }
  rw [OrderedMap.map_erase, OrderedMap.map_erase, h.characters]

/-- A change that can be told from what is saved of a character leaves the same on both stages. -/
theorem update (h : s.Agrees t) (id : String) {change : ShownCharacter → ShownCharacter}
    (saved : SavedCharacter → SavedCharacter)
    (hchange : ∀ shown, (change shown).toSaved = saved shown.toSaved) :
    (s.update id change).Agrees (t.update id change) := by
  have hget : (s.characters.get? id).map ShownCharacter.toSaved =
      (t.characters.get? id).map ShownCharacter.toSaved := by
    rw [← OrderedMap.get?_map, ← OrderedMap.get?_map, h.characters]
  unfold Stage.update
  cases hs : s.characters.get? id with
  | none =>
    rw [hs, Option.map_none, eq_comm, Option.map_eq_none_iff] at hget
    rw [hget]
    exact h
  | some shown =>
    rw [hs, Option.map_some, eq_comm, Option.map_eq_some_iff] at hget
    obtain ⟨other, ht, hsaved⟩ := hget
    rw [ht]
    refine h.insert id ?_
    rw [hchange, hchange, hsaved]

theorem perform (h : s.Agrees t) (change : StageCommand) :
    (s.perform change).Agrees (t.perform change) := by
  cases change with
  | showBackground | hideBackground => exact { h with background := rfl }
  | showCg | hideCg => exact { h with cg := rfl }
  | showCharacter id sprite position expression transition => exact h.insert id rfl
  | hideCharacter id transition => exact h.erase id
  | moveCharacter id position =>
    exact h.update id (fun saved => { saved with position }) fun shown => rfl
  | changeSprite id sprite =>
    exact h.update id (fun saved => { saved with sprite }) fun shown => rfl
  | changeExpression => exact h

end Stage.Agrees

theorem Playback.Agrees.perform (h : p.Agrees q) (change : StageCommand) :
    (p.perform change).Agrees (q.perform change) :=
  { h with stage := h.stage.perform change }

/-! ## Requests -/

theorem alike_done {α : Type} {a b : α} (h : p.Agrees q) (hab : a = b) :
    (Outcome.done p a).Alike (Outcome.done q b) :=
  ⟨congrArg Except.ok hab, h⟩

theorem alike_fail {α : Type} (h : p.Agrees q) (fault : Fault) :
    (Outcome.fail p fault : Outcome Playback α).Alike (.fail q fault) :=
  ⟨rfl, h⟩

theorem alike_jump (h : p.Agrees q) (key : String) :
    (p.jump scenario key).Alike (q.jump scenario key) := by
  unfold jump
  cases scenario.scene? key with
  | none => exact alike_fail h _
  | some target =>
    refine ⟨?_, h.goTo (some key) 0⟩
    rw [h.currentScene?]

theorem alike_call (h : p.Agrees q) (key returnScene : String) :
    (p.call scenario key returnScene).Alike (q.call scenario key returnScene) := by
  unfold call
  rw [h.stack]
  split
  · exact alike_fail h _
  · split
    · exact alike_fail h _
    · split
      · exact alike_fail h _
      · refine Outcome.Alike.report (alike_jump ?_ key) _ _
        refine { h with stack := ?_ }
        rw [h.index]

theorem alike_back (h : p.Agrees q) : (p.back scenario).Alike (q.back scenario) := by
  unfold back
  rw [h.stack]
  split
  · exact alike_fail h _
  · next frame _ =>
    refine (alike_jump (h.withStack _) frame.scene).andThen fun s t signal hst => ?_
    exact ⟨rfl, { hst with index := rfl }⟩

theorem alike_executeCommand (h : p.Agrees q) (command : Command) :
    (p.executeCommand scenario command).Alike (q.executeCommand scenario command) := by
  cases command with
  | say | audio => exact alike_done h rfl
  | setFlag name value => exact alike_done (h.write (·.setFlag name value)) rfl
  | setVariable name value => exact alike_done (h.write (·.setVariable name value)) rfl
  | modifyVariable name operation =>
    show (p.modifyVariable name operation).Alike (q.modifyVariable name operation)
    unfold Playback.modifyVariable
    rw [h.memory]
    split
    · exact alike_done (h.write fun _ => _) rfl
    · exact alike_fail h _
  | branch condition thenDo elseDo =>
    show (p.branch condition thenDo elseDo).Alike (q.branch condition thenDo elseDo)
    unfold Playback.branch
    rw [h.memory]
    split
    · exact alike_fail h _
    · exact ⟨rfl, h.write fun _ => _⟩
  | offer choice =>
    show (p.offer choice).Alike (q.offer choice)
    unfold Playback.offer
    rw [h.memory]
    split
    · exact alike_fail h _
    · exact alike_fail h _
    · exact alike_done h rfl
  | flow move =>
    cases move with
    | jump key => exact alike_jump h key
    | call key returnScene => exact alike_call h key returnScene
    | back => exact alike_back h
    | finish => exact alike_done h rfl
  | wait seconds => exact alike_done h rfl
  | stage change => exact ⟨rfl, h.perform change⟩
  | unknown text => exact alike_fail h _

theorem alike_execute (h : p.Agrees q) : (p.execute scenario).Alike (q.execute scenario) := by
  unfold execute
  rw [h.currentCommand?]
  split
  · exact alike_fail h _
  · exact alike_executeCommand h _

theorem alike_select (h : p.Agrees q) (index : Int) :
    (p.select scenario index).Alike (q.select scenario index) := by
  unfold select
  rw [h.currentCommand?, h.memory]
  split
  · exact alike_fail h _
  · split
    · exact alike_fail h _
    · exact alike_jump (h.write fun _ => _) _
  · exact alike_fail h _

theorem alike_advance (h : p.Agrees q) :
    (told (p.advance scenario)).Alike (told (q.advance scenario)) := by
  unfold advance
  rw [h.currentScene?, h.index]
  split
  · exact alike_done h rfl
  · split
    · have hnext : Agrees { p with index := q.index + 1 } { q with index := q.index + 1 } :=
        { h with index := rfl }
      exact alike_done hnext rfl
    · exact alike_done h rfl

/-- Playthroughs that agree answer alike, and agree afterwards. -/
theorem alike_respond (h : p.Agrees q) {request : Request} (hr : request.isPoll = false) :
    (p.respond scenario request).Alike (q.respond scenario request) := by
  cases request with
  | start =>
    refine Outcome.Alike.map ?_ _
    unfold start
    split
    · exact ⟨rfl, h.goTo _ _⟩
    · exact alike_fail h _
  | execute => exact (alike_execute h).map _
  | advance => exact alike_advance h
  | select index => exact (alike_select h index).map _
  | jump key => exact (alike_jump h key).map _
  | save slot => exact alike_done h (congrArg Reply.saved (h.save slot))
  | load data =>
    refine Outcome.Alike.map ?_ _
    unfold load
    split
    · exact alike_fail h _
    · exact ⟨rfl, .restore data p q⟩
  | record entry =>
    have hrecord : (p.record entry).Agrees (q.record entry) := { h with }
    exact alike_done hrecord rfl
  | markRead line =>
    have hmark : (p.markRead line).Agrees (q.markRead line) :=
      { h with read := congrArg (·.insert line) h.read }
    exact alike_done hmark rfl
  | isRead line => exact alike_done h (congrArg Reply.truth (h.isRead line))
  | isEnded => exact alike_done h (congrArg Reply.truth h.isEnded)
  | eval condition =>
    refine Outcome.Alike.map ?_ _
    unfold eval
    rw [h.memory]
    split
    · exact alike_done h rfl
    · exact alike_fail h _
  | setFlag name value => exact alike_done (h.write (·.setFlag name value)) rfl
  | toggleFlag name =>
    have htoggle := h.write fun memory => { memory with flags := memory.flags.toggle name }
    refine alike_done htoggle ?_
    show Reply.truth ((p.memory.flags.toggle name).isSet name) = _
    rw [h.memory]
    rfl
  | setVariable name value => exact alike_done (h.write (·.setVariable name value)) rfl
  | removeVariable name =>
    have herase := h.write fun memory => { memory with vars := memory.vars.erase name }
    refine alike_done herase ?_
    rw [h.memory]
  | pollCharacters | pollUnlocks => cases hr

/-- Playthroughs that agree go on alike. -/
theorem alike_playOn {requests : List Request} (h : p.Agrees q)
    (hr : ∀ request ∈ requests, request.isPoll = false) :
    List.Forall₂ Outcome.Alike (p.playOn scenario requests) (q.playOn scenario requests) := by
  induction requests generalizing p q with
  | nil => exact .nil
  | cons request rest ih =>
    obtain ⟨hfirst, hrest⟩ := List.forall_mem_cons.1 hr
    have hstep : (p.respond scenario request).Alike (q.respond scenario request) :=
      alike_respond h hfirst
    exact .cons hstep (ih hstep.state hrest)

/-! ## Saving and loading -/

/-- Integer variables survive being saved. -/
theorem ofIntegers_integers {vars : Variables}
    (h : ∀ name value, vars.get? name = some value → value.kind = .int) :
    Variables.ofIntegers vars.integers = vars := by
  apply OrderedMap.ext
  show (vars.entries.filterMap _).map _ = vars.entries
  rw [List.map_filterMap]
  conv_rhs => rw [← @List.filterMap_some _ vars.entries]
  refine List.filterMap_congr ?_
  rintro ⟨name, value⟩ hentry
  have hkind := h name value (OrderedMap.get?_eq_some_iff.2 hentry)
  cases value with
  | int n => rfl
  | _ => cases hkind

theorem toSaved_ofSaved (characters : OrderedMap SavedCharacter) :
    (characters.map ShownCharacter.ofSaved).map ShownCharacter.toSaved = characters := by
  apply OrderedMap.ext
  show (characters.entries.map _).map _ = characters.entries
  rw [List.map_map]
  exact List.map_id _

/-- A playthrough that takes over a saved game agrees with the one it was saved from. -/
theorem agrees_restore_save
    (ints : ∀ name value, p.memory.vars.get? name = some value → value.kind = .int)
    (named : p.scene ≠ some "") (slot : Int) : p.Agrees (q.restore (p.save slot)) := by
  refine ⟨?_, rfl, rfl, ?_, rfl, rfl, rfl, ?_⟩
  · show p.scene = if p.scene.getD "" = "" then none else some (p.scene.getD "")
    cases hscene : p.scene with
    | none => rfl
    | some key =>
      have hkey : key ≠ "" := fun h => named (by rw [hscene, h])
      exact (if_neg hkey).symm
  · show p.memory = ⟨p.memory.flags, .ofIntegers p.memory.vars.integers⟩
    rw [ofIntegers_integers ints]
  · exact (toSaved_ofSaved _).symm

/-- **Resuming.** Let all variables of a playthrough be integers and its scene not be the one without a
name. Then any playthrough of the scenario can load the game saved there, and from then on both answer
the same requests with the same results or faults and agree after each of them. -/
theorem resume_alike {s : Session} (h : s.Reached scenario Session.anyRequest)
    (ints : ∀ name value, s.playback.memory.vars.get? name = some value → value.kind = .int)
    (named : s.playback.scene ≠ some "") (q : Playback) (slot : Int) :
    (q.load scenario (s.playback.save slot)).result = .ok () ∧
      s.playback.Agrees (q.load scenario (s.playback.save slot)).state ∧
      ∀ requests : List Request, (∀ request ∈ requests, request.isPoll = false) →
        List.Forall₂ Outcome.Alike (s.playback.playOn scenario requests)
          ((q.load scenario (s.playback.save slot)).state.playOn scenario requests) := by
  have hcheck := check_save h.valid slot
  have hstate : (q.load scenario (s.playback.save slot)).state = q.restore (s.playback.save slot) := by
    unfold load
    rw [hcheck]
  have hagrees : s.playback.Agrees (q.restore (s.playback.save slot)) :=
    agrees_restore_save ints named slot
  rw [hstate]
  refine ⟨result_load_of_check hcheck, hagrees, ?_⟩
  intro requests hr
  exact alike_playOn hagrees hr

/-- A new playthrough that loads the game from the cellar goes back up and out like the first one. -/
theorem resume_alike_in_cellar :
    Sample.inCellar.Reached Sample.story Session.anyRequest ∧
      Sample.inCellar.playback.memory.vars.entries = [("coins", .int 7)] ∧
      Sample.inCellar.playback.scene = some "cellar" ∧
      List.Forall₂ Outcome.Alike
        (Sample.inCellar.playback.playOn Sample.story [.execute, .execute, .select 0, .isEnded])
        ((load Sample.story (Sample.inCellar.playback.save 1) {}).state.playOn Sample.story
          [.execute, .execute, .select 0, .isEnded]) := by
  have reached : Sample.inCellar.Reached Sample.story Session.anyRequest :=
    Sample.inCellar_reached fun _ _ _ => trivial
  have coins : Sample.inCellar.playback.memory.vars.entries = [("coins", .int 7)] := by decide
  have place : Sample.inCellar.playback.scene = some "cellar" := by decide
  refine ⟨reached, coins, place, (resume_alike reached ?_ ?_ {} 1).2.2 _ (by decide)⟩
  · intro name value hvalue
    rw [OrderedMap.get?_eq_some_iff, coins, List.mem_singleton] at hvalue
    cases hvalue
    rfl
  · rw [place]
    decide

end VisualNovel
