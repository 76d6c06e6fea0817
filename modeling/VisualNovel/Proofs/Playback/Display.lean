import VisualNovel.Proofs.Playback.Session

/-!
# How requests change what is shown

What is on stage and what is unlocked, together with what the host has still to be told of it, is the
display of a playthrough. `Presents` lists everything that a request can do to it: a command on stage
that is executed at the play head, a game that is loaded, and the host's two questions. The list is
complete (`presents_respond`); commands inside branches, failures and moves of the play head are not on it.
-/

namespace VisualNovel

/-- What is on stage and unlocked, and whether the host has still to be told. -/
structure Display where
  stage : Stage
  charactersChanged : Bool
  unlocks : Unlocks
  unlocksChanged : Bool
deriving DecidableEq

/-- A character that is not on stage is not changed. -/
theorem Stage.update_of_absent {stage : Stage} {id : String} (h : stage.characters.get? id = none)
    (f : ShownCharacter → ShownCharacter) : stage.update id f = stage := by
  unfold update
  rw [h]

namespace Playback

def display (p : Playback) : Display :=
  ⟨p.stage, p.charactersChanged, p.unlocks, p.unlocksChanged⟩

/-- The change on stage that a request makes: that of the command at the play head, if the request
executes it. -/
def performs? (scenario : Scenario) (p : Playback) : Request → Option StageCommand
  | .execute =>
    match p.currentCommand? scenario with
    | some (.stage change) => some change
    | _ => none
  | _ => none

/-- How a request can change the display of `p`. -/
inductive Presents (scenario : Scenario) (p : Playback) : Request → Display → Prop
  | stay {request : Request} (idle : p.performs? scenario request = none) :
      Presents scenario p request p.display
  | perform {request : Request} {change : StageCommand}
      (performs : p.performs? scenario request = some change) :
      Presents scenario p request (p.perform change).display
  | load {data : SaveData} (fits : data.check scenario = .ok ()) :
      Presents scenario p (.load data) (p.restore data).display
  | tellCharacters : Presents scenario p .pollCharacters { p.display with charactersChanged := false }
  | tellUnlocks : Presents scenario p .pollUnlocks { p.display with unlocksChanged := false }

variable {scenario : Scenario} {p : Playback}

/-! ## Moves of the play head show nothing -/

theorem display_jump (key : String) : (p.jump scenario key).state.display = p.display := by
  unfold jump
  split <;> rfl

theorem display_call (key returnScene : String) :
    (p.call scenario key returnScene).state.display = p.display := by
  by_cases h : scenario.hasScene key ∧ scenario.hasScene returnScene ∧ p.stack.length < maxCallDepth
  · obtain ⟨hk, hr, room⟩ := h
    rw [call_known hk hr room, Outcome.state_report, display_jump]
    rfl
  · rw [call_refused h]

theorem display_back : (p.back scenario).state.display = p.display := by
  cases top : p.stack.getLast? with
  | none =>
    rw [back_empty top]
    rfl
  | some frame =>
    by_cases h : scenario.hasScene frame.scene
    · obtain ⟨target, ht⟩ := Scenario.hasScene_iff.1 h
      rw [back_known top ht]
      rfl
    · rw [back_missing top h]
      rfl

theorem display_select (index : Int) : (p.select scenario index).state.display = p.display := by
  unfold select
  split
  · rfl
  · split
    · rfl
    · rw [display_jump]
      rfl
  · rfl

/-! ## The list is complete -/

/-- Commands that are not on stage leave the display as it is, and so does what stands in a branch. -/
theorem display_executeCommand {command : Command} (h : ∀ change, command ≠ .stage change) :
    (p.executeCommand scenario command).state.display = p.display := by
  cases command with
  | stage change => exact absurd rfl (h change)
  | modifyVariable name operation =>
    show (p.modifyVariable name operation).state.display = p.display
    unfold modifyVariable
    split <;> rfl
  | branch condition thenDo elseDo =>
    show (p.branch condition thenDo elseDo).state.display = p.display
    unfold branch
    split <;> rfl
  | offer choice =>
    show (p.offer choice).state.display = p.display
    unfold offer
    split <;> rfl
  | flow move =>
    cases move with
    | jump key => exact display_jump key
    | call key returnScene => exact display_call key returnScene
    | back => exact display_back
    | finish => rfl
  | say line => rfl
  | setFlag name value => rfl
  | setVariable name value => rfl
  | wait seconds => rfl
  | audio sound => rfl
  | unknown text => rfl

theorem performs?_of_stage {change : StageCommand}
    (current : p.currentCommand? scenario = some (.stage change)) :
    p.performs? scenario .execute = some change := by
  simp only [performs?, current]

theorem performs?_of_not_stage
    (h : ∀ change, p.currentCommand? scenario ≠ some (.stage change)) :
    p.performs? scenario .execute = none := by
  show (match p.currentCommand? scenario with
    | some (.stage change) => some change
    | _ => none) = none
  split
  · next change current => exact absurd current (h change)
  · rfl

theorem presents_execute : Presents scenario p .execute (p.execute scenario).state.display := by
  by_cases hstage : ∃ change, p.currentCommand? scenario = some (.stage change)
  · obtain ⟨change, current⟩ := hstage
    unfold execute
    rw [current]
    exact .perform (performs?_of_stage current)
  · have idle : p.performs? scenario .execute = none :=
      performs?_of_not_stage fun change current => hstage ⟨change, current⟩
    have hsame : (p.execute scenario).state.display = p.display := by
      unfold execute
      cases current : p.currentCommand? scenario with
      | none => rfl
      | some command =>
        refine display_executeCommand fun change hcommand => ?_
        exact hstage ⟨change, by rw [current, hcommand]⟩
    rw [hsame]
    exact .stay idle

theorem presents_load (data : SaveData) :
    Presents scenario p (.load data) (p.load scenario data).state.display := by
  unfold load
  split
  · exact .stay rfl
  · next fits => exact .load fits

/-- **Changes of the display.** Whatever a request does to the display is on the list. -/
theorem presents_respond (scenario : Scenario) (p : Playback) (request : Request) :
    Presents scenario p request (p.respond scenario request).state.display := by
  cases request with
  | start =>
    show Presents scenario p .start (p.start scenario).state.display
    unfold start
    split <;> exact .stay rfl
  | execute => exact presents_execute
  | advance =>
    show Presents scenario p .advance (p.advance scenario).2.display
    unfold advance
    split
    · exact .stay rfl
    · split <;> exact .stay rfl
  | select index =>
    show Presents scenario p (.select index) (p.select scenario index).state.display
    rw [display_select]
    exact .stay rfl
  | jump key =>
    show Presents scenario p (.jump key) (p.jump scenario key).state.display
    rw [display_jump]
    exact .stay rfl
  | load data => exact presents_load data
  | eval condition =>
    show Presents scenario p (.eval condition) (p.eval condition).state.display
    unfold eval
    split <;> exact .stay rfl
  | pollCharacters => exact .tellCharacters
  | pollUnlocks => exact .tellUnlocks
  | save slot => exact .stay rfl
  | record entry => exact .stay rfl
  | markRead line => exact .stay rfl
  | isRead line => exact .stay rfl
  | isEnded => exact .stay rfl
  | setFlag name value => exact .stay rfl
  | toggleFlag name => exact .stay rfl
  | setVariable name value => exact .stay rfl
  | removeVariable name => exact .stay rfl

end Playback

/-- The changes on stage that requests make, one after another. -/
def Session.performed (scenario : Scenario) (s : Session) : List Request → List StageCommand
  | [] => []
  | request :: rest =>
    (s.playback.performs? scenario request).toList ++
      (s.next scenario request).performed scenario rest

end VisualNovel
