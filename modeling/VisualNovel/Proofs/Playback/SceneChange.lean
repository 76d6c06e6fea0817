import VisualNovel.Proofs.Playback.Calls
import VisualNovel.Proofs.Playback.Choosing

/-!
# Changes of scene

A jump, a call, a return and an answered choice tell the host how the scene before them is left and how the
scene behind them is entered (`Playback.Tells`). All of them jump, but a call and a return change the stack
before they do, a choice sets flags, and a return corrects the index afterwards; so for each it is the scene
before the whole action and the one behind it that count. `Playback.Enters` says where each of them leads.
No other command tells of a change, or makes one (`quiet_executeCommand`).
-/

namespace VisualNovel

open Playback

namespace Playback

/-- Where a request leads that changes the scene. -/
inductive Enters (scenario : Scenario) (p : Playback) : Request → Head → Prop
  | jump (key : String) : Enters scenario p (.jump key) ⟨some key, 0, p.stack⟩
  | choose {index : Int} {option : ChoiceOption} (chosen : p.Chooses scenario index option) :
      Enters scenario p (.select index) ⟨some option.nextScene, 0, p.stack⟩
  | follow {key : String} (current : p.currentCommand? scenario = some (.flow (.jump key))) :
      Enters scenario p .execute ⟨some key, 0, p.stack⟩
  | call {key returnScene : String}
      (current : p.currentCommand? scenario = some (.flow (.call key returnScene))) :
      Enters scenario p .execute ⟨some key, 0, p.stack ++ [⟨returnScene, p.index + 1⟩]⟩
  | back {rest : List Frame} {frame : Frame}
      (current : p.currentCommand? scenario = some (.flow .back))
      (top : p.stack = rest ++ [frame]) :
      Enters scenario p .execute ⟨some frame.scene, frame.resume, rest⟩

/-- The signal tells how the scene of `p`, if any, is left and how the scene of `after` is entered. -/
def Tells (scenario : Scenario) (p after : Playback) (signal : Signal) : Prop :=
  ∃ scene, after.currentScene? scenario = some scene ∧
    signal = .sceneChanged ((p.currentScene? scenario).bind Scene.exitTransition) scene.entryTransition

end Playback

variable {scenario : Scenario} {p after : Playback} {signal : Signal}

/-! ## The four ways into a scene -/

theorem jump_tells {key : String} (h : (p.jump scenario key).result = .ok signal) :
    p.Tells scenario (p.jump scenario key).state signal ∧
      (p.jump scenario key).state.head = ⟨some key, 0, p.stack⟩ := by
  by_cases known : scenario.hasScene key
  · obtain ⟨target, ht⟩ := Scenario.hasScene_iff.1 known
    rw [jump_known ht] at h ⊢
    cases h
    exact ⟨⟨target, ht, rfl⟩, rfl⟩
  · rw [jump_missing known] at h
    cases h

theorem call_tells {key returnScene : String}
    (h : (p.call scenario key returnScene).result = .ok signal) :
    p.Tells scenario (p.call scenario key returnScene).state signal := by
  obtain ⟨returns, known, room⟩ := exists_call_iff.1 ⟨signal, h⟩
  obtain ⟨target, ht⟩ := Scenario.hasScene_iff.1 known
  rw [call_known known returns room, jump_known ht] at h ⊢
  cases h
  exact ⟨target, ht, rfl⟩

theorem back_tells (h : (p.back scenario).result = .ok signal) :
    p.Tells scenario (p.back scenario).state signal ∧
      ∃ rest frame, p.stack = rest ++ [frame] ∧
        (p.back scenario).state.head = ⟨some frame.scene, frame.resume, rest⟩ := by
  cases top : p.stack.getLast? with
  | none =>
    rw [back_empty top] at h
    cases h
  | some frame =>
    by_cases known : scenario.hasScene frame.scene
    · obtain ⟨target, ht⟩ := Scenario.hasScene_iff.1 known
      rw [back_known top ht] at h ⊢
      cases h
      obtain ⟨rest, hstack⟩ := List.getLast?_eq_some_iff.1 top
      refine ⟨⟨target, ht, rfl⟩, rest, frame, hstack, ?_⟩
      show (⟨some frame.scene, frame.resume, p.stack.dropLast⟩ : Head) = _
      rw [hstack, List.dropLast_concat]
    · rw [back_missing top known] at h
      cases h

/-- The flags that an answer sets are not seen by the jump. -/
theorem select_tells {index : Int} (h : (p.select scenario index).result = .ok signal) :
    p.Tells scenario (p.select scenario index).state signal ∧
      ∃ option, p.Chooses scenario index option ∧
        (p.select scenario index).state.head = ⟨some option.nextScene, 0, p.stack⟩ := by
  by_cases chosen : ∃ option, p.Chooses scenario index option
  · obtain ⟨option, chosen⟩ := chosen
    rw [select_of_chooses chosen] at h ⊢
    obtain ⟨tells, hhead⟩ := jump_tells h
    exact ⟨tells, option, chosen, hhead⟩
  · obtain ⟨fault, hselect⟩ := select_of_not_chooses fun option hoption => chosen ⟨option, hoption⟩
    rw [hselect] at h
    cases h

/-! ## All other commands -/

/-- The command goes to a scene. -/
def Command.changesScene : Command → Bool
  | .flow (.jump _) | .flow (.call _ _) | .flow .back => true
  | _ => false

theorem quiet_executeCommand {command : Command} (stays : command.changesScene = false)
    (h : (p.executeCommand scenario command).result = .ok signal) :
    (∀ exit entry, signal ≠ .sceneChanged exit entry) ∧
      (p.executeCommand scenario command).state.head = p.head := by
  cases command with
  | flow move =>
    cases move with
    | finish =>
      cases h
      exact ⟨fun _ _ hsignal => (by cases hsignal), rfl⟩
    | _ => cases stays
  | modifyVariable name operation =>
    refine ⟨?_, head_executeCommand fun flow hflow => (by cases hflow)⟩
    rintro exit entry rfl
    change (p.modifyVariable name operation).result = _ at h
    unfold modifyVariable at h
    split at h <;> cases h
  | branch condition thenDo elseDo =>
    refine ⟨?_, head_executeCommand fun flow hflow => (by cases hflow)⟩
    rintro exit entry rfl
    change (p.branch condition thenDo elseDo).result = _ at h
    unfold Playback.branch at h
    split at h
    · cases h
    · obtain ⟨done, -, hdone⟩ := eq_ok_of_map h
      cases hdone
  | offer choice =>
    refine ⟨?_, head_executeCommand fun flow hflow => (by cases hflow)⟩
    rintro exit entry rfl
    change (p.offer choice).result = _ at h
    unfold Playback.offer at h
    split at h <;> cases h
  | unknown text => cases h
  | _ =>
    cases h
    exact ⟨fun _ _ hsignal => (by cases hsignal), rfl⟩

theorem enters_executeCommand {command : Command} (current : p.currentCommand? scenario = some command)
    (changes : command.changesScene = true)
    (h : (p.executeCommand scenario command).result = .ok signal) :
    p.Tells scenario (p.executeCommand scenario command).state signal ∧
      Enters scenario p .execute (p.executeCommand scenario command).state.head := by
  unfold Command.changesScene at changes
  split at changes
  · next key =>
    have hjump : (p.jump scenario key).result = .ok signal := h
    obtain ⟨tells, hhead⟩ := jump_tells hjump
    refine ⟨tells, ?_⟩
    show Enters scenario p .execute (p.jump scenario key).state.head
    rw [hhead]
    exact .follow current
  · next key returnScene =>
    refine ⟨call_tells h, ?_⟩
    show Enters scenario p .execute (p.call scenario key returnScene).state.head
    rw [head_of_call h]
    exact .call current
  · obtain ⟨tells, rest, frame, top, hhead⟩ := back_tells h
    refine ⟨tells, ?_⟩
    show Enters scenario p .execute (p.back scenario).state.head
    rw [hhead]
    exact .back current top
  · cases changes

theorem Playback.Enters.changesScene {command : Command} {head : Head}
    (h : Enters scenario p .execute head) (current : p.currentCommand? scenario = some command) :
    command.changesScene = true := by
  cases h with
  | follow current' | call current' | back current' =>
    cases current.symm.trans current'
    rfl

/-! ## Requests -/

/-- A signal tells of a change of scene that has been made, or there was none. -/
theorem execute_tells_or_quiet (h : (p.execute scenario).result = .ok signal) :
    (p.Tells scenario (p.execute scenario).state signal ∧
        Enters scenario p .execute (p.execute scenario).state.head) ∨
      ((∀ head, ¬Enters scenario p .execute head) ∧
        (∀ exit entry, signal ≠ .sceneChanged exit entry) ∧
        (p.execute scenario).state.head = p.head) := by
  cases current : p.currentCommand? scenario with
  | none =>
    unfold execute at h
    rw [current] at h
    cases h
  | some command =>
    have hexecute : p.execute scenario = p.executeCommand scenario command := by
      unfold execute
      rw [current]
    rw [hexecute] at h ⊢
    by_cases changes : command.changesScene = true
    · exact .inl (enters_executeCommand current changes h)
    · have stays : command.changesScene = false := by simpa using changes
      exact .inr ⟨fun head enters => changes (enters.changesScene current),
        quiet_executeCommand stays h⟩

theorem tells_or_quiet {request : Request}
    (told : (p.respond scenario request).result = .ok (.signal signal)) :
    (p.Tells scenario (p.respond scenario request).state signal ∧
        Enters scenario p request (p.respond scenario request).state.head) ∨
      (request = .execute ∧ (∀ head, ¬Enters scenario p request head) ∧
        (∀ exit entry, signal ≠ .sceneChanged exit entry) ∧
        (p.respond scenario request).state.head = p.head) := by
  cases request with
  | jump key =>
    obtain ⟨_, hresult, ⟨⟩⟩ := eq_ok_of_map told
    obtain ⟨tells, hhead⟩ := jump_tells hresult
    refine .inl ⟨tells, ?_⟩
    show Enters scenario p (.jump key) (p.jump scenario key).state.head
    rw [hhead]
    exact .jump key
  | select index =>
    obtain ⟨_, hresult, ⟨⟩⟩ := eq_ok_of_map told
    obtain ⟨tells, option, chosen, hhead⟩ := select_tells hresult
    refine .inl ⟨tells, ?_⟩
    show Enters scenario p (.select index) (p.select scenario index).state.head
    rw [hhead]
    exact .choose chosen
  | execute =>
    obtain ⟨_, hresult, ⟨⟩⟩ := eq_ok_of_map told
    rcases execute_tells_or_quiet hresult with entered | quiet
    · exact .inl entered
    · exact .inr ⟨rfl, quiet⟩
  | start | load data | eval condition => obtain ⟨_, _, ⟨⟩⟩ := eq_ok_of_map told
  | _ => cases told

/-- **Changes of scene.** A request that is answered with a signal tells of a change of scene exactly if it
jumps, calls, returns or answers a choice. Then it tells how the scene before it is left, if there is one,
and how the scene behind it is entered, and goes to the start of the scene it names, with the frame of a
call on top, or where the topmost frame tells, which is taken off. Otherwise the play head and the open
calls stay. -/
theorem scene_changes_told {request : Request} {log : List Event}
    (told : p.respond scenario request = ⟨after, log, .ok (.signal signal)⟩) :
    ((∃ exit entry, signal = .sceneChanged exit entry) ↔ ∃ head, Enters scenario p request head) ∧
    (∀ exit entry, signal = .sceneChanged exit entry →
      exit = (p.currentScene? scenario).bind Scene.exitTransition ∧
        (∃ scene, after.currentScene? scenario = some scene ∧ entry = scene.entryTransition) ∧
        Enters scenario p request after.head) ∧
    ((∀ exit entry, signal ≠ .sceneChanged exit entry) → request = .execute ∧ after.head = p.head) := by
  have hresult : (p.respond scenario request).result = .ok (.signal signal) := by rw [told]
  have hcases := tells_or_quiet hresult
  rw [told] at hcases
  rcases hcases with ⟨⟨scene, hscene, rfl⟩, enters⟩ | ⟨hrequest, nowhere, quiet, hhead⟩
  · refine ⟨⟨fun _ => ⟨_, enters⟩, fun _ => ⟨_, _, rfl⟩⟩, ?_, fun quiet => absurd rfl (quiet _ _)⟩
    rintro exit entry ⟨⟩
    exact ⟨rfl, ⟨scene, hscene, rfl⟩, enters⟩
  · refine ⟨⟨?_, ?_⟩, ?_, fun _ => ⟨hrequest, hhead⟩⟩
    · rintro ⟨exit, entry, hsignal⟩
      exact absurd hsignal (quiet exit entry)
    · rintro ⟨head, enters⟩
      exact absurd enters (nowhere head)
    · intro exit entry hsignal
      exact absurd hsignal (quiet exit entry)

namespace Sample

/-- The hall of a house, which is found under another key than its id. -/
def foyer : Scene :=
  ⟨"foyer", "Foyer", [.flow (.call "cellar" "hall"), .wait 1.0, .flow (.jump "hall")],
    some .crossfade, some .fade⟩

def vaultedCellar : Scene :=
  ⟨"cellar", "Cellar", [.flow .back], some .slowFade, none⟩

/-- A house with these two rooms. -/
def house : Scenario :=
  ⟨⟨"house", "House", none, none, none⟩, "hall", .ofList [("hall", foyer), ("cellar", vaultedCellar)], []⟩

/-- The playthrough at the way out of the cellar. -/
def inVaultedCellar : Playback :=
  (Session.after house ⟨{}, []⟩ [.jump "hall", .execute]).playback

/-- The playthrough back in the hall. -/
def backInHall : Playback :=
  (Session.after house ⟨inVaultedCellar, []⟩ [.execute]).playback

/-- The playthrough at the jump from the hall to itself. -/
def atMirror : Playback :=
  (Session.after house ⟨backInHall, []⟩ [.advance]).playback

end Sample

/-- The return out of the cellar, the pause behind it, and the jump from the hall into itself. -/
theorem scene_changes_told_in_house :
    (∃ after log, Sample.inVaultedCellar.respond Sample.house .execute =
        ⟨after, log, .ok (.signal (.sceneChanged none (some .crossfade)))⟩ ∧
      (∃ scene, after.currentScene? Sample.house = some scene ∧
        scene.entryTransition = some .crossfade) ∧
      Enters Sample.house Sample.inVaultedCellar .execute after.head ∧
      after.head = ⟨some "hall", 1, []⟩) ∧
    (∃ after log, Sample.backInHall.respond Sample.house .execute =
        ⟨after, log, .ok (.signal (.pause 1.0))⟩ ∧
      after.head = Sample.backInHall.head) ∧
    (∃ after log, Sample.atMirror.respond Sample.house .execute =
        ⟨after, log, .ok (.signal (.sceneChanged (some .fade) (some .crossfade)))⟩ ∧
      some .fade = (Sample.atMirror.currentScene? Sample.house).bind Scene.exitTransition ∧
      after.head = ⟨some "hall", 0, []⟩) := by
  refine ⟨⟨_, _, rfl, ?_⟩, ⟨_, _, rfl, ?_⟩, ⟨_, _, rfl, ?_⟩⟩
  · have told : Sample.inVaultedCellar.respond Sample.house .execute =
        ⟨_, _, .ok (.signal (.sceneChanged none (some .crossfade)))⟩ := rfl
    obtain ⟨-, changed, -⟩ := scene_changes_told told
    obtain ⟨-, ⟨scene, hscene, hentry⟩, enters⟩ := changed _ _ rfl
    exact ⟨⟨scene, hscene, hentry.symm⟩, enters, rfl⟩
  · have told : Sample.backInHall.respond Sample.house .execute =
        ⟨_, _, .ok (.signal (.pause 1.0))⟩ := rfl
    obtain ⟨-, -, stays⟩ := scene_changes_told told
    exact (stays fun _ _ hsignal => (by cases hsignal)).2
  · have told : Sample.atMirror.respond Sample.house .execute =
        ⟨_, _, .ok (.signal (.sceneChanged (some .fade) (some .crossfade)))⟩ := rfl
    obtain ⟨-, changed, -⟩ := scene_changes_told told
    exact ⟨(changed _ _ rfl).1, rfl⟩

end VisualNovel
