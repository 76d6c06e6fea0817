import VisualNovel.Playback.Request
import VisualNovel.Proofs.Playback.Outcome

/-!
# How requests move the play head

The play head is a scene, an index and the calls that are open there. `Moves` lists everything that a
request can do to it, with what the code has checked by then; `moves_respond` says that the list is
complete. What holds of every playthrough's place is read off this list, not off the requests.
-/

namespace VisualNovel

/-- Where a playthrough stands, and the calls that are open there. -/
structure Head where
  scene : Option String
  index : Int
  stack : List Frame
deriving DecidableEq

theorem Scenario.hasScene_iff {scenario : Scenario} {key : String} :
    scenario.hasScene key ↔ ∃ scene, scenario.scene? key = some scene := by
  unfold hasScene
  exact Option.isSome_iff_exists

namespace Playback

def head (p : Playback) : Head := ⟨p.scene, p.index, p.stack⟩

/-- The play head at the first command of a scene. -/
def headAt (key : String) (stack : List Frame) : Head := ⟨some key, 0, stack⟩

/-- The play head of a saved game. -/
def savedHead (data : SaveData) : Head :=
  ⟨if data.scene = "" then none else some data.scene, data.index, data.stack⟩

/-- How a request can move the play head of `p`. -/
inductive Moves (scenario : Scenario) (p : Playback) : Request → Head → Prop
  | stay (request : Request) : Moves scenario p request p.head
  | start (known : scenario.hasScene scenario.startScene) :
      Moves scenario p .start (headAt scenario.startScene p.stack)
  | advance : Moves scenario p .advance ⟨p.scene, p.index + 1, p.stack⟩
  | jump {key : String} (known : scenario.hasScene key) :
      Moves scenario p (.jump key) (headAt key p.stack)
  | select {index : Int} {choice : Choice} {option : ChoiceOption}
      (current : p.currentCommand? scenario = some (.offer choice))
      (offered : option ∈ choice.options) (known : scenario.hasScene option.nextScene) :
      Moves scenario p (.select index) (headAt option.nextScene p.stack)
  | follow {key : String} (current : p.currentCommand? scenario = some (.flow (.jump key)))
      (known : scenario.hasScene key) : Moves scenario p .execute (headAt key p.stack)
  | call {key returnScene : String}
      (current : p.currentCommand? scenario = some (.flow (.call key returnScene)))
      (known : scenario.hasScene key) (returns : scenario.hasScene returnScene)
      (room : p.stack.length < maxCallDepth) :
      Moves scenario p .execute (headAt key (p.stack ++ [⟨returnScene, p.index + 1⟩]))
  | back {frame : Frame} (current : p.currentCommand? scenario = some (.flow .back))
      (top : p.stack.getLast? = some frame) (known : scenario.hasScene frame.scene) :
      Moves scenario p .execute ⟨some frame.scene, frame.resume, p.stack.dropLast⟩
  /-- A return to a scene that does not exist loses its frame and goes nowhere. -/
  | strand {frame : Frame} (current : p.currentCommand? scenario = some (.flow .back))
      (top : p.stack.getLast? = some frame) (missing : ¬scenario.hasScene frame.scene) :
      Moves scenario p .execute ⟨p.scene, p.index, p.stack.dropLast⟩
  | load {data : SaveData} (fits : data.check scenario = .ok ()) :
      Moves scenario p (.load data) (savedHead data)

variable {scenario : Scenario} {p : Playback}

/-! ## What stands at the play head -/

theorem mem_of_index {α : Type} {l : List α} {index : Int} {a : α}
    (h : (if index < 0 then none else l[index.toNat]?) = some a) : a ∈ l := by
  split at h
  · cases h
  · exact List.mem_of_getElem? h

/-- The current command stands in the current scene. -/
theorem mem_commands_of_current_scene {command : Command}
    (h : p.currentCommand? scenario = some command) :
    ∃ key scene, p.scene = some key ∧ scenario.scene? key = some scene ∧
      command ∈ scene.commands := by
  obtain ⟨scene, hs, hc⟩ := Option.bind_eq_some_iff.1 h
  obtain ⟨key, hkey, hk⟩ := Option.bind_eq_some_iff.1 hs
  exact ⟨key, scene, hkey, hk, mem_of_index hc⟩

/-- The current command stands in a scene of the scenario. -/
theorem mem_commands_of_current {command : Command}
    (h : p.currentCommand? scenario = some command) :
    ∃ key scene, scenario.scene? key = some scene ∧ command ∈ scene.commands := by
  obtain ⟨key, scene, _, hs, hc⟩ := mem_commands_of_current_scene h
  exact ⟨key, scene, hs, hc⟩

/-- A saved game has no other scene than the playthrough it was saved from. -/
theorem scene_of_savedHead_save {slot : Int} {key : String}
    (h : (savedHead (p.save slot)).scene = some key) : p.scene = some key := by
  cases hs : p.scene with
  | none => simp [savedHead, save, hs] at h
  | some current =>
    by_cases he : current = ""
    · simp [savedHead, save, hs, he] at h
    · simpa [savedHead, save, hs, he] using h

/-! ## Jumps, calls and returns -/

theorem jump_known {key : String} {target : Scene} (h : scenario.scene? key = some target) :
    p.jump scenario key =
      ⟨{ p with scene := some key, index := 0 }, [.sceneChanged p.scene key],
        .ok (.sceneChanged ((p.currentScene? scenario).bind Scene.exitTransition)
          target.entryTransition)⟩ := by
  unfold jump
  rw [h]

theorem jump_missing {key : String} (h : ¬scenario.hasScene key) :
    p.jump scenario key = .fail p (.sceneMissing key) := by
  have hnone : scenario.scene? key = none := by
    simpa [Scenario.hasScene] using h
  unfold jump
  rw [hnone]

theorem head_jump_known {key : String} (h : scenario.hasScene key) :
    (p.jump scenario key).state.head = headAt key p.stack := by
  obtain ⟨target, ht⟩ := Scenario.hasScene_iff.1 h
  rw [jump_known ht]
  rfl

/-- A jump goes to the first command of its scene, or changes nothing. -/
theorem head_jump (scenario : Scenario) (p : Playback) (key : String) :
    scenario.hasScene key ∧ (p.jump scenario key).state.head = headAt key p.stack ∨
      (p.jump scenario key).state.head = p.head := by
  by_cases h : scenario.hasScene key
  · exact .inl ⟨h, head_jump_known h⟩
  · rw [jump_missing h]
    exact .inr rfl

/-- A call that passes its checks pushes the place behind it and jumps. -/
theorem call_known {key returnScene : String} (hk : scenario.hasScene key)
    (hr : scenario.hasScene returnScene) (room : p.stack.length < maxCallDepth) :
    p.call scenario key returnScene =
      (Playback.jump scenario key { p with stack := p.stack ++ [⟨returnScene, p.index + 1⟩] }).report
        (.called key (p.stack.length + 1) returnScene (p.index + 1)) := by
  unfold call
  simp only [hk, hr, Bool.not_true, Bool.false_eq_true, if_false, Nat.not_le.2 room,
    List.length_append, List.length_singleton]

/-- A call that fails one of its checks changes nothing. -/
theorem call_refused {key returnScene : String}
    (h : ¬(scenario.hasScene key ∧ scenario.hasScene returnScene ∧ p.stack.length < maxCallDepth)) :
    (p.call scenario key returnScene).state = p := by
  unfold call
  split
  · rfl
  · split
    · rfl
    · split
      · rfl
      · exact absurd ⟨by simp_all, by simp_all, by omega⟩ h

/-- A return to a scene that exists goes on at the place of the newest frame. -/
theorem back_known {frame : Frame} {target : Scene} (top : p.stack.getLast? = some frame)
    (h : scenario.scene? frame.scene = some target) :
    p.back scenario =
      ⟨{ p with scene := some frame.scene, index := frame.resume, stack := p.stack.dropLast },
        [.sceneChanged p.scene frame.scene,
          .returned frame.scene frame.resume (p.stack.length - 1)],
        .ok (.sceneChanged ((p.currentScene? scenario).bind Scene.exitTransition)
          target.entryTransition)⟩ := by
  unfold back
  rw [top]
  simp only
  rw [jump_known h]
  simp only [Outcome.andThen, List.length_dropLast, List.cons_append, List.nil_append]
  rfl

theorem back_empty (h : p.stack.getLast? = none) :
    p.back scenario = .fail p .nothingToReturnTo := by
  unfold back
  rw [h]

theorem back_missing {frame : Frame} (top : p.stack.getLast? = some frame)
    (h : ¬scenario.hasScene frame.scene) :
    p.back scenario = .fail { p with stack := p.stack.dropLast } (.sceneMissing frame.scene) := by
  unfold back
  rw [top]
  simp only
  rw [jump_missing h]
  rfl

/-! ## The list is complete -/

theorem moves_call {key returnScene : String}
    (current : p.currentCommand? scenario = some (.flow (.call key returnScene))) :
    Moves scenario p .execute (p.call scenario key returnScene).state.head := by
  by_cases h : scenario.hasScene key ∧ scenario.hasScene returnScene ∧ p.stack.length < maxCallDepth
  · obtain ⟨hk, hr, room⟩ := h
    rw [call_known hk hr room, Outcome.state_report, head_jump_known hk]
    exact .call current hk hr room
  · rw [call_refused h]
    exact .stay .execute

theorem moves_back (current : p.currentCommand? scenario = some (.flow .back)) :
    Moves scenario p .execute (p.back scenario).state.head := by
  cases top : p.stack.getLast? with
  | none =>
    rw [back_empty top]
    exact .stay .execute
  | some frame =>
    by_cases h : scenario.hasScene frame.scene
    · obtain ⟨target, ht⟩ := Scenario.hasScene_iff.1 h
      rw [back_known top ht]
      exact .back current top h
    · rw [back_missing top h]
      exact .strand current top h

/-- Commands outside of flow leave the play head where it is. -/
theorem head_executeCommand {command : Command} (h : ∀ flow, command ≠ .flow flow) :
    (p.executeCommand scenario command).state.head = p.head := by
  cases command with
  | flow flow => exact absurd rfl (h flow)
  | modifyVariable name operation =>
    show (p.modifyVariable name operation).state.head = p.head
    unfold modifyVariable
    split <;> rfl
  | branch condition thenDo elseDo =>
    show (p.branch condition thenDo elseDo).state.head = p.head
    unfold branch
    split <;> rfl
  | offer choice =>
    show (p.offer choice).state.head = p.head
    unfold offer
    split <;> rfl
  | say line => rfl
  | setFlag name value => rfl
  | setVariable name value => rfl
  | wait seconds => rfl
  | stage change => rfl
  | audio sound => rfl
  | unknown text => rfl

theorem moves_execute : Moves scenario p .execute (p.execute scenario).state.head := by
  unfold execute
  cases current : p.currentCommand? scenario with
  | none => exact .stay .execute
  | some command =>
    by_cases hflow : ∃ flow, command = .flow flow
    · obtain ⟨flow, rfl⟩ := hflow
      cases flow with
      | jump key =>
        show Moves scenario p .execute (p.jump scenario key).state.head
        rcases head_jump scenario p key with ⟨known, h⟩ | h
        · rw [h]
          exact .follow current known
        · rw [h]
          exact .stay .execute
      | call key returnScene => exact moves_call current
      | back => exact moves_back current
      | finish => exact .stay .execute
    · show Moves scenario p .execute (p.executeCommand scenario command).state.head
      rw [head_executeCommand fun flow h => hflow ⟨flow, h⟩]
      exact .stay .execute

/-- A choice that is answered jumps to the scene of one of its options. -/
theorem moves_select (index : Int) :
    Moves scenario p (.select index) (p.select scenario index).state.head := by
  unfold select
  cases current : p.currentCommand? scenario with
  | none => exact .stay _
  | some command =>
    cases command with
    | offer choice =>
      simp only
      split
      · exact .stay _
      · next option hsel =>
        have offered : option ∈ choice.options := mem_of_index hsel
        -- the flags of the option are set before the jump, and the play head does not see them
        generalize hq : ({ p with
          memory := { p.memory with flags := p.memory.flags.setAll option.flagsToSet } } : Playback) = q
        have hstack : q.stack = p.stack := by rw [← hq]
        have hhead : q.head = p.head := by rw [← hq]; rfl
        rcases head_jump scenario q option.nextScene with ⟨known, h⟩ | h
        · rw [h, hstack]
          exact .select current offered known
        · rw [h, hhead]
          exact .stay _
    | _ => exact .stay _

theorem moves_load (data : SaveData) :
    Moves scenario p (.load data) (p.load scenario data).state.head := by
  unfold load
  split
  · exact .stay _
  · next fits => exact .load fits

theorem moves_start : Moves scenario p .start (p.start scenario).state.head := by
  unfold start
  split
  · next known => exact .start known
  · exact .stay _

theorem moves_advance : Moves scenario p .advance (p.advance scenario).2.head := by
  unfold advance
  split
  · exact .stay _
  · split
    · exact .advance
    · exact .stay _

/-- **Moves of the play head.** Whatever a request does to the play head is on the list. -/
theorem moves_respond (scenario : Scenario) (p : Playback) (request : Request) :
    Moves scenario p request (p.respond scenario request).state.head := by
  cases request with
  | start => exact moves_start
  | execute => exact moves_execute
  | advance => exact moves_advance
  | select index => exact moves_select index
  | jump key =>
    show Moves scenario p (.jump key) (p.jump scenario key).state.head
    rcases head_jump scenario p key with ⟨known, h⟩ | h
    · rw [h]
      exact .jump known
    · rw [h]
      exact .stay _
  | load data => exact moves_load data
  | eval condition =>
    show Moves scenario p (.eval condition) (p.eval condition).state.head
    unfold eval
    split <;> exact .stay _
  | save slot => exact .stay _
  | record entry => exact .stay _
  | markRead line => exact .stay _
  | isRead line => exact .stay _
  | isEnded => exact .stay _
  | setFlag name value => exact .stay _
  | toggleFlag name => exact .stay _
  | setVariable name value => exact .stay _
  | removeVariable name => exact .stay _
  | pollCharacters => exact .stay _
  | pollUnlocks => exact .stay _

end Playback

end VisualNovel
