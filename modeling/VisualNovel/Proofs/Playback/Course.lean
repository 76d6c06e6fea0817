import VisualNovel.Proofs.Playback.Refusal

/-!
# The course of a branch

A branch runs its commands on the memory alone, one inside the other. At the top of a scene the host
executes the same commands one by one.

1. `Memory.ComesTo` lists the commands that a run comes to, at every depth, each with the memory it finds.
2. The course of a run (`Memory.course`) are these commands in a row, with every branch replaced by the arm
   taken: the condition is read before the arm, on the memory that the commands before it left. Running the
   course is running the branch (`runAll_courseAll`).
3. As long as a run comes to commands that work on the memory only, executing them one after another in a
   scene is running them (`playThrough_eq_runAll`), and so is executing their course
   (`branch_runs_as_scene`).
-/

namespace VisualNovel

open Playback

/-- A run of `command` on `memory` comes to `inner`, the command itself or one inside an arm taken, and
finds the memory `there`. -/
inductive Memory.ComesTo : Memory → Command → Command → Memory → Prop
  | self {memory : Memory} {command : Command} : ComesTo memory command command memory
  | inside {memory there : Memory} {condition : Condition} {thenDo elseDo before rest : List Command}
      {answer : Bool} {command inner : Command}
      (answers : memory.eval condition = .ok answer)
      (arm : (if answer then thenDo else elseDo) = before ++ command :: rest)
      (ran : (memory.runAll before).result = .ok ())
      (within : ComesTo (memory.runAll before).state command inner there) :
      ComesTo memory (.branch condition thenDo elseDo) inner there

/-- The command writes flags or variables, or branches on them. -/
def Command.worksOnMemory : Command → Bool
  | .setFlag .. | .setVariable .. | .modifyVariable .. | .branch .. => true
  | _ => false

namespace Memory

mutual

/-- The commands that a run of a command comes to, with every branch replaced by the course of the arm
taken. A branch whose condition has no answer stays. -/
def course (memory : Memory) : Command → List Command
  | .branch condition thenDo elseDo =>
    match memory.eval condition with
    | .ok true => courseAll memory thenDo
    | .ok false => courseAll memory elseDo
    | .error _ => [.branch condition thenDo elseDo]
  | command => [command]

/-- The courses of commands one after another, up to the first that fails. -/
def courseAll (memory : Memory) : List Command → List Command
  | [] => []
  | command :: rest =>
    course memory command ++
      match (memory.run command).result with
      | .ok () => courseAll (memory.run command).state rest
      | .error _ => []

end

variable {memory there : Memory} {command inner : Command} {commands : List Command}

theorem course_of_simple (simple : ¬command.IsBranch) : memory.course command = [command] := by
  unfold course
  split
  · exact absurd ⟨_, _, _, rfl⟩ simple
  · rfl

theorem course_branch (memory : Memory) (condition : Condition) (thenDo elseDo : List Command) :
    memory.course (.branch condition thenDo elseDo) =
      match memory.eval condition with
      | .ok answer => memory.courseAll (if answer then thenDo else elseDo)
      | .error _ => [.branch condition thenDo elseDo] := by
  rw [course]
  cases memory.eval condition with
  | ok answer => cases answer <;> rfl
  | error fault => rfl

/-! ## Running the course -/

theorem runAll_nil (memory : Memory) : memory.runAll [] = .done memory () := by
  rw [runAll]

theorem runAll_append (memory : Memory) (early late : List Command) :
    memory.runAll (early ++ late) = (memory.runAll early).andThen fun after _ => after.runAll late := by
  induction early generalizing memory with
  | nil =>
    rw [List.nil_append, runAll_nil]
    rfl
  | cons command rest ih =>
    rw [List.cons_append, runAll_cons, runAll_cons, Outcome.andThen_assoc]
    congr 1
    funext after _
    exact ih after

theorem runAll_singleton (memory : Memory) (command : Command) :
    memory.runAll [command] = memory.run command := by
  have hnil : (fun (after : Memory) (_ : Unit) => after.runAll []) =
      fun after _ => .done after () := by
    funext after _
    exact runAll_nil after
  rw [runAll_cons, hnil, Outcome.andThen_done]

mutual

theorem runAll_course (memory : Memory) (command : Command) :
    memory.runAll (memory.course command) = memory.run command := by
  by_cases hb : command.IsBranch
  · obtain ⟨condition, thenDo, elseDo, rfl⟩ := hb
    rw [course_branch, run_branch]
    cases heval : memory.eval condition with
    | ok answer =>
      cases answer with
      | true => exact runAll_courseAll memory thenDo
      | false => exact runAll_courseAll memory elseDo
    | error fault =>
      simp only
      rw [runAll_singleton, run_branch, heval]
  · rw [course_of_simple hb, runAll_singleton]
termination_by sizeOf command

/-- Running the course of commands is running the commands. -/
theorem runAll_courseAll (memory : Memory) (commands : List Command) :
    memory.runAll (memory.courseAll commands) = memory.runAll commands := by
  cases commands with
  | nil => rw [courseAll]
  | cons command rest =>
    rw [courseAll, runAll_append, runAll_course memory command, runAll_cons]
    unfold Outcome.andThen
    cases (memory.run command).result with
    | error fault => rfl
    | ok done =>
      simp only
      rw [runAll_courseAll (memory.run command).state rest]
termination_by sizeOf commands

end

/-! ## What a run comes to -/

/-- Commands that are all run before one of them leave it its memory. -/
theorem runAll_of_ran {before rest : List Command} (ran : (memory.runAll before).result = .ok ()) :
    (memory.runAll (before ++ command :: rest)).state =
        ((memory.runAll before).state.runAll (command :: rest)).state ∧
      (memory.runAll (before ++ command :: rest)).result =
        ((memory.runAll before).state.runAll (command :: rest)).result := by
  rw [runAll_append]
  exact Outcome.andThen_of_ok ran _

/-- What a command does that fails, every run does that comes to it. -/
theorem ComesTo.fails {fault : Fault} (h : memory.ComesTo command inner there)
    (hf : (there.run inner).result = .error fault) :
    (memory.run command).result = .error fault ∧
      (memory.run command).state = (there.run inner).state := by
  induction h with
  | self => exact ⟨hf, rfl⟩
  | @inside memory there condition thenDo elseDo before rest answer command inner answers arm ran _ ih =>
    obtain ⟨hresult, hstate⟩ := ih hf
    obtain ⟨hstate', hresult'⟩ := Outcome.andThen_of_error hresult fun after _ => after.runAll rest
    rw [run_branch, answers]
    simp only
    rw [arm, (runAll_of_ran ran).1, (runAll_of_ran ran).2, runAll_cons, hstate', hresult']
    exact ⟨rfl, hstate⟩

theorem ComesTo.occurs (h : memory.ComesTo command inner there) : inner.Occurs command := by
  induction h with
  | self => exact .self
  | @inside _ _ _ thenDo elseDo _ _ answer command _ _ arm _ _ ih =>
    refine .inside ?_ ih
    have hmem : command ∈ (if answer then thenDo else elseDo) := by
      rw [arm]
      exact List.mem_append_right _ List.mem_cons_self
    cases answer with
    | true => exact .inl hmem
    | false => exact .inr hmem

mutual

theorem comesTo_of_mem_course (command : Command) {memory : Memory} {inner : Command}
    (h : inner ∈ memory.course command) : ∃ there, memory.ComesTo command inner there := by
  by_cases hb : command.IsBranch
  · obtain ⟨condition, thenDo, elseDo, rfl⟩ := hb
    rw [course_branch] at h
    cases heval : memory.eval condition with
    | ok answer =>
      rw [heval] at h
      cases answer with
      | true =>
        obtain ⟨before, outer, rest, there, harm, ran, comes⟩ := comesTo_of_mem_courseAll thenDo h
        exact ⟨there, .inside heval harm ran comes⟩
      | false =>
        obtain ⟨before, outer, rest, there, harm, ran, comes⟩ := comesTo_of_mem_courseAll elseDo h
        exact ⟨there, .inside heval harm ran comes⟩
    | error fault =>
      rw [heval] at h
      rw [List.mem_singleton.1 h]
      exact ⟨memory, .self⟩
  · rw [course_of_simple hb] at h
    rw [List.mem_singleton.1 h]
    exact ⟨memory, .self⟩
termination_by sizeOf command

theorem comesTo_of_mem_courseAll (commands : List Command) {memory : Memory} {inner : Command}
    (h : inner ∈ memory.courseAll commands) :
    ∃ before command rest there, commands = before ++ command :: rest ∧
      (memory.runAll before).result = .ok () ∧
      (memory.runAll before).state.ComesTo command inner there := by
  cases commands with
  | nil =>
    rw [courseAll] at h
    cases h
  | cons command rest =>
    rw [courseAll] at h
    rcases List.mem_append.1 h with hfirst | hrest
    · obtain ⟨there, comes⟩ := comesTo_of_mem_course command hfirst
      refine ⟨[], command, rest, there, rfl, by rw [runAll_nil]; rfl, ?_⟩
      rw [runAll_nil]
      exact comes
    · cases hrun : (memory.run command).result with
      | error fault =>
        rw [hrun] at hrest
        cases hrest
      | ok done =>
        rw [hrun] at hrest
        obtain ⟨before, outer, more, there, heq, ran, comes⟩ := comesTo_of_mem_courseAll rest hrest
        obtain ⟨hstate, hresult⟩ := Outcome.andThen_of_ok hrun fun after _ => after.runAll before
        refine ⟨command :: before, outer, more, there, by rw [heq, List.cons_append], ?_, ?_⟩
        · rw [runAll_cons, hresult]
          exact ran
        · rw [runAll_cons, hstate]
          exact comes
termination_by sizeOf commands

end

/-- Every command that a run of the list comes to, at its top, works on the memory. -/
def StaysInMemory (memory : Memory) (commands : List Command) : Prop :=
  ∀ before command rest, commands = before ++ command :: rest →
    (memory.runAll before).result = .ok () → command.worksOnMemory = true

theorem StaysInMemory.tail {rest : List Command} (h : memory.StaysInMemory (command :: rest))
    (ran : (memory.run command).result = .ok ()) : (memory.run command).state.StaysInMemory rest := by
  intro before inner more heq hbefore
  refine h (command :: before) inner more (by rw [heq, List.cons_append]) ?_
  rw [runAll_cons, (Outcome.andThen_of_ok ran _).2]
  exact hbefore

end Memory

/-! ## Executing in a scene -/

namespace Playback

/-- Executes commands one after another, `count` of them: execute, then advance, up to the first failure. -/
def playThrough (scenario : Scenario) : Nat → Playback → Outcome Playback Unit
  | 0, p => .done p ()
  | count + 1, p =>
    (p.execute scenario).andThen fun after _ => playThrough scenario count (after.advance scenario).2

/-- The play head stands in front of these commands in its scene. -/
def StandsBefore (scenario : Scenario) (p : Playback) (commands : List Command) : Prop :=
  ∃ scene before after, p.currentScene? scenario = some scene ∧
    scene.commands = before ++ commands ++ after ∧ p.index = before.length

end Playback

variable {scenario : Scenario} {p : Playback} {command : Command} {commands : List Command}

theorem Playback.StandsBefore.current (h : p.StandsBefore scenario (command :: commands)) :
    p.currentCommand? scenario = some command := by
  obtain ⟨scene, before, after, hscene, hcommands, hindex⟩ := h
  unfold currentCommand? Scene.command?
  rw [hscene, hindex]
  simp [hcommands]

/-- After a command that stayed in its place the host advances to the next one. -/
theorem Playback.StandsBefore.next (h : p.StandsBefore scenario (command :: commands)) (memory : Memory) :
    (Playback.advance scenario { p with memory }).2 = { p with memory, index := p.index + 1 } ∧
      StandsBefore scenario { p with memory, index := p.index + 1 } commands := by
  obtain ⟨scene, before, after, hscene, hcommands, hindex⟩ := h
  constructor
  · have hlt : p.index < scene.commands.length := by
      rw [hindex, hcommands]
      simp only [List.length_append, List.length_cons]
      omega
    have hcurrent : currentScene? scenario { p with memory } = some scene := hscene
    unfold advance
    rw [hcurrent]
    simp only [if_pos hlt]
  · refine ⟨scene, before ++ [command], after, hscene, by rw [hcommands]; simp, ?_⟩
    show p.index + 1 = _
    rw [hindex, List.length_append, List.length_singleton]
    omega

/-- A command that works on the memory does the same at the top of a scene as inside a branch. -/
theorem execute_of_worksOnMemory (current : p.currentCommand? scenario = some command)
    (works : command.worksOnMemory = true) :
    (p.execute scenario).state = { p with memory := (p.memory.run command).state } ∧
      (p.execute scenario).result = (p.memory.run command).result.map fun _ => .proceed := by
  cases command with
  | branch condition thenDo elseDo => exact execute_branch current
  | setFlag name value =>
    unfold execute Memory.run
    rw [current]
    exact ⟨rfl, rfl⟩
  | setVariable name value =>
    unfold execute Memory.run
    rw [current]
    exact ⟨rfl, rfl⟩
  | modifyVariable name operation =>
    unfold execute Memory.run
    rw [current]
    show (p.modifyVariable name operation).state = _ ∧ (p.modifyVariable name operation).result = _
    unfold modifyVariable
    cases p.memory.modify name operation with
    | ok after => exact ⟨rfl, rfl⟩
    | error fault => exact ⟨rfl, rfl⟩
  | _ => cases works

/-- **Runs of commands.** Commands that stay in the memory, executed one after another in a scene, do what
running them does. -/
theorem playThrough_eq_runAll (placed : p.StandsBefore scenario commands)
    (works : p.memory.StaysInMemory commands) :
    (p.playThrough scenario commands.length).state.memory = (p.memory.runAll commands).state ∧
      (p.playThrough scenario commands.length).result = (p.memory.runAll commands).result := by
  induction commands generalizing p with
  | nil =>
    rw [Memory.runAll_nil]
    exact ⟨rfl, rfl⟩
  | cons command rest ih =>
    have hworks : command.worksOnMemory = true :=
      works [] command rest rfl (by rw [Memory.runAll_nil]; rfl)
    obtain ⟨hstate, hresult⟩ := execute_of_worksOnMemory placed.current hworks
    rw [List.length_cons, playThrough, Memory.runAll_cons]
    cases hrun : (p.memory.run command).result with
    | error fault =>
      rw [hrun] at hresult
      obtain ⟨hfirst, hfailed⟩ := Outcome.andThen_of_error hresult
        fun after _ => playThrough scenario rest.length (after.advance scenario).2
      obtain ⟨hfirst', hfailed'⟩ := Outcome.andThen_of_error hrun fun after _ => after.runAll rest
      rw [hfirst, hfailed, hfirst', hfailed', hstate]
      exact ⟨rfl, rfl⟩
    | ok done =>
      rw [hrun] at hresult
      obtain ⟨hnext, hgoes⟩ := Outcome.andThen_of_ok hresult
        fun after _ => playThrough scenario rest.length (after.advance scenario).2
      obtain ⟨hnext', hgoes'⟩ := Outcome.andThen_of_ok hrun fun after _ => after.runAll rest
      obtain ⟨hadvance, hplaced⟩ := placed.next (p.memory.run command).state
      rw [hnext, hgoes, hnext', hgoes', hstate, hadvance]
      exact ih hplaced (works.tail hrun)

/-- **Branches.** If a branch of which the condition has an answer comes to no commands but those that work
on the memory, then executing it leaves the memory, and fails with the fault if any, that the commands of
its arm do when they are executed one after another in a scene, from the same memory. It is the same with
the course of the arm in their place, in which the arms of nested branches stand for these. -/
theorem branch_runs_as_scene {condition : Condition} {thenDo elseDo : List Command} {answer : Bool}
    (current : p.currentCommand? scenario = some (.branch condition thenDo elseDo))
    (answers : p.memory.eval condition = .ok answer)
    (works : ∀ inner there, p.memory.ComesTo (.branch condition thenDo elseDo) inner there →
      inner.worksOnMemory = true)
    (listed : commands = (if answer then thenDo else elseDo) ∨
      commands = p.memory.courseAll (if answer then thenDo else elseDo))
    {other : Scenario} {q : Playback} (placed : q.StandsBefore other commands)
    (same : q.memory = p.memory) :
    (q.playThrough other commands.length).state.memory = (p.execute scenario).state.memory ∧
      (q.playThrough other commands.length).result = (p.execute scenario).result.map fun _ => () := by
  have stays : p.memory.StaysInMemory commands := by
    intro before command rest heq ran
    rcases listed with harm | hcourse
    · exact works command _ (.inside answers (harm.symm.trans heq) ran .self)
    · have hmem : command ∈ p.memory.courseAll (if answer then thenDo else elseDo) := by
        rw [← hcourse, heq]
        exact List.mem_append_right _ List.mem_cons_self
      obtain ⟨early, outer, late, there, harm, ran', comes⟩ := Memory.comesTo_of_mem_courseAll _ hmem
      exact works command there (.inside answers harm ran' comes)
  have hrun : p.memory.runAll commands = p.memory.run (.branch condition thenDo elseDo) := by
    rw [Memory.run_branch, answers]
    rcases listed with rfl | rfl
    · rfl
    · exact Memory.runAll_courseAll _ _
  obtain ⟨hstate, hresult⟩ := execute_branch current
  obtain ⟨hmemory, hfault⟩ := playThrough_eq_runAll placed (same ▸ stays)
  rw [same, hrun] at hmemory hfault
  rw [hmemory, hfault, hstate, hresult]
  refine ⟨rfl, ?_⟩
  cases (p.memory.run (.branch condition thenDo elseDo)).result <;> rfl

namespace Sample

/-- The course of the commands that find the coin. -/
def coinCourse : List Command :=
  [.setFlag "entered" true, .setVariable "coins" (.int 1),
   .modifyVariable "coins" (.integer .divide (.int 0))]

/-- The commands that find the coin, at the top of a scene. -/
def openHall : Scene :=
  ⟨"hall", "Hall", .wait 1.0 :: findCoin ++ [.flow .finish], none, none⟩

def openYard : Scene :=
  ⟨"yard", "Yard", coinCourse, none, none⟩

/-- A story of these two scenes. -/
def openCoin : Scenario :=
  .ofScenes ⟨"open", "Open", none, none, none⟩ "hall" [openHall, openYard] []

theorem atCoin_works (inner : Command) (there : Memory)
    (h : atCoin.playback.memory.ComesTo (.branch (.constant true) findCoin []) inner there) :
    inner.worksOnMemory = true := by
  have ho := h.occurs
  simp [findCoin, Command.occurs_branch_iff, Command.occursIn_cons_iff, Command.not_occursIn_nil,
    Command.occurs_iff_eq, Command.IsBranch] at ho
  rcases ho with rfl | rfl | rfl | rfl | rfl | rfl <;> rfl

end Sample

/-- Inside the branch, at the top of the hall and along the course, the coin is found and not divided. -/
theorem branch_runs_as_scene_at_coin :
    Sample.atCoin.playback.currentCommand? Sample.coinStory =
        some (.branch (.constant true) Sample.findCoin []) ∧
      (Sample.atCoin.playback.execute Sample.coinStory).state.memory =
        ⟨.ofList [("entered", true)], .ofList [("coins", .int 1)]⟩ ∧
      Sample.atCoin.playback.memory.courseAll Sample.findCoin = Sample.coinCourse ∧
      ∀ q : Playback, q.memory = {} →
        q.scene = some "hall" ∧ q.index = 1 ∨ q.scene = some "yard" ∧ q.index = 0 →
        ∃ count, (q.playThrough Sample.openCoin count).state.memory =
            ⟨.ofList [("entered", true)], .ofList [("coins", .int 1)]⟩ ∧
          (q.playThrough Sample.openCoin count).result = .error (.operation "coins" .divisionByZero) := by
  have current : Sample.atCoin.playback.currentCommand? Sample.coinStory =
      some (.branch (.constant true) Sample.findCoin []) := rfl
  have hmemory : (Sample.atCoin.playback.execute Sample.coinStory).state.memory =
      ⟨.ofList [("entered", true)], .ofList [("coins", .int 1)]⟩ := rfl
  have hcourse : Sample.atCoin.playback.memory.courseAll Sample.findCoin = Sample.coinCourse := rfl
  refine ⟨current, hmemory, hcourse, ?_⟩
  intro q same place
  rcases place with ⟨hscene, hindex⟩ | ⟨hscene, hindex⟩
  · have placed : q.StandsBefore Sample.openCoin Sample.findCoin := by
      refine ⟨Sample.openHall, [.wait 1.0], [.flow .finish], ?_, rfl, hindex⟩
      unfold currentScene?
      rw [hscene]
      rfl
    obtain ⟨hsame, hfault⟩ := branch_runs_as_scene current rfl Sample.atCoin_works (.inl rfl) placed same
    exact ⟨_, hsame.trans hmemory, hfault⟩
  · have placed : q.StandsBefore Sample.openCoin Sample.coinCourse := by
      refine ⟨Sample.openYard, [], [], ?_, rfl, hindex⟩
      unfold currentScene?
      rw [hscene]
      rfl
    obtain ⟨hsame, hfault⟩ := branch_runs_as_scene current rfl Sample.atCoin_works (.inr hcourse.symm) placed
      same
    exact ⟨_, hsame.trans hmemory, hfault⟩

end VisualNovel
