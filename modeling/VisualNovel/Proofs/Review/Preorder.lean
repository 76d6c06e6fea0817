import VisualNovel.Proofs.Review.Walk

/-!
# The walk in order

A path leads through the commands of a scene to one of them (`Scene.at?`), and paths are ordered like the
commands of a text: a branch comes before the commands in its arms, and its first arm before its second
(`CommandPath.Before`). The walk visits exactly the commands to which paths lead
(`Scene.mem_visits_iff`), each once and in this order (`Scene.pairwise_visits`).
-/

namespace VisualNovel

/-! ## Following a path -/

/-- The commands in an arm. -/
def Arm.of (arm : Arm) (thenDo elseDo : List Command) : List Command :=
  match arm with
  | .thenDo => thenDo
  | .elseDo => elseDo

/-- The command to which steps into the arms of branches lead. -/
def Command.at? (command : Command) : List (Arm × Nat) → Option Command
  | [] => some command
  | (arm, index) :: steps =>
    match command with
    | .branch _ thenDo elseDo => (arm.of thenDo elseDo)[index]?.bind fun inner => inner.at? steps
    | _ => none

/-- The command to which a path leads. -/
def Scene.at? (scene : Scene) (path : CommandPath) : Option Command :=
  scene.commands[path.index]?.bind fun command => command.at? path.inner

/-! ## The order of paths -/

/-- One way into the arms of branches comes before another. -/
inductive StepsBefore : List (Arm × Nat) → List (Arm × Nat) → Prop
  /-- A branch comes before the commands in its arms. -/
  | inside {step : Arm × Nat} {steps : List (Arm × Nat)} : StepsBefore [] (step :: steps)
  | arm {i j : Nat} {steps later : List (Arm × Nat)} :
    StepsBefore ((.thenDo, i) :: steps) ((.elseDo, j) :: later)
  | index {arm : Arm} {i j : Nat} {steps later : List (Arm × Nat)} (h : i < j) :
    StepsBefore ((arm, i) :: steps) ((arm, j) :: later)
  | further {step : Arm × Nat} {steps later : List (Arm × Nat)} (h : StepsBefore steps later) :
    StepsBefore (step :: steps) (step :: later)

theorem StepsBefore.irrefl (steps : List (Arm × Nat)) : ¬StepsBefore steps steps := by
  induction steps with
  | nil => intro h; cases h
  | cons step rest ih =>
    intro h
    cases h with
    | index h => exact Nat.lt_irrefl _ h
    | further h => exact ih h

theorem StepsBefore.append_left {steps later : List (Arm × Nat)} (h : StepsBefore steps later)
    (way : List (Arm × Nat)) : StepsBefore (way ++ steps) (way ++ later) := by
  induction way with
  | nil => exact h
  | cons step way ih => exact .further ih

namespace CommandPath

/-- One path comes before another. -/
def Before (a b : CommandPath) : Prop :=
  a.index < b.index ∨ a.index = b.index ∧ StepsBefore a.inner b.inner

theorem Before.irrefl (path : CommandPath) : ¬path.Before path := by
  rintro (h | ⟨-, h⟩)
  · exact Nat.lt_irrefl _ h
  · exact StepsBefore.irrefl _ h

/-- The way on from the end of a path. -/
def extend (path : CommandPath) (steps : List (Arm × Nat)) : CommandPath :=
  ⟨path.index, path.inner ++ steps⟩

theorem extend_nil (path : CommandPath) : path.extend [] = path := by
  unfold extend
  rw [List.append_nil]

theorem extend_enter (path : CommandPath) (arm : Arm) (index : Nat) (steps : List (Arm × Nat)) :
    (path.enter arm index).extend steps = path.extend ((arm, index) :: steps) := by
  unfold extend enter
  rw [List.append_assoc, List.singleton_append]

theorem before_extend (path : CommandPath) {steps later : List (Arm × Nat)}
    (h : StepsBefore steps later) : (path.extend steps).Before (path.extend later) :=
  .inr ⟨rfl, h.append_left path.inner⟩

end CommandPath

/-! ## The walk through a command -/

/-- Indices come in their order. -/
theorem pairwise_zipIdx {α : Type} (l : List α) : l.zipIdx.Pairwise fun a b => a.2 < b.2 := by
  have hindices : (l.zipIdx.map Prod.snd).Pairwise (· < ·) := by
    rw [List.zipIdx_map_snd]
    exact List.pairwise_lt_range'
  exact List.pairwise_map.1 hindices

namespace Command

/-- Induction over a command and the commands in its arms. -/
theorem branchInduction {P : Command → Prop} (simple : ∀ command, ¬command.IsBranch → P command)
    (branch : ∀ condition thenDo elseDo, (∀ command ∈ thenDo, P command) →
      (∀ command ∈ elseDo, P command) → P (.branch condition thenDo elseDo))
    (command : Command) : P command :=
  match command with
  | .branch condition thenDo elseDo =>
    branch condition thenDo elseDo (fun inner _ => branchInduction simple branch inner)
      fun inner _ => branchInduction simple branch inner
  | .say _ | .setFlag _ _ | .setVariable _ _ | .modifyVariable _ _ | .offer _ | .flow _ | .wait _
  | .stage _ | .audio _ | .unknown _ => simple _ fun ⟨_, _, _, h⟩ => by cases h
termination_by sizeOf command

variable {path : CommandPath} {visit : Visit} {commands : List Command}

theorem visits_of_simple {command : Command} (simple : ¬command.IsBranch) (path : CommandPath) :
    command.visits path = [⟨path, command⟩] := by
  rw [visits]
  intro condition thenDo elseDo h
  exact simple ⟨condition, thenDo, elseDo, h⟩

/-- The walk through an arm is made of the walks through its commands. -/
theorem visitArm_eq_flatMap (path : CommandPath) (arm : Arm) (first : Nat) (commands : List Command) :
    visitArm path arm first commands =
      (commands.zipIdx first).flatMap fun item => item.1.visits (path.enter arm item.2) := by
  induction commands generalizing first with
  | nil => rw [visitArm]; rfl
  | cons command rest ih => rw [visitArm, ih, List.zipIdx_cons, List.flatMap_cons]

theorem mem_flatMap_zipIdx_iff (walk : Command → Nat → List Visit) :
    visit ∈ commands.zipIdx.flatMap (fun item => walk item.1 item.2) ↔
      ∃ index command, commands[index]? = some command ∧ visit ∈ walk command index := by
  rw [List.mem_flatMap]
  constructor
  · rintro ⟨⟨command, index⟩, hitem, hvisit⟩
    exact ⟨index, command, List.mem_zipIdx_iff_getElem?.1 hitem, hvisit⟩
  · rintro ⟨index, command, hcommand, hvisit⟩
    exact ⟨(command, index), List.mem_zipIdx_iff_getElem?.2 hcommand, hvisit⟩

/-- What the walks through commands visit in order, the walk through all of them visits in order, if it
comes to no later command before an earlier one. -/
theorem pairwise_flatMap_zipIdx (walk : Command → Nat → List Visit) {R : Visit → Visit → Prop}
    (each : ∀ index command, commands[index]? = some command → (walk command index).Pairwise R)
    (across : ∀ i j first second, i < j → ∀ a ∈ walk first i, ∀ b ∈ walk second j, R a b) :
    (commands.zipIdx.flatMap fun item => walk item.1 item.2).Pairwise R := by
  rw [List.pairwise_flatMap]
  constructor
  · rintro ⟨command, index⟩ hitem
    exact each index command (List.mem_zipIdx_iff_getElem?.1 hitem)
  · exact (pairwise_zipIdx commands).imp fun {first second} hlt => across _ _ first.1 second.1 hlt

/-- The steps that lead from a branch: none, or some into one of its arms. -/
theorem at?_branch_iff {condition : Condition} {thenDo elseDo : List Command} {inner : Command}
    {steps : List (Arm × Nat)} : (branch condition thenDo elseDo).at? steps = some inner ↔
      steps = [] ∧ inner = .branch condition thenDo elseDo ∨
        ∃ arm index command way, (arm.of thenDo elseDo)[index]? = some command ∧
          steps = (arm, index) :: way ∧ command.at? way = some inner := by
  cases steps with
  | nil =>
    show some _ = some inner ↔ _
    rw [Option.some_inj, eq_comm]
    constructor
    · exact fun h => .inl ⟨rfl, h⟩
    · rintro (⟨-, h⟩ | ⟨arm, index, command, way, _, h, _⟩)
      · exact h
      · cases h
  | cons step way =>
    obtain ⟨arm, index⟩ := step
    show (arm.of thenDo elseDo)[index]?.bind _ = _ ↔ _
    rw [Option.bind_eq_some_iff]
    constructor
    · rintro ⟨command, hcommand, hinner⟩
      exact .inr ⟨arm, index, command, way, hcommand, rfl, hinner⟩
    · rintro (⟨h, -⟩ | ⟨arm, index, command, way, hcommand, h, hinner⟩)
      · cases h
      · cases h
        exact ⟨command, hcommand, hinner⟩

theorem at?_of_simple {command inner : Command} (simple : ¬command.IsBranch)
    {steps : List (Arm × Nat)} : command.at? steps = some inner ↔ steps = [] ∧ inner = command := by
  cases steps with
  | nil =>
    show some command = some inner ↔ _
    rw [Option.some_inj, eq_comm]
    exact (and_iff_right rfl).symm
  | cons step way =>
    have hnone : command.at? (step :: way) = none := by
      cases command with
      | branch condition thenDo elseDo => exact absurd ⟨_, _, _, rfl⟩ simple
      | _ => rfl
    simp [hnone]

/-- The walk through an arm visits what is visited in its commands. -/
theorem mem_visitArm_iff {arm : Arm} : visit ∈ visitArm path arm 0 commands ↔
    ∃ (index : Nat) (command : Command), commands[index]? = some command ∧
      visit ∈ command.visits (path.enter arm index) := by
  rw [visitArm_eq_flatMap]
  exact mem_flatMap_zipIdx_iff fun command index => command.visits (path.enter arm index)

/-- **The walk finds its way.** It visits exactly the commands to which steps lead. -/
theorem mem_visits_iff (command : Command) (path : CommandPath) : visit ∈ command.visits path ↔
    ∃ steps, visit.path = path.extend steps ∧ command.at? steps = some visit.command := by
  induction command using branchInduction generalizing path with
  | simple command simple =>
    rw [visits_of_simple simple, List.mem_singleton]
    simp only [at?_of_simple simple]
    constructor
    · rintro rfl
      exact ⟨[], path.extend_nil.symm, rfl, rfl⟩
    · rintro ⟨_, hpath, rfl, hcommand⟩
      rw [path.extend_nil] at hpath
      cases visit
      cases hpath
      cases hcommand
      rfl
  | branch condition thenDo elseDo ihThen ihElse =>
    have inArm : ∀ arm : Arm, visit ∈ visitArm path arm 0 (arm.of thenDo elseDo) ↔
        ∃ index command way, (arm.of thenDo elseDo)[index]? = some command ∧
          visit.path = path.extend ((arm, index) :: way) ∧
          command.at? way = some visit.command := by
      intro arm
      have ih : ∀ command ∈ arm.of thenDo elseDo, ∀ path : CommandPath,
          visit ∈ command.visits path ↔ ∃ steps, visit.path = path.extend steps ∧
            command.at? steps = some visit.command := by
        cases arm with
        | thenDo => exact ihThen
        | elseDo => exact ihElse
      rw [mem_visitArm_iff]
      constructor
      · rintro ⟨index, command, hcommand, hvisit⟩
        obtain ⟨way, hpath, hway⟩ := (ih command (List.mem_of_getElem? hcommand) _).1 hvisit
        exact ⟨index, command, way, hcommand, by rw [hpath, CommandPath.extend_enter], hway⟩
      · rintro ⟨index, command, way, hcommand, hpath, hway⟩
        refine ⟨index, command, hcommand, (ih command (List.mem_of_getElem? hcommand) _).2 ?_⟩
        exact ⟨way, by rw [hpath, CommandPath.extend_enter], hway⟩
    rw [visits_branch, List.mem_cons, List.mem_append]
    simp only [at?_branch_iff]
    constructor
    · rintro (rfl | hthen | helse)
      · exact ⟨[], path.extend_nil.symm, .inl ⟨rfl, rfl⟩⟩
      · obtain ⟨index, command, way, hcommand, hpath, hway⟩ := (inArm .thenDo).1 hthen
        exact ⟨_, hpath, .inr ⟨.thenDo, index, command, way, hcommand, rfl, hway⟩⟩
      · obtain ⟨index, command, way, hcommand, hpath, hway⟩ := (inArm .elseDo).1 helse
        exact ⟨_, hpath, .inr ⟨.elseDo, index, command, way, hcommand, rfl, hway⟩⟩
    · rintro ⟨_, hpath, ⟨rfl, hbranch⟩ | ⟨arm, index, command, way, hcommand, rfl, hway⟩⟩
      · rw [path.extend_nil] at hpath
        left
        cases visit
        cases hpath
        cases hbranch
        rfl
      · have hvisit := (inArm arm).2 ⟨index, command, way, hcommand, hpath, hway⟩
        cases arm with
        | thenDo => exact .inr (.inl hvisit)
        | elseDo => exact .inr (.inr hvisit)

/-- What is visited in a command lies on the way on from it. -/
theorem exists_extend_of_mem_visits {command : Command} (h : visit ∈ command.visits path) :
    ∃ steps, visit.path = path.extend steps := by
  obtain ⟨steps, hpath, _⟩ := (mem_visits_iff command path).1 h
  exact ⟨steps, hpath⟩

/-- The walk through an arm visits what lies in it. -/
theorem exists_extend_of_mem_visitArm {arm : Arm} (h : visit ∈ visitArm path arm 0 commands) :
    ∃ index steps, visit.path = path.extend ((arm, index) :: steps) := by
  obtain ⟨index, command, _, hvisit⟩ := mem_visitArm_iff.1 h
  obtain ⟨steps, hpath⟩ := exists_extend_of_mem_visits hvisit
  exact ⟨index, steps, by rw [hpath, CommandPath.extend_enter]⟩

/-- **The walk is in order.** It comes to no command before one that stands before it. -/
theorem pairwise_visits (command : Command) (path : CommandPath) :
    (command.visits path).Pairwise fun a b => a.path.Before b.path := by
  induction command using branchInduction generalizing path with
  | simple command simple =>
    rw [visits_of_simple simple]
    exact List.pairwise_singleton _ _
  | branch condition thenDo elseDo ihThen ihElse =>
    have inArm : ∀ arm : Arm, (visitArm path arm 0 (arm.of thenDo elseDo)).Pairwise
        fun a b => a.path.Before b.path := by
      intro arm
      rw [visitArm_eq_flatMap]
      refine pairwise_flatMap_zipIdx (fun command index => command.visits (path.enter arm index))
        ?_ ?_
      · intro index command hcommand
        cases arm with
        | thenDo => exact ihThen command (List.mem_of_getElem? hcommand) _
        | elseDo => exact ihElse command (List.mem_of_getElem? hcommand) _
      · intro i j first second hlt a ha b hb
        obtain ⟨steps, hsteps⟩ := exists_extend_of_mem_visits ha
        obtain ⟨later, hlater⟩ := exists_extend_of_mem_visits hb
        rw [hsteps, hlater, CommandPath.extend_enter, CommandPath.extend_enter]
        exact path.before_extend (.index hlt)
    rw [visits_branch, List.pairwise_cons, List.pairwise_append]
    refine ⟨?_, inArm .thenDo, inArm .elseDo, ?_⟩
    · intro visit hvisit
      have hinside : ∃ arm index steps, visit.path = path.extend ((arm, index) :: steps) := by
        rcases List.mem_append.1 hvisit with hthen | helse
        · exact ⟨_, exists_extend_of_mem_visitArm hthen⟩
        · exact ⟨_, exists_extend_of_mem_visitArm helse⟩
      obtain ⟨arm, index, steps, hpath⟩ := hinside
      rw [hpath]
      conv => lhs; rw [← path.extend_nil]
      exact path.before_extend .inside
    · intro a ha b hb
      obtain ⟨i, steps, hsteps⟩ := exists_extend_of_mem_visitArm ha
      obtain ⟨j, later, hlater⟩ := exists_extend_of_mem_visitArm hb
      rw [hsteps, hlater]
      exact path.before_extend .arm

end Command

/-! ## The walk through a scene -/

namespace Scene

variable {scene : Scene} {visit : Visit}

theorem mem_visits_iff : visit ∈ scene.visits ↔ scene.at? visit.path = some visit.command := by
  unfold visits at?
  rw [Command.mem_flatMap_zipIdx_iff fun command index => command.visits ⟨index, []⟩,
    Option.bind_eq_some_iff]
  constructor
  · rintro ⟨index, command, hcommand, hvisit⟩
    obtain ⟨steps, hpath, hsteps⟩ := (command.mem_visits_iff _).1 hvisit
    rw [hpath]
    exact ⟨command, hcommand, hsteps⟩
  · rintro ⟨command, hcommand, hinner⟩
    exact ⟨visit.path.index, command, hcommand,
      (command.mem_visits_iff _).2 ⟨visit.path.inner, rfl, hinner⟩⟩

theorem pairwise_visits (scene : Scene) :
    scene.visits.Pairwise fun a b => a.path.Before b.path := by
  unfold visits
  refine Command.pairwise_flatMap_zipIdx (fun command index => command.visits ⟨index, []⟩)
    (fun index command _ => command.pairwise_visits _) ?_
  intro i j first second hlt a ha b hb
  obtain ⟨steps, hsteps⟩ := Command.exists_extend_of_mem_visits ha
  obtain ⟨later, hlater⟩ := Command.exists_extend_of_mem_visits hb
  rw [hsteps, hlater]
  exact .inl hlt

end Scene

end VisualNovel
