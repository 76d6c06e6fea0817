import VisualNovel.Memory

/-!
# What conditions say

1. A comparator that is one of the six always has an answer, and the answer is what the comparator says
   of the two values (`Comparator.compare_of_known`).
2. A condition made of known parts has an answer, and it is the classical reading of the condition
   (`Condition.eval_of_wellFormed`): stopping early does not show, since no part can fail.
3. In any condition, what is read is named in it (`Condition.eval_congr`), and a negated conjunction is the
   disjunction of the negations, up to the part that cannot be evaluated
   (`Condition.evalAny_map_not`).
-/

namespace VisualNovel

/-! ## Comparators -/

namespace Comparator

/-- The comparator is one of the six. -/
def IsKnown (comparator : Comparator) : Prop :=
  ∀ name, comparator ≠ .other name

/-- What a comparator says of two members of an order. -/
def Orders {α : Type} [LT α] (a b : α) : Comparator → Prop
  | .equal => a = b
  | .notEqual => a ≠ b
  | .greaterThan => b < a
  | .greaterOrEqual => b < a ∨ a = b
  | .lessThan => a < b
  | .lessOrEqual => a < b ∨ a = b
  | .other _ => False

/-- What a comparator says of two numbers that are equal up to the tolerance. -/
def OrdersNearly (a b : Float) : Comparator → Prop
  | .equal => (a - b).abs < tolerance
  | .notEqual => tolerance ≤ (a - b).abs
  | .greaterThan => b + tolerance < a
  | .greaterOrEqual => b - tolerance ≤ a
  | .lessThan => a < b - tolerance
  | .lessOrEqual => a ≤ b + tolerance
  | .other _ => False

/-- What a comparator says of two values: truth values are equal or not and have no order, and values of
different kinds are not equal. -/
def Relates (comparator : Comparator) : Value → Value → Prop
  | .bool a, .bool b => comparator = .equal ∧ a = b ∨ comparator = .notEqual ∧ a ≠ b
  | .int a, .int b => comparator.Orders a b
  | .float a, .float b => comparator.OrdersNearly a b
  | .text a, .text b => comparator.Orders a b
  | _, _ => comparator = .notEqual

variable {comparator : Comparator}

theorem compareBool_iff (a b : Bool) :
    comparator.compareBool a b = true ↔ comparator.Relates (.bool a) (.bool b) := by
  cases comparator <;> simp [compareBool, Relates]

theorem compareInt_of_known (known : comparator.IsKnown) (a b : Int) :
    ∃ answer, comparator.compareInt a b = .ok answer ∧
      (answer = true ↔ comparator.Orders a b) := by
  cases comparator with
  | other name => exact absurd rfl (known name)
  | greaterOrEqual => exact ⟨_, rfl, by simp only [decide_eq_true_iff, Orders]; omega⟩
  | lessOrEqual => exact ⟨_, rfl, by simp only [decide_eq_true_iff, Orders]; omega⟩
  | _ => exact ⟨_, rfl, decide_eq_true_iff⟩

/-- Texts are ordered totally. -/
theorem text_le_iff (a b : String) : a ≤ b ↔ a < b ∨ a = b := by
  constructor
  · intro h
    by_cases hlt : a < b
    · exact .inl hlt
    · exact .inr (String.le_antisymm h (String.not_lt.1 hlt))
  · rintro (hlt | rfl)
    · exact String.not_lt.1 fun hgt => String.lt_irrefl a (String.lt_trans hlt hgt)
    · exact String.le_refl a

theorem compareText_of_known (known : comparator.IsKnown) (a b : String) :
    ∃ answer, comparator.compareText a b = .ok answer ∧
      (answer = true ↔ comparator.Orders a b) := by
  cases comparator with
  | other name => exact absurd rfl (known name)
  | greaterOrEqual =>
    refine ⟨_, rfl, ?_⟩
    rw [decide_eq_true_iff, text_le_iff, @eq_comm _ b a]
    rfl
  | lessOrEqual =>
    refine ⟨_, rfl, ?_⟩
    rw [decide_eq_true_iff, text_le_iff]
    rfl
  | _ => exact ⟨_, rfl, decide_eq_true_iff⟩

theorem compareFloat_of_known (known : comparator.IsKnown) (a b : Float) :
    ∃ answer, comparator.compareFloat a b = .ok answer ∧
      (answer = true ↔ comparator.OrdersNearly a b) := by
  cases comparator with
  | other name => exact absurd rfl (known name)
  | _ => exact ⟨_, rfl, decide_eq_true_iff⟩

/-- **Comparisons.** One of the six comparators has an answer for any two values. -/
theorem compare_of_known (known : comparator.IsKnown) (left right : Value) :
    ∃ answer, comparator.compare left right = .ok answer ∧
      (answer = true ↔ comparator.Relates left right) := by
  cases left <;> cases right
  case bool.bool a b => exact ⟨_, rfl, compareBool_iff a b⟩
  case int.int a b => exact compareInt_of_known known a b
  case float.float a b => exact compareFloat_of_known known a b
  case text.text a b => exact compareText_of_known known a b
  all_goals exact ⟨_, rfl, decide_eq_true_iff⟩

end Comparator

/-! ## Conditions -/

namespace Condition

/-- `inner` is `outer` or stands, at any depth, inside of it. -/
inductive Occurs (inner : Condition) : Condition → Prop
  | self : Occurs inner inner
  | all {conditions : List Condition} {condition : Condition} (h : condition ∈ conditions)
      (within : Occurs inner condition) : Occurs inner (.all conditions)
  | any {conditions : List Condition} {condition : Condition} (h : condition ∈ conditions)
      (within : Occurs inner condition) : Occurs inner (.any conditions)
  | not {condition : Condition} (within : Occurs inner condition) : Occurs inner (.not condition)

/-- Nothing in the condition is unknown, neither a condition nor a comparator. -/
structure WellFormed (condition : Condition) : Prop where
  conditions : ∀ text, ¬(unknown text).Occurs condition
  comparators : ∀ name comparator value, (compared name comparator value).Occurs condition →
    comparator.IsKnown

/-- The condition reads the flag. -/
def NamesFlag (condition : Condition) (name : String) : Prop :=
  ∃ expected, (flag name expected).Occurs condition

/-- The condition reads the variable. -/
def NamesVariable (condition : Condition) (name : String) : Prop :=
  ∃ comparator value, (compared name comparator value).Occurs condition

/-- The classical reading of a condition. A flag that was never written is false, and of a variable
without a value nothing holds. -/
def Holds (memory : Memory) : Condition → Prop
  | .flag name expected => (memory.flags.get? name).getD false = expected
  | .compared name comparator value =>
    ∃ stored, memory.vars.get? name = some stored ∧ comparator.Relates stored value
  | .all conditions => ∀ condition, (_ : condition ∈ conditions) → condition.Holds memory
  | .any conditions => ∃ condition, ∃ (_ : condition ∈ conditions), condition.Holds memory
  | .not condition => ¬condition.Holds memory
  | .constant value => value = true
  | .unknown _ => False
termination_by condition => sizeOf condition

/-- Induction over a condition and the conditions in its lists. -/
theorem nestedInduction {P : Condition → Prop} (flag : ∀ name expected, P (.flag name expected))
    (compared : ∀ name comparator value, P (.compared name comparator value))
    (all : ∀ conditions, (∀ condition ∈ conditions, P condition) → P (.all conditions))
    (any : ∀ conditions, (∀ condition ∈ conditions, P condition) → P (.any conditions))
    (not : ∀ condition, P condition → P (.not condition)) (constant : ∀ value, P (.constant value))
    (unknown : ∀ text, P (.unknown text)) (condition : Condition) : P condition :=
  match condition with
  | .flag name expected => flag name expected
  | .compared name comparator value => compared name comparator value
  | .all conditions => all conditions fun inner _ =>
    nestedInduction flag compared all any not constant unknown inner
  | .any conditions => any conditions fun inner _ =>
    nestedInduction flag compared all any not constant unknown inner
  | .not inner => not inner (nestedInduction flag compared all any not constant unknown inner)
  | .constant value => constant value
  | .unknown text => unknown text
termination_by sizeOf condition

theorem WellFormed.of_occurs {inner outer : Condition} (h : outer.WellFormed)
    (step : ∀ part : Condition, part.Occurs inner → part.Occurs outer) : inner.WellFormed where
  conditions text part := h.conditions text (step _ part)
  comparators name comparator value part := h.comparators name comparator value (step _ part)

/-! ## Well-formed conditions -/

section

variable {condition : Condition} {conditions : List Condition}

theorem wellFormed_flag (name : String) (expected : Bool) : (flag name expected).WellFormed where
  conditions text part := by cases part
  comparators other comparator value part := by cases part

theorem wellFormed_compared {comparator : Comparator} (known : comparator.IsKnown) (name : String)
    (value : Value) : (compared name comparator value).WellFormed where
  conditions text part := by cases part
  comparators other comparator value part := by
    cases part
    exact known

theorem wellFormed_all (h : ∀ condition ∈ conditions, condition.WellFormed) :
    (all conditions).WellFormed where
  conditions text part := by
    cases part with
    | all hmem within => exact (h _ hmem).conditions text within
  comparators name comparator value part := by
    cases part with
    | all hmem within => exact (h _ hmem).comparators name comparator value within

theorem wellFormed_any (h : ∀ condition ∈ conditions, condition.WellFormed) :
    (any conditions).WellFormed where
  conditions text part := by
    cases part with
    | any hmem within => exact (h _ hmem).conditions text within
  comparators name comparator value part := by
    cases part with
    | any hmem within => exact (h _ hmem).comparators name comparator value within

theorem wellFormed_not (h : condition.WellFormed) : (not condition).WellFormed where
  conditions text part := by
    cases part with
    | not within => exact h.conditions text within
  comparators name comparator value part := by
    cases part with
    | not within => exact h.comparators name comparator value within

theorem wellFormed_constant (value : Bool) : (constant value).WellFormed where
  conditions text part := by cases part
  comparators name comparator stored part := by cases part

end

variable {memory : Memory} {conditions : List Condition}

/-! ## Answers -/

theorem eval_compared_of_none {name : String} {comparator : Comparator} {value : Value}
    (h : memory.vars.get? name = none) : memory.eval (.compared name comparator value) = .ok false := by
  have hvalue : memory.lookup.value? name = none := h
  unfold Memory.eval
  rw [eval, hvalue]

theorem eval_compared_of_some {name : String} {comparator : Comparator} {value stored : Value}
    (h : memory.vars.get? name = some stored) : memory.eval (.compared name comparator value) =
      (comparator.compare stored value).mapError .comparator := by
  have hvalue : memory.lookup.value? name = some stored := h
  unfold Memory.eval
  rw [eval, hvalue]

/-- The condition has an answer, which is whether `P` holds. -/
def Answers (memory : Memory) (condition : Condition) (P : Prop) : Prop :=
  ∃ answer, memory.eval condition = .ok answer ∧ (answer = true ↔ P)

theorem evalAll_of_answers {P : Condition → Prop}
    (h : ∀ condition ∈ conditions, Answers memory condition (P condition)) :
    ∃ answer, evalAll memory.lookup conditions = .ok answer ∧
      (answer = true ↔ ∀ condition ∈ conditions, P condition) := by
  induction conditions with
  | nil => exact ⟨true, rfl, by simp⟩
  | cons condition rest ih =>
    obtain ⟨⟨first, hfirst, hiff⟩, hrest⟩ := List.forall_mem_cons.1 h
    rw [List.forall_mem_cons, ← hiff]
    unfold evalAll
    rw [show condition.eval memory.lookup = .ok first from hfirst]
    cases first with
    | true =>
      obtain ⟨answer, hanswer, hall⟩ := ih hrest
      exact ⟨answer, hanswer, by simpa using hall⟩
    | false => exact ⟨false, rfl, by simp⟩

theorem evalAny_of_answers {P : Condition → Prop}
    (h : ∀ condition ∈ conditions, Answers memory condition (P condition)) :
    ∃ answer, evalAny memory.lookup conditions = .ok answer ∧
      (answer = true ↔ ∃ condition ∈ conditions, P condition) := by
  induction conditions with
  | nil => exact ⟨false, rfl, by simp⟩
  | cons condition rest ih =>
    obtain ⟨⟨first, hfirst, hiff⟩, hrest⟩ := List.forall_mem_cons.1 h
    simp only [List.mem_cons, exists_eq_or_imp]
    rw [← hiff]
    unfold evalAny
    rw [show condition.eval memory.lookup = .ok first from hfirst]
    cases first with
    | true => exact ⟨true, rfl, by simp⟩
    | false =>
      obtain ⟨answer, hanswer, hany⟩ := ih hrest
      exact ⟨answer, hanswer, by simpa using hany⟩

/-- **Answers.** A condition made of known parts has an answer, and it is the classical one. -/
theorem eval_of_wellFormed {condition : Condition} (h : condition.WellFormed) :
    Answers memory condition (condition.Holds memory) := by
  induction condition using nestedInduction with
  | flag name expected =>
    refine ⟨_, rfl, ?_⟩
    rw [Holds, beq_iff_eq]
    rfl
  | compared name comparator value =>
    have known : comparator.IsKnown := h.comparators name comparator value .self
    unfold Answers
    rw [Holds]
    cases hvar : memory.vars.get? name with
    | none => exact ⟨false, eval_compared_of_none hvar, by simp⟩
    | some stored =>
      obtain ⟨answer, hanswer, hiff⟩ := Comparator.compare_of_known known stored value
      refine ⟨answer, ?_, ?_⟩
      · rw [eval_compared_of_some hvar, hanswer]
        rfl
      · rw [hiff]
        simp
  | all conditions ih =>
    have inner : ∀ condition ∈ conditions, Answers memory condition (condition.Holds memory) :=
      fun condition hmem => ih condition hmem (h.of_occurs fun _ part => .all hmem part)
    obtain ⟨answer, hanswer, hiff⟩ := evalAll_of_answers inner
    exact ⟨answer, hanswer, by rw [hiff, Holds]⟩
  | any conditions ih =>
    have inner : ∀ condition ∈ conditions, Answers memory condition (condition.Holds memory) :=
      fun condition hmem => ih condition hmem (h.of_occurs fun _ part => .any hmem part)
    obtain ⟨answer, hanswer, hiff⟩ := evalAny_of_answers inner
    exact ⟨answer, hanswer, by rw [hiff, Holds]; simp only [exists_prop]⟩
  | not condition ih =>
    obtain ⟨answer, hanswer, hiff⟩ := ih (h.of_occurs fun _ part => .not part)
    refine ⟨!answer, ?_, ?_⟩
    · show (condition.eval memory.lookup).map (!·) = _
      rw [show condition.eval memory.lookup = .ok answer from hanswer]
      rfl
    · rw [Holds, ← hiff]
      cases answer <;> simp
  | constant value => exact ⟨value, rfl, by rw [Holds]⟩
  | unknown text => exact absurd .self (h.conditions text)

/-! ## What conditions read -/

/-- Two memories read the same wherever the condition looks. -/
structure ReadAlike (condition : Condition) (memory other : Memory) : Prop where
  flags : ∀ name, condition.NamesFlag name →
    (other.flags.get? name).getD false = (memory.flags.get? name).getD false
  vars : ∀ name, condition.NamesVariable name → other.vars.get? name = memory.vars.get? name

theorem ReadAlike.of_occurs {inner outer : Condition} {other : Memory}
    (h : outer.ReadAlike memory other)
    (step : ∀ part : Condition, part.Occurs inner → part.Occurs outer) :
    inner.ReadAlike memory other where
  flags := by
    rintro name ⟨expected, part⟩
    exact h.flags name ⟨expected, step _ part⟩
  vars := by
    rintro name ⟨comparator, value, part⟩
    exact h.vars name ⟨comparator, value, step _ part⟩

theorem evalAll_congr {lookup other : Lookup}
    (h : ∀ condition ∈ conditions, condition.eval other = condition.eval lookup) :
    evalAll other conditions = evalAll lookup conditions := by
  induction conditions with
  | nil => rfl
  | cons condition rest ih =>
    obtain ⟨hfirst, hrest⟩ := List.forall_mem_cons.1 h
    unfold evalAll
    rw [hfirst, ih hrest]

theorem evalAny_congr {lookup other : Lookup}
    (h : ∀ condition ∈ conditions, condition.eval other = condition.eval lookup) :
    evalAny other conditions = evalAny lookup conditions := by
  induction conditions with
  | nil => rfl
  | cons condition rest ih =>
    obtain ⟨hfirst, hrest⟩ := List.forall_mem_cons.1 h
    unfold evalAny
    rw [hfirst, ih hrest]

/-- **Reading.** Only the flags and variables that are named in a condition matter for its outcome, an
answer or a failure. -/
theorem eval_congr {condition : Condition} {other : Memory} (h : condition.ReadAlike memory other) :
    other.eval condition = memory.eval condition := by
  induction condition using nestedInduction with
  | flag name expected =>
    have hflag : other.flags.isSet name = memory.flags.isSet name := h.flags name ⟨expected, .self⟩
    show Except.ok (other.flags.isSet name == expected) = .ok (memory.flags.isSet name == expected)
    rw [hflag]
  | compared name comparator value =>
    have hvar : other.vars.get? name = memory.vars.get? name :=
      h.vars name ⟨comparator, value, .self⟩
    cases hstored : memory.vars.get? name with
    | none => rw [eval_compared_of_none hstored, eval_compared_of_none (hvar.trans hstored)]
    | some stored => rw [eval_compared_of_some hstored, eval_compared_of_some (hvar.trans hstored)]
  | all conditions ih =>
    exact evalAll_congr fun condition hmem =>
      ih condition hmem (h.of_occurs fun _ part => .all hmem part)
  | any conditions ih =>
    exact evalAny_congr fun condition hmem =>
      ih condition hmem (h.of_occurs fun _ part => .any hmem part)
  | not condition ih =>
    have hinner := ih (h.of_occurs fun _ part => .not part)
    exact congrArg (Except.map (!·)) hinner
  | constant value => rfl
  | unknown text => rfl

/-- **Negated conjunctions.** Where a conjunction stops at a part that does not hold, the disjunction of the
negations stops at the same part, which does; and both meet the same failure. -/
theorem evalAny_map_not (lookup : Lookup) (conditions : List Condition) :
    evalAny lookup (conditions.map .not) = (evalAll lookup conditions).map (!·) := by
  induction conditions with
  | nil => rfl
  | cons condition rest ih =>
    have hnot : (Condition.not condition).eval lookup = (condition.eval lookup).map (!·) := rfl
    rw [List.map_cons]
    unfold evalAny evalAll
    rw [hnot]
    cases condition.eval lookup with
    | error fault => rfl
    | ok answer =>
      cases answer with
      | true => exact ih
      | false => rfl

end Condition

open Condition

/-- **Conditions.** A condition made of known parts has an answer, which is its classical reading. The
outcome of any condition, an answer or a failure, depends only on the flags and variables that it names;
and a negated conjunction has the outcome of the disjunction of the negations. -/
theorem conditions_read_classically (memory : Memory) (condition : Condition) :
    (condition.WellFormed → ∃ answer, memory.eval condition = .ok answer ∧
        (answer = true ↔ condition.Holds memory)) ∧
      (∀ other : Memory, condition.ReadAlike memory other →
        other.eval condition = memory.eval condition) ∧
      ∀ conditions : List Condition, memory.eval (.not (.all conditions)) =
        memory.eval (.any (conditions.map .not)) := by
  refine ⟨eval_of_wellFormed, fun other alike => eval_congr alike, fun conditions => ?_⟩
  exact (evalAny_map_not memory.lookup conditions).symm

namespace Sample

/-- Alice has earned some trust. -/
def trusting : Memory := { vars := .ofList [("trust", .int 3)] }

/-- Alice is not known to have lied, is trusted, and nothing is said of her gold. -/
def loyal : Condition :=
  .all [.not (.flag "lied" true),
    .any [.constant false, .compared "trust" .greaterOrEqual (.int 3)],
    .not (.compared "gold" .notEqual (.int 0))]

theorem wellFormed_loyal : loyal.WellFormed := by
  have trusted : (any [.constant false, .compared "trust" .greaterOrEqual (.int 3)]).WellFormed := by
    apply wellFormed_any
    simp only [List.forall_mem_cons]
    exact ⟨wellFormed_constant false, wellFormed_compared (fun name h => by cases h) _ _,
      List.forall_mem_nil _⟩
  apply wellFormed_all
  simp only [List.forall_mem_cons]
  exact ⟨wellFormed_not (wellFormed_flag _ _), trusted,
    wellFormed_not (wellFormed_compared (fun name h => by cases h) _ _), List.forall_mem_nil _⟩

/-- Whether Alice was met is not asked. -/
theorem readAlike_loyal : loyal.ReadAlike trusting (trusting.setFlag "met" true) where
  flags := by
    rintro name ⟨expected, part⟩
    have named : name = "lied" := by
      cases part with
      | all hmem within =>
        simp only [List.mem_cons, List.not_mem_nil, or_false] at hmem
        rcases hmem with rfl | rfl | rfl
        · cases within with
          | not within =>
            cases within
            rfl
        · cases within with
          | any hmem within =>
            simp only [List.mem_cons, List.not_mem_nil, or_false] at hmem
            rcases hmem with rfl | rfl <;> cases within
        · cases within with
          | not within => cases within
    have hne : name ≠ "met" := by
      rw [named]
      decide
    show ((trusting.flags.insert "met" true).get? name).getD false = _
    rw [OrderedMap.get?_insert, if_neg hne]
  vars name _ := rfl

end Sample

/-- Alice is loyal, and whether she was met makes no difference. -/
theorem conditions_read_classically_of_loyal :
    Sample.loyal.WellFormed ∧ Sample.trusting.eval Sample.loyal = .ok true ∧
      Sample.loyal.Holds Sample.trusting ∧
      Sample.loyal.ReadAlike Sample.trusting (Sample.trusting.setFlag "met" true) ∧
      (Sample.trusting.setFlag "met" true).eval Sample.loyal = .ok true := by
  obtain ⟨answers, reads, -⟩ := conditions_read_classically Sample.trusting Sample.loyal
  have hanswer : Sample.trusting.eval Sample.loyal = .ok true := rfl
  obtain ⟨answer, heval, hiff⟩ := answers Sample.wellFormed_loyal
  have htrue : answer = true := by
    rw [hanswer] at heval
    cases heval
    rfl
  exact ⟨Sample.wellFormed_loyal, hanswer, hiff.1 htrue, Sample.readAlike_loyal,
    (reads _ Sample.readAlike_loyal).trans hanswer⟩

end VisualNovel
