import VisualNovel.Proofs.Arithmetic
import VisualNovel.Proofs.OrderedMap
import VisualNovel.Proofs.Playback.Session
import VisualNovel.Proofs.Playback.Writing

/-!
# Integers stay in range

Arithmetic clamps its results only: what a script assigns, what the host writes or loads and what an
operation has for an operand are taken as they are.

1. An operation on a value gives a value in range, whatever its operand, unless it assigns one that is
   not (`Operation.inRange_apply`).
2. So if no command of a scenario assigns an integer out of range, its writes keep the variables in range
   (`keeps_inRange`), and so does every request of a host that brings none in (`integers_in_range`).
-/

namespace VisualNovel

/-- The value is in range if it is an integer. -/
def Value.InRange (value : Value) : Prop :=
  ∀ n, value = .int n → VisualNovel.InRange n

theorem Value.inRange_int {n : Int} (h : VisualNovel.InRange n) : (Value.int n).InRange := by
  rintro _ ⟨rfl⟩
  exact h

theorem Value.inRange_of_kind {value : Value} (h : value.kind ≠ .int) : value.InRange := by
  rintro n rfl
  exact absurd rfl h

/-! ## Operations -/

/-- The value that an operation puts in place of the old one. -/
def Operation.assigns? : Operation → Option Value
  | .set value => some value
  | _ => none

/-- The value that a command assigns as it stands in the script. -/
def Command.assigns? : Command → Option Value
  | .setVariable _ value => some value
  | .modifyVariable _ operation => operation.assigns?
  | _ => none

/-- **Operations.** What an operation gives is in range, whatever its operand and the old value. -/
theorem Operation.inRange_apply {operation : Operation} {current value : Value}
    (assigned : ∀ value, operation.assigns? = some value → value.InRange)
    (h : operation.apply current = .ok value) : value.InRange := by
  unfold apply at h
  split at h
  · cases h
    exact assigned value rfl
  · split at h
    · cases h
    · obtain ⟨n, -, rfl⟩ := eq_ok_of_map h
      exact Value.inRange_int (inRange_saturate n)
  · split at h
    · cases h
    · obtain ⟨x, -, rfl⟩ := eq_ok_of_map h
      exact Value.inRange_of_kind (by simp [Value.kind])
  · cases h
    exact Value.inRange_of_kind (by simp [Value.kind])
  · cases h
    exact Value.inRange_of_kind (by simp [Value.kind])
  · cases h
  · cases h

/-! ## Writes -/

namespace Memory

variable {memory after : Memory} {name : String} {value : Value} {operation : Operation}

/-- Every integer variable is in range. -/
def InRange (memory : Memory) : Prop :=
  ∀ name value, memory.vars.get? name = some value → value.InRange

theorem InRange.setVariable (h : memory.InRange) (hv : value.InRange) :
    (memory.setVariable name value).InRange :=
  OrderedMap.forall_insert h hv

theorem InRange.erase (h : memory.InRange) (name : String) :
    Memory.InRange { memory with vars := memory.vars.erase name } :=
  OrderedMap.forall_erase h name

theorem InRange.modify (h : memory.InRange)
    (assigned : ∀ value, operation.assigns? = some value → value.InRange)
    (hm : memory.modify name operation = .ok after) : after.InRange := by
  rcases modify_cases memory name operation with ⟨current, -, hmodify⟩ | ⟨text, -, hmodify⟩
  · rw [hmodify] at hm
    obtain ⟨value, happly, rfl⟩ := eq_ok_of_map hm
    exact h.setVariable (Operation.inRange_apply assigned happly)
  · rw [hmodify] at hm
    cases hm

end Memory

/-- No command of the scenario, at any depth, assigns an integer out of range. -/
def Scenario.AssignsInRange (scenario : Scenario) : Prop :=
  ∀ command value, scenario.Has command → command.assigns? = some value → value.InRange

variable {scenario : Scenario} {p : Playback} {s : Session}

/-- **Writes keep the range.** -/
theorem keeps_inRange (hs : scenario.AssignsInRange) :
    scenario.Keeps Memory.InRange (fun _ => True) where
  flags _ h := h
  set has h := h.setVariable (hs _ _ has rfl)
  modify has h hm := h.modify (fun value hv => hs _ value has hv) hm
  refuse _ _ _ := trivial
  others _ := trivial

/-! ## Saved games -/

/-- Every integer in the saved game is in range. -/
def SaveData.InRange (data : SaveData) : Prop :=
  ∀ name n, data.vars.get? name = some n → VisualNovel.InRange n

theorem SaveData.InRange.memory {data : SaveData} (h : data.InRange) : data.memory.InRange := by
  intro name value hvalue
  obtain ⟨n, hn, rfl⟩ := SaveData.get?_memory_eq_some_iff.1 hvalue
  exact Value.inRange_int (h name n hn)

theorem inRange_save (h : p.memory.InRange) (slot : Int) : (p.save slot).InRange :=
  fun name n hn => h name _ (get?_save_eq_some_iff.1 hn) n rfl

/-! ## Sessions -/

/-- Lets the host write and load integers in range only. -/
def Session.bringsInRange (_ : Session) (request : Request) : Prop :=
  (∀ name value, request = .setVariable name value → value.InRange) ∧
    ∀ data, request = .load data → data.InRange

/-- **Integers stay in range.** If neither the scenario assigns nor the host brings in an integer out of
the signed 64-bit range, then no integer variable ever leaves it, and no integer in a saved game, however
large the operands of arithmetic are. -/
theorem integers_in_range (hs : scenario.AssignsInRange)
    (h : s.Reached scenario Session.bringsInRange) :
    (∀ name n, s.playback.memory.vars.get? name = some (.int n) →
        -9223372036854775808 ≤ n ∧ n ≤ 9223372036854775807) ∧
      (∀ slot name n, (s.playback.save slot).vars.get? name = some n →
        -9223372036854775808 ≤ n ∧ n ≤ 9223372036854775807) ∧
      ∀ data ∈ s.saves, ∀ name n, data.vars.get? name = some n →
        -9223372036854775808 ≤ n ∧ n ≤ 9223372036854775807 := by
  have hrange : s.playback.memory.InRange ∧ ∀ data ∈ s.saves, data.InRange := by
    refine h.invariant (fun p => p.memory.InRange) SaveData.InRange ?_ ?_ ?_
    · intro backlog unlocks name value hvalue
      cases hvalue
    · intro p slot hp
      exact inRange_save hp slot
    · intro s request hp _ asked
      refine (keeps_respond (keeps_inRange hs) hp ⟨?_, ?_, ?_⟩).state
      · intro name value heq
        exact hp.setVariable (asked.1 name value heq)
      · intro name _
        exact hp.erase name
      · intro data hload
        exact (asked.2 data hload).memory
  obtain ⟨hvars, hsaves⟩ := hrange
  exact ⟨fun name n hn => hvars name _ hn n rfl, inRange_save hvars, hsaves⟩

namespace Sample

/-- A treasure that starts at the greatest integer and is multiplied, and a debt that falls without end. -/
def vaultScene : Scene :=
  ⟨"vault", "Vault",
    [.setVariable "gold" (.int 9223372036854775807),
     .branch (.compared "gold" .greaterThan (.int 0))
       [.modifyVariable "gold" (.integer .multiply (.int 10000000000000000000000000000000)),
        .branch (.constant false) []
          [.modifyVariable "debt" (.integer .subtract (.int 10000000000000000000000000000000))]] []],
    none, none⟩

/-- A story of that scene alone. -/
def vault : Scenario :=
  .ofScenes ⟨"vault", "Vault", none, none, none⟩ "vault" [vaultScene] []

/-- The host loads a game with a debt and goes through the vault. -/
def intoVault : List Request :=
  [.load { slot := 1, vars := .ofList [("debt", -5)] }, .start, .execute, .advance,
   .setVariable "luck" (.int 7), .execute, .save 2]

/-- The session at the end of the vault. -/
def inVault : Session :=
  Session.after vault ⟨{}, []⟩ intoVault

theorem vault_assignsInRange : vault.AssignsInRange := by
  rintro command value ⟨key, scene, hs, ho⟩ hv
  have hmem : (key, scene) ∈ vault.scenes.entries := OrderedMap.get?_eq_some_iff.1 hs
  cases List.mem_singleton.1 hmem
  -- of the commands that occur there only the first assigns a value
  have hcommand : command = .setVariable "gold" (.int 9223372036854775807) ∨
      command.assigns? = none := by
    simp [vaultScene, Command.occursIn_cons_iff, Command.occurs_branch_iff,
      Command.not_occursIn_nil, Command.occurs_iff_eq, Command.IsBranch] at ho
    rcases ho with rfl | rfl | rfl | rfl | rfl
    · exact .inl rfl
    all_goals exact .inr rfl
  rcases hcommand with rfl | hnone
  · cases hv
    exact Value.inRange_int (by unfold InRange leastInt greatestInt; omega)
  · rw [hnone] at hv
    cases hv

theorem inVault_reached : inVault.Reached vault Session.bringsInRange := by
  refine Session.Reached.after
    (@Session.Reached.created vault Session.bringsInRange {} {} {} rfl)
    (Session.permitted_of_forall ?_)
  intro request hrequest s
  simp only [intoVault, List.mem_cons, List.not_mem_nil, or_false] at hrequest
  constructor
  · rintro name value rfl
    obtain ⟨rfl, rfl⟩ : name = "luck" ∧ value = .int 7 := by simpa using hrequest
    exact Value.inRange_int (by unfold InRange leastInt greatestInt; omega)
  · rintro data rfl
    obtain rfl : data = { slot := 1, vars := .ofList [("debt", -5)] } := by simpa using hrequest
    intro name n hn
    have hmem := OrderedMap.get?_eq_some_iff.1 hn
    cases List.mem_singleton.1 hmem
    unfold InRange leastInt greatestInt
    omega

end Sample

/-- The gold stays at the greatest integer, the debt falls no lower than the least. -/
theorem integers_in_range_in_vault :
    Sample.vault.AssignsInRange ∧ Sample.inVault.Reached Sample.vault Session.bringsInRange ∧
      Sample.inVault.playback.memory.vars =
        .ofList [("debt", .int (-9223372036854775808)), ("gold", .int 9223372036854775807),
          ("luck", .int 7)] ∧
      ∀ name n, Sample.inVault.playback.memory.vars.get? name = some (.int n) →
        -9223372036854775808 ≤ n ∧ n ≤ 9223372036854775807 := by
  refine ⟨Sample.vault_assignsInRange, Sample.inVault_reached, by decide, ?_⟩
  exact (integers_in_range Sample.vault_assignsInRange Sample.inVault_reached).1

end VisualNovel
