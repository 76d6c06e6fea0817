import VisualNovel.Proofs.OrderedMap
import VisualNovel.Proofs.Playback.Display

/-!
# The stage as the last writers left it

The stage is a view of the history of changes that were performed on it (`Stage.LastWritten`).

1. A character is on stage if the last change that shows or hides it shows it (`IsShown`). A stay of a
   character begins with the change that brought it on stage and lasts (`Stay`).
2. Each property of a character on stage is what the last change of its stay wrote that writes it. Moving
   and changing write nothing to a character that is not on stage (`Rewritten`).
3. Characters stand in the order in which their stays began.
4. One change keeps all this (`LastWritten.perform`), so a run does that starts with an empty stage and
   loads no game (`stage_is_last_written`).
-/

namespace VisualNovel

open Playback

/-! ## Histories -/

/-- What the last of the changes wrote that write something. -/
def lastWrite {β : Type} (write? : StageCommand → Option β) (history : List StageCommand) : Option β :=
  (history.filterMap write?).getLast?

theorem lastWrite_concat {β : Type} (write? : StageCommand → Option β) (history : List StageCommand)
    (change : StageCommand) :
    lastWrite write? (history ++ [change]) = (write? change).or (lastWrite write? history) := by
  unfold lastWrite
  rw [List.filterMap_append]
  cases h : write? change with
  | none => simp [h]
  | some b => simp [h]

theorem lastWrite_singleton {β : Type} (write? : StageCommand → Option β) (change : StageCommand) :
    lastWrite write? [change] = write? change := by
  have h := lastWrite_concat write? [] change
  rwa [List.nil_append, show lastWrite write? [] = none from rfl, Option.or_none] at h

namespace StageCommand

/-- What a change makes of the background. -/
def background? : StageCommand → Option (Option String)
  | .showBackground asset _ => some (some asset)
  | .hideBackground _ => some none
  | _ => none

/-- What a change makes of the picture over the background. -/
def cg? : StageCommand → Option (Option String)
  | .showCg asset _ => some (some asset)
  | .hideCg _ => some none
  | _ => none

/-- Whether a change shows the character or hides it. -/
def presence? (id : String) : StageCommand → Option Bool
  | .showCharacter other _ _ _ _ => if id = other then some true else none
  | .hideCharacter other _ => if id = other then some false else none
  | _ => none

def sprite? (id : String) : StageCommand → Option String
  | .showCharacter other sprite _ _ _ | .changeSprite other sprite =>
    if id = other then some sprite else none
  | _ => none

def position? (id : String) : StageCommand → Option String
  | .showCharacter other _ position _ _ | .moveCharacter other position _ =>
    if id = other then some position else none
  | _ => none

def transition? (id : String) : StageCommand → Option (Option Transition)
  | .showCharacter other _ _ _ transition => if id = other then some transition else none
  | _ => none

/-- The change does nothing to this stage. -/
inductive Ignored (stage : Stage) : StageCommand → Prop
  | move {id position : String} {duration : Float} (absent : stage.characters.get? id = none) :
      Ignored stage (.moveCharacter id position duration)
  | sprite {id sprite : String} (absent : stage.characters.get? id = none) :
      Ignored stage (.changeSprite id sprite)
  | expression {id expression : String} : Ignored stage (.changeExpression id expression)

end StageCommand

/-- The last change that shows or hides the character shows it. -/
def IsShown (history : List StageCommand) (id : String) : Prop :=
  lastWrite (StageCommand.presence? id) history = some true

/-- The character came on stage with the change at index `n`, and has been there ever since. -/
structure Stay (history : List StageCommand) (id : String) (n : Nat) : Prop where
  lt : n < history.length
  absent : ¬IsShown (history.take n) id
  present : ∀ m, n < m → m ≤ history.length → IsShown (history.take m) id

/-- The character is as the changes of its stay have left it. -/
structure Portrayed (history : List StageCommand) (id : String) (shown : ShownCharacter) : Prop where
  named : shown.id = id
  stay : ∃ n, Stay history id n ∧
    lastWrite (StageCommand.sprite? id) (history.drop n) = some shown.sprite ∧
    lastWrite (StageCommand.position? id) (history.drop n) = some shown.position
  transition : lastWrite (StageCommand.transition? id) history = some shown.transition

/-- The stage is what the last writers among the changes of a history have left. -/
structure Stage.LastWritten (history : List StageCommand) (stage : Stage) : Prop where
  background : stage.background = (lastWrite StageCommand.background? history).join
  cg : stage.cg = (lastWrite StageCommand.cg? history).join
  onStage : ∀ id, id ∈ stage.characters.keys ↔ IsShown history id
  portrayed : ∀ id shown, stage.characters.get? id = some shown → Portrayed history id shown
  /-- Characters whose stay began earlier stand in front. -/
  order : stage.characters.keys.Pairwise fun first second =>
    ∃ m n, Stay history first m ∧ Stay history second n ∧ m < n

variable {history : List StageCommand} {change : StageCommand} {id : String} {n : Nat}

theorem isShown_concat_of_some {b : Bool} (h : change.presence? id = some b) :
    IsShown (history ++ [change]) id ↔ b = true := by
  unfold IsShown
  rw [lastWrite_concat, h, Option.some_or, Option.some_inj]

theorem isShown_concat_of_none (h : change.presence? id = none) :
    IsShown (history ++ [change]) id ↔ IsShown history id := by
  unfold IsShown
  rw [lastWrite_concat, h, Option.none_or]

/-- A stay goes on as long as the character is not hidden. -/
theorem Stay.concat (h : Stay history id n) (stays : change.presence? id ≠ some false) :
    Stay (history ++ [change]) id n := by
  have htake : ∀ m, m ≤ history.length → (history ++ [change]).take m = history.take m :=
    fun m hm => List.take_append_of_le_length hm
  have hlt := h.lt
  refine ⟨by rw [List.length_append]; omega, ?_, ?_⟩
  · rw [htake n (Nat.le_of_lt hlt)]
    exact h.absent
  · intro m hnm hm
    rw [List.length_append, List.length_singleton] at hm
    by_cases hold : m ≤ history.length
    · rw [htake m hold]
      exact h.present m hnm hold
    · rw [List.take_of_length_le (by rw [List.length_append, List.length_singleton]; omega)]
      cases hp : change.presence? id with
      | none =>
        have hnow := h.present history.length hlt (Nat.le_refl _)
        rw [List.take_length] at hnow
        exact (isShown_concat_of_none hp).2 hnow
      | some b =>
        refine (isShown_concat_of_some hp).2 ?_
        cases b with
        | true => rfl
        | false => exact absurd hp stays

/-- A character that is shown and was not on stage begins a stay. -/
theorem Stay.enter (absent : ¬IsShown history id) (shows : change.presence? id = some true) :
    Stay (history ++ [change]) id history.length := by
  refine ⟨by rw [List.length_append, List.length_singleton]; omega, ?_, ?_⟩
  · rw [List.take_left]
    exact absent
  · intro m hlt hm
    rw [List.take_of_length_le (by rw [List.length_append, List.length_singleton]; omega)]
    exact (isShown_concat_of_some shows).2 rfl

/-! ## One character -/

namespace StageCommand

/-- What a change makes of one character, if it is on stage. -/
def on (id : String) (shown : Option ShownCharacter) : StageCommand → Option ShownCharacter
  | .showCharacter other sprite position _ transition =>
    if id = other then some ⟨other, sprite, position, transition⟩ else shown
  | .hideCharacter other _ => if id = other then none else shown
  | .moveCharacter other position _ =>
    if id = other then shown.map fun shown => { shown with position } else shown
  | .changeSprite other sprite =>
    if id = other then shown.map fun shown => { shown with sprite } else shown
  | _ => shown

/-- A character on stage has, after a change, what the change wrote, and for the rest what it had. -/
structure Rewritten (id : String) (change : StageCommand) (before : Option ShownCharacter)
    (after : ShownCharacter) : Prop where
  named : after.id = id
  sprite : (change.sprite? id).or (before.map (·.sprite)) = some after.sprite
  position : (change.position? id).or (before.map (·.position)) = some after.position
  transition : (change.transition? id).or (before.map (·.transition)) = some after.transition

theorem rewritten_of_on {before : Option ShownCharacter} {after : ShownCharacter}
    (named : ∀ shown, before = some shown → shown.id = id) (h : change.on id before = some after) :
    Rewritten id change before after := by
  -- A change of another character, or of none, writes nothing.
  have unwritten : before = some after → change.sprite? id = none → change.position? id = none →
      change.transition? id = none → Rewritten id change before after := by
    rintro hbefore hsprite hposition htransition
    refine ⟨named after hbefore, ?_, ?_, ?_⟩
    · rw [hsprite, hbefore]; rfl
    · rw [hposition, hbefore]; rfl
    · rw [htransition, hbefore]; rfl
  cases change with
  | showCharacter other sprite position expression transition =>
    by_cases heq : id = other
    · simp only [on, if_pos heq] at h
      cases h
      refine ⟨heq.symm, ?_, ?_, ?_⟩ <;> simp [sprite?, position?, transition?, heq]
    · simp only [on, if_neg heq] at h
      exact unwritten h (if_neg heq) (if_neg heq) (if_neg heq)
  | hideCharacter other transition =>
    by_cases heq : id = other
    · simp only [on, if_pos heq] at h
      cases h
    · simp only [on, if_neg heq] at h
      exact unwritten h rfl rfl rfl
  | moveCharacter other position duration =>
    by_cases heq : id = other
    · simp only [on, if_pos heq] at h
      obtain ⟨shown, hshown, rfl⟩ := Option.map_eq_some_iff.1 h
      refine ⟨named shown hshown, ?_, ?_, ?_⟩ <;> simp [sprite?, position?, transition?, heq, hshown]
    · simp only [on, if_neg heq] at h
      exact unwritten h rfl (if_neg heq) rfl
  | changeSprite other sprite =>
    by_cases heq : id = other
    · simp only [on, if_pos heq] at h
      obtain ⟨shown, hshown, rfl⟩ := Option.map_eq_some_iff.1 h
      refine ⟨named shown hshown, ?_, ?_, ?_⟩ <;> simp [sprite?, position?, transition?, heq, hshown]
    · simp only [on, if_neg heq] at h
      exact unwritten h (if_neg heq) rfl rfl
  | _ => exact unwritten h rfl rfl rfl

/-- A change shows or hides a character as it says, and leaves others where they are. -/
theorem isSome_on (change : StageCommand) (id : String) (shown : Option ShownCharacter) :
    (change.on id shown).isSome = (change.presence? id).getD shown.isSome := by
  cases change with
  | showCharacter other sprite position expression transition =>
    simp only [on, presence?]
    split <;> rfl
  | hideCharacter other transition =>
    simp only [on, presence?]
    split <;> rfl
  | moveCharacter other position duration =>
    simp only [on, presence?]
    split
    · exact Option.isSome_map
    · rfl
  | changeSprite other sprite =>
    simp only [on, presence?]
    split
    · exact Option.isSome_map
    · rfl
  | _ => rfl

end StageCommand

namespace Stage

open OrderedMap

variable {stage : Stage}

theorem get?_update (stage : Stage) (other id : String) (f : ShownCharacter → ShownCharacter) :
    (stage.update other f).characters.get? id =
      if id = other then (stage.characters.get? id).map f else stage.characters.get? id := by
  cases h : stage.characters.get? other with
  | none =>
    rw [update_of_absent h]
    split
    · next heq => rw [heq, h, Option.map_none]
    · rfl
  | some shown =>
    unfold update
    rw [h]
    show (stage.characters.insert other (f shown)).get? id = _
    rw [get?_insert]
    split
    · next heq => rw [heq, h, Option.map_some]
    · rfl

/-- A change does to each character what it says. -/
theorem get?_perform (stage : Stage) (change : StageCommand) (id : String) :
    (stage.perform change).characters.get? id = change.on id (stage.characters.get? id) := by
  cases change with
  | showCharacter other sprite position expression transition => exact get?_insert _ _ _ _
  | hideCharacter other transition => exact get?_erase _ _ _
  | moveCharacter other position duration => exact get?_update stage other id _
  | changeSprite other sprite => exact get?_update stage other id _
  | _ => rfl

theorem keys_update (stage : Stage) (id : String) (f : ShownCharacter → ShownCharacter) :
    (stage.update id f).characters.keys = stage.characters.keys := by
  cases h : stage.characters.get? id with
  | none => rw [update_of_absent h]
  | some shown =>
    unfold update
    rw [h]
    show (stage.characters.insert id (f shown)).keys = _
    rw [keys_insert, if_pos (mem_keys_iff.2 ⟨shown, h⟩)]

/-- A change brings one character on stage, behind all others, or none; and it removes the ones it hides. -/
theorem keys_perform (stage : Stage) (change : StageCommand) :
    (∃ id, change.presence? id = some true ∧ id ∉ stage.characters.keys ∧
        (stage.perform change).characters.keys = stage.characters.keys ++ [id]) ∨
      (stage.perform change).characters.keys.Sublist stage.characters.keys := by
  cases change with
  | showCharacter id sprite position expression transition =>
    have hkeys := keys_insert stage.characters id ⟨id, sprite, position, transition⟩
    by_cases h : id ∈ stage.characters.keys
    · rw [if_pos h] at hkeys
      exact .inr (hkeys ▸ List.Sublist.refl _)
    · rw [if_neg h] at hkeys
      exact .inl ⟨id, if_pos rfl, h, hkeys⟩
  | hideCharacter id transition =>
    right
    show (stage.characters.erase id).keys.Sublist _
    rw [keys_erase]
    exact List.filter_sublist
  | moveCharacter id position duration =>
    exact .inr (keys_update stage id _ ▸ List.Sublist.refl _)
  | changeSprite id sprite =>
    exact .inr (keys_update stage id _ ▸ List.Sublist.refl _)
  | _ => exact .inr (List.Sublist.refl _)

theorem background_update (stage : Stage) (id : String) (f : ShownCharacter → ShownCharacter) :
    (stage.update id f).background = stage.background := by
  unfold update
  split <;> rfl

theorem cg_update (stage : Stage) (id : String) (f : ShownCharacter → ShownCharacter) :
    (stage.update id f).cg = stage.cg := by
  unfold update
  split <;> rfl

theorem background_perform (stage : Stage) (change : StageCommand) :
    (stage.perform change).background = change.background?.getD stage.background := by
  cases change with
  | moveCharacter id position duration => exact background_update stage id _
  | changeSprite id sprite => exact background_update stage id _
  | _ => rfl

theorem cg_perform (stage : Stage) (change : StageCommand) :
    (stage.perform change).cg = change.cg?.getD stage.cg := by
  cases change with
  | moveCharacter id position duration => exact cg_update stage id _
  | changeSprite id sprite => exact cg_update stage id _
  | _ => rfl

theorem perform_of_ignored (h : change.Ignored stage) : stage.perform change = stage := by
  cases h with
  | move absent => exact update_of_absent absent _
  | sprite absent => exact update_of_absent absent _
  | expression => rfl

end Stage

/-! ## One change -/

/-- What was written last is still what a character has after a change that it survives or enters by. -/
theorem lastWrite_concat_of_or {β : Type} {property : ShownCharacter → β}
    {write? : StageCommand → Option β} {before : Option ShownCharacter} {after : ShownCharacter}
    (wrote : (write? change).or (before.map property) = some (property after))
    (h : ∀ shown, before = some shown → lastWrite write? history = some (property shown)) :
    lastWrite write? (history ++ [change]) = some (property after) := by
  rw [lastWrite_concat]
  cases before with
  | none =>
    rw [Option.map_none, Option.or_none] at wrote
    rw [wrote, Option.some_or]
  | some shown => rw [h shown rfl, ← wrote, Option.map_some]

namespace Stage.LastWritten

variable {stage : Stage}

theorem presence_of_mem (hid : id ∈ (stage.perform change).characters.keys) :
    change.presence? id ≠ some false := by
  intro hhidden
  obtain ⟨shown, hshown⟩ := OrderedMap.mem_keys_iff.1 hid
  have hsome := StageCommand.isSome_on change id (stage.characters.get? id)
  rw [← get?_perform, hshown, hhidden] at hsome
  cases hsome

theorem stay_of_mem (h : LastWritten history stage) (hid : id ∈ stage.characters.keys) :
    ∃ n, Stay history id n := by
  obtain ⟨shown, hshown⟩ := OrderedMap.mem_keys_iff.1 hid
  obtain ⟨n, stay, -⟩ := (h.portrayed id shown hshown).stay
  exact ⟨n, stay⟩

theorem empty : LastWritten [] {} where
  background := rfl
  cg := rfl
  onStage := fun id => ⟨fun h => (by cases h), fun h => (by cases h)⟩
  portrayed := fun id shown h => (by cases h)
  order := List.Pairwise.nil

theorem onStage_perform (h : LastWritten history stage) (change : StageCommand) (id : String) :
    id ∈ (stage.perform change).characters.keys ↔ IsShown (history ++ [change]) id := by
  have hkeys : ∀ s : Stage, id ∈ s.characters.keys ↔ (s.characters.get? id).isSome = true := by
    intro s
    rw [OrderedMap.mem_keys_iff, Option.isSome_iff_exists]
  rw [hkeys, get?_perform, StageCommand.isSome_on]
  cases hp : change.presence? id with
  | none =>
    rw [isShown_concat_of_none hp, ← h.onStage id, hkeys]
    rfl
  | some b =>
    rw [isShown_concat_of_some hp]
    rfl

theorem portrayed_perform (h : LastWritten history stage) (change : StageCommand) {id : String}
    {after : ShownCharacter} (hafter : (stage.perform change).characters.get? id = some after) :
    Portrayed (history ++ [change]) id after := by
  have hmem := OrderedMap.mem_keys_iff.2 ⟨after, hafter⟩
  rw [get?_perform] at hafter
  have rewritten :=
    StageCommand.rewritten_of_on (fun shown hshown => (h.portrayed id shown hshown).named) hafter
  have htransition := lastWrite_concat_of_or rewritten.transition
    fun shown hshown => (h.portrayed id shown hshown).transition
  refine ⟨rewritten.named, ?_, htransition⟩
  cases hbefore : stage.characters.get? id with
  | some before =>
    obtain ⟨n, stay, hsprite, hposition⟩ := (h.portrayed id before hbefore).stay
    rw [hbefore] at rewritten
    refine ⟨n, stay.concat (presence_of_mem hmem), ?_, ?_⟩
    · rw [List.drop_append_of_le_length (Nat.le_of_lt stay.lt)]
      refine lastWrite_concat_of_or rewritten.sprite ?_
      rintro shown ⟨⟩
      exact hsprite
    · rw [List.drop_append_of_le_length (Nat.le_of_lt stay.lt)]
      refine lastWrite_concat_of_or rewritten.position ?_
      rintro shown ⟨⟩
      exact hposition
  | none =>
    -- The character enters with this change, and its stay is written by this change alone.
    have habsent : ¬IsShown history id := by
      rw [← h.onStage id, OrderedMap.mem_keys_iff, hbefore]
      rintro ⟨shown, ⟨⟩⟩
    have hnow : IsShown (history ++ [change]) id := (h.onStage_perform change id).1 hmem
    have shows : change.presence? id = some true := by
      cases hp : change.presence? id with
      | none => exact absurd ((isShown_concat_of_none hp).1 hnow) habsent
      | some b => rw [(isShown_concat_of_some hp).1 hnow]
    obtain ⟨-, hsprite, hposition, -⟩ := rewritten
    rw [hbefore, Option.map_none, Option.or_none] at hsprite hposition
    refine ⟨history.length, .enter habsent shows, ?_, ?_⟩
    · rw [List.drop_left, lastWrite_singleton, hsprite]
    · rw [List.drop_left, lastWrite_singleton, hposition]

theorem order_perform (h : LastWritten history stage) (change : StageCommand) :
    (stage.perform change).characters.keys.Pairwise fun first second =>
      ∃ m n, Stay (history ++ [change]) first m ∧ Stay (history ++ [change]) second n ∧ m < n := by
  have hold : ∀ l : List String, l.Sublist stage.characters.keys →
      (∀ id ∈ l, id ∈ (stage.perform change).characters.keys) →
      l.Pairwise fun first second =>
        ∃ m n, Stay (history ++ [change]) first m ∧ Stay (history ++ [change]) second n ∧ m < n := by
    intro l hsub hl
    refine (h.order.sublist hsub).imp_of_mem ?_
    rintro first second hfirst hsecond ⟨m, n, hm, hn, hlt⟩
    exact ⟨m, n, hm.concat (presence_of_mem (hl first hfirst)),
      hn.concat (presence_of_mem (hl second hsecond)), hlt⟩
  rcases keys_perform stage change with ⟨id, shows, hnew, hkeys⟩ | hsub
  · have hmem : ∀ other ∈ stage.characters.keys, other ∈ (stage.perform change).characters.keys := by
      intro other hother
      rw [hkeys]
      exact List.mem_append_left _ hother
    have enters : Stay (history ++ [change]) id history.length :=
      .enter (fun hshown => hnew ((h.onStage id).2 hshown)) shows
    rw [hkeys, List.pairwise_append]
    refine ⟨hold _ (List.Sublist.refl _) hmem, List.pairwise_singleton _ _, ?_⟩
    intro first hfirst second hsecond
    rw [List.mem_singleton.1 hsecond]
    obtain ⟨m, stay⟩ := h.stay_of_mem hfirst
    exact ⟨m, history.length, stay.concat (presence_of_mem (hmem first hfirst)), enters, stay.lt⟩
  · exact hold _ hsub fun id hid => hid

/-- **One change.** Performing a change keeps the stage what the last writers have left. -/
theorem perform (h : LastWritten history stage) (change : StageCommand) :
    LastWritten (history ++ [change]) (stage.perform change) where
  background := by
    rw [lastWrite_concat, background_perform, h.background]
    cases change.background? <;> rfl
  cg := by
    rw [lastWrite_concat, cg_perform, h.cg]
    cases change.cg? <;> rfl
  onStage := h.onStage_perform change
  portrayed := fun id after => h.portrayed_perform change
  order := h.order_perform change

end Stage.LastWritten

/-! ## Runs -/

variable {scenario : Scenario} {s : Session} {p : Playback} {request : Request} {requests : List Request}

/-- What a request other than loading makes of the stage. -/
theorem Playback.Presents.stage_eq {d : Display} (h : Presents scenario p request d)
    (noLoad : ∀ data, request ≠ .load data) :
    d.stage = match p.performs? scenario request with
      | some change => p.stage.perform change
      | none => p.stage := by
  cases h with
  | stay idle =>
    rw [idle]
    rfl
  | perform performs =>
    rw [performs]
    rfl
  | @load data => exact absurd rfl (noLoad data)
  | tellCharacters => rfl
  | tellUnlocks => rfl

theorem stage_respond (noLoad : ∀ data, request ≠ .load data) :
    (p.respond scenario request).state.stage =
      match p.performs? scenario request with
      | some change => p.stage.perform change
      | none => p.stage :=
  (presents_respond scenario p request).stage_eq noLoad

/-- **A run.** Requests other than loading write on, in the history, what they perform on the stage. -/
theorem lastWritten_after (noLoad : ∀ request ∈ requests, ∀ data, request ≠ .load data)
    (h : Stage.LastWritten history s.playback.stage) :
    Stage.LastWritten (history ++ s.performed scenario requests)
      (s.after scenario requests).playback.stage := by
  induction requests generalizing s history with
  | nil =>
    rw [Session.performed, List.append_nil]
    exact h
  | cons request rest ih =>
    obtain ⟨hfirst, hrest⟩ := List.forall_mem_cons.1 noLoad
    have hstep : Stage.LastWritten (history ++ (s.playback.performs? scenario request).toList)
        (s.next scenario request).playback.stage := by
      show Stage.LastWritten _ (s.playback.respond scenario request).state.stage
      rw [stage_respond hfirst]
      cases s.playback.performs? scenario request with
      | none =>
        rw [Option.toList_none, List.append_nil]
        exact h
      | some change => exact h.perform change
    rw [Session.performed, ← List.append_assoc]
    exact ih hrest hstep

/-- **The stage.** After a run that starts with an empty stage and loads no game, the stage is what the last
writers among the changes performed at the play head have left; no character stands there twice. Whatever
else a host asks for but loading, the moves and changes of absent characters and changes of expression
included, leaves the stage as it is. -/
theorem stage_is_last_written (bare : s.playback.stage = {})
    (noLoad : ∀ request ∈ requests, ∀ data, request ≠ .load data) :
    Stage.LastWritten (s.performed scenario requests) (s.after scenario requests).playback.stage ∧
      (s.after scenario requests).playback.stage.characters.keys.Nodup ∧
      ∀ (p : Playback) (request : Request), (∀ data, request ≠ .load data) →
        (∀ change, p.performs? scenario request = some change → change.Ignored p.stage) →
        (p.respond scenario request).state.stage = p.stage := by
  refine ⟨?_, OrderedMap.nodup _, ?_⟩
  · have hempty : Stage.LastWritten [] s.playback.stage := bare ▸ Stage.LastWritten.empty
    exact lastWritten_after noLoad hempty
  · intro p request noLoad ignored
    rw [stage_respond noLoad]
    cases hperforms : p.performs? scenario request with
    | none => rfl
    | some change => exact Stage.perform_of_ignored (ignored change hperforms)

namespace Sample

/-- Ann and Bob come on stage, Ann leaves and comes back, and a branch would hide Bob. -/
def rehearsal : Scenario :=
  .ofScenes ⟨"rehearsal", "Rehearsal", none, none, none⟩ "theatre"
    [⟨"theatre", "Theatre",
      [.stage (.showBackground "stage.png" none),
       .stage (.showCharacter "ann" "ann.png" "left" none (some .fade)),
       .stage (.showCharacter "bob" "bob.png" "right" none none),
       .stage (.showCg "curtain.png" none),
       .stage (.hideCharacter "ann" none),
       .stage (.moveCharacter "ann" "center" 0.5),
       .branch (.flag "late" false) [.stage (.hideCharacter "bob" none)] [],
       .stage (.showCharacter "ann" "encore.png" "front" none none),
       .stage (.changeSprite "bob" "cheer.png"),
       .stage (.hideCg none)], none, none⟩] []

/-- The rehearsal from its first command to its last. -/
def rehearse : List Request :=
  .start :: (List.replicate 10 [.execute, .advance]).flatten

end Sample

/-- Ann, who left and came back, stands behind Bob; her move while she was away is lost. -/
theorem stage_is_last_written_at_rehearsal :
    (⟨{}, []⟩ : Session).playback.stage = {} ∧
      (∀ request ∈ Sample.rehearse, ∀ data, request ≠ .load data) ∧
      Stage.LastWritten (Session.performed Sample.rehearsal ⟨{}, []⟩ Sample.rehearse)
        (Session.after Sample.rehearsal ⟨{}, []⟩ Sample.rehearse).playback.stage ∧
      (Session.performed Sample.rehearsal ⟨{}, []⟩ Sample.rehearse).length = 9 ∧
      (Session.after Sample.rehearsal ⟨{}, []⟩ Sample.rehearse).playback.stage =
        ⟨some "stage.png", none,
          .ofList [("bob", ⟨"bob", "cheer.png", "right", none⟩),
            ("ann", ⟨"ann", "encore.png", "front", none⟩)]⟩ := by
  have noLoad : ∀ request ∈ Sample.rehearse, ∀ data, request ≠ .load data := by
    simp [Sample.rehearse, List.replicate]
  have bare : (⟨{}, []⟩ : Session).playback.stage = {} := rfl
  exact ⟨bare, noLoad, (stage_is_last_written bare noLoad).1, rfl, rfl⟩

end VisualNovel
