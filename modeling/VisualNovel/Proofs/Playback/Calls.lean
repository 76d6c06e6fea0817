import VisualNovel.Proofs.Playback.Placement

/-!
# Calls and returns match

A call puts one frame on the stack, and only a return takes one off. As long as the stack does not get
shorter than it was right after a call, all that happens goes on above the frame of that call
(`Moves.keeps_base` for one request, `keeps_base_after` for a run). So the return that finds this
frame on top goes on behind the call, with the stack the call found, whatever was called, left by a jump
or refused in between.
-/

namespace VisualNovel

open Playback

variable {scenario : Scenario} {p : Playback} {s : Session}

/-! ## The call -/

theorem execute_eq_call {key returnScene : String}
    (current : p.currentCommand? scenario = some (.flow (.call key returnScene))) :
    p.execute scenario = p.call scenario key returnScene := by
  unfold execute
  rw [current]
  rfl

/-- A call succeeds exactly when its scenes exist and there is room for its frame. -/
theorem exists_call_iff {key returnScene : String} :
    (∃ signal, (p.call scenario key returnScene).result = .ok signal) ↔
      scenario.hasScene returnScene ∧ scenario.hasScene key ∧ p.stack.length < maxCallDepth := by
  constructor
  · rintro ⟨signal, h⟩
    unfold call at h
    split at h
    · cases h
    · next hr =>
      split at h
      · cases h
      · next room =>
        split at h
        · cases h
        · next hk => exact ⟨by simpa using hr, by simpa using hk, Nat.not_le.1 room⟩
  · rintro ⟨hr, hk, room⟩
    obtain ⟨target, ht⟩ := Scenario.hasScene_iff.1 hk
    rw [call_known hk hr room, jump_known ht]
    exact ⟨_, rfl⟩

/-- A call that succeeds goes to the first command of its scene, with its frame on top of the stack. -/
theorem head_of_call {key returnScene : String} {signal : Signal}
    (h : (p.call scenario key returnScene).result = .ok signal) :
    (p.call scenario key returnScene).state.head =
      headAt key (p.stack ++ [⟨returnScene, p.index + 1⟩]) := by
  obtain ⟨hr, hk, room⟩ := exists_call_iff.1 ⟨signal, h⟩
  rw [call_known hk hr room, Outcome.state_report, head_jump_known hk]

/-! ## What happens above a frame -/

/-- A request other than loading, after which the stack still reaches up to `base`, leaves `base` where it
was. -/
theorem Playback.Moves.keeps_base {request : Request} {after : Head} {base : List Frame}
    (h : Moves scenario p request after) (below : base <+: p.stack)
    (noLoad : ∀ data, request ≠ .load data) (deep : base.length ≤ after.stack.length) :
    base <+: after.stack := by
  have shorter : p.stack.dropLast <+: p.stack := List.dropLast_prefix _
  cases h with
  | stay => exact below
  | start => exact below
  | advance => exact below
  | jump => exact below
  | select => exact below
  | follow => exact below
  | call => exact below.trans (List.prefix_append _ _)
  | back | strand => exact List.prefix_of_prefix_length_le below shorter deep
  | @load data => exact absurd rfl (noLoad data)

/-- The stack has at least `depth` frames all along a run of requests, its start included. -/
def Session.StaysAbove (scenario : Scenario) (depth : Nat) (s : Session) (requests : List Request) :
    Prop :=
  ∀ early, early <+: requests → depth ≤ (s.after scenario early).playback.stack.length

theorem Session.StaysAbove.next {depth : Nat} {request : Request} {rest : List Request}
    (h : s.StaysAbove scenario depth (request :: rest)) :
    (s.next scenario request).StaysAbove scenario depth rest := by
  intro early hearly
  exact h (request :: early) (List.cons_prefix_cons.2 ⟨rfl, hearly⟩)

theorem keeps_base_after {base : List Frame} {requests : List Request}
    (below : base <+: s.playback.stack)
    (noLoad : ∀ request ∈ requests, ∀ data, request ≠ .load data)
    (deep : s.StaysAbove scenario base.length requests) :
    base <+: (s.after scenario requests).playback.stack := by
  induction requests generalizing s with
  | nil => exact below
  | cons request rest ih =>
    obtain ⟨hfirst, hrest⟩ := List.forall_mem_cons.1 noLoad
    have hstep : base <+: (s.next scenario request).playback.stack := by
      refine (moves_respond scenario s.playback request).keeps_base below hfirst ?_
      exact deep [request] (List.cons_prefix_cons.2 ⟨rfl, List.nil_prefix⟩)
    exact ih hstep hrest deep.next

/-! ## The return -/

/-- From a valid place, a return with one frame above `rest` goes where that frame tells. -/
theorem execute_back_to (hp : p.head.Valid scenario)
    (current : p.currentCommand? scenario = some (.flow .back)) {rest : List Frame} {frame : Frame}
    (hstack : p.stack = rest ++ [frame]) :
    ∃ signal, (p.execute scenario).result = .ok signal ∧
      (p.execute scenario).state.head = ⟨some frame.scene, frame.resume, rest⟩ := by
  have hopen : p.stack ≠ [] := by simp [hstack]
  obtain ⟨rest', frame', signal, heq, hresult, hhead⟩ := execute_back hp current hopen
  obtain ⟨rfl, hframe⟩ := List.append_inj' (hstack.symm.trans heq) rfl
  cases hframe
  exact ⟨signal, hresult, hhead⟩

/-- **Calls and returns.** A call that stands at the play head succeeds exactly when both its scenes exist
and fewer than a hundred calls are open; it goes to the start of its scene and puts the place behind
itself on the stack. After any requests but loading during which the stack stays at least that high, the
frames of that moment are still at its bottom, and a return that finds no more than these goes on behind
the call with the stack as the call found it. -/
theorem call_and_return_match (h : s.Reached scenario Session.anyRequest) {key returnScene : String}
    (current : s.playback.currentCommand? scenario = some (.flow (.call key returnScene))) :
    ((∃ signal, (s.playback.execute scenario).result = .ok signal) ↔
      scenario.hasScene returnScene ∧ scenario.hasScene key ∧ s.playback.stack.length < 100) ∧
    ∀ signal, (s.playback.execute scenario).result = .ok signal →
      (s.next scenario .execute).playback.head =
        ⟨some key, 0, s.playback.stack ++ [⟨returnScene, s.playback.index + 1⟩]⟩ ∧
      ∀ requests : List Request, (∀ request ∈ requests, ∀ data, request ≠ .load data) →
        (s.next scenario .execute).StaysAbove scenario (s.playback.stack.length + 1) requests →
        ∀ p, p = ((s.next scenario .execute).after scenario requests).playback →
          s.playback.stack ++ [⟨returnScene, s.playback.index + 1⟩] <+: p.stack ∧
          (p.currentCommand? scenario = some (.flow .back) →
            p.stack.length = s.playback.stack.length + 1 →
            ∃ signal, (p.execute scenario).result = .ok signal ∧
              (p.execute scenario).state.head =
                ⟨some returnScene, s.playback.index + 1, s.playback.stack⟩) := by
  have hexec := execute_eq_call current
  constructor
  · rw [hexec]
    exact exists_call_iff
  · intro signal hok
    have hhead : (s.next scenario .execute).playback.head =
        headAt key (s.playback.stack ++ [⟨returnScene, s.playback.index + 1⟩]) := by
      show (s.playback.execute scenario).state.head = _
      rw [hexec] at hok ⊢
      exact head_of_call hok
    refine ⟨hhead, ?_⟩
    rintro requests noLoad deep p rfl
    have hstack : (s.next scenario .execute).playback.stack =
        s.playback.stack ++ [⟨returnScene, s.playback.index + 1⟩] := congrArg Head.stack hhead
    have hbase : s.playback.stack ++ [⟨returnScene, s.playback.index + 1⟩] <+:
        ((s.next scenario .execute).after scenario requests).playback.stack := by
      refine keeps_base_after ⟨[], by rw [List.append_nil, hstack]⟩ noLoad ?_
      rw [List.length_append, List.length_singleton]
      exact deep
    refine ⟨hbase, ?_⟩
    intro hback hlength
    have hsame : s.playback.stack ++ [⟨returnScene, s.playback.index + 1⟩] =
        ((s.next scenario .execute).after scenario requests).playback.stack := by
      refine hbase.eq_of_length ?_
      rw [hlength, List.length_append, List.length_singleton]
    have hreached : ((s.next scenario .execute).after scenario requests).Reached scenario
        Session.anyRequest :=
      Session.Reached.after (.next h trivial) (Session.permitted_of_forall fun _ _ _ => trivial)
    exact execute_back_to hreached.valid hback hsame.symm

namespace Sample

/-- The session that stands at the call in the hall. -/
def atCall : Session :=
  Session.after story ⟨{}, []⟩ [.start, .execute, .advance, .execute, .advance]

/-- From the cellar back into the hall by a jump, down by a second call, up by a return, and by a jump to
the return in the cellar. -/
def detour : List Request :=
  [.jump "hall", .advance, .advance, .execute, .advance, .execute, .jump "cellar", .advance]

end Sample

/-- After the detour the return at the end of the cellar is the one that matches the first call. -/
theorem call_and_return_match_in_hall :
    Sample.atCall.Reached Sample.story Session.anyRequest ∧
      Sample.atCall.playback.currentCommand? Sample.story = some (.flow (.call "cellar" "hall")) ∧
      ∃ p signal, p = ((Sample.atCall.next Sample.story .execute).after Sample.story Sample.detour).playback ∧
        (p.execute Sample.story).result = .ok signal ∧
        (p.execute Sample.story).state.head = ⟨some "hall", 3, []⟩ := by
  have reached : Sample.atCall.Reached Sample.story Session.anyRequest :=
    Session.Reached.after (@Session.Reached.created Sample.story Session.anyRequest {} {} {} rfl)
      (Session.permitted_of_forall fun _ _ _ => trivial)
  have current : Sample.atCall.playback.currentCommand? Sample.story =
      some (.flow (.call "cellar" "hall")) := rfl
  have noLoad : ∀ request ∈ Sample.detour, ∀ data, request ≠ .load data := by
    simp [Sample.detour]
  have deep : (Sample.atCall.next Sample.story .execute).StaysAbove Sample.story
      (Sample.atCall.playback.stack.length + 1) Sample.detour := by
    have hall : ∀ n ≤ Sample.detour.length, Sample.atCall.playback.stack.length + 1 ≤
        ((Sample.atCall.next Sample.story .execute).after Sample.story
          (Sample.detour.take n)).playback.stack.length := by
      decide
    intro early hearly
    rw [List.prefix_iff_eq_take.1 hearly]
    exact hall early.length hearly.length_le
  obtain ⟨-, enters⟩ := call_and_return_match reached current
  obtain ⟨-, matched⟩ := enters (.sceneChanged none none) rfl
  obtain ⟨signal, hresult, hhead⟩ := (matched Sample.detour noLoad deep _ rfl).2 rfl rfl
  exact ⟨reached, current, _, signal, rfl, hresult, hhead⟩

end VisualNovel
