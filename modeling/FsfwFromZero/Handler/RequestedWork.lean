import FsfwFromZero.Handler.FrameRatePaths
import FsfwFromZero.Handler.Transmission

/-!
# The handler does what it is asked to do

The framework calls most overrides of its own accord, in every cycle; work comes to the handler in
its requests.  Here a run is measured against the requests among its calls:

* `Call.isRequest`, `Call.requestedRate` — the calls that bring work, and the rate they bring;
* `emissions_le_requests` — **no command is built unasked**: each kind is emitted at most as often
  as it was requested; `transmissions_le_requests` — and it leaves the handler at most twice as
  often;
* `Call.isLoad` — a call that loads a parameter, the one other way to a rate;
* `WorkInvariant` / `work_invariant` — **the run invariant** without loads: the rate requested is
  the one last asked for, it is in force once set-frame-rate is no longer pending, and every rate
  was asked for.
-/

namespace FsfwFromZero

open Lib

/-- Is this call a request? -/
def Call.isRequest : Call → Bool
  | .buildCommandFromCommand _ _ => true
  | .buildNormalDeviceCommand _ => false
  | .scanForReply _ _ => false
  | .interpretDeviceReply _ => false
  | .getParameter _ _ _ _ _ _ => false
  | .doStartUp => false
  | .doShutDown => false
  | .buildTransitionDeviceCommand _ => false

/-- Does this call load a parameter? -/
def Call.isLoad : Call → Bool
  | .buildCommandFromCommand _ _ => false
  | .buildNormalDeviceCommand _ => false
  | .scanForReply _ _ => false
  | .interpretDeviceReply _ => false
  | .getParameter _ _ _ newValues _ _ => newValues.isSome
  | .doStartUp => false
  | .doShutDown => false
  | .buildTransitionDeviceCommand _ => false

/-- The command that a request asks for. -/
def Call.requestedId : Call → Option DeviceCommandId
  | .buildCommandFromCommand deviceCommand _ => some deviceCommand
  | .buildNormalDeviceCommand _ => none
  | .scanForReply _ _ => none
  | .interpretDeviceReply _ => none
  | .getParameter _ _ _ _ _ _ => none
  | .doStartUp => none
  | .doShutDown => none
  | .buildTransitionDeviceCommand _ => none

/-- The frame rate that a request brings. -/
def Call.requestedRate (call : Call) : Option Double :=
  if call.isRequest then call.suppliedRate {} else none

/-! ### Commands -/

/-- A call that leaves `k` pending found it pending, or asks for it. -/
theorem pending_step (h : WebcamDeviceHandler) (com : h.communicationInterface = true)
    (call : Call) (k : CommandId) (hpending : (h.step call).2.board.pending k = true) :
    call.requestedId = some k.toRaw ∨
      h.board.pending k = true ∧ emittedId (handler.event h call) ≠ some k.toRaw := by
  rw [h.board_step com call, RequestBoard.apply_pending] at hpending
  rcases hpending with ⟨rate, hact⟩ | ⟨hpending, hact⟩
  · obtain ⟨data, rfl⟩ := actionOf_request hact
    exact Or.inl rfl
  · refine Or.inr ⟨hpending, fun hemitted => hact ?_⟩
    obtain ⟨j, hj, hemission⟩ := (emittedId_eq_some h call com).mp hemitted
    rw [CommandId.toRaw_inj.mp hj]
    exact (emission_iff h call com j).mp hemission

/-- A call emits `k` at the cost of its pending mark, and only a request for `k` sets the mark. -/
theorem emission_step (h : WebcamDeviceHandler) (com : h.communicationInterface = true)
    (call : Call) (k : CommandId) :
    (if emittedId (handler.event h call) = some k.toRaw then 1 else 0) +
        ((h.step call).2.board.pending k).toNat ≤
      (if call.requestedId = some k.toRaw then 1 else 0) + (h.board.pending k).toNat := by
  have hstep := pending_step h com call k
  by_cases hemitted : emittedId (handler.event h call) = some k.toRaw
  · obtain ⟨j, hj, hemission⟩ := (emittedId_eq_some h call com).mp hemitted
    have hpending := pending_of_emission h call com (CommandId.toRaw_inj.mp hj ▸ hemission)
    have hcall : call = .buildNormalDeviceCommand true := hemission.1
    have hafter : (h.step call).2.board.pending k = false := by
      cases hb : (h.step call).2.board.pending k with
      | false => rfl
      | true =>
        rcases hstep hb with hrequest | ⟨-, hnot⟩
        · rw [hcall] at hrequest
          cases hrequest
        · exact absurd hemitted hnot
    rw [if_pos hemitted, hafter, hpending]
    exact Nat.le_add_left _ _
  · rw [if_neg hemitted, Nat.zero_add]
    cases hb : (h.step call).2.board.pending k with
    | false => exact Nat.zero_le _
    | true =>
      rcases hstep hb with hrequest | ⟨hpending, -⟩
      · rw [if_pos hrequest]
        exact Nat.le_add_right _ _
      · rw [hpending]
        exact Nat.le_add_left _ _

/-- **No command is built unasked.**  In every run each kind is emitted at most as often as it was
requested, counting a request that was pending at the start and one that still is. -/
theorem emissions_le_requests (s : WebcamDeviceHandler) (com : s.communicationInterface = true)
    (k : CommandId) (calls : List Call) :
    (handler.trace s calls).countP (emittedId · = some k.toRaw) +
        ((handler.final s calls).board.pending k).toNat ≤
      calls.countP (Call.requestedId · = some k.toRaw) + (s.board.pending k).toNat := by
  induction calls using List.reverseRecOn with
  | nil => simp
  | append_singleton calls call ih =>
    have hcom : (handler.final s calls).communicationInterface = true := by
      rw [final_communicationInterface, com]
    have hstep := emission_step (handler.final s calls) hcom call k
    rw [Machine.trace_snoc, Machine.final_snoc, List.countP_append, List.countP_append,
      List.countP_singleton, List.countP_singleton, handler_step]
    simp only [decide_eq_true_eq]
    omega

/-- An event that accepts a request is a request. -/
theorem accepted_le_requests (s : WebcamDeviceHandler) (k : CommandId) (calls : List Call) :
    (handler.trace s calls).countP (acceptedId · = some k.toRaw) ≤
      calls.countP (Call.requestedId · = some k.toRaw) := by
  have hinputs : calls.countP (Call.requestedId · = some k.toRaw) =
      (handler.trace s calls).countP fun e => e.input.requestedId = some k.toRaw := by
    rw [← handler.trace_inputs s calls, List.countP_map, handler.trace_inputs s calls]
    rfl
  rw [hinputs]
  refine List.countP_mono_left fun e _ haccepted => ?_
  have haccepted : acceptedId e = some k.toRaw := of_decide_eq_true haccepted
  refine decide_eq_true ?_
  rw [acceptedId] at haccepted
  split at haccepted
  · rename_i c data hinput
    split_ifs at haccepted with hret
    rw [hinput]
    exact haccepted
  · cases haccepted

theorem countP_transmittedId (c : DeviceCommandId) (hist : List CallEvent) :
    hist.countP (transmittedId · = some c) ≤
      hist.countP (acceptedId · = some c) + hist.countP (emittedId · = some c) := by
  induction hist with
  | nil => exact Nat.le_refl 0
  | cons e hist ih =>
    have hone : (if transmittedId e = some c then 1 else 0) ≤
        (if acceptedId e = some c then 1 else 0) + (if emittedId e = some c then 1 else 0) := by
      by_cases hsent : transmittedId e = some c
      · rcases Option.or_eq_some_iff.mp hsent with haccepted | ⟨-, hemitted⟩
        · rw [if_pos hsent, if_pos haccepted]
          exact Nat.le_add_right 1 _
        · rw [if_pos hsent, if_pos hemitted]
          exact Nat.le_add_left 1 _
      · rw [if_neg hsent]
        exact Nat.zero_le _
    simp only [List.countP_cons, decide_eq_true_eq]
    omega

/-- **No command leaves unasked**: from a handler with nothing pending, each kind is transmitted at
most twice as often as it was requested. -/
theorem transmissions_le_requests (s : WebcamDeviceHandler) (com : s.communicationInterface = true)
    (k : CommandId) (hpending : s.board.pending k = false) (calls : List Call) :
    (handler.trace s calls).countP (emittedId · = some k.toRaw) ≤
        calls.countP (Call.requestedId · = some k.toRaw) ∧
      (handler.trace s calls).countP (transmittedId · = some k.toRaw) ≤
        2 * calls.countP (Call.requestedId · = some k.toRaw) := by
  have hemitted := emissions_le_requests s com k calls
  have haccepted := accepted_le_requests s k calls
  have htransmitted := countP_transmittedId k.toRaw (handler.trace s calls)
  rw [hpending, Bool.toNat_false] at hemitted
  omega

/-! ### Rates -/

/-- The rate is the handler's first, or a request brought it. -/
def AskedFor (calls : List Call) (rate : Double) : Prop :=
  rate = .zero ∨ ∃ call ∈ calls, call.requestedRate = some rate

/-- The rate requested is the last one asked for, the rate in force is it unless set-frame-rate is
pending, and both were asked for. -/
structure WorkInvariant (calls : List Call) (h : WebcamDeviceHandler) : Prop where
  com : h.communicationInterface = true
  requested : h.board.requested = lastValue Call.requestedRate .zero calls
  settled : h.board.settled = h.board.requested
  asked : AskedFor calls h.board.requested ∧ AskedFor calls h.board.current

theorem AskedFor.snoc {calls : List Call} {rate : Double} (asked : AskedFor calls rate)
    (call : Call) : AskedFor (calls ++ [call]) rate := by
  rcases asked with hzero | ⟨other, hmem, hrate⟩
  · exact Or.inl hzero
  · exact Or.inr ⟨other, List.mem_append_left _ hmem, hrate⟩

/-- Without loads, rates come with requests. -/
theorem rate_of_not_load (h : WebcamDeviceHandler) (call : Call) (noLoad : call.isLoad = false) :
    (call.actionOf (h.step call).1).rate = call.requestedRate := by
  rw [← rateOf_eq]
  cases call with
  | getParameter d p w nv i base =>
    cases nv with
    | none =>
      simp only [rateOf, Machine.event_input, Call.suppliedRate, Option.map_none]
      split <;> rfl
    | some nv => cases noLoad
  | buildCommandFromCommand c data => rfl
  | buildNormalDeviceCommand p => rfl
  | scanForReply p q => rfl
  | interpretDeviceReply id => rfl
  | doStartUp => rfl
  | doShutDown => rfl
  | buildTransitionDeviceCommand p => rfl

/-- Only set-frame-rate requests bring a rate. -/
theorem request_of_requestedRate {call : Call} {rate : Double} (answer : Answer)
    (h : call.requestedRate = some rate) :
    call.actionOf answer = .request .commandSetFrameRate (some rate) := by
  cases call with
  | buildCommandFromCommand c data =>
    have hsupplied : Call.suppliedRate (.buildCommandFromCommand c data) answer = some rate := h
    have hc : c = CommandId.commandSetFrameRate.toRaw := by
      by_contra hne
      simp [Call.suppliedRate, hne] at hsupplied
    subst hc
    simp only [Call.actionOf, CommandId.cast_toRaw, hsupplied]
  | buildNormalDeviceCommand p => cases h
  | scanForReply p q => cases h
  | interpretDeviceReply id => cases h
  | getParameter d p w nv i base => cases h
  | doStartUp => cases h
  | doShutDown => cases h
  | buildTransitionDeviceCommand p => cases h

/-- A board stays settled unless an action brings it a rate without marking set-frame-rate. -/
theorem RequestBoard.settled_apply {b : RequestBoard} {a : RequestBoard.Action}
    (hrate : a.rate = none ∨ ∃ rate, a = .request .commandSetFrameRate (some rate))
    (hsettled : b.settled = b.requested) : (b.apply a).settled = (b.apply a).requested := by
  rcases hrate with hnone | ⟨rate, rfl⟩
  · have hrequested : (b.apply a).requested = b.requested := by
      rw [apply_requested, hnone, Option.getD_none]
    have hpending := b.apply_pending a .commandSetFrameRate
    unfold settled at hsettled ⊢
    rw [hrequested, apply_current]
    by_cases hemit : a = .emit .commandSetFrameRate
    · simp [hemit]
    · simp only [if_neg hemit, ite_eq_left_iff, Bool.not_eq_true]
      intro hafter
      have hbefore : b.pending .commandSetFrameRate = false := by
        by_contra hb
        rw [Bool.not_eq_false] at hb
        rw [hpending.mpr (Or.inr ⟨hb, hemit⟩)] at hafter
        cases hafter
      rw [hbefore] at hsettled
      exact hsettled
  · simp [settled, apply]

theorem workInvariant_step (calls : List Call) (h : WebcamDeviceHandler) (call : Call)
    (noLoad : call.isLoad = false) (inv : WorkInvariant calls h) :
    WorkInvariant (calls ++ [call]) (h.step call).2 := by
  have hboard := h.board_step inv.com call
  have hrate := rate_of_not_load h call noLoad
  have hrequested : (h.step call).2.board.requested =
      call.requestedRate.getD h.board.requested := by
    rw [hboard, RequestBoard.apply_requested, hrate]
  refine ⟨by rw [h.step_communicationInterface, inv.com], ?_, ?_, ?_, ?_⟩
  · rw [hrequested, lastValue_snoc, inv.requested]
  · rw [hboard]
    refine RequestBoard.settled_apply ?_ inv.settled
    rw [hrate]
    cases hnew : call.requestedRate with
    | none => exact Or.inl rfl
    | some rate => exact Or.inr ⟨rate, request_of_requestedRate _ hnew⟩
  · rw [hrequested]
    cases hnew : call.requestedRate with
    | none => exact inv.asked.1.snoc call
    | some rate => exact Or.inr ⟨call, by simp, hnew⟩
  · rw [hboard, RequestBoard.apply_current]
    split
    · exact inv.asked.1.snoc call
    · exact inv.asked.2.snoc call

/-- **The handler settles on the rate last asked for**, in every run without loads. -/
theorem work_invariant (calls : List Call) (noLoads : ∀ call ∈ calls, call.isLoad = false) :
    WorkInvariant calls (handler.final freshHandler calls) := by
  induction calls using List.reverseRecOn with
  | nil => exact ⟨rfl, rfl, rfl, Or.inl rfl, Or.inl rfl⟩
  | append_singleton calls call ih =>
    rw [Machine.final_snoc]
    exact workInvariant_step calls _ call (noLoads call (by simp))
      (ih fun other hother => noLoads other (List.mem_append_left _ hother))

/-- **A set- or get-frame-rate command leaves with the rate last asked for in force**: it is not
built while an older set-frame-rate waits. -/
theorem WorkInvariant.current_of_emission {calls : List Call} {h : WebcamDeviceHandler}
    (inv : WorkInvariant calls h) {call : Call} {k : CommandId}
    (hk : k = .commandSetFrameRate ∨ k = .commandGetFrameRate)
    (hemission : Emission k (handler.event h call)) :
    (h.step call).2.currentFrameRate = lastValue Call.requestedRate .zero calls := by
  have haction := (emission_iff h call inv.com k).mp hemission
  have hcurrent := congrArg RequestBoard.current (h.board_step inv.com call)
  rw [haction, RequestBoard.apply_current] at hcurrent
  refine Eq.trans hcurrent ?_
  rw [← inv.requested]
  rcases hk with rfl | rfl
  · exact if_pos rfl
  · have hnext : h.board.next = some .commandGetFrameRate := by
      obtain ⟨hcall, -, hid⟩ := hemission
      rw [Machine.event_input] at hcall
      subst hcall
      rw [Machine.event_output, handler_step, WebcamDeviceHandler.step,
        WebcamDeviceHandler.buildNormalDeviceCommand_answer h inv.com] at hid
      cases hn : h.board.next with
      | none => simp [hn] at hid
      | some j =>
        rw [hn] at hid
        exact congrArg some (by simpa using hid)
    have hset := ((RequestBoard.next_eq_some _ _).mp hnext).2 .commandSetFrameRate (by decide)
    have hsettled := inv.settled
    rw [RequestBoard.settled, hset] at hsettled
    exact hsettled

end FsfwFromZero
