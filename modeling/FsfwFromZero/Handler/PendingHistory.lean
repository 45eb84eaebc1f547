import FsfwFromZero.Lib.History
import FsfwFromZero.Handler.RequestBoard

/-!
# The pending flags and the frame rates implement their history

Six members of the handler (three pending flags, the two frame rates and the reply slot) are written
by five overrides.  This file says what the flags and the rates mean in terms of the calls made so
far, and nothing else:

* `OutstandingRequest k hist` — `k` has an accepted request later than its own last emission;
* `requestedBy hist`, `appliedBy hist` — the rate most recently supplied, and the rate that had been
  supplied when set-frame-rate was last emitted;
* `HistoryInvariant` / `history_invariant` — **the run invariant**: the members of the handler are
  these functions of its history, after any calls in any order;
* `handler_implements_history` — what a build answers after any run, and the two rates, read off the
  history.
-/

namespace FsfwFromZero

open Lib

/-- `k` has an accepted request later than its own last emission. -/
def OutstandingRequest (k : CommandId) (hist : List CallEvent) : Prop :=
  PendingSince (AcceptedRequest k) (Emission k) hist

/-- `k` is the first kind, in the order of service, with an outstanding request. -/
def FirstOutstanding (k : CommandId) (hist : List CallEvent) : Prop :=
  OutstandingRequest k hist ∧ ∀ j : CommandId, j.rank < k.rank → ¬ OutstandingRequest j hist

/-- The frame rate most recently supplied, `0.0` before the first. -/
def requestedBy (hist : List CallEvent) : Double := lastValue rateOf .zero hist

/-- The frame rate that had been supplied when set-frame-rate was last emitted, `0.0` if it never
was. -/
def appliedBy (hist : List CallEvent) : Double :=
  sampledAt (Emission .commandSetFrameRate) requestedBy .zero hist

theorem outstandingRequest_snoc (k : CommandId) (hist : List CallEvent) (e : CallEvent) :
    OutstandingRequest k (hist ++ [e]) ↔
      AcceptedRequest k e ∨ (OutstandingRequest k hist ∧ ¬ Emission k e) :=
  pendingSince_snoc _ _ hist e

theorem requestedBy_snoc (hist : List CallEvent) (e : CallEvent) :
    requestedBy (hist ++ [e]) = (rateOf e).getD (requestedBy hist) :=
  lastValue_snoc _ _ hist e

theorem appliedBy_snoc (hist : List CallEvent) (e : CallEvent) :
    appliedBy (hist ++ [e]) =
      if Emission .commandSetFrameRate e then requestedBy hist else appliedBy hist :=
  sampledAt_snoc _ _ _ hist e

/-- The members of the handler as functions of its history. -/
structure HistoryInvariant (hist : List CallEvent) (h : WebcamDeviceHandler) : Prop where
  com : h.communicationInterface = true
  pending : ∀ k, h.board.pending k = true ↔ OutstandingRequest k hist
  requested : h.board.requested = requestedBy hist
  current : h.board.current = appliedBy hist

/-! ### One step -/

/-- The mark of `k` after an action: set by a request for it, cleared by its emission, else kept. -/
theorem RequestBoard.apply_pending (b : RequestBoard) (a : RequestBoard.Action) (k : CommandId) :
    (b.apply a).pending k = true ↔
      (∃ rate, a = .request k rate) ∨ (b.pending k = true ∧ a ≠ .emit k) := by
  cases a with
  | request j rate =>
    by_cases hj : j = k
    · subst hj; simp [RequestBoard.apply]
    · have hk : k ≠ j := Ne.symm hj
      simp [RequestBoard.apply, Function.update, hj, hk]
  | emit j =>
    by_cases hj : j = k
    · subst hj; simp [RequestBoard.apply]
    · have hk : k ≠ j := Ne.symm hj
      simp [RequestBoard.apply, Function.update, hj, hk]
  | report => simp [RequestBoard.apply]
  | forget => simp [RequestBoard.apply]
  | write rate => simp [RequestBoard.apply]
  | idle => simp [RequestBoard.apply]

theorem RequestBoard.apply_requested (b : RequestBoard) (a : RequestBoard.Action) :
    (b.apply a).requested = a.rate.getD b.requested := by
  cases a <;> rfl

/-- Only an emission of set-frame-rate changes the rate in force. -/
theorem RequestBoard.apply_current (b : RequestBoard) (a : RequestBoard.Action) :
    (b.apply a).current = if a = .emit .commandSetFrameRate then b.requested else b.current := by
  cases a <;> simp [RequestBoard.apply]

/-- Every call keeps the invariant. -/
theorem historyInvariant_step (hist : List CallEvent) (h : WebcamDeviceHandler) (call : Call)
    (inv : HistoryInvariant hist h) :
    HistoryInvariant (hist ++ [handler.event h call]) (handler.step h call).2 := by
  have hboard := h.board_step inv.com call
  refine ⟨?_, fun k => ?_, ?_, ?_⟩
  · rw [handler_step, h.step_communicationInterface, inv.com]
  · rw [handler_step, hboard, RequestBoard.apply_pending, inv.pending]
    rw [outstandingRequest_snoc, acceptedRequest_iff, emission_iff h call inv.com]
  · rw [handler_step, hboard, RequestBoard.apply_requested, inv.requested]
    rw [requestedBy_snoc, rateOf_eq]
  · rw [handler_step, hboard, RequestBoard.apply_current, inv.requested, inv.current]
    rw [appliedBy_snoc]
    simp only [emission_iff h call inv.com]

/-! ### Every run -/

theorem historyInvariant_fresh : HistoryInvariant [] freshHandler := by
  refine ⟨rfl, fun k => ?_, rfl, rfl⟩
  have hk : freshHandler.board.pending k = false := by cases k <;> rfl
  rw [hk]
  exact iff_of_false (by simp) (not_pendingSince_nil _ _)

theorem history_invariant (calls : List Call) :
    HistoryInvariant (handler.trace freshHandler calls) (handler.final freshHandler calls) :=
  handler.history_induction historyInvariant_fresh
    (fun hist h call inv => historyInvariant_step hist h call inv) calls

/-- **The handler implements its history.**  After any calls in any order, a build with a valid
pointer returns `OK` with the first kind that has an outstanding request, and `NOTHING_TO_SEND`
exactly when no kind has one; the requested rate is the one most recently supplied, and the current
rate the one that was requested at the last emission of set-frame-rate. -/
theorem handler_implements_history (calls : List Call) :
    let hist := handler.trace freshHandler calls
    let h := handler.final freshHandler calls
    let answer := (h.buildNormalDeviceCommand true).1
    (∀ c : DeviceCommandId, (answer.ret = .ok ∧ answer.id = some (some c)) ↔
        ∃ k : CommandId, c = k.toRaw ∧ FirstOutstanding k hist) ∧
      (answer.ret = .nothingToSend ↔ ∀ k, ¬ OutstandingRequest k hist) ∧
      h.requestedFrameRate = requestedBy hist ∧
      h.currentFrameRate = appliedBy hist := by
  intro hist h answer
  have inv : HistoryInvariant hist h := history_invariant calls
  have notPending : ∀ k, h.board.pending k = false ↔ ¬ OutstandingRequest k hist := by
    intro k
    rw [← inv.pending k, Bool.not_eq_true]
  have hanswer := h.buildNormalDeviceCommand_answer inv.com
  have hnext : ∀ k, h.board.next = some k ↔ FirstOutstanding k hist := by
    intro k
    rw [RequestBoard.next_eq_some, inv.pending, FirstOutstanding]
    simp only [notPending]
  refine ⟨fun c => ?_, ?_, inv.requested, inv.current⟩
  · simp only [answer, hanswer, ← hnext]
    cases h.board.next with
    | none => simp
    | some k => simp [eq_comm]
  · simp only [← notPending, ← RequestBoard.next_eq_none, answer, hanswer]
    cases h.board.next <;> simp

end FsfwFromZero
