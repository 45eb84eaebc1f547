import FsfwFromZero.Handler.Provenance

/-!
# The power cycle: what survives a shutdown

`doShutDown` is commented "Release and destroy"; it clears the power flag, announces a transition
and sets the mode.  The pending flags and the reply latches stay as they are, so what was requested
or emitted before the shutdown comes out after it.

* `NothingSurvives` — what a continuation emits and reports goes back to its own requests and
  emissions;
* `nothingSurvives_of_quiet` — a quiet handler stays accounted for through any continuation;
* `surviving_command`, `surviving_reply` — a pending command or a waiting reply surfaces right after
  the shutdown;
* `nothing_survives_iff_quiet` — **nothing survives exactly when there was nothing to survive**;
* `snapshot_survives_power_cycle` — a snapshot requested before the shutdown is taken after
  start-up.
-/

namespace FsfwFromZero

open Lib

/-- Every emission of `c` follows a request for `c` in the same history, every report of `c` an
emission of `c`. -/
def NothingSurvives (hist : List CallEvent) : Prop :=
  ∀ a e b, hist = a ++ e :: b → ∀ c,
    (emittedId e = some c → ∃ x ∈ a, acceptedId x = some c) ∧
      (reportedReply e = some (some c) → ∃ x ∈ a, emittedId x = some c)

/-- The overrides called during a power cycle: all but the parameter access. -/
def Call.cyclesPower : Call → Bool
  | .getParameter .. => false
  | _ => true

/-! ### Nothing survives from a quiet handler -/

theorem nothingSurvives_of_quiet (s : WebcamDeviceHandler) (com : s.communicationInterface = true)
    (quiet : s.Quiet) (calls : List Call) : NothingSurvives (handler.trace s calls) := by
  intro a e b hsplit c
  obtain ⟨pre, call, post, -, ha, he, -⟩ := handler.trace_split s calls a b e hsplit
  have haccounted := accounted_of_quiet s com quiet pre
  rw [ha, he]
  constructor
  · intro hemit
    obtain ⟨k, hck, hk⟩ := (emittedId_eq_some _ call haccounted.com).mp hemit
    have hpending := pending_of_emission _ call haccounted.com hk
    obtain ⟨x, hx, hrequest⟩ := haccounted.pending k hpending
    exact ⟨x, hx, by rw [hrequest.acceptedId, hck]⟩
  · intro hreport
    obtain ⟨k, hck, x, hx, hemission⟩ := haccounted.reply c (reply_of_report hreport).2
    exact ⟨x, hx, by rw [hemission.emittedId, hck]⟩

/-! ### What a shutdown leaves behind -/

/-- The shutdown leaves the board alone. -/
theorem board_doShutDown (s : WebcamDeviceHandler) : s.doShutDown.board = s.board := rfl

/-- A pending command is built right after the shutdown. -/
theorem surviving_command (s : WebcamDeviceHandler) (com : s.communicationInterface = true)
    (k : CommandId) (hk : s.board.pending k = true) :
    ¬ NothingSurvives (handler.trace s [.doShutDown, .buildNormalDeviceCommand true]) := by
  intro hnothing
  have hnext : s.doShutDown.board.next ≠ none := by
    rw [board_doShutDown, Ne, RequestBoard.next_eq_none]
    intro hall
    rw [hall k] at hk
    cases hk
  obtain ⟨j, hj⟩ := Option.ne_none_iff_exists'.mp hnext
  have hemit : emittedId (handler.event s.doShutDown (.buildNormalDeviceCommand true)) =
      some j.toRaw := by
    simp [emittedId, WebcamDeviceHandler.step,
      WebcamDeviceHandler.buildNormalDeviceCommand_answer s.doShutDown com, hj]
  obtain ⟨x, hx, haccepted⟩ :=
    (hnothing [handler.event s .doShutDown] _ [] rfl j.toRaw).1 hemit
  rw [List.mem_singleton.mp hx] at haccepted
  cases haccepted

/-- A waiting reply is reported right after the shutdown. -/
theorem surviving_reply (s : WebcamDeviceHandler) (c : DeviceCommandId)
    (hc : s.board.reply = some (some c)) :
    ¬ NothingSurvives (handler.trace s [.doShutDown, .scanForReply true true]) := by
  intro hnothing
  have hlatch : s.replyReady = true ∧ s.fabricatedReplyId = some c := by
    cases hr : s.replyReady with
    | false => simp [WebcamDeviceHandler.board, hr] at hc
    | true => simpa [WebcamDeviceHandler.board, hr] using hc
  have hreport : reportedReply (handler.event s.doShutDown (.scanForReply true true)) =
      some (some c) := by
    simp [reportedReply, WebcamDeviceHandler.step, WebcamDeviceHandler.scanForReply,
      WebcamDeviceHandler.doShutDown, hlatch]
  obtain ⟨x, hx, hemitted⟩ := (hnothing [handler.event s .doShutDown] _ [] rfl c).2 hreport
  rw [List.mem_singleton.mp hx] at hemitted
  cases hemitted

/-- **What survives a power cycle.**  In a reachable state, no continuation that starts with a
shutdown emits a command it did not request or reports one it did not emit, if and only if the
shutdown found no command pending and no reply to a command waiting. -/
theorem nothing_survives_iff_quiet (calls : List Call) :
    (∀ continuation : List Call, (∀ call ∈ continuation, call.cyclesPower = true) →
        NothingSurvives (handler.trace (handler.final freshHandler calls)
          (.doShutDown :: continuation))) ↔
      (handler.final freshHandler calls).Quiet := by
  have hcom : (handler.final freshHandler calls).communicationInterface = true :=
    final_communicationInterface freshHandler calls
  constructor
  · intro hnothing
    refine (WebcamDeviceHandler.quiet_iff _).mpr ⟨fun k => ?_, fun c hc => ?_⟩
    · by_contra hk
      exact surviving_command _ hcom k (by simpa using hk)
        (hnothing [.buildNormalDeviceCommand true] (by decide))
    · exact surviving_reply _ c hc (hnothing [.scanForReply true true] (by decide))
  · intro quiet continuation _
    exact nothingSurvives_of_quiet _ hcom quiet _

/-- **A snapshot survives the power cycle.**  It was requested before the shutdown, the continuation
requests nothing, and the first build after the next start-up emits it. -/
theorem snapshot_survives_power_cycle :
    ¬ NothingSurvives (handler.trace
      (handler.final freshHandler [.buildCommandFromCommand 1 (.null 0)])
      [.doShutDown, .doStartUp, .buildNormalDeviceCommand true]) := by
  intro hnothing
  obtain ⟨x, hx, haccepted⟩ := (hnothing [_, _] _ [] rfl 1).1 rfl
  revert x
  decide

end FsfwFromZero
