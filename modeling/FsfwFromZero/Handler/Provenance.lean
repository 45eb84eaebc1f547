import FsfwFromZero.Handler.ReplySlot

/-!
# Provenance: every emission and every reply has a cause

From a *quiet* handler (nothing pending, no reply with a command id waiting) everything the handler
later does goes back to a request made since.  This is the invariant under both the transmission
count and the power cycle:

* `Quiet` — the condition, on the members themselves; `quiet_iff` — the same on the board;
* `Accounted hist h` — what is pending in `h` was requested in `hist`, what waits in the reply slot
  was emitted in `hist`, and what was emitted in `hist` was requested in `hist`;
* `accounted_of_quiet` — **the run invariant**: every run from a quiet handler is accounted for.
-/

namespace FsfwFromZero

open Lib

/-- The id of a request that was accepted. -/
def acceptedId (e : CallEvent) : Option DeviceCommandId :=
  match e.input with
  | .buildCommandFromCommand c _ => if e.output.ret = .ok then some c else none
  | _ => none

namespace WebcamDeviceHandler

/-- No command is pending, and no reply that carries a command id waits to be scanned. -/
def Quiet (h : WebcamDeviceHandler) : Prop :=
  h.snapshotRequested = false ∧ h.frameRateCommandPending = false ∧
    h.frameRateQueryPending = false ∧ (h.replyReady = true → h.fabricatedReplyId = none)

theorem quiet_iff (h : WebcamDeviceHandler) :
    h.Quiet ↔ (∀ k, h.board.pending k = false) ∧ ∀ c, h.board.reply ≠ some (some c) := by
  have hpending : (∀ k, h.board.pending k = false) ↔ h.snapshotRequested = false ∧
      h.frameRateCommandPending = false ∧ h.frameRateQueryPending = false := by
    constructor
    · intro hk
      exact ⟨hk .commandTakeSnapshot, hk .commandSetFrameRate, hk .commandGetFrameRate⟩
    · intro ⟨hs, hc, hg⟩ k
      cases k
      · exact hs
      · exact hc
      · exact hg
  have hreply : (∀ c, h.board.reply ≠ some (some c)) ↔
      (h.replyReady = true → h.fabricatedReplyId = none) := by
    cases hr : h.replyReady <;> cases hid : h.fabricatedReplyId <;> simp [board, hr, hid]
  rw [hpending, hreply, Quiet, and_assoc, and_assoc]

end WebcamDeviceHandler

theorem freshHandler_quiet : freshHandler.Quiet :=
  ⟨rfl, rfl, rfl, fun _ => rfl⟩

/-! ### Events by their ids -/

theorem AcceptedRequest.acceptedId {k : CommandId} {e : CallEvent} (he : AcceptedRequest k e) :
    acceptedId e = some k.toRaw := by
  obtain ⟨data, hinput, hret⟩ := he
  simp only [FsfwFromZero.acceptedId, hinput, hret, if_true]

theorem Emission.emittedId {k : CommandId} {e : CallEvent} (he : Emission k e) :
    emittedId e = some k.toRaw := by
  obtain ⟨hinput, hret, hid⟩ := he
  simp only [FsfwFromZero.emittedId, hinput, hret, hid, if_true, Option.join_some]

section Ids

variable (h : WebcamDeviceHandler) (call : Call)

theorem acceptedId_eq_some {c : DeviceCommandId} : acceptedId (handler.event h call) = some c ↔
    ∃ k : CommandId, c = k.toRaw ∧ AcceptedRequest k (handler.event h call) := by
  cases call with
  | buildCommandFromCommand c' data =>
    constructor
    · intro hc
      by_cases hret : (h.step (.buildCommandFromCommand c' data)).1.ret = .ok
      · have hcc : c' = c := by simpa [acceptedId, hret] using hc
        subst hcc
        cases hcast : CommandId.cast c' with
        | none =>
          simp [WebcamDeviceHandler.step, WebcamDeviceHandler.buildCommandFromCommand, hcast]
            at hret
        | some k =>
          have hraw := CommandId.cast_eq_some.mp hcast
          exact ⟨k, hraw, data, by rw [Machine.event_input, hraw], hret⟩
      · simp [acceptedId, hret] at hc
    · intro hk
      obtain ⟨k, hck, hrequest⟩ := hk
      rw [hrequest.acceptedId, hck]
  | _ => simp [acceptedId, AcceptedRequest, Call.Accepts]

theorem emittedId_eq_some (com : h.communicationInterface = true) {c : DeviceCommandId} :
    emittedId (handler.event h call) = some c ↔
      ∃ k : CommandId, c = k.toRaw ∧ Emission k (handler.event h call) := by
  cases call with
  | buildNormalDeviceCommand p =>
    cases p with
    | false => simp [emittedId, Emission, Call.Emits, WebcamDeviceHandler.step,
        WebcamDeviceHandler.buildNormalDeviceCommand]
    | true =>
      simp only [emittedId, Emission, Call.Emits, Machine.event_input, Machine.event_output,
        handler_step, WebcamDeviceHandler.step,
        WebcamDeviceHandler.buildNormalDeviceCommand_answer h com]
      cases h.board.next with
      | none => simp
      | some k => simp [eq_comm]
  | _ => simp [emittedId, Emission, Call.Emits]

/-- A build emits what is pending. -/
theorem pending_of_emission (com : h.communicationInterface = true) {k : CommandId}
    (hk : Emission k (handler.event h call)) : h.board.pending k = true := by
  obtain ⟨hcall, hret, hid⟩ := hk
  rw [Machine.event_input] at hcall
  subst hcall
  rw [Machine.event_output, handler_step, WebcamDeviceHandler.step,
    WebcamDeviceHandler.buildNormalDeviceCommand_answer h com] at hid
  cases hn : h.board.next with
  | none => simp [hn] at hid
  | some j =>
    rw [hn] at hid
    have hjk : j = k := by simpa using hid
    subst hjk
    exact ((RequestBoard.next_eq_some _ _).mp hn).1

end Ids

/-! ### The invariant -/

/-- Pending commands and waiting replies go back to requests and emissions of the history. -/
structure Accounted (hist : List CallEvent) (h : WebcamDeviceHandler) : Prop where
  com : h.communicationInterface = true
  pending : ∀ k, h.board.pending k = true → ∃ e ∈ hist, AcceptedRequest k e
  reply : ∀ c, h.board.reply = some (some c) → ∃ k : CommandId, c = k.toRaw ∧
    ∃ e ∈ hist, Emission k e
  emitted : ∀ k, (∃ e ∈ hist, Emission k e) → ∃ e ∈ hist, AcceptedRequest k e

theorem accounted_step (hist : List CallEvent) (h : WebcamDeviceHandler) (call : Call)
    (inv : Accounted hist h) :
    Accounted (hist ++ [handler.event h call]) (handler.step h call).2 := by
  have hboard := h.board_step inv.com call
  have older : ∀ {P : CallEvent → Prop}, (∃ e ∈ hist, P e) →
      ∃ e ∈ hist ++ [handler.event h call], P e := by
    intro P hold
    obtain ⟨e, he, hp⟩ := hold
    exact ⟨e, by simp [he], hp⟩
  have newest : handler.event h call ∈ hist ++ [handler.event h call] := by simp
  refine ⟨by rw [handler_step, h.step_communicationInterface, inv.com], ?_, ?_, ?_⟩
  · intro k hk
    rw [handler_step, hboard, RequestBoard.apply_pending] at hk
    rcases hk with hreq | ⟨hk, -⟩
    · exact ⟨_, newest, (acceptedRequest_iff h call k).mpr hreq⟩
    · exact older (inv.pending k hk)
  · intro c hc
    rw [handler_step, hboard] at hc
    cases hact : call.actionOf (h.step call).1 with
    | emit k =>
      rw [hact] at hc
      cases hc
      exact ⟨k, rfl, _, newest, (emission_iff h call inv.com k).mpr hact⟩
    | report =>
      rw [hact] at hc
      cases hc
    | forget =>
      rw [hact] at hc
      simp [RequestBoard.apply] at hc
    | _ =>
      rw [hact] at hc
      obtain ⟨k, hck, hold⟩ := inv.reply c hc
      exact ⟨k, hck, older hold⟩
  · intro k hemitted
    obtain ⟨e, he, hk⟩ := hemitted
    rcases List.mem_append.mp he with he | he
    · exact older (inv.emitted k ⟨e, he, hk⟩)
    · rw [List.mem_singleton.mp he] at hk
      exact older (inv.pending k (pending_of_emission h call inv.com hk))

/-- **Every run from a quiet handler is accounted for.** -/
theorem accounted_of_quiet (s : WebcamDeviceHandler) (com : s.communicationInterface = true)
    (quiet : s.Quiet) (calls : List Call) :
    Accounted (handler.trace s calls) (handler.final s calls) := by
  obtain ⟨hpending, hreply⟩ := s.quiet_iff.mp quiet
  refine handler.history_induction ⟨com, fun k hk => ?_, fun c hc => ?_, fun k ⟨e, he, _⟩ => ?_⟩
    accounted_step calls
  · rw [hpending k] at hk
    cases hk
  · exact absurd hc (hreply c)
  · cases he

/-- No call changes whether there is a communication interface. -/
theorem final_communicationInterface (s : WebcamDeviceHandler) (calls : List Call) :
    (handler.final s calls).communicationInterface = s.communicationInterface := by
  induction calls generalizing s with
  | nil => rfl
  | cons call calls ih =>
    rw [Machine.final_cons, ih, handler_step, s.step_communicationInterface]

end FsfwFromZero
