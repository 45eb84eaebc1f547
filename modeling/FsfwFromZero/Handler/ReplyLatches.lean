import FsfwFromZero.Handler.ReportedRate

/-!
# The reply latches agree

Three members describe the reply under way: `replyReady`, `fabricatedReplyId` and
`snapshotInProgress`.  The three branches of `buildNormalDeviceCommand`, `scanForReply`,
`interpretDeviceReply` and `prepareReply` each write some of them.  Where replies are interpreted
just after they were reported, the three agree:

* `LatchesAgree` — a snapshot is in progress exactly while its reply waits;
* `latches_step` — **one call keeps them in agreement**, an interpretation if no reply waits;
* `latches_invariant` — so they agree in every reachable state;
* `latches_consistent` — a waiting reply names the latest emission, and a scan that returns `OK`
  reports a supported id and ends the snapshot.
-/

namespace FsfwFromZero

open Lib

namespace WebcamDeviceHandler

/-- A snapshot is in progress exactly while its reply waits. -/
def LatchesAgree (h : WebcamDeviceHandler) : Prop :=
  h.snapshotInProgress = true ↔
    h.replyReady = true ∧ h.fabricatedReplyId = some CommandId.commandTakeSnapshot.toRaw

/-! ### One call -/

/-- The latches agree after an emission, whatever they were before. -/
theorem latches_buildNormalDeviceCommand {h : WebcamDeviceHandler}
    (com : h.communicationInterface = true) (p : Bool) (agree : h.LatchesAgree) :
    (h.buildNormalDeviceCommand p).2.LatchesAgree := by
  unfold buildNormalDeviceCommand
  split_ifs
  · exact agree
  · exact agree
  · simp [LatchesAgree, prepareReply, com]
  · simp [LatchesAgree, prepareReply, com]
  · simp [LatchesAgree, prepareReply, com]
  · exact agree

/-- A scan that finds a reply ends the snapshot. -/
theorem latches_scanForReply {h : WebcamDeviceHandler} (foundId foundLen : Bool)
    (agree : h.LatchesAgree) :
    (h.scanForReply foundId foundLen).2.LatchesAgree ∧
      ((h.scanForReply foundId foundLen).1.ret = .ok →
        (h.scanForReply foundId foundLen).2.snapshotInProgress = false) := by
  cases hready : h.replyReady with
  | false =>
    have hscan : (h.scanForReply foundId foundLen).2 = h ∧
        (h.scanForReply foundId foundLen).1.ret = .noReplyReceived := by
      simp [scanForReply, hready]
    rw [hscan.1, hscan.2]
    exact ⟨agree, fun hok => by cases hok⟩
  | true =>
    -- a reply to another command was not waiting while a snapshot was in progress
    have hdone : (if h.fabricatedReplyId = some CommandId.commandTakeSnapshot.toRaw then false
        else h.snapshotInProgress) = false := by
      split_ifs with hsnapshot
      · rfl
      · exact eq_false_of_ne_true fun hprogress => hsnapshot (agree.mp hprogress).2
    simp [scanForReply, hready, hdone, LatchesAgree]

/-- Interpreting a reply when none waits. -/
theorem latches_interpretDeviceReply {h : WebcamDeviceHandler} (id : ReplyId)
    (idle : h.replyReady = false) (agree : h.LatchesAgree) :
    (h.interpretDeviceReply id).2.LatchesAgree := by
  have hidle : h.snapshotInProgress = false := by
    refine eq_false_of_ne_true fun hprogress => ?_
    rw [(agree.mp hprogress).1] at idle
    cases idle
  unfold interpretDeviceReply
  split <;> simp [LatchesAgree, hidle]

/-- **One call keeps the latches in agreement**, if replies are interpreted only when none waits. -/
theorem latches_step {h : WebcamDeviceHandler} (com : h.communicationInterface = true) (call : Call)
    (idle : ∀ id, call = .interpretDeviceReply id → h.replyReady = false)
    (agree : h.LatchesAgree) : (h.step call).2.LatchesAgree := by
  cases call with
  | buildCommandFromCommand c data =>
    show (h.buildCommandFromCommand c data).2.LatchesAgree
    unfold buildCommandFromCommand
    split
    · exact agree
    · dsimp only
      split_ifs <;> exact agree
    · exact agree
    · exact agree
  | buildNormalDeviceCommand p => exact latches_buildNormalDeviceCommand com p agree
  | scanForReply p q => exact (latches_scanForReply p q agree).1
  | interpretDeviceReply id => exact latches_interpretDeviceReply id (idle id rfl) agree
  | getParameter d p w nv i base =>
    show (h.getParameter d p w nv i base).2.LatchesAgree
    unfold getParameter
    cases nv with
    | none =>
      dsimp only
      split_ifs <;> exact agree
    | some newValues =>
      dsimp only
      split_ifs <;> exact agree
  | doStartUp => exact agree
  | doShutDown => exact agree
  | buildTransitionDeviceCommand p => exact agree

end WebcamDeviceHandler

/-! ### Every run -/

/-- The handler's reply is the board's. -/
theorem replyReady_of_board_reply {h : WebcamDeviceHandler} (hnone : h.board.reply = none) :
    h.replyReady = false := by
  refine eq_false_of_ne_true fun hready => ?_
  simp [WebcamDeviceHandler.board, hready] at hnone

theorem latches_invariant (calls : List Call)
    (scans : handler.Lawful interpretsReported freshHandler calls) :
    (handler.final freshHandler calls).LatchesAgree := by
  have hrun : RateInvariant (handler.trace freshHandler calls) (handler.final freshHandler calls) ∧
      (handler.final freshHandler calls).LatchesAgree := by
    refine Machine.lawful_induction
      (R := fun hist h => RateInvariant hist h ∧ h.LatchesAgree)
      ⟨rate_invariant [] trivial, by simp [WebcamDeviceHandler.LatchesAgree, freshHandler,
        WebcamDeviceHandler.construct]⟩ (fun hist h call hcall inv => ?_) calls scans
    obtain ⟨inv, agree⟩ := inv
    refine ⟨rateInvariant_step hist h call hcall inv, ?_⟩
    refine WebcamDeviceHandler.latches_step inv.history.com call (fun id heq => ?_) agree
    -- the interpreted reply was reported just before, so no reply waits
    subst heq
    exact replyReady_of_board_reply (inv.reported id (hcall id rfl)).1
  exact hrun.2

/-- **The reply latches are consistent in every reachable state.**  A snapshot is in progress
exactly while its reply waits; a waiting reply names the latest emission; and a scan that returns
`OK` reports the id of a supported command and leaves no snapshot in progress. -/
theorem latches_consistent (calls : List Call)
    (scans : handler.Lawful interpretsReported freshHandler calls) :
    let h := handler.final freshHandler calls
    (h.snapshotInProgress = true ↔
      h.replyReady = true ∧ h.fabricatedReplyId = some CommandId.commandTakeSnapshot.toRaw) ∧
    (h.replyReady = true →
      ∃ (k : CommandId) (a : List CallEvent) (em : CallEvent) (b : List CallEvent),
        handler.trace freshHandler calls = a ++ em :: b ∧ Emission k em ∧
        (∀ x ∈ b, ∀ j, ¬ Emission j x) ∧ h.fabricatedReplyId = some k.toRaw) ∧
    ∀ foundId foundLen, (h.scanForReply foundId foundLen).1.ret = .ok →
      (∃ k : CommandId, (h.scanForReply foundId foundLen).1.id =
        if foundId then some (some k.toRaw) else none) ∧
      (h.scanForReply foundId foundLen).2.snapshotInProgress = false := by
  intro h
  have inv := rate_invariant calls scans
  have agree := latches_invariant calls scans
  have hwaiting : h.replyReady = true → ∃ k : CommandId, h.fabricatedReplyId = some k.toRaw ∧
      LastEmission k h.board.current (handler.trace freshHandler calls) := by
    intro hready
    exact inv.waiting h.fabricatedReplyId (by simp [h, WebcamDeviceHandler.board, hready])
  refine ⟨agree, fun hready => ?_, fun foundId foundLen hok => ⟨?_, ?_⟩⟩
  · obtain ⟨k, hid, a, em, b, hsplit, hem, hquiet, -⟩ := hwaiting hready
    exact ⟨k, a, em, b, hsplit, hem, hquiet, hid⟩
  · have hready : h.replyReady = true := by
      by_contra hidle
      simp [WebcamDeviceHandler.scanForReply, hidle] at hok
    obtain ⟨k, hid, -⟩ := hwaiting hready
    exact ⟨k, by simp [WebcamDeviceHandler.scanForReply, hready, hid]⟩
  · exact (WebcamDeviceHandler.latches_scanForReply foundId foundLen agree).2 hok

/-- A snapshot that was emitted and not yet scanned for, after an earlier one was interpreted. -/
def secondSnapshot : List Call :=
  [.buildCommandFromCommand 1 (.null 0), .buildNormalDeviceCommand true, .scanForReply true true,
    .interpretDeviceReply (some 1), .buildCommandFromCommand 1 (.null 0),
    .buildNormalDeviceCommand true]

/-- The second snapshot is in progress, and the scan that reports it ends it. -/
theorem latches_consistent_secondSnapshot :
    let h := handler.final freshHandler secondSnapshot
    h.snapshotInProgress = true ∧ h.replyReady = true ∧
      (h.scanForReply true true).2.snapshotInProgress = false := by
  intro h
  obtain ⟨hlatch, -, hscan⟩ := latches_consistent secondSnapshot (by decide)
  have hready : h.replyReady = true := by decide
  exact ⟨hlatch.mpr ⟨hready, by decide⟩, hready, (hscan true true (by decide)).2⟩

end FsfwFromZero
