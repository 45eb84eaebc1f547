import FsfwFromZero.Handler.Provenance

/-!
# Two paths to a frame rate

A frame rate reaches the handler as a parameter write (`getParameter` with new values) or as a
set-frame-rate command (`buildCommandFromCommand`).  Both store it in `requestedFrameRate`; only the
command also raises `frameRateCommandPending`, and only a pending set-frame-rate command puts the
requested rate in force.

* `drain` — building until nothing is left to send, `drain_terminates` — at most three emissions do
  it;
* `RequestBoard.settled` — the rate in force once the board is drained, and `drain_currentFrameRate`
  — the handler drains to it;
* `PathsAgree` — both paths end with the rate in force, for every later read to see;
* `paths_agree_iff` — **they agree exactly when a set-frame-rate command is already pending** or the
  rate is in force anyway;
* `parameter_write_not_applied` — a parameter write on a fresh handler is never applied.
-/

namespace FsfwFromZero

open Lib

/-! ### Draining the board -/

namespace RequestBoard

/-- The number of kinds pending. -/
def pendingCount (b : RequestBoard) : Nat :=
  (b.pending .commandTakeSnapshot).toNat + (b.pending .commandSetFrameRate).toNat +
    (b.pending .commandGetFrameRate).toNat

/-- The rate in force once everything pending has been emitted. -/
def settled (b : RequestBoard) : Double :=
  if b.pending .commandSetFrameRate then b.requested else b.current

theorem pendingCount_le (b : RequestBoard) : b.pendingCount ≤ 3 := by
  have hs := Bool.toNat_le (b.pending .commandTakeSnapshot)
  have hc := Bool.toNat_le (b.pending .commandSetFrameRate)
  have hg := Bool.toNat_le (b.pending .commandGetFrameRate)
  unfold pendingCount
  omega

/-- An emission serves one kind. -/
theorem pendingCount_emit (b : RequestBoard) (k : CommandId) (hk : b.pending k = true) :
    (b.apply (.emit k)).pendingCount + 1 = b.pendingCount := by
  cases k <;> simp [pendingCount, apply, hk] <;> omega

/-- An emission does not change what the board settles to. -/
theorem settled_emit (b : RequestBoard) (k : CommandId) (hk : b.pending k = true) :
    (b.apply (.emit k)).settled = b.settled := by
  cases k with
  | commandSetFrameRate => simp [settled, apply, hk]
  | commandTakeSnapshot => simp [settled, apply]
  | commandGetFrameRate => simp [settled, apply]

end RequestBoard

namespace WebcamDeviceHandler

/-- Calls `buildNormalDeviceCommand` until it returns `NOTHING_TO_SEND`, at most `fuel` times. -/
def drain : Nat → WebcamDeviceHandler → Option WebcamDeviceHandler
  | 0, _ => none
  | fuel + 1, h =>
      let (answer, h') := h.buildNormalDeviceCommand true
      if answer.ret = .nothingToSend then some h' else drain fuel h'

/-- The handler drains to `h'`. -/
def Drains (h h' : WebcamDeviceHandler) : Prop := ∃ fuel, h.drain fuel = some h'

/-- One round of draining serves the next kind, or finds nothing left. -/
theorem drain_succ (h : WebcamDeviceHandler) (com : h.communicationInterface = true) (fuel : Nat) :
    h.drain (fuel + 1) =
      match h.board.next with
      | some k => ((h.served k).prepareReply k.toRaw).drain fuel
      | none => some h := by
  simp only [drain, buildNormalDeviceCommand_eq h com]
  cases h.board.next <;> simp

theorem served_communicationInterface (h : WebcamDeviceHandler) (k : CommandId) :
    ((h.served k).prepareReply k.toRaw).communicationInterface = h.communicationInterface := by
  unfold prepareReply
  cases k <;> split_ifs <;> rfl

/-- **Draining terminates**, after one build more than there are kinds pending. -/
theorem drain_terminates (h : WebcamDeviceHandler) (com : h.communicationInterface = true)
    (fuel : Nat) (hfuel : h.board.pendingCount < fuel) : ∃ h', h.drain fuel = some h' := by
  induction fuel generalizing h with
  | zero => omega
  | succ fuel ih =>
    rw [drain_succ h com]
    cases hnext : h.board.next with
    | none => exact ⟨h, rfl⟩
    | some k =>
      have hk := ((RequestBoard.next_eq_some _ _).mp hnext).1
      have hcount := h.board.pendingCount_emit k hk
      refine ih _ (by rw [served_communicationInterface, com]) ?_
      rw [board_served h com k]
      omega

/-- **Draining settles the rate.** -/
theorem drain_currentFrameRate (h h' : WebcamDeviceHandler)
    (com : h.communicationInterface = true) (fuel : Nat) (hdrain : h.drain fuel = some h') :
    h'.currentFrameRate = h.board.settled := by
  induction fuel generalizing h with
  | zero => cases hdrain
  | succ fuel ih =>
    rw [drain_succ h com] at hdrain
    cases hnext : h.board.next with
    | none =>
      rw [hnext] at hdrain
      cases hdrain
      have hpending := (RequestBoard.next_eq_none _).mp hnext .commandSetFrameRate
      rw [RequestBoard.settled, hpending]
      rfl
    | some k =>
      rw [hnext] at hdrain
      have hk := ((RequestBoard.next_eq_some _ _).mp hnext).1
      have hrest := ih _ (by rw [served_communicationInterface, com]) hdrain
      rw [hrest, board_served h com k, RequestBoard.settled_emit _ k hk]

/-- A handler drains, and only to handlers with the settled rate in force. -/
theorem drains_spec (h : WebcamDeviceHandler) (com : h.communicationInterface = true) :
    (∃ h', h.Drains h') ∧ ∀ h', h.Drains h' → h'.currentFrameRate = h.board.settled := by
  constructor
  · obtain ⟨h', hdrain⟩ := h.drain_terminates com 4 (Nat.lt_succ_of_le h.board.pendingCount_le)
    exact ⟨h', 4, hdrain⟩
  · intro h' ⟨fuel, hdrain⟩
    exact drain_currentFrameRate h h' com fuel hdrain

/-! ### The two paths -/

/-- Writing the frame-rate parameter, with whatever wrapper the framework passes along. -/
def writeFrameRate (h : WebcamDeviceHandler) (v : Double) (parameterWrapper : Bool)
    (base : Answer) : Answer × WebcamDeviceHandler :=
  h.getParameter 0 ParameterId.parameterFrameRate.toRaw parameterWrapper (some ⟨.ok, v⟩) 0 base

/-- Reading the frame-rate parameter. -/
def readFrameRate (h : WebcamDeviceHandler) (base : Answer) : Answer × WebcamDeviceHandler :=
  h.getParameter 0 ParameterId.parameterFrameRate.toRaw true none 0 base

/-- Commanding the frame rate with the eight bytes of `v`. -/
def commandFrameRate (h : WebcamDeviceHandler) (v : Double) : Answer × WebcamDeviceHandler :=
  h.buildCommandFromCommand CommandId.commandSetFrameRate.toRaw (.bytes v.toBytes)

/-- The handler drains, `v` is then the rate in force, and a parameter read returns it. -/
def DrainsToRate (h : WebcamDeviceHandler) (v : Double) : Prop :=
  ∃ h', h.Drains h' ∧ h'.currentFrameRate = v ∧
    ∀ base, (h'.readFrameRate base).1.ret = .ok ∧ (h'.readFrameRate base).1.wrapper = some v

/-- An accepted parameter write of `v` and a command for `v`, each followed by draining, both end
with `v` in force. -/
def PathsAgree (h : WebcamDeviceHandler) (v : Double) : Prop :=
  ∀ parameterWrapper base, (h.writeFrameRate v parameterWrapper base).1.ret = .ok ∧
    (h.commandFrameRate v).1.ret = .ok ∧
    (h.writeFrameRate v parameterWrapper base).2.DrainsToRate v ∧
    (h.commandFrameRate v).2.DrainsToRate v

theorem writeFrameRate_eq (h : WebcamDeviceHandler) (v : Double) (w : Bool) (base : Answer) :
    (h.writeFrameRate v w base).1.ret = .ok ∧
      (h.writeFrameRate v w base).2 = { h with requestedFrameRate := v } := by
  simp [writeFrameRate, getParameter, NewValues.getElement]

theorem commandFrameRate_eq (h : WebcamDeviceHandler) (v : Double) :
    (h.commandFrameRate v).1.ret = .ok ∧ (h.commandFrameRate v).2 =
      { h with requestedFrameRate := v, frameRateCommandPending := true } := by
  simp [commandFrameRate, buildCommandFromCommand]

/-- A drained handler has `v` in force exactly if its board settles to `v`. -/
theorem drainsToRate_iff (h : WebcamDeviceHandler) (com : h.communicationInterface = true)
    (v : Double) : h.DrainsToRate v ↔ h.board.settled = v := by
  obtain ⟨⟨h', hdrains⟩, hrate⟩ := h.drains_spec com
  constructor
  · intro ⟨h'', hdrains', hv, _⟩
    rw [← hrate h'' hdrains', hv]
  · intro hv
    have hcurrent : h'.currentFrameRate = v := by rw [hrate h' hdrains, hv]
    refine ⟨h', hdrains, hcurrent, fun base => ?_⟩
    simp [readFrameRate, getParameter, hcurrent]

/-- The written rate is applied only if a set-frame-rate command is pending; the commanded rate
always is. -/
theorem pathsAgree_iff_pending (h : WebcamDeviceHandler) (com : h.communicationInterface = true)
    (v : Double) :
    h.PathsAgree v ↔ h.frameRateCommandPending = true ∨ h.currentFrameRate = v := by
  have hwrite : ∀ w base, (h.writeFrameRate v w base).2.DrainsToRate v ↔
      h.frameRateCommandPending = true ∨ h.currentFrameRate = v := by
    intro w base
    rw [(writeFrameRate_eq h v w base).2, drainsToRate_iff { h with requestedFrameRate := v } com]
    cases h.frameRateCommandPending <;> simp [RequestBoard.settled, board, pendingFlag]
  have hcommand : (h.commandFrameRate v).2.DrainsToRate v := by
    rw [(commandFrameRate_eq h v).2, drainsToRate_iff
      { h with requestedFrameRate := v, frameRateCommandPending := true } com]
    simp [RequestBoard.settled, board, pendingFlag]
  constructor
  · intro hagree
    exact (hwrite true {}).mp (hagree true {}).2.2.1
  · intro hcond w base
    exact ⟨(writeFrameRate_eq h v w base).1, (commandFrameRate_eq h v).1, (hwrite w base).mpr hcond,
      hcommand⟩

end WebcamDeviceHandler

/-- **When the two paths agree.**  In every reachable state and for every rate `v`, writing the
parameter and commanding the rate both end with `v` in force if and only if a set-frame-rate command
was already pending, or `v` was in force before. -/
theorem paths_agree_iff (calls : List Call) (v : Double) :
    (handler.final freshHandler calls).PathsAgree v ↔
      (handler.final freshHandler calls).frameRateCommandPending = true ∨
        (handler.final freshHandler calls).currentFrameRate = v :=
  WebcamDeviceHandler.pathsAgree_iff_pending _ (final_communicationInterface freshHandler calls) v

/-- The `double` 24.0, stored little-endian. -/
def twentyFour : Double := ⟨0, 0, 0, 0, 0, 0, 0x38, 0x40⟩

/-- **A parameter write alone is not applied.**  On a fresh handler 24 fps is requested by
parameter, nothing is left to send, and the rate in force is still 0. -/
theorem parameter_write_not_applied : ¬ (handler.final freshHandler []).PathsAgree twentyFour := by
  rw [WebcamDeviceHandler.pathsAgree_iff_pending _ rfl]
  decide

end FsfwFromZero
