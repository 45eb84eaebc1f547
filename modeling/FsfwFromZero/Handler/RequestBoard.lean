import Mathlib.Logic.Function.Basic
import FsfwFromZero.Handler.WebcamDeviceHandler

/-!
# The request board: what the handler is for, and that it refines it

The purpose of the handler, stated without its flags: a board with one pending mark per command
kind, the frame rate asked for, the frame rate in force, and one slot for a reply that waits to be
collected.  Six actions change the board.  Every override performs exactly one of them:

* `RequestBoard`, `RequestBoard.Action`, `RequestBoard.apply` — the abstract machine;
* `board` — the board a handler stands for, `actionOf` — the action a call amounted to, read off the
  call and its answer alone;
* `board_step` — **the refinement**: on a handler with a communication interface, each call moves
  the board by its action;
* `buildNormalDeviceCommand_answer` — which command a build emits is decided by the board
  (`RequestBoard.next`).

Everything proved later about requests, emissions, replies and rates is proved over the six actions,
not over the branches of the overrides.
-/

namespace FsfwFromZero

open Lib

/-! ### The abstract machine -/

/-- Pending marks, the two frame rates and the reply slot. -/
@[ext] structure RequestBoard where
  pending : CommandId → Bool
  requested : Double
  current : Double
  /-- The id a collected reply would carry, `none` while no reply waits. -/
  reply : Option ReplyId

namespace RequestBoard

/-- What can happen to the board. -/
inductive Action
  | request (kind : CommandId) (rate : Option Double)
  | emit (kind : CommandId)
  | report
  | forget
  | write (rate : Double)
  | idle
  deriving DecidableEq

/-- A request marks its kind and may bring a rate; an emission clears its mark, fills the reply
slot, and puts the requested rate in force if it is the set-frame-rate command; a report empties the
slot; `forget` blanks the id of a reply that still waits. -/
def apply (b : RequestBoard) : Action → RequestBoard
  | .request kind rate =>
      { b with pending := Function.update b.pending kind true, requested := rate.getD b.requested }
  | .emit kind =>
      { b with
        pending := Function.update b.pending kind false
        current := if kind = .commandSetFrameRate then b.requested else b.current
        reply := some (some kind.toRaw) }
  | .report => { b with reply := none }
  | .forget => { b with reply := b.reply.map fun _ => none }
  | .write rate => { b with requested := rate }
  | .idle => b

/-- The kind served next: take-snapshot before set-frame-rate before get-frame-rate. -/
def next (b : RequestBoard) : Option CommandId :=
  if b.pending .commandTakeSnapshot then some .commandTakeSnapshot
  else if b.pending .commandSetFrameRate then some .commandSetFrameRate
  else if b.pending .commandGetFrameRate then some .commandGetFrameRate
  else none

end RequestBoard

/-- The order in which pending kinds are served. -/
def CommandId.rank : CommandId → Nat
  | commandTakeSnapshot => 0
  | commandSetFrameRate => 1
  | commandGetFrameRate => 2

/-- The kind served next is the pending one of least rank. -/
theorem RequestBoard.next_eq_some (b : RequestBoard) (k : CommandId) :
    b.next = some k ↔ b.pending k = true ∧ ∀ j, j.rank < k.rank → b.pending j = false := by
  have all : ∀ P : CommandId → Prop, (∀ j, P j) ↔
      P .commandTakeSnapshot ∧ P .commandSetFrameRate ∧ P .commandGetFrameRate := by
    intro P
    exact ⟨fun h => ⟨h _, h _, h _⟩, fun h j => by cases j <;> simp only [h]⟩
  unfold next
  rw [all]
  cases hs : b.pending .commandTakeSnapshot <;> cases hc : b.pending .commandSetFrameRate <;>
    cases hg : b.pending .commandGetFrameRate <;> cases k <;>
    simp [hs, hc, hg, CommandId.rank]

theorem RequestBoard.next_eq_none (b : RequestBoard) :
    b.next = none ↔ ∀ k, b.pending k = false := by
  unfold next
  constructor
  · intro h k
    split_ifs at h with hs hc hg
    cases k <;> simp_all
  · intro h
    simp [h]

/-! ### The board a handler stands for -/

namespace WebcamDeviceHandler

/-- The pending flag of a command kind. -/
def pendingFlag (h : WebcamDeviceHandler) : CommandId → Bool
  | .commandTakeSnapshot => h.snapshotRequested
  | .commandSetFrameRate => h.frameRateCommandPending
  | .commandGetFrameRate => h.frameRateQueryPending

def board (h : WebcamDeviceHandler) : RequestBoard where
  pending := h.pendingFlag
  requested := h.requestedFrameRate
  current := h.currentFrameRate
  reply := if h.replyReady then some h.fabricatedReplyId else none

end WebcamDeviceHandler

/-! ### Reading a call and its answer -/

namespace Call

/-- A request for this command kind that the handler accepted. -/
def Accepts (k : CommandId) (call : Call) (answer : Answer) : Prop :=
  ∃ data, call = .buildCommandFromCommand k.toRaw data ∧ answer.ret = .ok

/-- A build that returned `OK` with this command. -/
def Emits (k : CommandId) (call : Call) (answer : Answer) : Prop :=
  call = .buildNormalDeviceCommand true ∧ answer.ret = .ok ∧ answer.id = some (some k.toRaw)

/-- The frame rate a call supplied: the first eight bytes of a set-frame-rate request that has that
many, or the value of an accepted frame-rate parameter write. -/
def suppliedRate (call : Call) (answer : Answer) : Option Double :=
  match call with
  | .buildCommandFromCommand deviceCommand commandData =>
      if deviceCommand = CommandId.commandSetFrameRate.toRaw ∧ commandData.isNull = false ∧
          Double.size ≤ commandData.len then
        some (Double.memcpy commandData.data)
      else none
  | .getParameter domainId parameterId _ newValues _ _ =>
      if domainId = 0 ∧ parameterId = ParameterId.parameterFrameRate.toRaw ∧ answer.ret = .ok then
        newValues.map NewValues.value
      else none
  | _ => none

/-- The board action a call amounted to. -/
def actionOf (call : Call) (answer : Answer) : RequestBoard.Action :=
  match call with
  | .buildCommandFromCommand deviceCommand _ =>
      match CommandId.cast deviceCommand with
      | some k => .request k (suppliedRate call answer)
      | none => .idle
  | .buildNormalDeviceCommand _ =>
      match answer.id with
      | some (some c) =>
          match CommandId.cast c with
          | some k => .emit k
          | none => .idle
      | _ => .idle
  | .scanForReply _ _ => if answer.ret = .ok then .report else .idle
  | .interpretDeviceReply _ => .forget
  | .getParameter .. =>
      match suppliedRate call answer with
      | some rate => .write rate
      | none => .idle
  | .doStartUp | .doShutDown | .buildTransitionDeviceCommand _ => .idle

end Call

namespace WebcamDeviceHandler

/-! ### Each override performs its action -/

/-- No override touches the communication interface. -/
theorem step_communicationInterface (h : WebcamDeviceHandler) (call : Call) :
    (h.step call).2.communicationInterface = h.communicationInterface := by
  cases call with
  | buildCommandFromCommand c data =>
    simp only [step, buildCommandFromCommand]
    split
    · rfl
    · split <;> rfl
    · rfl
    · rfl
  | buildNormalDeviceCommand p =>
    simp only [step, buildNormalDeviceCommand, prepareReply]
    split_ifs <;> rfl
  | scanForReply p q =>
    simp only [step, scanForReply]
    split_ifs <;> rfl
  | interpretDeviceReply id =>
    simp only [step, interpretDeviceReply]
    split <;> rfl
  | getParameter d p w nv i base =>
    simp only [step, getParameter]
    repeat' split
    all_goals rfl
  | doStartUp => rfl
  | doShutDown => rfl
  | buildTransitionDeviceCommand p => rfl

/-- Which request a call makes is a matter of its id alone. -/
theorem board_buildCommandFromCommand (h : WebcamDeviceHandler) (c : DeviceCommandId)
    (data : Payload) :
    (h.buildCommandFromCommand c data).2.board = h.board.apply
      (Call.actionOf (.buildCommandFromCommand c data) (h.buildCommandFromCommand c data).1) := by
  cases hc : CommandId.cast c with
  | none => simp [buildCommandFromCommand, Call.actionOf, hc, RequestBoard.apply]
  | some k =>
    have hraw := CommandId.cast_eq_some.mp hc
    subst hraw
    have pending : (h.buildCommandFromCommand k.toRaw data).2.pendingFlag =
        Function.update h.pendingFlag k true := by
      funext j
      cases k <;> cases j <;>
        simp [buildCommandFromCommand, pendingFlag, Function.update] <;> split_ifs <;> rfl
    have requested : (h.buildCommandFromCommand k.toRaw data).2.requestedFrameRate =
        (Call.suppliedRate (.buildCommandFromCommand k.toRaw data)
          (h.buildCommandFromCommand k.toRaw data).1).getD h.requestedFrameRate := by
      cases k <;> simp [buildCommandFromCommand, Call.suppliedRate]
      split_ifs <;> simp
    have rest : (h.buildCommandFromCommand k.toRaw data).2.currentFrameRate = h.currentFrameRate ∧
        (h.buildCommandFromCommand k.toRaw data).2.replyReady = h.replyReady ∧
        (h.buildCommandFromCommand k.toRaw data).2.fabricatedReplyId = h.fabricatedReplyId := by
      cases k <;> simp [buildCommandFromCommand]
      split_ifs <;> simp
    simp only [board, Call.actionOf, hc, RequestBoard.apply, pending, requested, rest]

/-- The members a build writes when it emits `k`, before it prepares the reply. -/
def served (h : WebcamDeviceHandler) : CommandId → WebcamDeviceHandler
  | .commandTakeSnapshot => { h with snapshotRequested := false, snapshotInProgress := true }
  | .commandSetFrameRate =>
      { h with
        frameRateCommandPending := false, snapshotInProgress := false
        currentFrameRate := h.requestedFrameRate }
  | .commandGetFrameRate => { h with frameRateQueryPending := false, snapshotInProgress := false }

/-- **What a build does** is decided by the board: it serves the next pending kind, and with nothing
pending it does nothing. -/
theorem buildNormalDeviceCommand_eq (h : WebcamDeviceHandler)
    (com : h.communicationInterface = true) :
    h.buildNormalDeviceCommand true =
      match h.board.next with
      | some k => ({ ret := .ok, id := some (some k.toRaw) }, (h.served k).prepareReply k.toRaw)
      | none => ({ ret := .nothingToSend }, h) := by
  cases hs : h.snapshotRequested <;> cases hc : h.frameRateCommandPending <;>
    cases hg : h.frameRateQueryPending <;>
    simp [buildNormalDeviceCommand, com, RequestBoard.next, board, pendingFlag, served, hs, hc, hg]

theorem buildNormalDeviceCommand_answer (h : WebcamDeviceHandler)
    (com : h.communicationInterface = true) :
    (h.buildNormalDeviceCommand true).1 =
      match h.board.next with
      | some k => { ret := .ok, id := some (some k.toRaw) }
      | none => { ret := .nothingToSend } := by
  rw [buildNormalDeviceCommand_eq h com]
  cases h.board.next <;> rfl

theorem board_served (h : WebcamDeviceHandler) (com : h.communicationInterface = true)
    (k : CommandId) :
    ((h.served k).prepareReply k.toRaw).board = h.board.apply (.emit k) := by
  apply RequestBoard.ext
  · funext j
    cases k <;> cases j <;> simp [served, prepareReply, board, pendingFlag, RequestBoard.apply, com]
  · cases k <;> simp [served, prepareReply, board, RequestBoard.apply, com]
  · cases k <;> simp [served, prepareReply, board, RequestBoard.apply, com]
  · cases k <;> simp [served, prepareReply, board, RequestBoard.apply, com]

theorem board_buildNormalDeviceCommand (h : WebcamDeviceHandler) (p : Bool)
    (com : h.communicationInterface = true) :
    (h.buildNormalDeviceCommand p).2.board = h.board.apply
      (Call.actionOf (.buildNormalDeviceCommand p) (h.buildNormalDeviceCommand p).1) := by
  cases p with
  | false => rfl
  | true =>
    rw [buildNormalDeviceCommand_eq h com]
    cases h.board.next with
    | none => rfl
    | some k =>
      simp only [Call.actionOf, CommandId.cast_toRaw]
      exact board_served h com k

theorem board_scanForReply (h : WebcamDeviceHandler) (p q : Bool) :
    (h.scanForReply p q).2.board = h.board.apply
      (Call.actionOf (.scanForReply p q) (h.scanForReply p q).1) := by
  cases hr : h.replyReady with
  | false => simp [scanForReply, hr, Call.actionOf, RequestBoard.apply]
  | true =>
    simp [scanForReply, hr, Call.actionOf, RequestBoard.apply, board]
    rfl

theorem board_interpretDeviceReply (h : WebcamDeviceHandler) (id : ReplyId) :
    (h.interpretDeviceReply id).2.board = h.board.apply .forget := by
  have reply : (h.interpretDeviceReply id).2.fabricatedReplyId = none ∧
      (h.interpretDeviceReply id).2.replyReady = h.replyReady := by
    simp only [interpretDeviceReply]
    split <;> simp
  have rest : (h.interpretDeviceReply id).2.pendingFlag = h.pendingFlag ∧
      (h.interpretDeviceReply id).2.requestedFrameRate = h.requestedFrameRate ∧
      (h.interpretDeviceReply id).2.currentFrameRate = h.currentFrameRate := by
    simp only [interpretDeviceReply]
    split <;> refine ⟨?_, rfl, rfl⟩ <;> funext j <;> cases j <;> rfl
  simp only [board, reply, rest, RequestBoard.apply]
  cases h.replyReady <;> rfl

theorem board_getParameter (h : WebcamDeviceHandler) (d p : UInt8) (w : Bool)
    (nv : Option NewValues) (i : UInt16) (base : Answer) :
    (h.getParameter d p w nv i base).2.board = h.board.apply
      (Call.actionOf (.getParameter d p w nv i base) (h.getParameter d p w nv i base).1) := by
  by_cases hd : d = 0
  · by_cases hp : p = ParameterId.parameterFrameRate.toRaw
    · cases nv with
      | none =>
        simp only [getParameter, hd, hp, Call.actionOf, Call.suppliedRate]
        split_ifs <;> simp_all [RequestBoard.apply]
      | some nv =>
        by_cases hi : i = 0
        · by_cases hr : nv.result = .ok
          · simp [getParameter, NewValues.getElement, hd, hp, hi, hr, Call.actionOf,
              Call.suppliedRate, RequestBoard.apply, board]
            rfl
          · simp [getParameter, NewValues.getElement, hd, hp, hi, hr, Call.actionOf,
              Call.suppliedRate, RequestBoard.apply]
        · simp [getParameter, hd, hp, hi, Call.actionOf, Call.suppliedRate, RequestBoard.apply]
    · simp [getParameter, hd, hp, Call.actionOf, Call.suppliedRate, RequestBoard.apply]
  · simp [getParameter, hd, Call.actionOf, Call.suppliedRate, RequestBoard.apply]

/-- **The refinement.**  On a handler with a communication interface every call moves the board by
the action it amounted to. -/
theorem board_step (h : WebcamDeviceHandler) (com : h.communicationInterface = true) (call : Call) :
    (h.step call).2.board = h.board.apply (call.actionOf (h.step call).1) := by
  cases call with
  | buildCommandFromCommand c data => exact board_buildCommandFromCommand h c data
  | buildNormalDeviceCommand p => exact board_buildNormalDeviceCommand h p com
  | scanForReply p q => exact board_scanForReply h p q
  | interpretDeviceReply id => exact board_interpretDeviceReply h id
  | getParameter d p w nv i base => exact board_getParameter h d p w nv i base
  | doStartUp => rfl
  | doShutDown => rfl
  | buildTransitionDeviceCommand p => rfl

end WebcamDeviceHandler

/-! ### Events of a run and their actions -/

/-- The event is a request for `k` that was accepted. -/
def AcceptedRequest (k : CommandId) (e : CallEvent) : Prop := e.input.Accepts k e.output

/-- The event is an emission of `k`. -/
def Emission (k : CommandId) (e : CallEvent) : Prop := e.input.Emits k e.output

instance (k : CommandId) : DecidablePred (Emission k) := fun e =>
  inferInstanceAs (Decidable (e.input = .buildNormalDeviceCommand true ∧ e.output.ret = .ok ∧
    e.output.id = some (some k.toRaw)))

/-- The frame rate the event supplied, if it supplied one. -/
def rateOf (e : CallEvent) : Option Double := e.input.suppliedRate e.output

/-- The rate an action brings. -/
def RequestBoard.Action.rate : RequestBoard.Action → Option Double
  | .request _ rate => rate
  | .write rate => some rate
  | _ => none

section Events

variable (h : WebcamDeviceHandler) (call : Call)

/-- **Inversion.**  Which calls amount to which action. -/
theorem actionOf_cases (call : Call) (answer : Answer) :
    (∃ k data rate, call = .buildCommandFromCommand k.toRaw data ∧
        call.actionOf answer = .request k rate) ∨
      (∃ p k, call = .buildNormalDeviceCommand p ∧ call.actionOf answer = .emit k) ∨
      (∃ p q, call = .scanForReply p q ∧ answer.ret = .ok ∧ call.actionOf answer = .report) ∨
      (∃ id, call = .interpretDeviceReply id ∧ call.actionOf answer = .forget) ∨
      (∃ d p w nv i base rate, call = .getParameter d p w nv i base ∧
        call.actionOf answer = .write rate) ∨
      call.actionOf answer = .idle := by
  cases call with
  | buildCommandFromCommand c data =>
    cases hc : CommandId.cast c with
    | none => simp [Call.actionOf, hc]
    | some k =>
      rw [CommandId.cast_eq_some.mp hc]
      exact Or.inl ⟨k, data, _, rfl, by simp only [Call.actionOf, CommandId.cast_toRaw]; rfl⟩
  | buildNormalDeviceCommand p =>
    simp only [Call.actionOf]
    split
    · split <;> simp
    · simp
  | scanForReply p q =>
    simp only [Call.actionOf]
    split <;> simp_all
  | interpretDeviceReply id => simp [Call.actionOf]
  | getParameter d p w nv i base =>
    simp only [Call.actionOf]
    split <;> simp
  | _ => simp [Call.actionOf]

/-- Only a request with the raw id of its kind is a request. -/
theorem actionOf_request {call : Call} {answer : Answer} {k : CommandId} {rate : Option Double}
    (hact : call.actionOf answer = .request k rate) :
    ∃ data, call = .buildCommandFromCommand k.toRaw data := by
  have hcases := actionOf_cases call answer
  simp only [hact, RequestBoard.Action.request.injEq, reduceCtorEq, and_false, exists_false,
    or_false] at hcases
  obtain ⟨j, data, -, hcall, hj, -⟩ := hcases
  exact ⟨data, hj ▸ hcall⟩

/-- A request for one of the three kinds is always accepted. -/
theorem buildCommandFromCommand_ret (k : CommandId) (data : Payload) :
    (h.buildCommandFromCommand k.toRaw data).1.ret = .ok := by
  cases k <;> rfl

theorem acceptedRequest_iff (k : CommandId) : AcceptedRequest k (handler.event h call) ↔
    ∃ rate, call.actionOf (h.step call).1 = .request k rate := by
  constructor
  · intro ⟨data, hcall, _⟩
    rw [Machine.event_input] at hcall
    subst hcall
    have hact : ∀ answer, Call.actionOf (.buildCommandFromCommand k.toRaw data) answer =
        .request k (Call.suppliedRate (.buildCommandFromCommand k.toRaw data) answer) := by
      intro answer
      simp only [Call.actionOf, CommandId.cast_toRaw]
    exact ⟨_, hact _⟩
  · intro ⟨rate, hact⟩
    obtain ⟨data, rfl⟩ := actionOf_request hact
    exact ⟨data, rfl, buildCommandFromCommand_ret h k data⟩

theorem emission_iff (com : h.communicationInterface = true) (k : CommandId) :
    Emission k (handler.event h call) ↔ call.actionOf (h.step call).1 = .emit k := by
  cases call with
  | buildNormalDeviceCommand p =>
    cases p with
    | false =>
      simp [Emission, Call.Emits, Call.actionOf, WebcamDeviceHandler.step,
        WebcamDeviceHandler.buildNormalDeviceCommand]
    | true =>
      simp only [Emission, Call.Emits, Machine.event_input, Machine.event_output, handler_step,
        WebcamDeviceHandler.step, WebcamDeviceHandler.buildNormalDeviceCommand_answer h com,
        Call.actionOf]
      cases h.board.next <;> simp
  | buildCommandFromCommand c data =>
    simp only [Emission, Call.Emits, Machine.event_input, Call.actionOf]
    split <;> simp
  | scanForReply p q =>
    simp only [Emission, Call.Emits, Machine.event_input, Call.actionOf]
    split <;> simp
  | interpretDeviceReply id => simp [Emission, Call.Emits, Call.actionOf]
  | getParameter d p w nv i base =>
    simp only [Emission, Call.Emits, Machine.event_input, Call.actionOf]
    split <;> simp
  | doStartUp => simp [Emission, Call.Emits, Call.actionOf]
  | doShutDown => simp [Emission, Call.Emits, Call.actionOf]
  | buildTransitionDeviceCommand p => simp [Emission, Call.Emits, Call.actionOf]

theorem rateOf_eq : rateOf (handler.event h call) = (call.actionOf (h.step call).1).rate := by
  cases call with
  | buildCommandFromCommand c data =>
    simp only [rateOf, Machine.event_input, Machine.event_output, handler_step, Call.actionOf]
    cases hc : CommandId.cast c with
    | some k => rfl
    | none =>
      have hne : c ≠ CommandId.commandSetFrameRate.toRaw := by
        intro heq
        rw [heq, CommandId.cast_toRaw] at hc
        cases hc
      simp [Call.suppliedRate, hne, RequestBoard.Action.rate]
  | buildNormalDeviceCommand p =>
    simp only [rateOf, Machine.event_input, Call.suppliedRate, Call.actionOf]
    split
    · split <;> rfl
    · rfl
  | scanForReply p q =>
    simp only [rateOf, Machine.event_input, Call.suppliedRate, Call.actionOf]
    split <;> rfl
  | interpretDeviceReply id => rfl
  | getParameter d p w nv i base =>
    simp only [rateOf, Machine.event_input, Machine.event_output, handler_step, Call.actionOf]
    split
    · rename_i rate hrate
      rw [hrate]; rfl
    · rename_i hrate
      rw [hrate]; rfl
  | doStartUp => rfl
  | doShutDown => rfl
  | buildTransitionDeviceCommand p => rfl

end Events

end FsfwFromZero
