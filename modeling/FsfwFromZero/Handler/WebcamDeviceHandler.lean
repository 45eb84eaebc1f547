import FsfwFromZero.WebcamDefinitions
import FsfwFromZero.Lib.Machine

/-!
# The webcam device handler

`mission/webcam/WebcamDeviceHandler.{h,cpp}`, override by override.  The handler's members, with the
members of the base class it writes (`mode`, `rawPacket`, `rawPacketLen`) and the base class's
`communicationInterface` pointer, are one record; each override is a function from the record (and
its arguments) to what it hands back and the next record.

* `Answer` — everything an override hands back: the return code, what it stored through its output
  pointers, and the line it printed;
* `Call` — an override with its arguments; `handler : Machine` runs lists of calls;
* `construct` — the handler as its constructor leaves it.

Output pointers that may be null are `Bool` arguments (`true` = valid), and `none` in the answer
means that nothing was stored.  What `DeviceHandlerBase::getParameter` answers is an argument of the
calls that reach it.  `letChildHandleMessage` has a module of its own: it reaches these members only
through the requests it makes the framework execute.
-/

namespace FsfwFromZero

open Lib

/-- `Mode_t`, as far as the handler sets it. -/
inductive Mode
  | off
  | on
  deriving Repr, DecidableEq

/-- The base class member `rawPacket`: null, or pointing at the handler's `dummyCommandBuffer`. -/
inductive RawPacket
  | null
  | dummyCommandBuffer
  deriving Repr, DecidableEq

structure WebcamDeviceHandler where
  /-- Is `communicationInterface` set? -/
  communicationInterface : Bool
  mode : Mode
  rawPacket : RawPacket
  rawPacketLen : Nat
  currentFrameRate : Double
  requestedFrameRate : Double
  snapshotRequested : Bool
  devicePowered : Bool
  transitionCommandPending : Bool
  frameRateCommandPending : Bool
  frameRateQueryPending : Bool
  snapshotInProgress : Bool
  replyReady : Bool
  fabricatedReplyId : ReplyId
  deriving Repr, DecidableEq

/-- What an override hands back to its caller. -/
structure Answer where
  ret : ReturnValue := .ok
  /-- What was stored through `deviceCommand` or `foundId`. -/
  id : Option ReplyId := none
  /-- What was stored through `foundLen`. -/
  len : Option Nat := none
  /-- What `parameterWrapper` was set to. -/
  wrapper : Option Double := none
  info : Option InfoLine := none
  deriving Repr, DecidableEq

/-- A `ParameterWrapper` holding new values: the code `getElement` returns when asked for a
`double`, and the value it stores when that code is `OK`. -/
structure NewValues where
  result : ReturnValue
  value : Double
  deriving Repr, DecidableEq

/-- `newValues->getElement(&destination)`. -/
def NewValues.getElement (newValues : NewValues) (destination : Double) : ReturnValue × Double :=
  (newValues.result, if newValues.result = .ok then newValues.value else destination)

namespace WebcamDeviceHandler

/-- The handler as constructed, with or without a communication interface. -/
def construct (communicationInterface : Bool) : WebcamDeviceHandler where
  communicationInterface := communicationInterface
  mode := .off
  rawPacket := .null
  rawPacketLen := 0
  currentFrameRate := .zero
  requestedFrameRate := .zero
  snapshotRequested := false
  devicePowered := false
  transitionCommandPending := false
  frameRateCommandPending := false
  frameRateQueryPending := false
  snapshotInProgress := false
  replyReady := false
  fabricatedReplyId := none

/-! ### Mode transitions -/

def doStartUp (h : WebcamDeviceHandler) : WebcamDeviceHandler :=
  { h with devicePowered := true, transitionCommandPending := true, mode := .on }

def doShutDown (h : WebcamDeviceHandler) : WebcamDeviceHandler :=
  { h with devicePowered := false, transitionCommandPending := true, mode := .off }

def buildTransitionDeviceCommand (h : WebcamDeviceHandler) (deviceCommand : Bool) :
    Answer × WebcamDeviceHandler :=
  ({ ret := .nothingToSend, id := if deviceCommand then some none else none },
    { h with transitionCommandPending := false })

/-! ### Building commands -/

def prepareReply (h : WebcamDeviceHandler) (commandId : DeviceCommandId) : WebcamDeviceHandler :=
  if !h.communicationInterface then
    { h with fabricatedReplyId := none, replyReady := false, rawPacket := .null, rawPacketLen := 0 }
  else
    { h with
      fabricatedReplyId := some commandId, replyReady := true
      rawPacket := .dummyCommandBuffer, rawPacketLen := 0 }

def buildNormalDeviceCommand (h : WebcamDeviceHandler) (deviceCommand : Bool) :
    Answer × WebcamDeviceHandler :=
  if !deviceCommand then ({ ret := .failed }, h)
  else if !h.communicationInterface then ({ ret := .failed }, h)
  else if h.snapshotRequested then
    let id := CommandId.commandTakeSnapshot.toRaw
    ({ ret := .ok, id := some (some id) },
      prepareReply { h with snapshotRequested := false, snapshotInProgress := true } id)
  else if h.frameRateCommandPending then
    let id := CommandId.commandSetFrameRate.toRaw
    ({ ret := .ok, id := some (some id) },
      prepareReply { h with
        frameRateCommandPending := false, snapshotInProgress := false
        currentFrameRate := h.requestedFrameRate } id)
  else if h.frameRateQueryPending then
    let id := CommandId.commandGetFrameRate.toRaw
    ({ ret := .ok, id := some (some id) },
      prepareReply { h with frameRateQueryPending := false, snapshotInProgress := false } id)
  else ({ ret := .nothingToSend }, h)

def buildCommandFromCommand (h : WebcamDeviceHandler) (deviceCommand : DeviceCommandId)
    (commandData : Payload) : Answer × WebcamDeviceHandler :=
  match CommandId.cast deviceCommand with
  | some .commandTakeSnapshot => ({ ret := .ok }, { h with snapshotRequested := true })
  | some .commandSetFrameRate =>
      let h' :=
        if !commandData.isNull && Double.size ≤ commandData.len then
          { h with requestedFrameRate := Double.memcpy commandData.data }
        else h
      ({ ret := .ok }, { h' with frameRateCommandPending := true })
  | some .commandGetFrameRate => ({ ret := .ok }, { h with frameRateQueryPending := true })
  | none => ({ ret := .commandNotSupported }, h)

/-! ### Replies -/

def scanForReply (h : WebcamDeviceHandler) (foundId foundLen : Bool) :
    Answer × WebcamDeviceHandler :=
  if h.replyReady then
    ({ ret := .ok
       id := if foundId then some h.fabricatedReplyId else none
       len := if foundLen then some 0 else none },
      { h with
        snapshotInProgress :=
          if h.fabricatedReplyId = some CommandId.commandTakeSnapshot.toRaw then false
          else h.snapshotInProgress
        replyReady := false })
  else
    ({ ret := .noReplyReceived
       id := if foundId then some none else none
       len := if foundLen then some 0 else none }, h)

def interpretDeviceReply (h : WebcamDeviceHandler) (id : ReplyId) :
    Answer × WebcamDeviceHandler :=
  let done (info : InfoLine) (h : WebcamDeviceHandler) : Answer × WebcamDeviceHandler :=
    ({ ret := .ok, info := some info }, { h with fabricatedReplyId := none })
  match id.bind CommandId.cast with
  | some .commandTakeSnapshot =>
      done (.text "[Webcam] Snapshot request completed.") { h with snapshotInProgress := false }
  | some .commandSetFrameRate =>
      done (.rate "[Webcam] Frame rate set to " h.currentFrameRate " fps.") h
  | some .commandGetFrameRate =>
      done (.rate "[Webcam] Current frame rate is " h.currentFrameRate " fps.") h
  | none => done (.hex "[Webcam] Reply received for command 0x" id ".") h

/-! ### Parameters -/

/-- `base` is what `DeviceHandlerBase::getParameter` answers for the same arguments; its own state
is not the handler's. -/
def getParameter (h : WebcamDeviceHandler) (domainId parameterId : UInt8) (parameterWrapper : Bool)
    (newValues : Option NewValues) (startAtIndex : UInt16) (base : Answer) :
    Answer × WebcamDeviceHandler :=
  if domainId ≠ 0 then (base, h)
  else if parameterId = ParameterId.parameterFrameRate.toRaw then
    match newValues with
    | none =>
        if !parameterWrapper then ({ ret := .failed }, h)
        else if startAtIndex ≠ 0 then ({ ret := .failed }, h)
        else
          ({ ret := .ok, wrapper := some h.currentFrameRate
             info := some
              (.rate "[Webcam] Parameter read: frame rate " h.currentFrameRate " fps.") },
            h)
    | some newValues =>
        let newFrameRate := h.currentFrameRate
        if startAtIndex ≠ 0 then ({ ret := .failed }, h)
        else
          let (result, newFrameRate) := newValues.getElement newFrameRate
          if result ≠ .ok then ({ ret := result }, h)
          else
            ({ ret := .ok
               info := some
                (.rate "[Webcam] Parameter write: requested frame rate " newFrameRate " fps.") },
              { h with requestedFrameRate := newFrameRate })
  else (base, h)

end WebcamDeviceHandler

/-! ### Runs of calls -/

/-- A call of one of the handler's overrides, with its arguments. -/
inductive Call
  | buildCommandFromCommand (deviceCommand : DeviceCommandId) (commandData : Payload)
  | buildNormalDeviceCommand (deviceCommand : Bool)
  | scanForReply (foundId foundLen : Bool)
  | interpretDeviceReply (id : ReplyId)
  | getParameter (domainId parameterId : UInt8) (parameterWrapper : Bool)
      (newValues : Option NewValues) (startAtIndex : UInt16) (base : Answer)
  | doStartUp
  | doShutDown
  | buildTransitionDeviceCommand (deviceCommand : Bool)
  deriving Repr, DecidableEq

namespace WebcamDeviceHandler

/-- One call on the handler. -/
def step (h : WebcamDeviceHandler) : Call → Answer × WebcamDeviceHandler
  | .buildCommandFromCommand deviceCommand commandData =>
      h.buildCommandFromCommand deviceCommand commandData
  | .buildNormalDeviceCommand deviceCommand => h.buildNormalDeviceCommand deviceCommand
  | .scanForReply foundId foundLen => h.scanForReply foundId foundLen
  | .interpretDeviceReply id => h.interpretDeviceReply id
  | .getParameter domainId parameterId parameterWrapper newValues startAtIndex base =>
      h.getParameter domainId parameterId parameterWrapper newValues startAtIndex base
  | .doStartUp => ({}, h.doStartUp)
  | .doShutDown => ({}, h.doShutDown)
  | .buildTransitionDeviceCommand deviceCommand => h.buildTransitionDeviceCommand deviceCommand

end WebcamDeviceHandler

/-- The handler as a machine over calls. -/
def handler : Machine WebcamDeviceHandler Call Answer := ⟨WebcamDeviceHandler.step⟩

/-- A call as it was made and answered, with the handler it left. -/
abbrev CallEvent := Event WebcamDeviceHandler Call Answer

/-- A freshly constructed handler with a communication interface. -/
def freshHandler : WebcamDeviceHandler := .construct true

@[simp] theorem handler_step (h : WebcamDeviceHandler) (call : Call) :
    handler.step h call = h.step call := rfl

end FsfwFromZero
