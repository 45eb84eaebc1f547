import FsfwFromZero.CommandMessages
import FsfwFromZero.Handler.WebcamDeviceHandler

/-!
# Command messages at the handler

`WebcamDeviceHandler::letChildHandleMessage`: a device command message is rewritten in place as an
action message over the same store element and handed to the framework's action helper, which
fetches the element and makes the handler execute `buildCommandFromCommand`.

* `ActionHelper` — the framework's helper: an `EXECUTE_ACTION` message that names a live element
  executes its action once with the element's bytes and deletes the element;
* `letChildHandleMessage` — the override; `MessageResult` records what it executed and what it
  replied;
* `letChildHandleMessage_device` — **a well-formed device command is executed once**, without a
  reply;
* `letChildHandleMessage_other` — any other message goes to the base class.
-/

namespace FsfwFromZero

open Lib

/-- An action the helper made the handler execute, with the data it passed. -/
abbrev Execution := UInt32 × List UInt8

structure ActionOutcome where
  result : ReturnValue
  executed : List Execution
  ipcStore : IpcStore

/-- `ActionHelper`, by what it does with a message and the IPC store. -/
structure ActionHelper (fw : FwMessages) where
  handleActionMessage : CommandMessage → IpcStore → ActionOutcome
  /-- An execution request that names a live element. -/
  executes : ∀ message ipcStore bytes,
    message.command = makeCommandId fw.action fw.executeAction →
    ipcStore (ActionMessage.getStoreId message) = some bytes →
    handleActionMessage message ipcStore =
      { result := .ok
        executed := [(ActionMessage.getActionId message, bytes)]
        ipcStore := ipcStore.erase (ActionMessage.getStoreId message) }

/-- The helper as the framework implements it: a message that is no execution request is refused,
one that names no live element executes nothing. -/
def ActionHelper.direct (fw : FwMessages) : ActionHelper fw where
  handleActionMessage message ipcStore :=
    if message.command = makeCommandId fw.action fw.executeAction then
      match ipcStore (ActionMessage.getStoreId message) with
      | none => { result := .ok, executed := [], ipcStore := ipcStore }
      | some bytes =>
          { result := .ok
            executed := [(ActionMessage.getActionId message, bytes)]
            ipcStore := ipcStore.erase (ActionMessage.getStoreId message) }
    else { result := .unknownCommand, executed := [], ipcStore := ipcStore }
  executes message ipcStore bytes hword hlive := by
    rw [if_pos hword, hlive]

/-- What handling a message did: the code returned, the replies sent with
`replyReturnvalueToCommand`, the actions executed, and the handler and IPC store left. -/
structure MessageResult where
  ret : ReturnValue
  replies : List ReturnValue := []
  executed : List Execution := []
  handler : WebcamDeviceHandler
  ipcStore : IpcStore

namespace WebcamDeviceHandler

/-- `executeAction`: the base class hands an action to the override. -/
def execute (h : WebcamDeviceHandler) (execution : Execution) : WebcamDeviceHandler :=
  (h.buildCommandFromCommand execution.1 (.bytes execution.2)).2

section

variable {fw : FwMessages} (actionHelper : ActionHelper fw) (base : ReturnValue)
  (h : WebcamDeviceHandler) (ipcStore : IpcStore)

/-- `base` is what `DeviceHandlerBase::letChildHandleMessage` returns. -/
def letChildHandleMessage (message : Option CommandMessage) : MessageResult :=
  match message with
  | none => { ret := .failed, handler := h, ipcStore := ipcStore }
  | some message =>
      if message.getMessageType ≠ fw.deviceHandlerCommand then
        { ret := base, handler := h, ipcStore := ipcStore }
      else
        let rawCommand := message.commandByte
        match rawToCommand rawCommand.toUInt32 with
        | none => { ret := .ok, replies := [.unknownCommand], handler := h, ipcStore := ipcStore }
        | some _ =>
            let storeId : StoreAddress := message.parameter
            let message := fw.setActionCommand message rawCommand.toUInt32 storeId
            let outcome := actionHelper.handleActionMessage message ipcStore
            { ret := .ok
              replies := if outcome.result ≠ .ok then [outcome.result] else []
              executed := outcome.executed
              handler := outcome.executed.foldl execute h
              ipcStore := outcome.ipcStore }

/-- The raw id of a command survives its way through one byte. -/
theorem commandToRaw_byte (k : CommandId) : (commandToRaw k).toUInt8.toUInt32 = k.toRaw := by
  cases k <;> rfl

/-- **A device command message is executed once**: whatever the message held before, the command it
names is executed with the bytes of the element it names, which is deleted. -/
theorem letChildHandleMessage_device (message : CommandMessage) (k : CommandId)
    (bytes : List UInt8)
    (hword : message.command = makeCommandId fw.deviceHandlerCommand (commandToRaw k).toUInt8)
    (hlive : ipcStore message.parameter = some bytes) :
    h.letChildHandleMessage actionHelper base ipcStore (some message) =
      { ret := .ok
        executed := [(k.toRaw, bytes)]
        handler := h.execute (k.toRaw, bytes)
        ipcStore := ipcStore.erase message.parameter } := by
  have htype := getMessageType_makeCommandId hword
  have hraw : message.commandByte.toUInt32 = k.toRaw := by
    rw [commandByte_makeCommandId hword, commandToRaw_byte]
  have hcommand : rawToCommand k.toRaw = some k := rawToCommand_eq_some.mpr rfl
  have houtcome := actionHelper.executes
    (fw.setActionCommand message k.toRaw message.parameter) ipcStore bytes rfl hlive
  simp only [letChildHandleMessage, htype, ne_eq, not_true_eq_false, if_false, hraw, hcommand,
    houtcome]
  rfl

theorem letChildHandleMessage_other (message : CommandMessage)
    (htype : message.getMessageType ≠ fw.deviceHandlerCommand) :
    h.letChildHandleMessage actionHelper base ipcStore (some message) =
      { ret := base, handler := h, ipcStore := ipcStore } := by
  simp only [letChildHandleMessage, htype, ne_eq, not_false_eq_true, if_true]

end

end WebcamDeviceHandler

end FsfwFromZero
