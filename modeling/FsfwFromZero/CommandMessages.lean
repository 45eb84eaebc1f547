import FsfwFromZero.Framework
import FsfwFromZero.Lib.Store

/-!
# Command messages

The message object that travels from the commanding service to the device handler, and the
framework's accessors of it.  A command word is a message type in the high byte and a command of
that type in the low byte.

* `makeCommandId`, `CommandMessage.getMessageType`, `CommandMessage.commandByte` — packing and
  unpacking command words, and that **unpacking inverts packing**;
* `FwMessages` — the framework's message types and commands, which the mission code refers to by
  name only;
* `FwMessages.setActionCommand`, `FwMessages.setParameterDumpCommand` — the messages the mission
  code writes.
-/

namespace FsfwFromZero

open Lib

/-- The IPC store, by what lies under each address. -/
abbrev IpcStore := Store StoreAddress (List UInt8)

/-- `CommandMessageIF::makeCommandId`. -/
def makeCommandId (messageType uniqueId : UInt8) : UInt16 :=
  messageType.toUInt16 * 256 + uniqueId.toUInt16

/-- A `CommandMessage`: the command word and the parameters. -/
structure CommandMessage where
  command : UInt16
  parameter : UInt32
  parameter2 : UInt32
  deriving Repr, DecidableEq

namespace CommandMessage

/-- `getMessageType()`: the high byte of the command word. -/
def getMessageType (message : CommandMessage) : UInt8 := (message.command >>> 8).toUInt8

/-- `static_cast<uint8_t>(message->getCommand() & 0xff)`. -/
def commandByte (message : CommandMessage) : UInt8 := (message.command &&& 0xff).toUInt8

end CommandMessage

/-! ### Unpacking inverts packing -/

theorem makeCommandId_toNat (messageType uniqueId : UInt8) :
    (makeCommandId messageType uniqueId).toNat = messageType.toNat * 256 + uniqueId.toNat := by
  have htype := messageType.toNat_lt
  have hid := uniqueId.toNat_lt
  simp only [makeCommandId, UInt16.toNat_add, UInt16.toNat_mul, UInt8.toNat_toUInt16]
  show (messageType.toNat * 256 % 65536 + uniqueId.toNat) % 65536 = _
  omega

theorem getMessageType_makeCommandId {message : CommandMessage} {messageType uniqueId : UInt8}
    (hword : message.command = makeCommandId messageType uniqueId) :
    message.getMessageType = messageType := by
  have htype := messageType.toNat_lt
  have hid := uniqueId.toNat_lt
  have hshift : (makeCommandId messageType uniqueId >>> 8).toNat =
      (makeCommandId messageType uniqueId).toNat / 2 ^ 8 := by
    rw [UInt16.toNat_shiftRight]
    exact Nat.shiftRight_eq_div_pow _ 8
  apply UInt8.toNat_inj.mp
  rw [CommandMessage.getMessageType, hword, UInt16.toNat_toUInt8, hshift, makeCommandId_toNat]
  omega

theorem commandByte_makeCommandId {message : CommandMessage} {messageType uniqueId : UInt8}
    (hword : message.command = makeCommandId messageType uniqueId) :
    message.commandByte = uniqueId := by
  have hid := uniqueId.toNat_lt
  have hmask : (makeCommandId messageType uniqueId &&& 0xff).toNat =
      (makeCommandId messageType uniqueId).toNat % 2 ^ 8 := by
    rw [UInt16.toNat_and]
    exact Nat.and_two_pow_sub_one_eq_mod _ 8
  apply UInt8.toNat_inj.mp
  rw [CommandMessage.commandByte, hword, UInt16.toNat_toUInt8, hmask, makeCommandId_toNat]
  omega

/-! ### The framework's messages -/

/-- The framework's constants behind the names the mission code uses. -/
structure FwMessages where
  /-- `messagetypes::DEVICE_HANDLER_COMMAND`. -/
  deviceHandlerCommand : UInt8
  /-- `messagetypes::ACTION`. -/
  action : UInt8
  /-- `messagetypes::PARAMETER`. -/
  parameter : UInt8
  /-- The command byte of `ActionMessage::EXECUTE_ACTION`. -/
  executeAction : UInt8
  /-- The command byte of `ParameterMessage::CMD_PARAMETER_DUMP`. -/
  parameterDump : UInt8
  /-- `HasParametersIF::getFullParameterId`. -/
  getFullParameterId : UInt8 → UInt8 → UInt16 → UInt32
  /-- The message types are enumerators of one enumeration. -/
  types_nodup : [deviceHandlerCommand, action, parameter].Nodup

/-- Message types and commands, numbered. -/
def numberedMessages : FwMessages where
  deviceHandlerCommand := 6
  action := 4
  parameter := 9
  executeAction := 1
  parameterDump := 2
  getFullParameterId domain parameter index :=
    domain.toUInt32 * 16777216 + parameter.toUInt32 * 65536 + index.toUInt32
  types_nodup := by decide

namespace FwMessages

variable (fw : FwMessages)

/-- `ActionMessage::setCommand`. -/
def setActionCommand (message : CommandMessage) (fid : UInt32) (parameters : StoreAddress) :
    CommandMessage :=
  { message with
    command := makeCommandId fw.action fw.executeAction
    parameter := fid
    parameter2 := parameters }

/-- `ParameterMessage::setParameterDumpCommand`. -/
def setParameterDumpCommand (message : CommandMessage) (id : UInt32) : CommandMessage :=
  { message with command := makeCommandId fw.parameter fw.parameterDump, parameter := id }

theorem parameter_ne_deviceHandlerCommand : fw.parameter ≠ fw.deviceHandlerCommand := by
  intro heq
  have hnodup := fw.types_nodup
  rw [heq] at hnodup
  simp at hnodup

end FwMessages

namespace ActionMessage

/-- `ActionMessage::getActionId`. -/
def getActionId (message : CommandMessage) : UInt32 := message.parameter

/-- `ActionMessage::getStoreId`. -/
def getStoreId (message : CommandMessage) : StoreAddress := message.parameter2

end ActionMessage

end FsfwFromZero
