import Mathlib.Tactic.Common

/-!
# The framework vocabulary the mission code is written in

The mission classes derive from and call into the flight software framework.  This file fixes the
data that crosses that border:

* `ReturnValue` — the codes the mission code returns or hands through, `Failure` — those that are
  not `OK`;
* `Payload` — a `const uint8_t *` together with its length, null pointers included;
* `Double` — a `double` as its eight bytes of object representation, which is all that `memcpy`,
  assignment and equality of stored values can see;
* `ReplyId` — a command id or the sentinel `DeviceHandlerIF::NO_COMMAND_ID`;
* `StoreAddress`, `MessageQueueId` — the handles of pool elements and of message queues;
* `InfoLine` — one line written to `sif::info`, with the values it was formatted from.
-/

namespace FsfwFromZero

/-- The return codes that occur in the mission code.  Every other code of the framework is only
handed through and appears as `framework code`. -/
inductive ReturnValue
  | ok
  | failed
  | nothingToSend
  | commandNotSupported
  | noReplyReceived
  | unknownCommand
  | invalidTc
  | invalidSubservice
  | invalidObject
  | invalidReply
  | executionComplete
  | framework (code : UInt16)
  deriving Repr, DecidableEq

/-- A code other than `OK`, as a framework call that fails returns it. -/
abbrev Failure := { code : ReturnValue // code ≠ .ok }

theorem ReturnValue.framework_ne_ok (code : UInt16) : framework code ≠ ok := by
  intro h
  cases h

def Failure.framework (code : UInt16) : Failure :=
  ⟨.framework code, ReturnValue.framework_ne_ok code⟩

/-- The raw value of a `store_address_t`. -/
abbrev StoreAddress := UInt32

/-- `MessageQueueId_t`. -/
abbrev MessageQueueId := UInt32

/-- `DeviceCommandId_t`. -/
abbrev DeviceCommandId := UInt32

/-- A command id, or `none` for the sentinel `DeviceHandlerIF::NO_COMMAND_ID`, which is the id of no
command. -/
abbrev ReplyId := Option DeviceCommandId

/-! ### Byte buffers -/

/-- A `const uint8_t *` and the length passed with it: null with whatever length the caller gave, or
the bytes it points to. -/
inductive Payload
  | null (len : Nat)
  | bytes (bs : List UInt8)
  deriving Repr, DecidableEq

namespace Payload

/-- The length argument. -/
def len : Payload → Nat
  | null n => n
  | bytes bs => bs.length

/-- What the pointer can be read for. -/
def data : Payload → List UInt8
  | null _ => []
  | bytes bs => bs

/-- The test `ptr == nullptr`. -/
def isNull : Payload → Bool
  | null _ => true
  | bytes _ => false

@[simp] theorem len_bytes (bs : List UInt8) : (bytes bs).len = bs.length := rfl

@[simp] theorem data_bytes (bs : List UInt8) : (bytes bs).data = bs := rfl

@[simp] theorem isNull_bytes (bs : List UInt8) : (bytes bs).isNull = false := rfl

/-- Data of a known length is null or has that many bytes. -/
theorem data_length_of_not_null (p : Payload) (h : p.isNull = false) : p.data.length = p.len := by
  cases p with
  | null n => simp [isNull] at h
  | bytes bs => rfl

end Payload

/-! ### Doubles as object representations -/

/-- A `double` by the eight bytes it is stored in. -/
structure Double where
  b0 : UInt8
  b1 : UInt8
  b2 : UInt8
  b3 : UInt8
  b4 : UInt8
  b5 : UInt8
  b6 : UInt8
  b7 : UInt8
  deriving Repr, DecidableEq

namespace Double

/-- `sizeof(double)`. -/
def size : Nat := 8

/-- The constant `0.0`. -/
def zero : Double := ⟨0, 0, 0, 0, 0, 0, 0, 0⟩

/-- The bytes of the object representation, lowest address first. -/
def toBytes (d : Double) : List UInt8 := [d.b0, d.b1, d.b2, d.b3, d.b4, d.b5, d.b6, d.b7]

/-- `memcpy(&d, src, sizeof(double))`. -/
def memcpy (src : List UInt8) : Double :=
  ⟨src.getD 0 0, src.getD 1 0, src.getD 2 0, src.getD 3 0,
    src.getD 4 0, src.getD 5 0, src.getD 6 0, src.getD 7 0⟩

@[simp] theorem toBytes_length (d : Double) : d.toBytes.length = size := rfl

@[simp] theorem memcpy_toBytes (d : Double) : memcpy d.toBytes = d := rfl

/-- Copying eight bytes into a `double` keeps them. -/
theorem toBytes_memcpy (src : List UInt8) (h : src.length = size) : (memcpy src).toBytes = src := by
  match src, h with
  | [_, _, _, _, _, _, _, _], _ => rfl

end Double

/-! ### Console output -/

/-- One line written to `sif::info`: plain text, or text around a frame rate printed with two
decimals, or text around a command id printed in hexadecimal. -/
inductive InfoLine
  | text (line : String)
  | rate (before : String) (value : Double) (after : String)
  | hex (before : String) (id : ReplyId) (after : String)
  deriving Repr, DecidableEq

end FsfwFromZero
