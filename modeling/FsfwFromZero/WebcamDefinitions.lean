import FsfwFromZero.Framework

/-!
# Webcam command and parameter ids

`mission/webcam/WebcamDefinitions.h` and `mission/messaging/MessageTypes.{h,cpp}`: the enumerations
of commands and parameters, their raw values, and the conversions both ends of the command path use.

A C++ `switch` over `static_cast<CommandId>(raw)` sees either an enumerator or falls into `default`;
`CommandId.cast` is that cast with `none` for the values that are no enumerator.
-/

namespace FsfwFromZero

/-- `webcam::CommandId`. -/
inductive CommandId
  | commandTakeSnapshot
  | commandSetFrameRate
  | commandGetFrameRate
  deriving Repr, DecidableEq

/-- `webcam::ParameterId`. -/
inductive ParameterId
  | parameterFrameRate
  deriving Repr, DecidableEq

namespace CommandId

/-- The enumerators' values. -/
def toRaw : CommandId → DeviceCommandId
  | commandTakeSnapshot => 0x01
  | commandSetFrameRate => 0x02
  | commandGetFrameRate => 0x03

/-- `static_cast<CommandId>(raw)` as a `switch` sees it. -/
def cast (raw : DeviceCommandId) : Option CommandId :=
  if raw = 0x01 then some commandTakeSnapshot
  else if raw = 0x02 then some commandSetFrameRate
  else if raw = 0x03 then some commandGetFrameRate
  else none

@[simp] theorem cast_toRaw (c : CommandId) : cast c.toRaw = some c := by
  cases c <;> rfl

theorem cast_eq_some {raw : DeviceCommandId} {c : CommandId} :
    cast raw = some c ↔ raw = c.toRaw := by
  constructor
  · intro h
    unfold cast at h
    split_ifs at h with h1 h2 h3 <;> cases h <;> assumption
  · rintro rfl
    exact cast_toRaw c

theorem toRaw_injective : Function.Injective toRaw := by
  intro a b h
  have h' := congrArg cast h
  simpa using h'

@[simp] theorem toRaw_inj {a b : CommandId} : a.toRaw = b.toRaw ↔ a = b := toRaw_injective.eq_iff

end CommandId

/-- The value of `ParameterId::parameterFrameRate`, also `PARAM_FRAME_RATE`. -/
def ParameterId.toRaw : ParameterId → UInt8
  | parameterFrameRate => 0x01

/-- `webcam::objectIdWebcamHandler`. -/
def objectIdWebcamHandler : UInt32 := 0x57000001

/-! ### `messagetypes::mission::webcam` -/

/-- The enumerators are the valid commands. -/
def isValidCommand : Option CommandId → Bool
  | some .commandTakeSnapshot | some .commandSetFrameRate | some .commandGetFrameRate => true
  | none => false

/-- The raw id as a command; `none` where the source returns `false` and leaves its output alone. -/
def rawToCommand (rawId : DeviceCommandId) : Option CommandId :=
  let candidate := CommandId.cast rawId
  if !isValidCommand candidate then none else candidate

def commandToRaw (command : CommandId) : DeviceCommandId := command.toRaw

/-- **Decoding inverts encoding**: both ends of the command path agree on the three ids and on
nothing else. -/
theorem rawToCommand_eq_some {rawId : DeviceCommandId} {command : CommandId} :
    rawToCommand rawId = some command ↔ rawId = commandToRaw command := by
  have hcast : rawToCommand rawId = CommandId.cast rawId := by
    unfold rawToCommand
    cases CommandId.cast rawId with
    | none => rfl
    | some c => cases c <;> rfl
  rw [hcast, CommandId.cast_eq_some, commandToRaw]

end FsfwFromZero
