import FsfwFromZero.CommandMessages
import FsfwFromZero.WebcamDefinitions

/-!
# The commanding service

`mission/tmtc/WebcamCommandingService.{h,cpp}`: how a telecommand becomes a command message.  A
device command puts the application data into an element of the IPC store and names the command and
the element in the message; a parameter dump needs no element.

* `Subservice` — the subservices, `Subservice.deviceCommand` — the command each of the first three
  names;
* `prepareDeviceCommand`, `prepareParameterDump`, `prepareCommand` — the source's functions;
* `deviceParameters` — the length rules of the three commands;
* `prepareDeviceCommand_cases` — **what an accepted telecommand leaves behind**: a message that
  names the command and a fresh element with exactly the application data;
* `prepareCommand_other` — an accepted telecommand for anything else is a parameter dump, whose
  message names the parameter.
-/

namespace FsfwFromZero

open Lib

/-- `WebcamCommandingService::Subservice`. -/
inductive Subservice
  | commandTakeSnapshot
  | commandSetFrameRate
  | commandGetFrameRate
  | parameterDump
  | tmParameterDump
  | tmCommandDataReply
  deriving Repr, DecidableEq

namespace Subservice

/-- The enumerators' values. -/
def toRaw : Subservice → UInt8
  | commandTakeSnapshot => 1
  | commandSetFrameRate => 2
  | commandGetFrameRate => 3
  | parameterDump => 4
  | tmParameterDump => 130
  | tmCommandDataReply => 131

/-- `static_cast<Subservice>(raw)` as a `switch` sees it. -/
def cast (raw : UInt8) : Option Subservice :=
  if raw = 1 then some commandTakeSnapshot
  else if raw = 2 then some commandSetFrameRate
  else if raw = 3 then some commandGetFrameRate
  else if raw = 4 then some parameterDump
  else if raw = 130 then some tmParameterDump
  else if raw = 131 then some tmCommandDataReply
  else none

/-- The device command a subservice stands for. -/
def deviceCommand : Subservice → Option CommandId
  | commandTakeSnapshot => some .commandTakeSnapshot
  | commandSetFrameRate => some .commandSetFrameRate
  | commandGetFrameRate => some .commandGetFrameRate
  | _ => none

end Subservice

/-- The device command that a telecommand with this subservice byte asks for. -/
def commandOfSubservice (subservice : UInt8) : Option CommandId :=
  (Subservice.cast subservice).bind Subservice.deviceCommand

/-- What preparing a command hands back: the code, the line printed to `sif`, the message and the
IPC store. -/
structure PrepareResult where
  ret : ReturnValue
  error : Option String := none
  message : CommandMessage
  ipcStore : IpcStore

/-- The parameters of a device command as the service stores them, `none` where the telecommand is
invalid. -/
def deviceParameters (command : CommandId) (tcData : Payload) : Option (List UInt8) :=
  match command with
  | .commandTakeSnapshot | .commandGetFrameRate => if tcData.len ≠ 0 then none else some []
  | .commandSetFrameRate =>
      if tcData.len ≠ Double.size || tcData.isNull then none
      else some (tcData.data.take Double.size)

namespace WebcamCommandingService

variable (fw : FwMessages)

/-- `present` tells whether the service has an IPC store, `getFreeElement` how that store answers a
request for an element of a size. -/
def prepareDeviceCommand (present : Bool) (getFreeElement : Nat → Except Failure StoreAddress)
    (ipcStore : IpcStore) (message : CommandMessage) (command : CommandId) (tcData : Payload) :
    PrepareResult :=
  match deviceParameters command tcData with
  | none => { ret := .invalidTc, message := message, ipcStore := ipcStore }
  | some parameters =>
      if !present then
        { ret := .failed
          error := some "WebcamCommandingService::prepareDeviceCommand: IPC store unavailable"
          message := message, ipcStore := ipcStore }
      else
        match getFreeElement parameters.length with
        | .error code => { ret := code, message := message, ipcStore := ipcStore }
        | .ok storeId =>
            let rawCommand := commandToRaw command
            { ret := .ok
              message := { message with
                command := makeCommandId fw.deviceHandlerCommand rawCommand.toUInt8
                parameter := storeId }
              ipcStore := ipcStore.put storeId parameters }

/-- The domain of the webcam's parameters. -/
def webcamParameterDomain : UInt8 := 0

def prepareParameterDump (ipcStore : IpcStore) (message : CommandMessage) (tcData : Payload) :
    PrepareResult :=
  let dump (parameterRaw : UInt8) : PrepareResult :=
    { ret := .ok
      message := fw.setParameterDumpCommand message
        (fw.getFullParameterId webcamParameterDomain parameterRaw 0)
      ipcStore := ipcStore }
  if 0 < tcData.len then
    if tcData.len ≠ 1 || tcData.isNull then
      { ret := .invalidTc, message := message, ipcStore := ipcStore }
    else dump (tcData.data.getD 0 0)
  else dump ParameterId.parameterFrameRate.toRaw

def prepareCommand (present : Bool) (getFreeElement : Nat → Except Failure StoreAddress)
    (ipcStore : IpcStore) (message : CommandMessage) (subservice : UInt8) (tcData : Payload) :
    PrepareResult :=
  match Subservice.cast subservice with
  | some .commandTakeSnapshot =>
      prepareDeviceCommand fw present getFreeElement ipcStore message .commandTakeSnapshot tcData
  | some .commandSetFrameRate =>
      prepareDeviceCommand fw present getFreeElement ipcStore message .commandSetFrameRate tcData
  | some .commandGetFrameRate =>
      prepareDeviceCommand fw present getFreeElement ipcStore message .commandGetFrameRate tcData
  | some .parameterDump => prepareParameterDump fw ipcStore message tcData
  | _ => { ret := .invalidSubservice, message := message, ipcStore := ipcStore }

/-! ### What an accepted telecommand leaves behind -/

/-- A set-frame-rate telecommand with valid parameters brings eight bytes. -/
theorem deviceParameters_length {tcData : Payload} {parameters : List UInt8}
    (h : deviceParameters .commandSetFrameRate tcData = some parameters) :
    tcData.data.length = Double.size := by
  simp only [deviceParameters] at h
  split at h
  · cases h
  · rename_i hvalid
    simp only [Bool.or_eq_true, decide_eq_true_eq, not_or, Bool.not_eq_true, ne_eq,
      Decidable.not_not] at hvalid
    rw [tcData.data_length_of_not_null hvalid.2, hvalid.1]

/-- The stored parameters are the application data. -/
theorem deviceParameters_eq_data {command : CommandId} {tcData : Payload} {parameters : List UInt8}
    (h : deviceParameters command tcData = some parameters) : parameters = tcData.data := by
  have hnone : (if tcData.len ≠ 0 then none else some []) = some parameters →
      parameters = tcData.data := by
    intro hlen
    split at hlen
    · cases hlen
    · rename_i hzero
      have hdata : tcData.data = [] := by
        cases tcData with
        | null n => rfl
        | bytes bs => exact List.eq_nil_of_length_eq_zero (not_not.mp hzero)
      rw [hdata]
      exact (Option.some.inj hlen).symm
  cases command with
  | commandTakeSnapshot => exact hnone h
  | commandGetFrameRate => exact hnone h
  | commandSetFrameRate =>
    have hlength := deviceParameters_length h
    simp only [deviceParameters] at h
    split at h
    · cases h
    · rw [← hlength, List.take_length] at h
      exact (Option.some.inj h).symm

section Prepare

variable (present : Bool) (getFreeElement : Nat → Except Failure StoreAddress) (ipcStore : IpcStore)
  (message : CommandMessage) (tcData : Payload)

/-- The message of a device command whose parameters lie at `storeId`. -/
def deviceMessage (command : CommandId) (storeId : StoreAddress) : CommandMessage :=
  { message with
    command := makeCommandId fw.deviceHandlerCommand (commandToRaw command).toUInt8
    parameter := storeId }

/-- **The ways out of `prepareDeviceCommand`**: nothing done and a code other than `OK`, or the data
in a fresh element and the message naming it. -/
theorem prepareDeviceCommand_cases (command : CommandId) :
    let result := prepareDeviceCommand fw present getFreeElement ipcStore message command tcData
    (result.ret ≠ .ok ∧ result.message = message ∧ result.ipcStore = ipcStore) ∨
      ∃ storeId, getFreeElement tcData.data.length = .ok storeId ∧
        deviceParameters command tcData = some tcData.data ∧ result.ret = .ok ∧
        result.message = deviceMessage fw message command storeId ∧
        result.ipcStore = ipcStore.put storeId tcData.data := by
  intro result
  cases hparameters : deviceParameters command tcData with
  | none =>
    have hresult : result = { ret := .invalidTc, message := message, ipcStore := ipcStore } := by
      simp only [result, prepareDeviceCommand, hparameters]
    rw [hresult]
    exact Or.inl ⟨by simp, rfl, rfl⟩
  | some parameters =>
    have hdata := deviceParameters_eq_data hparameters
    subst hdata
    cases hpresent : present with
    | false =>
      refine Or.inl ⟨?_, ?_, ?_⟩ <;> simp [result, prepareDeviceCommand, hparameters, hpresent]
    | true =>
      cases hfree : getFreeElement tcData.data.length with
      | error code =>
        have hresult : result = { ret := code, message := message, ipcStore := ipcStore } := by
          simp [result, prepareDeviceCommand, hparameters, hpresent, hfree]
        rw [hresult]
        exact Or.inl ⟨code.property, rfl, rfl⟩
      | ok storeId =>
        have hresult : result =
            { ret := .ok, message := deviceMessage fw message command storeId
              ipcStore := ipcStore.put storeId tcData.data } := by
          simp [result, prepareDeviceCommand, hparameters, hpresent, hfree, deviceMessage]
        rw [hresult]
        exact Or.inr ⟨storeId, rfl, rfl, rfl, rfl, rfl⟩

theorem prepareCommand_device {subservice : UInt8} {command : CommandId}
    (hcommand : commandOfSubservice subservice = some command) :
    prepareCommand fw present getFreeElement ipcStore message subservice tcData =
      prepareDeviceCommand fw present getFreeElement ipcStore message command tcData := by
  obtain ⟨sub, hcast, hsub⟩ := Option.bind_eq_some_iff.mp hcommand
  rw [prepareCommand, hcast]
  cases sub <;> cases hsub <;> rfl

/-- The parameter that a dump with this data asks for: the one it names, or the frame rate. -/
def dumpedParameter (tcData : Payload) : UInt8 :=
  if 0 < tcData.len then tcData.data.getD 0 0 else ParameterId.parameterFrameRate.toRaw

/-- The message of a parameter dump with this data. -/
def dumpMessage : CommandMessage :=
  fw.setParameterDumpCommand message
    (fw.getFullParameterId webcamParameterDomain (dumpedParameter tcData) 0)

theorem getMessageType_dumpMessage :
    (dumpMessage fw message tcData).getMessageType = fw.parameter :=
  getMessageType_makeCommandId rfl

theorem prepareParameterDump_message
    (hok : (prepareParameterDump fw ipcStore message tcData).ret = .ok) :
    (prepareParameterDump fw ipcStore message tcData).message = dumpMessage fw message tcData := by
  unfold prepareParameterDump at hok ⊢
  unfold dumpMessage dumpedParameter
  split_ifs at hok ⊢
  · rfl
  · rfl

theorem prepareParameterDump_ipcStore :
    (prepareParameterDump fw ipcStore message tcData).ipcStore = ipcStore := by
  unfold prepareParameterDump
  split_ifs <;> rfl

/-- Other telecommands leave the IPC store alone, and one that is accepted is a parameter dump and
makes its message. -/
theorem prepareCommand_other {subservice : UInt8}
    (hcommand : commandOfSubservice subservice = none) :
    let result := prepareCommand fw present getFreeElement ipcStore message subservice tcData
    result.ipcStore = ipcStore ∧
      (result.ret = .ok → Subservice.cast subservice = some .parameterDump ∧
        result.message = dumpMessage fw message tcData) := by
  intro result
  have hinvalid : ({ ret := .invalidSubservice, message := message, ipcStore := ipcStore } :
      PrepareResult).ret ≠ .ok := by simp
  cases hcast : Subservice.cast subservice with
  | none =>
    have hresult : result =
        { ret := .invalidSubservice, message := message, ipcStore := ipcStore } := by
      simp only [result, prepareCommand, hcast]
    rw [hresult]
    exact ⟨rfl, fun hok => absurd hok hinvalid⟩
  | some sub =>
    have hnot : sub.deviceCommand = none := by simpa [commandOfSubservice, hcast] using hcommand
    have hresult : result = match sub with
        | .parameterDump => prepareParameterDump fw ipcStore message tcData
        | _ => { ret := .invalidSubservice, message := message, ipcStore := ipcStore } := by
      simp only [result, prepareCommand, hcast]
      cases sub <;> first | rfl | cases hnot
    rw [hresult]
    cases sub with
    | parameterDump =>
      exact ⟨prepareParameterDump_ipcStore fw ipcStore message tcData, fun hok =>
        ⟨rfl, prepareParameterDump_message fw ipcStore message tcData hok⟩⟩
    | _ => exact ⟨rfl, fun hok => absurd hok hinvalid⟩

end Prepare

end WebcamCommandingService

end FsfwFromZero
