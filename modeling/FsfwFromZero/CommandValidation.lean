import FsfwFromZero.Handler.WebcamDeviceHandler
import FsfwFromZero.Tmtc.TelecommandAcceptance

/-!
# What service and handler ask of a command

The service and the device handler both look at a command's payload before they act on it.  The
service rejects a payload of the wrong length; the handler takes the payload as optional, reads the
first eight bytes of one that is long enough, and otherwise keeps the rate it has.

* `buildCommandFromCommand_cases` — the handler's four ways out;
* `buildCommandFromCommand_payload` — only set-frame-rate reads its payload;
* `handler_accepts_service_format` — **the handler accepts whatever the service accepts, in the
  service's meaning**, and what it accepts beyond that changes the requested rate only to a rate the
  payload has room for;
* `truncated_rate_accepted` — a truncated set-frame-rate is accepted with the rate requested before.
-/

namespace FsfwFromZero

open Lib

namespace WebcamDeviceHandler

/-- The rate a set-frame-rate payload stands for at the handler, if it is long enough for one. -/
def payloadRate (commandData : Payload) : Option Double :=
  if !commandData.isNull && Double.size ≤ commandData.len then
    some (Double.memcpy commandData.data)
  else none

/-- The handler accepts its three commands and nothing else; only a set-frame-rate with a long
enough payload changes the requested rate. -/
theorem buildCommandFromCommand_cases (h : WebcamDeviceHandler) (deviceCommand : DeviceCommandId)
    (commandData : Payload) :
    let result := h.buildCommandFromCommand deviceCommand commandData
    (CommandId.cast deviceCommand = none ∧ result.1.ret = .commandNotSupported ∧ result.2 = h) ∨
      ∃ command, CommandId.cast deviceCommand = some command ∧ result.1.ret = .ok ∧
        result.2.requestedFrameRate =
          if command = .commandSetFrameRate then
            (payloadRate commandData).getD h.requestedFrameRate
          else h.requestedFrameRate := by
  cases hcast : CommandId.cast deviceCommand with
  | none => simp [buildCommandFromCommand, hcast]
  | some command =>
    cases command with
    | commandTakeSnapshot => simp [buildCommandFromCommand, hcast]
    | commandGetFrameRate => simp [buildCommandFromCommand, hcast]
    | commandSetFrameRate =>
      simp only [buildCommandFromCommand, hcast, payloadRate]
      split_ifs <;> simp

/-- Only set-frame-rate reads its payload: any other call answers and does the same whatever it is
given. -/
theorem buildCommandFromCommand_payload (h : WebcamDeviceHandler) (deviceCommand : DeviceCommandId)
    (hother : deviceCommand ≠ CommandId.commandSetFrameRate.toRaw) (commandData other : Payload) :
    h.buildCommandFromCommand deviceCommand commandData =
      h.buildCommandFromCommand deviceCommand other := by
  cases hcast : CommandId.cast deviceCommand with
  | none => simp only [buildCommandFromCommand, hcast]
  | some command =>
    cases command with
    | commandTakeSnapshot => simp only [buildCommandFromCommand, hcast]
    | commandGetFrameRate => simp only [buildCommandFromCommand, hcast]
    | commandSetFrameRate => exact absurd (CommandId.cast_eq_some.mp hcast) hother

end WebcamDeviceHandler

open WebcamCommandingService in
/-- What the service accepts for set-frame-rate is a payload the handler reads as a whole. -/
theorem payloadRate_of_accepted {payload : Payload} {parameters : List UInt8}
    (h : deviceParameters .commandSetFrameRate payload = some parameters) :
    WebcamDeviceHandler.payloadRate payload = some (Double.memcpy payload.data) := by
  obtain ⟨hnull, hlen⟩ :=
    (deviceParameters_ne_none .commandSetFrameRate payload).mp (by rw [h]; simp)
  simp [WebcamDeviceHandler.payloadRate, hnull, hlen, Double.size]

open WebcamCommandingService in
/-- **The handler accepts whatever the service accepts, in the service's meaning.**  In every state
it accepts exactly its three commands.  A payload the service accepts for set-frame-rate becomes the
requested rate; any other payload becomes the requested rate by its first eight bytes if it has
them, and leaves the requested rate as it is if not.  No other call reads its payload: its answer
and all it does to the handler are the same for every payload, and the requested rate stays.  A call
that is not accepted changes nothing. -/
theorem handler_accepts_service_format (h : WebcamDeviceHandler) (deviceCommand : DeviceCommandId)
    (payload : Payload) :
    let result := h.buildCommandFromCommand deviceCommand payload
    (result.1.ret = .ok ↔ ∃ command : CommandId, deviceCommand = command.toRaw) ∧
    (∀ (command : CommandId) (fw : FwMessages) (present : Bool)
        (getFreeElement : Nat → Except Failure StoreAddress) (ipcStore : IpcStore)
        (message : CommandMessage), deviceCommand = command.toRaw →
      (prepareDeviceCommand fw present getFreeElement ipcStore message command payload).ret = .ok →
      result.1.ret = .ok ∧
        (command = .commandSetFrameRate → result.2.requestedFrameRate.toBytes = payload.data)) ∧
    (deviceCommand = CommandId.commandSetFrameRate.toRaw →
      result.2.requestedFrameRate =
        if payload.isNull = false ∧ 8 ≤ payload.len then Double.memcpy payload.data
        else h.requestedFrameRate) ∧
    (deviceCommand ≠ CommandId.commandSetFrameRate.toRaw →
      result.2.requestedFrameRate = h.requestedFrameRate ∧
        ∀ other, h.buildCommandFromCommand deviceCommand other = result) ∧
    (result.1.ret ≠ .ok → result.2 = h) := by
  intro result
  have hpayload : deviceCommand ≠ CommandId.commandSetFrameRate.toRaw →
      ∀ other, h.buildCommandFromCommand deviceCommand other = result :=
    fun hother other => h.buildCommandFromCommand_payload deviceCommand hother other payload
  rcases h.buildCommandFromCommand_cases deviceCommand payload with
    ⟨hcast, hret, hafter⟩ | ⟨command, hcast, hret, hrate⟩
  · -- no command of the handler
    have hnone : ∀ command : CommandId, deviceCommand ≠ command.toRaw := by
      intro command heq
      subst heq
      simp at hcast
    have hfailed : result.1.ret ≠ .ok := by
      rw [hret]
      simp
    refine ⟨iff_of_false hfailed fun ⟨command, heq⟩ => hnone command heq, ?_, ?_,
      fun hother => ⟨?_, hpayload hother⟩, fun _ => hafter⟩
    · intro command _ _ _ _ _ heq
      exact absurd heq (hnone command)
    · intro heq
      exact absurd heq (hnone _)
    · rw [hafter]
  · have hid : deviceCommand = command.toRaw := CommandId.cast_eq_some.mp hcast
    refine ⟨iff_of_true hret ⟨command, hid⟩, ?_, fun heq => ?_, fun hne => ⟨?_, hpayload hne⟩,
      fun hfailed => absurd hret hfailed⟩
    · intro command' fw present getFreeElement ipcStore message heq haccepted
      have hcommand : command = command' := CommandId.toRaw_inj.mp (hid.symm.trans heq)
      subst hcommand
      refine ⟨hret, fun hset => ?_⟩
      subst hset
      rcases prepareDeviceCommand_cases fw present getFreeElement ipcStore message payload
        .commandSetFrameRate with ⟨hfailed, -⟩ | ⟨_, -, hparameters, -⟩
      · exact absurd haccepted hfailed
      · rw [hrate, if_pos rfl, payloadRate_of_accepted hparameters, Option.getD_some]
        exact Double.toBytes_memcpy _ (deviceParameters_length hparameters)
    · have hcommand : command = .commandSetFrameRate := CommandId.toRaw_inj.mp (hid.symm.trans heq)
      rw [hrate, if_pos hcommand]
      cases hnull : payload.isNull <;> by_cases hlen : 8 ≤ payload.len <;>
        simp [WebcamDeviceHandler.payloadRate, Double.size, hnull, hlen]
    · have hcommand : command ≠ .commandSetFrameRate := by
        intro heq
        subst heq
        exact hne hid
      rw [hrate, if_neg hcommand]

/-- A set-frame-rate to `24.0`, as the service accepts it. -/
def twentyFourPayload : Payload := .bytes [0, 0, 0, 0, 0, 0, 0x38, 0x40]

/-- The rate the service accepted is requested at the handler. -/
theorem handler_accepts_twentyFour :
    (freshHandler.buildCommandFromCommand 2 twentyFourPayload).2.requestedFrameRate.toBytes =
      twentyFourPayload.data := by
  obtain ⟨-, haccepts, -⟩ := handler_accepts_service_format freshHandler 2 twentyFourPayload
  exact (haccepts .commandSetFrameRate numberedMessages true (fun _ => .ok 7) (fun _ => none)
    ⟨0, 0, 0⟩ rfl rfl).2 rfl

/-- **A truncated set-frame-rate is accepted.**  After a set-frame-rate to `24.0`, one with three
bytes, which the service rejects, is accepted and leaves `24.0` requested; so is a take-snapshot
with a payload. -/
theorem truncated_rate_accepted :
    let h := handler.final freshHandler [.buildCommandFromCommand 2 twentyFourPayload]
    let result := h.buildCommandFromCommand 2 (.bytes [1, 2, 3])
    result.1.ret = .ok ∧ deviceParameters .commandSetFrameRate (.bytes [1, 2, 3]) = none ∧
      result.2.requestedFrameRate.toBytes = twentyFourPayload.data ∧
      (h.buildCommandFromCommand 1 (.bytes [1])).1.ret = .ok ∧
      deviceParameters .commandTakeSnapshot (.bytes [1]) = none := by
  decide

end FsfwFromZero
