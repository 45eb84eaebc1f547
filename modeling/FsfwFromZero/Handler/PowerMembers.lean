import Mathlib.Data.List.Basic
import FsfwFromZero.Lib.History
import FsfwFromZero.Lib.Simulation
import FsfwFromZero.Handler.WebcamDeviceHandler

/-!
# The power members stand apart

`doStartUp`, `doShutDown` and `buildTransitionDeviceCommand` write three members of the handler that
no other override reads: `mode`, `devicePowered` and `transitionCommandPending`.  The handler is two
machines side by side, one for the power and one for everything else.

* `Power`, `powerUnit : Machine` — the power members alone, under the three calls;
* `powerSimulation`, `commandSimulation` — **the handler drives both**, each with its own calls;
* `lastSwitch` — the mode that was last switched to;
* `power_stands_apart` — **the other overrides answer as if the power calls had not been made**, and
  the power members are what the power calls made of them.
-/

namespace FsfwFromZero

open Lib

/-! ### The power members alone -/

structure Power where
  mode : Mode
  devicePowered : Bool
  transitionCommandPending : Bool
  deriving Repr, DecidableEq

/-- The calls that write the power members. -/
inductive PowerCall
  | doStartUp
  | doShutDown
  | buildTransitionDeviceCommand
  deriving Repr, DecidableEq

def powerUnit : Machine Power PowerCall Unit where
  step p
    | .doStartUp => ((), ⟨.on, true, true⟩)
    | .doShutDown => ((), ⟨.off, false, true⟩)
    | .buildTransitionDeviceCommand => ((), { p with transitionCommandPending := false })

/-- What a call means for the power, if anything. -/
def Call.power : Call → Option PowerCall
  | .doStartUp => some .doStartUp
  | .doShutDown => some .doShutDown
  | .buildTransitionDeviceCommand _ => some .buildTransitionDeviceCommand
  | .buildCommandFromCommand _ _ => none
  | .buildNormalDeviceCommand _ => none
  | .scanForReply _ _ => none
  | .interpretDeviceReply _ => none
  | .getParameter _ _ _ _ _ _ => none

namespace WebcamDeviceHandler

def power (h : WebcamDeviceHandler) : Power :=
  ⟨h.mode, h.devicePowered, h.transitionCommandPending⟩

/-- The handler with other power members. -/
def withPower (h : WebcamDeviceHandler) (p : Power) : WebcamDeviceHandler :=
  { h with
    mode := p.mode, devicePowered := p.devicePowered
    transitionCommandPending := p.transitionCommandPending }

/-- **One power call** moves the power members as the power unit does, and nothing else. -/
theorem step_power (h : WebcamDeviceHandler) {call : Call} {pc : PowerCall}
    (hcall : call.power = some pc) :
    (h.step call).2 = h.withPower (powerUnit.step h.power pc).2 := by
  cases call <;> cases hcall <;> rfl

/-- **One call of another override** neither reads nor writes the power members. -/
theorem step_withPower (h : WebcamDeviceHandler) (p : Power) {call : Call}
    (hcall : call.power = none) :
    (h.withPower p).step call = ((h.step call).1, (h.step call).2.withPower p) := by
  cases call with
  | buildCommandFromCommand c data =>
    simp only [step, buildCommandFromCommand]
    split
    · rfl
    · split <;> rfl
    · rfl
    · rfl
  | buildNormalDeviceCommand valid =>
    cases valid with
    | false => rfl
    | true =>
      cases hcom : h.communicationInterface <;> cases hs : h.snapshotRequested <;>
        cases hc : h.frameRateCommandPending <;> cases hg : h.frameRateQueryPending <;>
        simp [step, buildNormalDeviceCommand, prepareReply, withPower, hcom, hs, hc, hg]
  | scanForReply foundId foundLen =>
    cases hr : h.replyReady <;> simp [step, scanForReply, withPower, hr]
  | interpretDeviceReply id =>
    simp only [step, interpretDeviceReply]
    split <;> rfl
  | getParameter d i w nv idx base =>
    by_cases hd : d = 0
    · by_cases hi : i = ParameterId.parameterFrameRate.toRaw
      · cases nv with
        | none =>
          cases w with
          | false => simp [step, getParameter, withPower, hd, hi]
          | true => by_cases hidx : idx = 0 <;> simp [step, getParameter, withPower, hd, hi, hidx]
        | some nv =>
          by_cases hidx : idx = 0
          · by_cases hr : nv.result = .ok <;>
              simp [step, getParameter, NewValues.getElement, withPower, hd, hi, hidx, hr]
          · simp [step, getParameter, withPower, hd, hi, hidx]
      · simp [step, getParameter, hd, hi]
    · simp [step, getParameter, hd]
  | doStartUp => cases hcall
  | doShutDown => cases hcall
  | buildTransitionDeviceCommand valid => cases hcall

theorem step_power_of_other (h : WebcamDeviceHandler) {call : Call} (hcall : call.power = none) :
    (h.step call).2.power = h.power := by
  have hself := h.step_withPower h.power hcall
  have hsame : (h.withPower h.power).step call = h.step call := rfl
  rw [hsame] at hself
  rw [hself]
  rfl

end WebcamDeviceHandler

/-! ### Two machines side by side -/

/-- **The handler drives the power unit**, with its power calls. -/
def powerSimulation : Simulation handler powerUnit where
  view := WebcamDeviceHandler.power
  inputs e := e.input.power.toList
  outputs e := (e.input.power.map fun _ => ()).toList
  step_final h call := by
    rw [Machine.event_input, handler_step]
    cases hcall : call.power with
    | none => exact (h.step_power_of_other hcall).symm
    | some pc =>
      rw [h.step_power hcall]
      rfl
  step_outputs h call := by
    rw [Machine.event_input]
    cases call.power <;> rfl

/-- The call, unless it is a power call. -/
def Call.command (call : Call) : Option Call :=
  match call.power with
  | none => some call
  | some _ => none

/-- **The handler drives itself without power**: its other calls on a handler whose power members
are whatever they are. -/
def commandSimulation (p : Power) : Simulation handler handler where
  view h := h.withPower p
  inputs e := e.input.command.toList
  outputs e := (e.input.command.map fun _ => e.output).toList
  step_final h call := by
    rw [Machine.event_input, handler_step]
    cases hcall : call.power with
    | none =>
      have hstep := h.step_withPower p hcall
      simp only [Call.command, hcall, Option.toList, Machine.final_cons, Machine.final_nil,
        handler_step, hstep]
    | some pc =>
      simp only [Call.command, hcall, Option.toList, Machine.final_nil, h.step_power hcall]
      rfl
  step_outputs h call := by
    rw [Machine.event_input, Machine.event_output]
    cases hcall : call.power with
    | none =>
      have hstep := h.step_withPower p hcall
      simp only [Call.command, hcall, Option.toList, Machine.trace_cons, Machine.trace_nil,
        List.map_cons, List.map_nil, Machine.event_output, handler_step, hstep, Option.map_some]
    | some pc =>
      simp only [Call.command, hcall, Option.toList, Machine.trace_nil, List.map_nil,
        Option.map_none]

/-- The inputs of a simulation that reads calls only are a matter of the calls. -/
theorem flatMap_trace {α : Type*} (f : Call → List α) (h : WebcamDeviceHandler)
    (calls : List Call) :
    (handler.trace h calls).flatMap (fun e => f e.input) = calls.flatMap f := by
  have hmap : (handler.trace h calls).flatMap (fun e => f e.input) =
      ((handler.trace h calls).map Event.input).flatMap f := by
    rw [List.flatMap_map]
  rw [hmap, Machine.trace_inputs]

/-! ### What the power members say -/

/-- The mode a power call switches to. -/
def PowerCall.switchesTo : PowerCall → Option Mode
  | .doStartUp => some .on
  | .doShutDown => some .off
  | .buildTransitionDeviceCommand => none

/-- The mode that was switched to last, `off` at first. -/
def lastSwitch (calls : List PowerCall) : Mode := lastValue PowerCall.switchesTo .off calls

/-- The power unit as constructed. -/
def Power.initial : Power := ⟨.off, false, false⟩

/-- **The power members in terms of the power calls.** -/
theorem power_history (calls : List PowerCall) :
    let p := powerUnit.final .initial calls
    p.mode = lastSwitch calls ∧ (p.devicePowered = true ↔ lastSwitch calls = .on) ∧
      (p.transitionCommandPending = true ↔ PendingSince (fun c => c.switchesTo.isSome = true)
        (fun c => c = .buildTransitionDeviceCommand) calls) := by
  induction calls using List.reverseRecOn with
  | nil => exact ⟨rfl, by decide, iff_of_false (by decide) (not_pendingSince_nil _ _)⟩
  | append_singleton calls call ih =>
    obtain ⟨hmode, hpowered, hpending⟩ := ih
    rw [Machine.final_snoc, lastSwitch, lastValue_snoc, pendingSince_snoc]
    cases call with
    | doStartUp => simp [powerUnit, PowerCall.switchesTo]
    | doShutDown => simp [powerUnit, PowerCall.switchesTo]
    | buildTransitionDeviceCommand =>
      refine ⟨hmode, hpowered, ?_⟩
      simp [powerUnit, PowerCall.switchesTo]

/-- **The power stands apart.**  In every run of overrides from any handler: the calls other than
`doStartUp`, `doShutDown` and `buildTransitionDeviceCommand` are answered as in the run without
these three, from a handler with any power members whatever, and leave it in the same state but for
the power; and after any run of a fresh handler the mode is the one last switched to, the device is
powered exactly if that is `on`, and a transition is pending exactly if no
`buildTransitionDeviceCommand` came after the last switch. -/
theorem power_stands_apart (calls : List Call) :
    (∀ (h : WebcamDeviceHandler) (p : Power),
      let others := calls.filterMap Call.command
      ((handler.trace h calls).filter fun e => e.input.power.isNone).map Event.output =
          (handler.trace (h.withPower p) others).map Event.output ∧
        (handler.final h calls).withPower p = handler.final (h.withPower p) others) ∧
      let h := handler.final freshHandler calls
      let switches := calls.filterMap Call.power
      h.mode = lastSwitch switches ∧ (h.devicePowered = true ↔ lastSwitch switches = .on) ∧
        (h.transitionCommandPending = true ↔
          PendingSince (fun c => c.switchesTo.isSome = true)
            (fun c => c = .buildTransitionDeviceCommand) switches) := by
  constructor
  · intro h p others
    have hinputs : (commandSimulation p).inputsOf (handler.trace h calls) = others := by
      show (handler.trace h calls).flatMap (fun e => e.input.command.toList) = _
      rw [flatMap_trace fun call => call.command.toList]
      exact (List.filterMap_eq_flatMap_toList _ _).symm
    have houtputs := (commandSimulation p).run_outputs h calls
    have hfinal := (commandSimulation p).run_final h calls
    rw [hinputs] at houtputs hfinal
    refine ⟨?_, hfinal.symm⟩
    show _ = ((handler.trace ((commandSimulation p).view h) others).map Event.output)
    rw [houtputs]
    induction handler.trace h calls with
    | nil => rfl
    | cons e hist ih =>
      rw [List.flatMap_cons, ← ih, List.filter_cons]
      show _ = (e.input.command.map fun _ => e.output).toList ++ _
      cases hcall : e.input.power with
      | none => simp [Call.command, hcall]
      | some pc => simp [Call.command, hcall]
  · intro h switches
    have hinputs : powerSimulation.inputsOf (handler.trace freshHandler calls) = switches := by
      show (handler.trace freshHandler calls).flatMap (fun e => e.input.power.toList) = _
      rw [flatMap_trace fun call => call.power.toList]
      exact (List.filterMap_eq_flatMap_toList _ _).symm
    have hfinal := powerSimulation.run_final freshHandler calls
    rw [hinputs] at hfinal
    have hpower : powerUnit.final .initial switches = h.power := hfinal
    have hhistory := power_history switches
    rw [hpower] at hhistory
    exact hhistory

end FsfwFromZero
