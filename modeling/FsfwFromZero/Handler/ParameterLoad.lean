import FsfwFromZero.Handler.WebcamDeviceHandler

/-!
# Loading the frame-rate parameter

The framework loads a parameter by calling `getParameter` with an unset wrapper and copying the new
values through the wrapper, if the call returned `OK` and set it.  The write branch of
`getParameter` takes the new rate itself and never sets the wrapper, which the read branch does: the
load is reported as failed although the rate was taken.

* `loadParameter` — the framework's load, `loadRun : Machine` — overrides and loads in any order;
* `AllOrNothing` — a load of the frame rate that is reported as failed changes no rate, and one
  reported as successful requests the loaded rate;
* `load_never_reported` — no load of the frame rate is reported as successful;
* `loads_all_or_nothing_iff` — **a run's loads are all-or-nothing exactly when none of them brings a
  new rate**;
* `load_fails_after_write` — one that does.
-/

namespace FsfwFromZero

open Lib

namespace WebcamDeviceHandler

/-- The framework's load: is it reported as successful, and the handler it leaves.  The variables
that a set wrapper would be copied to belong to the base class: the frame rate's wrapper is set only
by a read. -/
def loadParameter (h : WebcamDeviceHandler) (domainId parameterId : UInt8) (newValues : NewValues)
    (startAtIndex : UInt16) (base : Answer) : Bool × WebcamDeviceHandler :=
  let (answer, h) := h.getParameter domainId parameterId true (some newValues) startAtIndex base
  if answer.ret ≠ .ok then (false, h)
  else (answer.wrapper.isSome, h)

end WebcamDeviceHandler

/-- A step of a handler whose parameters are loaded. -/
inductive LoadStep
  | call (call : Call)
  | load (domainId parameterId : UInt8) (newValues : NewValues) (startAtIndex : UInt16)
      (base : Answer)
  deriving Repr, DecidableEq

/-- Overrides and parameter loads; the output tells whether the step was reported as successful. -/
def loadRun : Machine WebcamDeviceHandler LoadStep Bool where
  step h
    | .call call => (decide ((h.step call).1.ret = .ok), (h.step call).2)
    | .load domainId parameterId newValues startAtIndex base =>
        h.loadParameter domainId parameterId newValues startAtIndex base

/-- A load of the frame rate that is reported as failed changes no rate, and one that is reported as
successful requests the loaded rate. -/
def AllOrNothing (h : WebcamDeviceHandler) : LoadStep → Prop
  | .call _ => True
  | .load domainId parameterId newValues startAtIndex base =>
      domainId = 0 → parameterId = ParameterId.parameterFrameRate.toRaw →
        let (reported, after) := h.loadParameter domainId parameterId newValues startAtIndex base
        (reported = false → after.requestedFrameRate = h.requestedFrameRate ∧
          after.currentFrameRate = h.currentFrameRate) ∧
        (reported = true → after.requestedFrameRate = newValues.value)

/-- A load of the frame rate brings no new rate: it is for another index, it is no `double`, or it
is the rate that is requested already. -/
def bringsNoRate (_ : List (Event WebcamDeviceHandler LoadStep Bool)) (h : WebcamDeviceHandler) :
    LoadStep → Prop
  | .call _ => True
  | .load domainId parameterId newValues startAtIndex _ =>
      domainId = 0 → parameterId = ParameterId.parameterFrameRate.toRaw →
        startAtIndex ≠ 0 ∨ newValues.result ≠ .ok ∨ newValues.value = h.requestedFrameRate

/-! ### One load -/

/-- A load of the frame rate takes the rate, and is not reported as successful. -/
theorem loadParameter_frameRate (h : WebcamDeviceHandler) (newValues : NewValues)
    (startAtIndex : UInt16) (base : Answer) :
    h.loadParameter 0 ParameterId.parameterFrameRate.toRaw newValues startAtIndex base =
      (false, if startAtIndex = 0 ∧ newValues.result = .ok then
        { h with requestedFrameRate := newValues.value } else h) := by
  by_cases hindex : startAtIndex = 0
  · by_cases hresult : newValues.result = .ok
    · simp [WebcamDeviceHandler.loadParameter, WebcamDeviceHandler.getParameter,
        NewValues.getElement, hindex, hresult]
    · simp [WebcamDeviceHandler.loadParameter, WebcamDeviceHandler.getParameter,
        NewValues.getElement, hindex, hresult]
  · simp [WebcamDeviceHandler.loadParameter, WebcamDeviceHandler.getParameter, hindex]

/-- No load of the frame rate is reported as successful. -/
theorem load_never_reported (h : WebcamDeviceHandler) (newValues : NewValues)
    (startAtIndex : UInt16) (base : Answer) :
    (h.loadParameter 0 ParameterId.parameterFrameRate.toRaw newValues startAtIndex base).1 =
      false := by
  rw [loadParameter_frameRate]

/-- One step is all-or-nothing exactly when it brings no new rate. -/
theorem allOrNothing_iff (hist : List (Event WebcamDeviceHandler LoadStep Bool))
    (h : WebcamDeviceHandler) (step : LoadStep) :
    AllOrNothing h step ↔ bringsNoRate hist h step := by
  cases step with
  | call call => exact Iff.rfl
  | load domainId parameterId newValues startAtIndex base =>
    refine forall_congr' fun hdomain => forall_congr' fun hparameter => ?_
    subst hdomain hparameter
    rw [loadParameter_frameRate]
    by_cases htaken : startAtIndex = 0 ∧ newValues.result = .ok
    · simp [htaken]
    · have hindex : startAtIndex ≠ 0 ∨ newValues.result ≠ .ok := by
        by_contra hnot
        push Not at hnot
        exact htaken hnot
      have hleft : startAtIndex ≠ 0 ∨ newValues.result ≠ .ok ∨
          newValues.value = h.requestedFrameRate := hindex.imp_right Or.inl
      simp [htaken, hleft]

/-! ### Every run -/

/-- **When parameter loads are all-or-nothing.**  In every run of a handler, with or without a
communication interface, each load of the frame rate is all-or-nothing if and only if none of them
brings a new rate. -/
theorem loads_all_or_nothing_iff (communicationInterface : Bool) (steps : List LoadStep) :
    (∀ pre step post, steps = pre ++ step :: post →
      AllOrNothing (loadRun.final (.construct communicationInterface) pre) step) ↔
      loadRun.Lawful bringsNoRate (.construct communicationInterface) steps := by
  rw [Machine.lawful_iff]
  refine forall_congr' fun pre => forall_congr' fun step => forall_congr' fun post =>
    forall_congr' fun _ => ?_
  exact allOrNothing_iff _ _ _

/-- **A load that is reported as failed and takes the rate.**  On a fresh handler, loading `24.0`
fails and leaves `24.0` requested. -/
theorem load_fails_after_write :
    let newValues : NewValues := ⟨.ok, ⟨0, 0, 0, 0, 0, 0, 0x38, 0x40⟩⟩
    let step : LoadStep := .load 0 1 newValues 0 {}
    ¬ AllOrNothing freshHandler step ∧
      (loadRun.step freshHandler step).1 = false ∧
      (loadRun.step freshHandler step).2.requestedFrameRate = newValues.value ∧
      freshHandler.requestedFrameRate ≠ newValues.value := by
  intro newValues step
  refine ⟨fun hall => ?_, rfl, rfl, by decide⟩
  exact absurd ((hall rfl rfl).1 rfl).1 (by decide)

end FsfwFromZero
