import FsfwFromZero.Tmtc.WebcamCommandingService

/-!
# Which telecommands the service accepts

Validation, allocation and the writing of the message are spread over `prepareCommand`,
`prepareDeviceCommand` and `prepareParameterDump`.  Together they accept exactly the well-formed
telecommands for which there is an element, and what they do not accept leaves no trace.

* `WellFormed` — the format, by subservice byte and application data;
* `deviceParameters_ne_none`, `prepareDeviceCommand_ok_iff`, `prepareParameterDump_spec` — the
  format as each of the functions decides it;
* `acceptance_exact` — **acceptance is exact and all-or-nothing**.
-/

namespace FsfwFromZero

open Lib

namespace WebcamCommandingService

/-- Subservices 1 and 3 take no data, subservice 2 takes a `double`, and subservice 4 takes one byte
or nothing. -/
def WellFormed (subservice : UInt8) (tcData : Payload) : Prop :=
  ((subservice = 1 ∨ subservice = 3) ∧ tcData.len = 0) ∨
    (subservice = 2 ∧ tcData.isNull = false ∧ tcData.len = 8) ∨
    (subservice = 4 ∧ (tcData.len = 0 ∨ tcData.isNull = false ∧ tcData.len = 1))

/-- The subservices that put their data into an element of the IPC store. -/
def StoresData (subservice : UInt8) : Prop := subservice = 1 ∨ subservice = 2 ∨ subservice = 3

/-! ### Device commands -/

/-- The format of each device command. -/
theorem deviceParameters_ne_none (command : CommandId) (tcData : Payload) :
    deviceParameters command tcData ≠ none ↔
      match command with
      | .commandTakeSnapshot | .commandGetFrameRate => tcData.len = 0
      | .commandSetFrameRate => tcData.isNull = false ∧ tcData.len = 8 := by
  have hnone : (if tcData.len ≠ 0 then none else some ([] : List UInt8)) ≠ none ↔
      tcData.len = 0 := by
    by_cases hlen : tcData.len = 0 <;> simp [hlen]
  cases command with
  | commandTakeSnapshot => exact hnone
  | commandGetFrameRate => exact hnone
  | commandSetFrameRate =>
    simp only [deviceParameters, Double.size]
    by_cases hlen : tcData.len = 8 <;> cases hnull : tcData.isNull <;> simp [hlen]

variable (fw : FwMessages)

section Prepare

variable (present : Bool) (getFreeElement : Nat → Except Failure StoreAddress) (ipcStore : IpcStore)
  (message : CommandMessage) (tcData : Payload)

/-- A well-formed device command is accepted exactly when there is a store and an element in it. -/
theorem prepareDeviceCommand_ok_iff (command : CommandId) :
    (prepareDeviceCommand fw present getFreeElement ipcStore message command tcData).ret = .ok ↔
      deviceParameters command tcData ≠ none ∧ present = true ∧
        ∃ storeId, getFreeElement tcData.data.length = .ok storeId := by
  cases hparameters : deviceParameters command tcData with
  | none => simp [prepareDeviceCommand, hparameters]
  | some parameters =>
    have hdata := deviceParameters_eq_data hparameters
    subst hdata
    cases present with
    | false => simp [prepareDeviceCommand, hparameters]
    | true =>
      cases hfree : getFreeElement tcData.data.length with
      | error code => simp [prepareDeviceCommand, hparameters, hfree, code.property]
      | ok storeId => simp [prepareDeviceCommand, hparameters, hfree]

/-- A parameter dump does not touch the store, and is accepted exactly when it is well-formed. -/
theorem prepareParameterDump_spec :
    let result := prepareParameterDump fw ipcStore message tcData
    result.ipcStore = ipcStore ∧
      (result.ret = .ok ↔ tcData.len = 0 ∨ tcData.isNull = false ∧ tcData.len = 1) ∧
      (result.ret ≠ .ok → result.message = message) := by
  intro result
  by_cases hlen : 0 < tcData.len
  · by_cases hone : tcData.len = 1 ∧ tcData.isNull = false
    · have hresult : result.ret = .ok ∧ result.ipcStore = ipcStore := by
        simp [result, prepareParameterDump, hone.1, hone.2]
      exact ⟨hresult.2, iff_of_true hresult.1 (Or.inr ⟨hone.2, hone.1⟩),
        fun hfailed => absurd hresult.1 hfailed⟩
    · have hinvalid : (decide (tcData.len ≠ 1) || tcData.isNull) = true := by
        cases hnull : tcData.isNull with
        | true => simp
        | false => simpa using fun heq => hone ⟨heq, hnull⟩
      have hresult : result =
          { ret := .invalidTc, message := message, ipcStore := ipcStore } := by
        simp only [result, prepareParameterDump, hlen, hinvalid, if_true]
      rw [hresult]
      refine ⟨rfl, iff_of_false (by simp) ?_, fun _ => rfl⟩
      intro hformat
      rcases hformat with hzero | ⟨hnull, heq⟩
      · omega
      · exact hone ⟨heq, hnull⟩
  · have hzero : tcData.len = 0 := by omega
    have hresult : result.ret = .ok ∧ result.ipcStore = ipcStore := by
      simp [result, prepareParameterDump, hzero]
    exact ⟨hresult.2, iff_of_true hresult.1 (Or.inl hzero), fun hfailed => absurd hresult.1 hfailed⟩

/-! ### All telecommands -/

/-- Which function a telecommand reaches, and when it is well-formed there. -/
theorem subservice_cases (subservice : UInt8) :
    (∃ command, commandOfSubservice subservice = some command ∧ StoresData subservice ∧
      (WellFormed subservice tcData ↔ deviceParameters command tcData ≠ none)) ∨
    (subservice = 4 ∧ (WellFormed subservice tcData ↔
      tcData.len = 0 ∨ tcData.isNull = false ∧ tcData.len = 1)) ∨
    (¬ StoresData subservice ∧ subservice ≠ 4 ∧ ¬ WellFormed subservice tcData ∧
      prepareCommand fw present getFreeElement ipcStore message subservice tcData =
        { ret := .invalidSubservice, message := message, ipcStore := ipcStore }) := by
  by_cases h1 : subservice = 1
  · subst h1
    refine Or.inl ⟨.commandTakeSnapshot, rfl, Or.inl rfl, ?_⟩
    rw [deviceParameters_ne_none]
    simp [WellFormed]
  by_cases h2 : subservice = 2
  · subst h2
    refine Or.inl ⟨.commandSetFrameRate, rfl, Or.inr (Or.inl rfl), ?_⟩
    rw [deviceParameters_ne_none]
    simp [WellFormed]
  by_cases h3 : subservice = 3
  · subst h3
    refine Or.inl ⟨.commandGetFrameRate, rfl, Or.inr (Or.inr rfl), ?_⟩
    rw [deviceParameters_ne_none]
    simp [WellFormed]
  by_cases h4 : subservice = 4
  · subst h4
    refine Or.inr (Or.inl ⟨rfl, ?_⟩)
    simp [WellFormed]
  · refine Or.inr (Or.inr ⟨by simp [StoresData, h1, h2, h3], h4, by simp [WellFormed, *], ?_⟩)
    simp only [prepareCommand, Subservice.cast, h1, h2, h3, h4, if_false]
    split_ifs <;> rfl

/-- An accepted device command brings nothing or a `double`. -/
theorem deviceParameters_size {command : CommandId}
    (h : deviceParameters command tcData = some tcData.data) :
    tcData.data.length = 0 ∨ tcData.data.length = 8 := by
  cases command with
  | commandSetFrameRate => exact Or.inr (deviceParameters_length h)
  | commandTakeSnapshot | commandGetFrameRate =>
    refine Or.inl ?_
    simp only [deviceParameters] at h
    split at h
    · cases h
    · rw [← Option.some.inj h]
      rfl

/-- **Acceptance is exact and all-or-nothing.**  Only well-formed telecommands are accepted: those
that store data exactly when there is a store and an element, parameter dumps always.  What is not
accepted leaves store and message as they were; an accepted telecommand that stores data adds one
element, which holds the data and which the message names; an accepted dump leaves the store alone.
-/
theorem acceptance_exact (subservice : UInt8)
    (fresh : ∀ size a, getFreeElement size = .ok a → ¬ ipcStore.Live a) :
    let result := prepareCommand fw present getFreeElement ipcStore message subservice tcData
    (result.ret = .ok → WellFormed subservice tcData) ∧
    (WellFormed subservice tcData → StoresData subservice →
      (result.ret = .ok ↔
        present = true ∧ ∃ a, getFreeElement tcData.data.length = .ok a)) ∧
    (WellFormed subservice tcData → subservice = 4 → result.ret = .ok) ∧
    (result.ret ≠ .ok → result.ipcStore = ipcStore ∧ result.message = message) ∧
    (result.ret = .ok → StoresData subservice →
      ∃ a, ¬ ipcStore.Live a ∧ result.ipcStore = ipcStore.put a tcData.data ∧
        (tcData.data.length = 0 ∨ tcData.data.length = 8) ∧ result.message.parameter = a) ∧
    (result.ret = .ok → subservice = 4 → result.ipcStore = ipcStore) := by
  intro result
  rcases subservice_cases fw present getFreeElement ipcStore message tcData subservice with
    ⟨command, hcommand, hstores, hformat⟩ | ⟨rfl, hformat⟩ | ⟨hstores, hdump, hformat, hinvalid⟩
  · -- subservices 1 to 3
    have hresult : result = prepareDeviceCommand fw present getFreeElement ipcStore message command
        tcData := prepareCommand_device fw present getFreeElement ipcStore message tcData hcommand
    have hok := prepareDeviceCommand_ok_iff fw present getFreeElement ipcStore message tcData
      command
    have hcases := prepareDeviceCommand_cases fw present getFreeElement ipcStore message tcData
      command
    have hdump : subservice ≠ 4 := by
      intro heq
      subst heq
      simp [StoresData] at hstores
    rw [← hresult] at hok
    simp only [← hresult] at hcases
    refine ⟨fun h => hformat.mpr (hok.mp h).1, fun h _ => ?_, fun _ h => absurd h hdump, ?_, ?_,
      fun _ h => absurd h hdump⟩
    · rw [hok, and_iff_right (hformat.mp h)]
    · intro hfailed
      rcases hcases with ⟨-, hmessage, hstore⟩ | ⟨_, _, _, hret, _⟩
      · exact ⟨hstore, hmessage⟩
      · exact absurd hret hfailed
    · intro hret _
      rcases hcases with ⟨hfailed, -⟩ | ⟨a, hfree, hparameters, -, hmessage, hstore⟩
      · exact absurd hret hfailed
      · refine ⟨a, fresh _ a hfree, hstore, deviceParameters_size tcData hparameters, ?_⟩
        rw [hmessage]
        rfl
  · -- subservice 4
    have hresult : result = prepareParameterDump fw ipcStore message tcData := rfl
    obtain ⟨hstore, hok, hfailed⟩ := prepareParameterDump_spec fw ipcStore message tcData
    rw [← hresult] at hstore hok hfailed
    refine ⟨fun h => hformat.mpr (hok.mp h), fun _ h => ?_, fun h _ => hok.mpr (hformat.mp h),
      fun h => ⟨hstore, hfailed h⟩, fun _ h => ?_, fun _ _ => hstore⟩
    · revert h
      simp [StoresData]
    · revert h
      simp [StoresData]
  · have hret : result.ret ≠ .ok := by
      simp only [result, hinvalid]
      simp
    refine ⟨fun h => absurd h hret, fun h => absurd h hformat, fun h => absurd h hformat,
      fun _ => ?_, fun h => absurd h hret, fun h => absurd h hret⟩
    simp only [result, hinvalid, and_self]

end Prepare

/-- A set-frame-rate telecommand takes the element it is offered. -/
theorem acceptance_exact_setFrameRate :
    let tcData : Payload := .bytes [0, 0, 0, 0, 0, 0, 0x38, 0x40]
    let result := prepareCommand numberedMessages true (fun _ => .ok 7) (fun _ => none) ⟨0, 0, 0⟩ 2
      tcData
    WellFormed 2 tcData ∧ result.ret = .ok ∧ ∃ a, result.message.parameter = a ∧
      result.ipcStore = Store.put (fun _ => none) a tcData.data := by
  intro tcData result
  have hformat : WellFormed 2 tcData := Or.inr (Or.inl ⟨rfl, rfl, rfl⟩)
  have hstores : StoresData 2 := Or.inr (Or.inl rfl)
  obtain ⟨-, hok, -, -, hgained, -⟩ :=
    acceptance_exact numberedMessages true (fun _ => .ok 7) (fun _ => none) ⟨0, 0, 0⟩ tcData 2
      fun _ _ _ => not_not.mpr rfl
  have hret : result.ret = .ok := (hok hformat hstores).mpr ⟨rfl, 7, rfl⟩
  obtain ⟨a, -, hstore, -, hmessage⟩ := hgained hret hstores
  exact ⟨hformat, hret, a, hmessage, hstore⟩

end WebcamCommandingService

end FsfwFromZero
