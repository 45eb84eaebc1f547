import FsfwFromZero.Tmtc.TelecommandAcceptance

/-!
# How the commanding service routes telecommands

`initialize`, `isValidSubservice` and `getMessageQueueAndObject` of
`mission/tmtc/WebcamCommandingService.cpp`.  Together with `prepareCommand` the base class asks
three questions about a subservice byte, each answered by a `switch` of its own.

* `initializeService`, `isValidSubservice`, `getMessageQueueAndObject` — the source's functions;
* `prepareCommand_ok_iff` — when `prepareCommand` accepts;
* `switches_agree` — **the three switches know the same subservices**: what one of them does not
  know, none of them lets through.
-/

namespace FsfwFromZero

open Lib

/-- What the object manager finds under `objectIdWebcamHandler`, by the command queue of what it
found. -/
structure HandlerLookup where
  /-- `get<DeviceHandlerIF>`. -/
  deviceHandler : Option MessageQueueId
  /-- `get<ReceivesParameterMessagesIF>`. -/
  parameterReceiver : Option MessageQueueId
  deriving Repr, DecidableEq

/-- What `getMessageQueueAndObject` hands back: the code and what it stored through its output
pointers. -/
structure RouteResult where
  ret : ReturnValue
  id : Option MessageQueueId := none
  objectId : UInt32
  deriving Repr, DecidableEq

/-- A line printed by `initialize`. -/
inductive InitializeError
  /-- `Base initialization failed with code %u`. -/
  | base (code : ReturnValue)
  /-- `IPC store unavailable`. -/
  | noIpcStore
  deriving Repr, DecidableEq

namespace WebcamCommandingService

/-- `initialize()`: `base` is what `CommandingServiceBase::initialize` returned, and `ipcStore`
whether it left the service with an IPC store. -/
def initializeService (base : ReturnValue) (ipcStore : Bool) :
    ReturnValue × Option InitializeError :=
  if base ≠ .ok then (base, some (.base base))
  else if !ipcStore then (.failed, some .noIpcStore)
  else (.ok, none)

/-- `invalidSubservice` stands for `AcceptsTelecommandsIF::INVALID_SUBSERVICE`. -/
def isValidSubservice (invalidSubservice : Failure) (subservice : UInt8) : ReturnValue :=
  match Subservice.cast subservice with
  | some .commandTakeSnapshot | some .commandSetFrameRate | some .commandGetFrameRate
  | some .parameterDump => .ok
  | _ => invalidSubservice

/-- The telecommand's data is not looked at. -/
def getMessageQueueAndObject (lookup : HandlerLookup) (subservice : UInt8) : RouteResult :=
  let objectId := objectIdWebcamHandler
  match Subservice.cast subservice with
  | some .commandTakeSnapshot | some .commandSetFrameRate | some .commandGetFrameRate =>
      match lookup.deviceHandler with
      | none => { ret := .invalidObject, objectId := objectId }
      | some queue => { ret := .ok, id := some queue, objectId := objectId }
  | some .parameterDump =>
      match lookup.parameterReceiver with
      | none => { ret := .invalidObject, objectId := objectId }
      | some queue => { ret := .ok, id := some queue, objectId := objectId }
  | _ => { ret := .invalidTc, objectId := objectId }

instance (subservice : UInt8) (tcData : Payload) : Decidable (WellFormed subservice tcData) :=
  inferInstanceAs (Decidable (_ ∨ _))

instance (subservice : UInt8) : Decidable (StoresData subservice) :=
  inferInstanceAs (Decidable (_ ∨ _))

/-! ### The switch of `prepareCommand` -/

section Prepare

variable (fw : FwMessages) (present : Bool)
  (getFreeElement : Nat → Except Failure StoreAddress) (ipcStore : IpcStore)
  (message : CommandMessage) (tcData : Payload)

/-- A telecommand is accepted exactly if it is well-formed and, where it stores data, there is a
store and an element. -/
theorem prepareCommand_ok_iff (subservice : UInt8) :
    (prepareCommand fw present getFreeElement ipcStore message subservice tcData).ret = .ok ↔
      WellFormed subservice tcData ∧
        (StoresData subservice →
          present = true ∧ ∃ a, getFreeElement tcData.data.length = .ok a) := by
  rcases subservice_cases fw present getFreeElement ipcStore message tcData subservice with
    ⟨command, hcommand, hstores, hformat⟩ | ⟨rfl, hformat⟩ | ⟨hstores, -, hformat, hinvalid⟩
  · rw [prepareCommand_device fw present getFreeElement ipcStore message tcData hcommand,
      prepareDeviceCommand_ok_iff, hformat]
    exact and_congr_right fun _ => ⟨fun h _ => h, fun h => h hstores⟩
  · have hnot : ¬ StoresData 4 := by decide
    rw [hformat, and_iff_left fun h => absurd h hnot]
    exact (prepareParameterDump_spec fw ipcStore message tcData).2.1
  · rw [hinvalid]
    exact iff_of_false (by simp) fun h => hformat h.1

end Prepare

/-! ### The other two switches -/

/-- The subservices that commands have. -/
def IsCommand (subservice : UInt8) : Prop := StoresData subservice ∨ subservice = 4

theorem isCommand_of_wellFormed {subservice : UInt8} {tcData : Payload}
    (h : WellFormed subservice tcData) : IsCommand subservice := by
  rcases h with ⟨hone | hthree, -⟩ | ⟨htwo, -⟩ | ⟨hfour, -⟩
  · exact Or.inl (Or.inl hone)
  · exact Or.inl (Or.inr (Or.inr hthree))
  · exact Or.inl (Or.inr (Or.inl htwo))
  · exact Or.inr hfour

/-- What the switches see of a subservice byte. -/
theorem cast_cases (subservice : UInt8) :
    (StoresData subservice ∧ ∃ sub, Subservice.cast subservice = some sub ∧
      (sub = .commandTakeSnapshot ∨ sub = .commandSetFrameRate ∨ sub = .commandGetFrameRate)) ∨
    (subservice = 4 ∧ Subservice.cast subservice = some .parameterDump) ∨
    (¬ IsCommand subservice ∧ (Subservice.cast subservice = none ∨
      Subservice.cast subservice = some .tmParameterDump ∨
      Subservice.cast subservice = some .tmCommandDataReply)) := by
  by_cases h1 : subservice = 1
  · exact Or.inl ⟨Or.inl h1, _, by rw [h1]; rfl, Or.inl rfl⟩
  by_cases h2 : subservice = 2
  · exact Or.inl ⟨Or.inr (Or.inl h2), _, by rw [h2]; rfl, Or.inr (Or.inl rfl)⟩
  by_cases h3 : subservice = 3
  · exact Or.inl ⟨Or.inr (Or.inr h3), _, by rw [h3]; rfl, Or.inr (Or.inr rfl)⟩
  by_cases h4 : subservice = 4
  · exact Or.inr (Or.inl ⟨h4, by rw [h4]; rfl⟩)
  · refine Or.inr (Or.inr ⟨by simp [IsCommand, StoresData, h1, h2, h3, h4], ?_⟩)
    simp only [Subservice.cast, h1, h2, h3, h4, if_false]
    split_ifs <;> simp

theorem isValidSubservice_ok_iff (invalidSubservice : Failure) (subservice : UInt8) :
    isValidSubservice invalidSubservice subservice = .ok ↔ IsCommand subservice := by
  rcases cast_cases subservice with ⟨hstores, sub, hcast, hsub⟩ | ⟨hfour, hcast⟩ |
    ⟨hnot, hcast⟩
  · refine iff_of_true ?_ (Or.inl hstores)
    rcases hsub with rfl | rfl | rfl <;> simp only [isValidSubservice, hcast]
  · exact iff_of_true (by simp only [isValidSubservice, hcast]) (Or.inr hfour)
  · refine iff_of_false ?_ hnot
    rcases hcast with hcast | hcast | hcast <;> simp only [isValidSubservice, hcast] <;>
      exact invalidSubservice.property

/-- The queue that a command with this subservice goes to. -/
def queueFor (lookup : HandlerLookup) (subservice : UInt8) : Option MessageQueueId :=
  if StoresData subservice then lookup.deviceHandler
  else if subservice = 4 then lookup.parameterReceiver
  else none

/-- The route names the handler in any case, a queue exactly where the code is `OK`, and is refused
as invalid exactly where the subservice is no command. -/
theorem getMessageQueueAndObject_spec (lookup : HandlerLookup) (subservice : UInt8) :
    let route := getMessageQueueAndObject lookup subservice
    route.objectId = objectIdWebcamHandler ∧ route.id = queueFor lookup subservice ∧
      (route.ret = .ok ↔ route.id ≠ none) ∧
      (route.ret = .invalidTc ↔ ¬ IsCommand subservice) := by
  rcases cast_cases subservice with ⟨hstores, sub, hcast, hsub⟩ | ⟨hfour, hcast⟩ | ⟨hnot, hcast⟩
  · have hcommand : IsCommand subservice := Or.inl hstores
    rcases hsub with rfl | rfl | rfl <;> cases hqueue : lookup.deviceHandler <;>
      simp [getMessageQueueAndObject, hcast, hqueue, queueFor, hstores, hcommand]
  · have hcommand : IsCommand subservice := Or.inr hfour
    have hstores : ¬ StoresData 4 := by decide
    subst hfour
    cases hqueue : lookup.parameterReceiver <;>
      simp [getMessageQueueAndObject, hcast, hqueue, queueFor, hstores, hcommand]
  · have hstores : ¬ StoresData subservice := fun h => hnot (Or.inl h)
    have hfour : subservice ≠ 4 := fun h => hnot (Or.inr h)
    rcases hcast with hcast | hcast | hcast <;>
      simp [getMessageQueueAndObject, hcast, queueFor, hstores, hfour, hnot]

/-- Every subservice that commands have has a well-formed telecommand. -/
theorem isCommand_iff (subservice : UInt8) :
    IsCommand subservice ↔ ∃ tcData, WellFormed subservice tcData := by
  constructor
  · intro hcommand
    rcases hcommand with (rfl | rfl | rfl) | rfl
    · exact ⟨.null 0, by decide⟩
    · exact ⟨.bytes (List.replicate 8 0), by decide⟩
    · exact ⟨.null 0, by decide⟩
    · exact ⟨.null 0, by decide⟩
  · intro ⟨tcData, hformat⟩
    exact isCommand_of_wellFormed hformat

/-- **The three switches know the same subservices.**  A subservice byte is valid, routed and
prepared, or it is invalid, has no route and no telecommand with it is accepted, whatever its data,
the object manager and the IPC store are. -/
theorem switches_agree (fw : FwMessages) (invalidSubservice : Failure) (subservice : UInt8) :
    (isValidSubservice invalidSubservice subservice = .ok ∧
        (∀ lookup, (getMessageQueueAndObject lookup subservice).ret ≠ .invalidTc) ∧
        ∃ tcData, ∀ getFreeElement ipcStore message,
          (∀ size, ∃ a, getFreeElement size = .ok a) →
          (prepareCommand fw true getFreeElement ipcStore message subservice tcData).ret = .ok) ∨
      (isValidSubservice invalidSubservice subservice = invalidSubservice ∧
        (∀ lookup, (getMessageQueueAndObject lookup subservice).ret = .invalidTc) ∧
        ∀ present getFreeElement ipcStore message tcData,
          (prepareCommand fw present getFreeElement ipcStore message subservice tcData).ret ≠
            .ok) := by
  by_cases hcommand : IsCommand subservice
  · obtain ⟨tcData, hformat⟩ := (isCommand_iff subservice).mp hcommand
    refine Or.inl ⟨(isValidSubservice_ok_iff invalidSubservice subservice).mpr hcommand,
      fun lookup hinvalid => ?_, tcData, fun getFreeElement ipcStore message hgrants => ?_⟩
    · exact (getMessageQueueAndObject_spec lookup subservice).2.2.2.mp hinvalid hcommand
    · exact (prepareCommand_ok_iff ..).mpr ⟨hformat, fun _ => ⟨rfl, hgrants _⟩⟩
  · refine Or.inr ⟨?_, fun lookup => ?_, fun present getFreeElement ipcStore message tcData h => ?_⟩
    · rcases cast_cases subservice with ⟨hstores, -⟩ | ⟨hfour, -⟩ | ⟨-, hcast⟩
      · exact absurd (Or.inl hstores) hcommand
      · exact absurd (Or.inr hfour) hcommand
      · rcases hcast with hcast | hcast | hcast <;> simp only [isValidSubservice, hcast]
    · exact (getMessageQueueAndObject_spec lookup subservice).2.2.2.mpr hcommand
    · exact hcommand (isCommand_of_wellFormed ((prepareCommand_ok_iff ..).mp h).1)

end WebcamCommandingService

end FsfwFromZero
