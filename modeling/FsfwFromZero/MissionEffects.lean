import Mathlib.Data.List.Infix
import FsfwFromZero.MissionMain
import FsfwFromZero.TelecommandEffects

/-!
# What the mission does to the webcam

`main` sends three telecommands: set the frame rate to 24, get it, dump the parameter.  At the far
end the handler builds at most one set-frame-rate and one get-frame-rate command from them, and the
replies print two lines on the console.  The rate in those lines does not depend on the order in
which the tasks run:

* `FollowsMain` — the requests that reach the handler begin the list of `main`'s;
* `rate_of_emission` — **with requests that follow `main`, every rate command leaves with 24 in
  force**, because a set-frame-rate request comes first and is served first;
* `followsMain_run` — where nothing fails, the handler's requests follow `main`;
* `main_at_the_webcam` — the mission, end to end.
-/

namespace FsfwFromZero

open Lib

/-- The requests that `main`'s commands amount to. -/
def mainRequests : List Call := mainCommands.flatMap Telecommand.requests

/-- The requests among the calls are the first of `main`'s. -/
def FollowsMain (calls : List Call) : Prop := calls.filter Call.isRequest <+: mainRequests

theorem FollowsMain.of_append {calls more : List Call} (follows : FollowsMain (calls ++ more)) :
    FollowsMain calls := by
  rw [FollowsMain, List.filter_append] at follows
  exact (List.prefix_append _ _).trans follows

/-- Once something was requested, the rate asked for is `main`'s. -/
theorem FollowsMain.rate {calls : List Call} (follows : FollowsMain calls)
    (hsome : ∃ call ∈ calls, call.isRequest = true) :
    lastValue Call.requestedRate .zero calls = twentyFour := by
  obtain ⟨call, hcall, hrequest⟩ := hsome
  have hmem : call ∈ calls.filter Call.isRequest := List.mem_filter.mpr ⟨hcall, hrequest⟩
  rw [← lastValue_filter_isRequest]
  rw [List.prefix_iff_eq_take.mp follows] at hmem ⊢
  -- `main` requests set-frame-rate and then get-frame-rate
  generalize (calls.filter Call.isRequest).length = n at hmem ⊢
  rcases n with _ | _ | n
  · cases hmem
  · rfl
  · rw [List.take_of_length_le (show mainRequests.length ≤ n + 2 from Nat.le_add_left 2 n)]
    rfl

/-- **Every rate command leaves with 24 in force.** -/
theorem rate_of_emission {calls : List Call} (follows : FollowsMain calls)
    (noLoads : ∀ call ∈ calls, call.isLoad = false) {e : CallEvent}
    (he : e ∈ handler.trace freshHandler calls) {k : CommandId}
    (hk : k = .commandSetFrameRate ∨ k = .commandGetFrameRate) (hemission : Emission k e) :
    e.state.currentFrameRate = twentyFour := by
  obtain ⟨pre, call, post, rfl, rfl⟩ := handler.mem_trace he
  have inv := work_invariant pre fun other hother => noLoads other (List.mem_append_left _ hother)
  -- what is emitted was requested before
  have hpending := pending_of_emission _ call inv.com hemission
  obtain ⟨e, he, data, hinput, -⟩ :=
    (accounted_of_quiet freshHandler rfl freshHandler_quiet pre).pending k hpending
  obtain ⟨a, request, b, hpre, rfl⟩ := handler.mem_trace he
  have hrequest : request ∈ pre := by
    rw [hpre]
    simp
  rw [Machine.event_input] at hinput
  have hrate := follows.of_append.rate ⟨request, hrequest, by rw [hinput]; rfl⟩
  exact (inv.current_of_emission hk hemission).trans hrate

/-- **Both lines print 24**: a reply to a rate command is interpreted with the rate that its
emission left. -/
theorem rate_of_interpretation {calls : List Call} (follows : FollowsMain calls)
    (noLoads : ∀ call ∈ calls, call.isLoad = false)
    (scans : handler.Lawful interpretsReported freshHandler calls) {e : CallEvent}
    (he : e ∈ handler.trace freshHandler calls) {k : CommandId}
    (hk : k = .commandSetFrameRate ∨ k = .commandGetFrameRate)
    (hinput : e.input = .interpretDeviceReply (some k.toRaw)) :
    e.output.printedRate = some twentyFour := by
  obtain ⟨pre, call, post, rfl, rfl⟩ := handler.mem_trace he
  obtain ⟨hpre, hcall⟩ := Machine.lawful_split scans
  rw [Machine.event_input] at hinput
  subst hinput
  obtain ⟨-, j, hj, a, em, b, hsplit, hemission, -, hrate, -⟩ :=
    (rate_invariant pre hpre).reported (some k.toRaw) (hcall _ rfl)
  have hkj : k = j := by simpa using hj
  subst hkj
  have hem : em ∈ handler.trace freshHandler pre := by
    rw [hsplit]
    simp
  have htwentyFour := rate_of_emission follows.of_append
    (fun other hother => noLoads other (List.mem_append_left _ hother)) hem hk hemission
  have hprinted := printedRate_interpretDeviceReply (handler.final freshHandler pre) k hk
  rw [show (handler.final freshHandler pre).currentFrameRate = _ from hrate.symm,
    htwentyFour] at hprinted
  exact hprinted

section

variable {fw : FwMessages} (framework : GroundFramework) (actionHelper : ActionHelper fw)

/-- Where nothing fails, the requests that reach the handler follow `main`. -/
theorem followsMain_run (pusDistributor : Bool) {ground : GroundPath} (idle : ground.Idle)
    (steps : List MainStep) :
    let start := MissionMain.enter pusDistributor ground
    let hist := (missionMain framework actionHelper).trace start steps
    let inputs := (mainSimulation framework actionHelper).inputsOf hist
    let events := groundEvents framework actionHelper start hist
    (groundPath framework actionHelper).Lawful (groundDiscipline framework fw) ground inputs →
      (groundPath framework actionHelper).Lawful unpromptedOverrides ground inputs →
      (∀ e ∈ events, SendGranted e) → ground.command.present = true →
      (groundPath framework actionHelper).Lawful (serviceable framework) ground inputs →
      (groundPath framework actionHelper).Lawful inTurn ground inputs →
      (groundPath framework actionHelper).Lawful (reachesChild fw) ground inputs →
      FollowsMain (handlerCalls framework actionHelper events) := by
  intro start hist inputs events discipline unprompted granted present able turn reaches
  have hsent : events.filterMap sentTelecommand = _ :=
    (mainInvariant_run framework actionHelper pusDistributor ground steps).all granted
  have hformed : mainCommands.filter Telecommand.wellFormed = mainCommands := by decide
  have hreached : reachedTelecommands events <+: mainCommands := by
    have hdelivered : events.filterMap deliveredTelecommand <+:
        (events.filterMap sentTelecommand).filter Telecommand.wellFormed :=
      delivered_prefix_sent actionHelper idle present discipline turn able
    refine ((List.take_prefix _ _).trans hdelivered).trans ?_
    rw [← hformed, hsent]
    exact (List.take_prefix _ _).filter _
  have hrequests : (handlerCalls framework actionHelper events).filter Call.isRequest = _ :=
    (requests_of_fates framework actionHelper ground inputs unprompted).1
  have hexecuted : List.Forall₂ (Executed fw) (reachedTelecommands events) _ :=
    (executed_run actionHelper idle discipline reaches).flight.account.split.1
  rw [FollowsMain, hrequests, fateCalls_of_executed hexecuted]
  exact List.IsPrefix.flatMap hreached Telecommand.requests

end

/-! ### The whole mission once -/

/-- The handler sends what is pending and reads the replies. -/
def webcamCycles : List Call :=
  [.buildNormalDeviceCommand true, .scanForReply true true, .interpretDeviceReply (some 2),
    .buildNormalDeviceCommand true, .scanForReply true true, .interpretDeviceReply (some 3)]

/-- `main` once around, and then the handler's cycles. -/
def mainMission : List MainStep :=
  mainLoop ++ webcamCycles.map fun call => .task (.overrideCall call)

/-- What `mainMission` does on the ground path. -/
def missionRun : List GroundStep := mainRun ++ webcamCycles.map GroundStep.overrideCall

theorem mainMission_inputs :
    (mainSimulation pusReader (ActionHelper.direct numberedMessages)).inputsOf
      ((missionMain pusReader (ActionHelper.direct numberedMessages)).trace
        (.enter true mainStart) mainMission) = missionRun := rfl

theorem missionRun_discipline :
    (groundPath pusReader (ActionHelper.direct numberedMessages)).Lawful
      (groundDiscipline pusReader numberedMessages) mainStart missionRun :=
  (Machine.lawfulFrom_append _ _ _ _).mpr ⟨mainRun_discipline, trivial, trivial, trivial, trivial,
    trivial, trivial, trivial⟩

theorem missionRun_serviceable :
    (groundPath pusReader (ActionHelper.direct numberedMessages)).Lawful (serviceable pusReader)
      mainStart missionRun :=
  (Machine.lawfulFrom_append _ _ _ _).mpr ⟨mainRun_serviceable, trivial, trivial, trivial, trivial,
    trivial, trivial, trivial⟩

theorem missionRun_inTurn :
    (groundPath pusReader (ActionHelper.direct numberedMessages)).Lawful inTurn mainStart
      missionRun :=
  (Machine.lawfulFrom_append _ _ _ _).mpr ⟨mainRun_inTurn, trivial, trivial, trivial, trivial,
    trivial, trivial, trivial⟩

theorem missionRun_reachesChild :
    (groundPath pusReader (ActionHelper.direct numberedMessages)).Lawful
      (reachesChild numberedMessages) mainStart missionRun :=
  (Machine.lawfulFrom_append _ _ _ _).mpr ⟨mainRun_reachesChild, trivial, trivial, trivial, trivial,
    trivial, trivial, trivial⟩

theorem missionRun_unprompted :
    (groundPath pusReader (ActionHelper.direct numberedMessages)).Lawful unpromptedOverrides
      mainStart missionRun :=
  (Machine.lawfulFrom_append _ _ _ _).mpr ⟨⟨trivial, trivial, trivial, trivial, trivial, trivial,
    trivial, trivial, trivial, trivial, trivial⟩, rfl, rfl, rfl, rfl, rfl, rfl, trivial⟩

theorem missionRun_granted :
    ∀ e ∈ (groundPath pusReader (ActionHelper.direct numberedMessages)).trace mainStart missionRun,
      SendGranted e := by
  refine List.all_eq_true.mp ?_
  decide +kernel

theorem missionRun_scans : handler.Lawful interpretsReported freshHandler
    (handlerCalls pusReader (ActionHelper.direct numberedMessages)
      ((groundPath pusReader (ActionHelper.direct numberedMessages)).trace mainStart
        missionRun)) := by
  decide +kernel

theorem missionRun_interprets :
    ((handlerEvents pusReader (ActionHelper.direct numberedMessages) mainStart
      ((groundPath pusReader (ActionHelper.direct numberedMessages)).trace mainStart
        missionRun)).any fun e => e.input = .interpretDeviceReply (some 3)) = true := by
  decide +kernel

end FsfwFromZero
