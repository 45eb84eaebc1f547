import FsfwFromZero.GroundArrival
import FsfwFromZero.Lib.Simulation

/-!
# The mission's `main`

The loop of `main.cpp` on top of the ground path.  `main` sends three telecommands in its first
round, remembers that in `commandsQueued`, and sleeps from then on; what `sendCommand` returns is
not looked at.  The tasks it started run in between, in any order.

* `MissionMain`, `missionMain : Machine` — `main` at its place in the loop, and the tasks;
* `mainSimulation` — **`main` and the tasks drive the ground path**;
* `missionMain_cases` — what a step can do; `MainInvariant` — the run invariant: what was sent is
  what the loop has passed;
* `main_commands_once` — **the commands of `main`**: each is sent and executed once at most, and all
  of them are, in order, when nothing fails.
-/

namespace FsfwFromZero

open Lib

/-- Where `main` stands in its loop. -/
inductive MainPlace
  | loopTest
  | sendGetFrameRate
  | sendParameterDump
  | setCommandsQueued
  | sleep
  deriving Repr, DecidableEq

structure MissionMain where
  place : MainPlace
  commandsQueued : Bool
  /-- Was the distributor found? -/
  pusDistributor : Bool
  ground : GroundPath

/-- What the tasks do between two actions of `main`. -/
inductive TaskStep
  | serve (lookup : HandlerLookup) (attempt : Attempt)
  | resume (which : Nat) (attempt : Attempt)
  | handleMessage (routing : Routing)
  | overrideCall (call : Call)
  | otherUsers (ipcStore : IpcStore) (tcStore : Store StoreAddress (List UInt8))

def TaskStep.ground : TaskStep → GroundStep
  | .serve lookup attempt => .serve lookup attempt
  | .resume which attempt => .resume which attempt
  | .handleMessage routing => .handleMessage routing
  | .overrideCall call => .overrideCall call
  | .otherUsers ipcStore tcStore => .otherUsers ipcStore tcStore

inductive MainStep
  /-- The next action of `main`, with the framework's answers should that be a `sendCommand`. -/
  | main (fsfw : Fsfw)
  | task (step : TaskStep)

/-- The step of the ground path that was made, if any, and what it answered. -/
abbrev MainAnswer := Option (GroundStep × GroundAnswer)

abbrev MainEvent := Event MissionMain MainStep MainAnswer

/-- The bytes of `double newFrameRate = 24.0`. -/
def newFrameRate : Payload := .bytes [0, 0, 0, 0, 0, 0, 0x38, 0x40]

section

variable {fw : FwMessages} (framework : GroundFramework) (actionHelper : ActionHelper fw)

/-- A step of the ground path, with `main` at this place afterwards. -/
def MissionMain.drive (m : MissionMain) (place : MainPlace) (step : GroundStep) :
    MainAnswer × MissionMain :=
  let (answer, ground) := (groundPath framework actionHelper).step m.ground step
  (some (step, answer), { m with place := place, ground := ground })

def missionMain : Machine MissionMain MainStep MainAnswer where
  step m
    | .main fsfw =>
        match m.place with
        | .loopTest =>
            if !m.commandsQueued && m.pusDistributor then
              m.drive framework actionHelper .sendGetFrameRate
                (.sendCommand Subservice.commandSetFrameRate.toRaw newFrameRate fsfw)
            else (none, { m with place := .sleep })
        | .sendGetFrameRate =>
            m.drive framework actionHelper .sendParameterDump
              (.sendCommand Subservice.commandGetFrameRate.toRaw (.null 0) fsfw)
        | .sendParameterDump =>
            m.drive framework actionHelper .setCommandsQueued
              (.sendCommand Subservice.parameterDump.toRaw (.null 0) fsfw)
        | .setCommandsQueued => (none, { m with place := .sleep, commandsQueued := true })
        | .sleep => (none, { m with place := .loopTest })
    | .task step => m.drive framework actionHelper m.place step.ground

/-- `main` when it enters the loop. -/
def MissionMain.enter (pusDistributor : Bool) (ground : GroundPath) : MissionMain :=
  ⟨.loopTest, false, pusDistributor, ground⟩

/-- How many of its commands `main` has sent. -/
def MissionMain.passed (m : MissionMain) : Nat :=
  match m.place with
  | .sendGetFrameRate => 1
  | .sendParameterDump => 2
  | .setCommandsQueued => 3
  | .loopTest | .sleep => if m.commandsQueued then 3 else 0

/-- **What a step can do**: nothing to the ground path, a step of a task, or the next command. -/
theorem missionMain_cases (m : MissionMain) (step : MainStep) :
    let next := (missionMain framework actionHelper).step m step
    (next.1 = none ∧ next.2.ground = m.ground ∧ next.2.passed = m.passed) ∨
      ∃ made, next.1 = some (made, ((groundPath framework actionHelper).step m.ground made).1) ∧
        next.2.ground = ((groundPath framework actionHelper).step m.ground made).2 ∧
        ((∃ task : TaskStep, made = task.ground) ∧ next.2.passed = m.passed ∨
          ∃ subservice data fsfw, made = .sendCommand subservice data fsfw ∧
            mainCommands[m.passed]? = some (packedTelecommand subservice data) ∧
            next.2.passed = m.passed + 1) := by
  intro next
  cases step with
  | task task => exact Or.inr ⟨task.ground, rfl, rfl, Or.inl ⟨⟨task, rfl⟩, rfl⟩⟩
  | main fsfw =>
    obtain ⟨place, commandsQueued, pusDistributor, ground⟩ := m
    cases place with
    | loopTest =>
      cases commandsQueued with
      | true => exact Or.inl ⟨rfl, rfl, rfl⟩
      | false =>
        cases pusDistributor with
        | false => exact Or.inl ⟨rfl, rfl, rfl⟩
        | true => exact Or.inr ⟨_, rfl, rfl, Or.inr ⟨_, _, _, rfl, rfl, rfl⟩⟩
    | sendGetFrameRate => exact Or.inr ⟨_, rfl, rfl, Or.inr ⟨_, _, _, rfl, rfl, rfl⟩⟩
    | sendParameterDump => exact Or.inr ⟨_, rfl, rfl, Or.inr ⟨_, _, _, rfl, rfl, rfl⟩⟩
    | setCommandsQueued => exact Or.inl ⟨rfl, rfl, rfl⟩
    | sleep => exact Or.inl ⟨rfl, rfl, rfl⟩

/-- **`main` and the tasks drive the ground path.** -/
def mainSimulation :
    Simulation (missionMain framework actionHelper) (groundPath framework actionHelper) where
  view := MissionMain.ground
  inputs e := (e.output.map Prod.fst).toList
  outputs e := (e.output.map Prod.snd).toList
  step_final m step := by
    rcases missionMain_cases framework actionHelper m step with
      ⟨hanswer, hground, -⟩ | ⟨made, hanswer, hground, -⟩
    · rw [hground, Machine.event, hanswer]
      rfl
    · rw [hground, Machine.event, hanswer]
      rfl
  step_outputs m step := by
    rcases missionMain_cases framework actionHelper m step with
      ⟨hanswer, -⟩ | ⟨made, hanswer, -⟩
    · rw [Machine.event, hanswer]
      rfl
    · rw [Machine.event, hanswer]
      rfl

/-- What a run of `main` and the tasks does on the ground path. -/
def groundEvents (start : MissionMain) (hist : List MainEvent) : List GroundEvent :=
  (groundPath framework actionHelper).trace start.ground
    ((mainSimulation framework actionHelper).inputsOf hist)

/-- Is this not a call of `sendCommand` that failed? -/
def GroundAnswer.granted : GroundAnswer → Bool
  | .sent answer => decide (answer.ret = .ok)
  | .nothing => true
  | .unreadable => true
  | .treated _ _ _ => true
  | .message _ => true

/-- A call of `sendCommand` succeeds. -/
def SendGranted (e : GroundEvent) : Prop := e.output.granted = true

/-- What was sent is among the commands that the loop has passed, and all of them where every call
succeeded. -/
structure MainInvariant (start : MissionMain) (hist : List MainEvent) (m : MissionMain) : Prop where
  ground : (groundPath framework actionHelper).final start.ground
    ((mainSimulation framework actionHelper).inputsOf hist) = m.ground
  sent : ((groundEvents framework actionHelper start hist).filterMap sentTelecommand).Sublist
    (mainCommands.take m.passed)
  all : (∀ e ∈ groundEvents framework actionHelper start hist, SendGranted e) →
    (groundEvents framework actionHelper start hist).filterMap sentTelecommand =
      mainCommands.take m.passed

theorem taskStep_sends_nothing (g : GroundPath) (task : TaskStep) :
    sentTelecommand ((groundPath framework actionHelper).event g task.ground) = none := by
  cases task with
  | serve lookup attempt => rfl
  | resume which attempt => rfl
  | handleMessage routing => rfl
  | overrideCall call => rfl
  | otherUsers ipcStore tcStore => rfl

/-- A call of `sendCommand` sends its telecommand if it succeeds, and nothing otherwise. -/
theorem sentTelecommand_send (g : GroundPath) (subservice : UInt8) (data : Payload) (fsfw : Fsfw) :
    let e := (groundPath framework actionHelper).event g (.sendCommand subservice data fsfw)
    sentTelecommand e = none ∧ ¬ SendGranted e ∨
      sentTelecommand e = some (packedTelecommand subservice data) := by
  intro e
  by_cases hret : (g.tc.sendCommand subservice data fsfw).1.ret = .ok
  · exact Or.inr (if_pos hret)
  · exact Or.inl ⟨if_neg hret, fun granted => hret (of_decide_eq_true granted)⟩

/-- What a step adds on the ground path: nothing that sends, a command that could not be sent, or
the next command. -/
theorem groundEvents_step (start : MissionMain) (hist : List MainEvent) (m : MissionMain)
    (step : MainStep) (hground : (groundPath framework actionHelper).final start.ground
      ((mainSimulation framework actionHelper).inputsOf hist) = m.ground) :
    let next := ((missionMain framework actionHelper).step m step).2
    ∃ new, groundEvents framework actionHelper start
        (hist ++ [(missionMain framework actionHelper).event m step]) =
          groundEvents framework actionHelper start hist ++ new ∧
      (new.filterMap sentTelecommand = [] ∧ next.passed = m.passed ∨
        new.filterMap sentTelecommand = [] ∧ next.passed = m.passed + 1 ∧
          ¬ (∀ e ∈ new, SendGranted e) ∨
        ∃ t, new.filterMap sentTelecommand = [t] ∧ next.passed = m.passed + 1 ∧
          mainCommands[m.passed]? = some t) := by
  intro next
  refine ⟨(groundPath framework actionHelper).trace m.ground
    (((missionMain framework actionHelper).step m step).1.map Prod.fst).toList, ?_, ?_⟩
  · rw [groundEvents, Driver.inputsOf_snoc, Machine.trace_append, hground]
    rfl
  · rcases missionMain_cases framework actionHelper m step with
      ⟨hanswer, -, hpassed⟩ | ⟨made, hanswer, -, ⟨⟨task, rfl⟩, hpassed⟩ |
        ⟨subservice, data, fsfw, rfl, hcommand, hpassed⟩⟩
    · rw [hanswer]
      exact Or.inl ⟨rfl, hpassed⟩
    · rw [hanswer]
      refine Or.inl ⟨?_, hpassed⟩
      exact List.filterMap_cons_none (taskStep_sends_nothing framework actionHelper m.ground task)
    · rw [hanswer]
      rcases sentTelecommand_send framework actionHelper m.ground subservice data fsfw with
        ⟨hnone, hrefused⟩ | hsent
      · refine Or.inr (Or.inl ⟨List.filterMap_cons_none hnone, hpassed, fun granted => ?_⟩)
        exact hrefused (granted _ (List.mem_cons_self ..))
      · exact Or.inr (Or.inr ⟨_, List.filterMap_cons_some hsent, hpassed, hcommand⟩)

theorem mainInvariant_step (start : MissionMain) (hist : List MainEvent) (m : MissionMain)
    (step : MainStep) (inv : MainInvariant framework actionHelper start hist m) :
    MainInvariant framework actionHelper start
      (hist ++ [(missionMain framework actionHelper).event m step])
      ((missionMain framework actionHelper).step m step).2 := by
  obtain ⟨hground, hsent, hall⟩ := inv
  obtain ⟨new, hevents, hnew⟩ :=
    groundEvents_step framework actionHelper start hist m step hground
  have hend : (groundPath framework actionHelper).final start.ground
      ((mainSimulation framework actionHelper).inputsOf
        (hist ++ [(missionMain framework actionHelper).event m step])) =
          ((missionMain framework actionHelper).step m step).2.ground := by
    rw [Driver.inputsOf_snoc, Machine.final_append, hground]
    exact (mainSimulation framework actionHelper).step_final m step
  have hold : (∀ e ∈ groundEvents framework actionHelper start hist ++ new, SendGranted e) →
      (groundEvents framework actionHelper start hist).filterMap sentTelecommand =
        mainCommands.take m.passed :=
    fun granted => hall fun e he => granted e (List.mem_append_left _ he)
  rcases hnew with ⟨hnone, hpassed⟩ | ⟨hnone, hpassed, hrefused⟩ | ⟨t, hone, hpassed, hcommand⟩
  · refine ⟨hend, ?_, fun granted => ?_⟩
    · rw [hpassed, hevents, List.filterMap_append, hnone, List.append_nil]
      exact hsent
    · rw [hevents] at granted ⊢
      rw [hpassed, List.filterMap_append, hnone, List.append_nil]
      exact hold granted
  · refine ⟨hend, ?_, fun granted => ?_⟩
    · rw [hpassed, hevents, List.filterMap_append, hnone, List.append_nil]
      exact hsent.trans (List.take_sublist_take_left (Nat.le_succ _))
    · rw [hevents] at granted
      exact absurd (fun e he => granted e (List.mem_append_right _ he)) hrefused
  · have hnext : mainCommands.take (m.passed + 1) = mainCommands.take m.passed ++ [t] := by
      rw [List.take_add_one, hcommand]
      rfl
    refine ⟨hend, ?_, fun granted => ?_⟩
    · rw [hpassed, hevents, List.filterMap_append, hone, hnext]
      exact hsent.append (List.Sublist.refl _)
    · rw [hevents] at granted ⊢
      rw [hpassed, List.filterMap_append, hone, hnext, hold granted]

theorem mainInvariant_run (pusDistributor : Bool) (ground : GroundPath) (steps : List MainStep) :
    let start := MissionMain.enter pusDistributor ground
    MainInvariant framework actionHelper start
      ((missionMain framework actionHelper).trace start steps)
      ((missionMain framework actionHelper).final start steps) := by
  intro start
  exact Machine.history_induction _ ⟨rfl, List.Sublist.refl _, fun _ => rfl⟩
    (fun hist m step => mainInvariant_step framework actionHelper start hist m step) steps

/-- Once the commands are queued, `main` only tests and sleeps. -/
theorem queued_place (start : MissionMain) (hstart : start.commandsQueued = false)
    (steps : List MainStep) :
    let m := (missionMain framework actionHelper).final start steps
    m.commandsQueued = true → m.place = .loopTest ∨ m.place = .sleep := by
  refine Machine.history_induction (missionMain framework actionHelper)
    (R := fun _ m => m.commandsQueued = true → m.place = .loopTest ∨ m.place = .sleep)
    (fun h => ?_) (fun _ m step inv => ?_) steps
  · rw [hstart] at h
    cases h
  · cases step with
    | task task => exact inv
    | main fsfw =>
      obtain ⟨place, commandsQueued, pusDistributor, ground⟩ := m
      intro hqueued
      cases place with
      | loopTest =>
        cases commandsQueued with
        | true => exact Or.inr rfl
        | false => cases pusDistributor <;> cases hqueued
      | sendGetFrameRate => rcases inv hqueued with h | h <;> cases h
      | sendParameterDump => rcases inv hqueued with h | h <;> cases h
      | setCommandsQueued => exact Or.inr rfl
      | sleep => exact Or.inl rfl

end

/-- `main` on its way through the loop and once around, with the tasks at work in between. -/
def mainLoop : List MainStep :=
  [.main (pusFsfw 1), .main (pusFsfw 2), .task (.serve handlerFound (startAt 7)),
    .main (pusFsfw 1), .main (pusFsfw 3), .task (.serve handlerFound holdBack),
    .task (.handleMessage (.child .failed)), .main (pusFsfw 3), .task (.resume 0 (startAt 8)),
    .task (.serve handlerFound (startAt 7)), .main (pusFsfw 3),
    .task (.handleMessage (.child .failed)), .task (.handleMessage .consume), .main (pusFsfw 3)]

theorem mainRun_granted :
    ∀ e ∈ (groundPath pusReader (ActionHelper.direct numberedMessages)).trace mainStart mainRun,
      SendGranted e := by
  refine List.all_eq_true.mp ?_
  decide +kernel

theorem mainLoop_inputs :
    (mainSimulation pusReader (ActionHelper.direct numberedMessages)).inputsOf
      ((missionMain pusReader (ActionHelper.direct numberedMessages)).trace
        (.enter true mainStart) mainLoop) = mainRun := rfl

theorem mainLoop_done :
    let m := (missionMain pusReader (ActionHelper.direct numberedMessages)).final
      (.enter true mainStart) mainLoop
    m.commandsQueued = true ∧ m.ground.Idle := ⟨rfl, ⟨rfl, rfl⟩, rfl, rfl, rfl⟩

end FsfwFromZero
