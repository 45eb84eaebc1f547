import FsfwFromZero.Lib.Machine
import FsfwFromZero.Lib.Resume
import FsfwFromZero.Tmtc.ReplyHandling
import FsfwFromZero.Tmtc.StubPusDistributor
import FsfwFromZero.WebcamDefinitions
import Mathlib.Tactic.IntervalCases

/-!
# The object factory

`ObjectFactory::createMissionObjects` creates an object for each variable that is still null, in a
fixed order, and wires them.  Any `std::make_unique` may throw `std::bad_alloc`; the variables keep
what was created, and a later call goes on from there.  The one step back is the handler's:
`webcamCookie.release()` is an argument of its `make_unique`, so it is evaluated before the
allocation, and when that fails no variable owns the cookie any more.  It is still registered, and
the next call constructs another one under the same id.  What the framework's object manager does
then is not the factory's to say: it may return to the constructor, throw or end the program.

* `Mission` — the variables, with the ids in use at the object manager;
* `createMissionObjects` — the call, block by block; `factory : Machine` — calls with any pattern of
  failing allocations and any answers of the object manager;
* `missionAt` — the state as a **stage**: how far the calls have come, and how many cookies are lost;
* `factory_resumes` — **the factory can be called again**, as far as the object manager takes a
  second cookie: which ids are in use, when a call returns, and what then stands.
-/

namespace FsfwFromZero

open Lib

/-- `object_id_t`. -/
abbrev ObjectId := UInt32

def objectIdWebcamCookie : ObjectId := 0x57000002

def objectIdWebcamComIF : ObjectId := 0x57000003

def objectIdWebcamCommandingService : ObjectId := 0x57000010

def objectIdWebcamTcDistributor : ObjectId := 0x57000011

def objectIdWebcamTelemetrySink : ObjectId := 0x57000012

def objectIdWebcamVerificationSink : ObjectId := 0x57000013

/-- What the framework fixes: the ids it reserves for its own objects, which differ from each other
and from the mission's, and the queue that the base class of a commanding service creates. -/
structure FrameworkObjects where
  ipcStore : ObjectId
  tcStore : ObjectId
  tmStore : ObjectId
  timeStamper : ObjectId
  verificationReporter : ObjectId
  requestQueue : MessageQueueId
  distinct : [ipcStore, tcStore, tmStore, timeStamper, objectIdWebcamVerificationSink,
    verificationReporter, objectIdWebcamTelemetrySink, objectIdWebcamTcDistributor,
    objectIdWebcamComIF, objectIdWebcamCookie, objectIdWebcamHandler,
    objectIdWebcamCommandingService].Nodup

/-- The objects of `createMissionObjects`, by the variables that own them and in their order. -/
inductive MissionObject
  | ipcStore
  | tcStore
  | tmStore
  | timeStamper
  | verificationReceiver
  | verificationReporter
  | telemetrySink
  | pusDistributor
  | webcamComIF
  | webcamCookie
  | webcamHandler
  | webcamService
  deriving Repr, DecidableEq

structure LocalPool where
  objectId : ObjectId
  /-- Number and size of the elements of each pool. -/
  config : List (Nat × Nat)
  registered : Bool
  spillsToHigherPools : Bool
  deriving Repr, DecidableEq

structure VerificationReporter where
  receiver : Option ObjectId
  deriving Repr, DecidableEq

structure WebcamCookie where
  devicePath : String
  initialFrameRate : Double
  deriving Repr, DecidableEq

/-- What the handler is constructed from. -/
structure HandlerSetup where
  deviceCommunication : ObjectId
  comCookie : WebcamCookie
  cmdQueueSize : Nat
  deriving Repr, DecidableEq

/-- How the commanding service is set up. -/
structure ServiceSetup where
  /-- Was it given the verification reporter? -/
  reporter : Bool
  packetSource : Option ObjectId
  packetDestination : Option ObjectId
  deriving Repr, DecidableEq

/-- The variables of the factory.  An object that only its id tells apart is that id. -/
structure Mission where
  ipcStore : Option LocalPool := none
  tcStore : Option LocalPool := none
  tmStore : Option LocalPool := none
  timeStamper : Option ObjectId := none
  verificationReceiver : Option ObjectId := none
  verificationReporter : Option VerificationReporter := none
  telemetrySink : Option ObjectId := none
  pusDistributor : Option StubPusDistributor := none
  webcamComIF : Option ObjectId := none
  webcamCookie : Option WebcamCookie := none
  webcamHandler : Option HandlerSetup := none
  webcamService : Option ServiceSetup := none
  serviceRegistered : Bool := false
  /-- The ids in use at the object manager, oldest first.  Which of two objects it keeps under one id
  is not seen here. -/
  registered : List ObjectId := []
  /-- How many cookies exist that nothing owns. -/
  lost : Nat := 0
  deriving Repr, DecidableEq

/-- `WebcamCommandingService::SERVICE_ID`. -/
def serviceId : UInt32 := 200

/-- `30.0`. -/
def initialFrameRate : Double := ⟨0, 0, 0, 0, 0, 0, 0x3e, 0x40⟩

/-- Why a call of the factory does not return. -/
inductive Abandoned
  /-- `std::bad_alloc`: there is no memory for the object. -/
  | noMemory (object : MissionObject)
  /-- The object manager did not return to the constructor of the object. -/
  | notRegistered (object : MissionObject)
  deriving Repr, DecidableEq

/-- What a call of the factory meets with. -/
structure FactoryCall where
  /-- The objects that there is memory for. -/
  granted : MissionObject → Bool
  /-- Does the object manager return to a constructor that registers an id in use? -/
  insertReturns : Bool

abbrev Construction := EStateM Abandoned Mission

namespace ObjectFactory

variable (framework : FrameworkObjects) (call : FactoryCall)

/-- `std::make_unique`: an allocation, and then a constructor that registers the object.  The object
manager takes an id that is not in use. -/
def makeUnique (object : MissionObject) (id : ObjectId) : Construction Unit := do
  if call.granted object then
    if id ∈ (← get).registered then
      if call.insertReturns then pure () else throw (.notRegistered object)
    else modify fun m => { m with registered := m.registered ++ [id] }
  else throw (.noMemory object)

/-- The block of one variable: an object is created and assigned if there is none. -/
def createOnce (isNull : Mission → Bool) (object : MissionObject) (id : ObjectId)
    (assign : Mission → Mission) : Construction Unit := do
  if isNull (← get) then
    makeUnique call object id
    modify assign

def ipcPool : LocalPool := ⟨framework.ipcStore, WebcamCommandingService.ipcCfg, true, true⟩

def tcPool : LocalPool := ⟨framework.tcStore, [(20, 256), (10, 512)], true, true⟩

def tmPool : LocalPool := ⟨framework.tmStore, [(20, 256), (10, 512)], true, true⟩

def createIpcStore : Construction Unit :=
  createOnce call (fun m => m.ipcStore.isNone) .ipcStore framework.ipcStore
    fun m => { m with ipcStore := some (ipcPool framework) }

def createTcStore : Construction Unit :=
  createOnce call (fun m => m.tcStore.isNone) .tcStore framework.tcStore
    fun m => { m with tcStore := some (tcPool framework) }

def createTmStore : Construction Unit :=
  createOnce call (fun m => m.tmStore.isNone) .tmStore framework.tmStore
    fun m => { m with tmStore := some (tmPool framework) }

def createTimeStamper : Construction Unit :=
  createOnce call (fun m => m.timeStamper.isNone) .timeStamper framework.timeStamper
    fun m => { m with timeStamper := some framework.timeStamper }

def createVerificationReceiver : Construction Unit :=
  createOnce call (fun m => m.verificationReceiver.isNone) .verificationReceiver
    objectIdWebcamVerificationSink
    fun m => { m with verificationReceiver := some objectIdWebcamVerificationSink }

/-- The reporter is told the receiver if there is one. -/
def createVerificationReporter : Construction Unit :=
  createOnce call (fun m => m.verificationReporter.isNone) .verificationReporter
    framework.verificationReporter
    fun m => { m with verificationReporter := some ⟨m.verificationReceiver⟩ }

def createTelemetrySink : Construction Unit :=
  createOnce call (fun m => m.telemetrySink.isNone) .telemetrySink objectIdWebcamTelemetrySink
    fun m => { m with telemetrySink := some objectIdWebcamTelemetrySink }

def createPusDistributor : Construction Unit :=
  createOnce call (fun m => m.pusDistributor.isNone) .pusDistributor objectIdWebcamTcDistributor
    fun m => { m with pusDistributor := some .construct }

def createWebcamComIF : Construction Unit :=
  createOnce call (fun m => m.webcamComIF.isNone) .webcamComIF objectIdWebcamComIF
    fun m => { m with webcamComIF := some objectIdWebcamComIF }

/-- A cookie is created only as long as there is no handler. -/
def createWebcamCookie : Construction Unit :=
  createOnce call (fun m => m.webcamCookie.isNone && m.webcamHandler.isNone) .webcamCookie
    objectIdWebcamCookie
    fun m => { m with webcamCookie := some ⟨"/dev/video0", initialFrameRate⟩ }

/-- `webcamCookie.release()`: nothing owns the cookie until the handler does. -/
def releaseCookie (m : Mission) : Mission := { m with webcamCookie := none, lost := m.lost + 1 }

def createWebcamHandler : Construction Unit := do
  let m ← get
  match m.webcamHandler, m.webcamCookie with
  | none, some cookie =>
      -- an argument of the `make_unique`: it comes before the allocation
      set (releaseCookie m)
      makeUnique call .webcamHandler objectIdWebcamHandler
      modify fun m =>
        { m with webcamHandler := some ⟨objectIdWebcamComIF, cookie, 20⟩, lost := m.lost - 1 }
  | _, _ => pure ()

/-- The service is given the reporter if there is one. -/
def createWebcamService : Construction Unit :=
  createOnce call (fun m => m.webcamService.isNone) .webcamService
    objectIdWebcamCommandingService
    fun m => { m with
      webcamService := some ⟨m.verificationReporter.isSome, some objectIdWebcamTcDistributor,
        some objectIdWebcamTelemetrySink⟩ }

/-- What `registerService` returns is not looked at. -/
def registerWebcamService : Construction Unit :=
  modify fun m =>
    match m.pusDistributor, m.webcamService, m.serviceRegistered with
    | some distributor, some _, false =>
        { m with
          pusDistributor :=
            some (distributor.registerService (some ⟨serviceId, framework.requestQueue⟩)).2
          serviceRegistered := true }
    | _, _, _ => m

def createMissionObjects : Construction Unit := do
  createIpcStore framework call
  createTcStore framework call
  createTmStore framework call
  createTimeStamper framework call
  createVerificationReceiver call
  createVerificationReporter framework call
  createTelemetrySink call
  createPusDistributor call
  createWebcamComIF call
  createWebcamCookie call
  createWebcamHandler call
  createWebcamService call
  registerWebcamService framework

end ObjectFactory

open ObjectFactory

/-- Calls of the factory, each with what it meets with, and why it did not return. -/
def factory (framework : FrameworkObjects) :
    Machine Mission FactoryCall (Option Abandoned) where
  step m call :=
    match (createMissionObjects framework call).run m with
    | .ok () m => (none, m)
    | .error reason m => (some reason, m)

/-! ### The state as a stage -/

/-- `x`, once the calls have come past attempt `i`. -/
def since {α : Type} (i p : Nat) (x : α) : Option α := if i < p then some x else none

@[simp] theorem since_isNone {α : Type} (i p : Nat) (x : α) :
    (since i p x).isNone = decide (p ≤ i) := by
  by_cases h : i < p
  · simp [since, h]
  · simp [since, Nat.not_lt.mp h]

section Stage

variable (framework : FrameworkObjects)

/-- The objects in the order of their attempts. -/
def missionObjects : List MissionObject :=
  [.ipcStore, .tcStore, .tmStore, .timeStamper, .verificationReceiver, .verificationReporter,
    .telemetrySink, .pusDistributor, .webcamComIF, .webcamCookie, .webcamHandler, .webcamService]

/-- The id that the constructor of an object registers. -/
def MissionObject.objectId : MissionObject → ObjectId
  | .ipcStore => framework.ipcStore
  | .tcStore => framework.tcStore
  | .tmStore => framework.tmStore
  | .timeStamper => framework.timeStamper
  | .verificationReceiver => objectIdWebcamVerificationSink
  | .verificationReporter => framework.verificationReporter
  | .telemetrySink => objectIdWebcamTelemetrySink
  | .pusDistributor => objectIdWebcamTcDistributor
  | .webcamComIF => objectIdWebcamComIF
  | .webcamCookie => objectIdWebcamCookie
  | .webcamHandler => objectIdWebcamHandler
  | .webcamService => objectIdWebcamCommandingService

def missionIds : List ObjectId := missionObjects.map (MissionObject.objectId framework)

def missionCookie : WebcamCookie := ⟨"/dev/video0", initialFrameRate⟩

def registeredDistributor : StubPusDistributor :=
  (StubPusDistributor.construct.registerService (some ⟨serviceId, framework.requestQueue⟩)).2

/-- The mission when the calls have come to attempt `p` and `k` cookies are lost.  Once a cookie is
lost, its id stays in use. -/
def missionAt (k p : Nat) : Mission where
  ipcStore := since 0 p (ipcPool framework)
  tcStore := since 1 p (tcPool framework)
  tmStore := since 2 p (tmPool framework)
  timeStamper := since 3 p framework.timeStamper
  verificationReceiver := since 4 p objectIdWebcamVerificationSink
  verificationReporter := since 5 p ⟨objectIdWebcamVerificationSink⟩
  telemetrySink := since 6 p objectIdWebcamTelemetrySink
  pusDistributor := since 7 p (if 12 < p then registeredDistributor framework else .construct)
  webcamComIF := since 8 p objectIdWebcamComIF
  webcamCookie := if p = 10 then missionCookie else none
  webcamHandler := since 10 p ⟨objectIdWebcamComIF, missionCookie, 20⟩
  webcamService := since 11 p
    ⟨true, some objectIdWebcamTcDistributor, some objectIdWebcamTelemetrySink⟩
  serviceRegistered := decide (12 < p)
  registered := (missionIds framework).take (if k = 0 then p else max p 10)
  lost := k

/-- The ids differ, so the first `n` of them are those of the first `n` attempts. -/
theorem objectId_mem_take (n i : Nat) (object : MissionObject)
    (hobject : missionObjects[i]? = some object) :
    object.objectId framework ∈ (missionIds framework).take n ↔ i < n := by
  have hdistinct : (missionIds framework).Nodup := framework.distinct
  have hlength : i < (missionIds framework).length :=
    (List.getElem?_eq_some_iff.mp hobject).1
  have hid : (missionIds framework)[i] = object.objectId framework := by
    rw [← (List.getElem?_eq_some_iff.mp hobject).2]
    exact List.getElem_map ..
  rw [List.mem_take_iff_getElem]
  constructor
  · rintro ⟨j, hj, hsame⟩
    have hindex : j = i := hdistinct.getElem_inj_iff.mp (hsame.trans hid.symm)
    omega
  · intro hi
    exact ⟨i, by omega, hid⟩

/-- At a stage the ids in use are those of the attempts that are past, and the cookie's once one is
lost. -/
theorem objectId_registered (k p i : Nat) (object : MissionObject)
    (hobject : missionObjects[i]? = some object) (hlost : p < 9 → k = 0) :
    object.objectId framework ∈ (missionAt framework k p).registered ↔
      i < p ∨ object = .webcamCookie ∧ k ≠ 0 := by
  have hcookie : object = .webcamCookie ↔ i = 9 := by
    have hi : i < 12 := (List.getElem?_eq_some_iff.mp hobject).1
    interval_cases i <;> cases hobject <;> decide
  rw [hcookie, missionAt, objectId_mem_take framework _ i object hobject]
  by_cases hk : k = 0
  · rw [if_pos hk]
    omega
  · rw [if_neg hk]
    omega

theorem registered_succ (k i : Nat) (object : MissionObject)
    (hobject : missionObjects[i]? = some object) (hlost : i < 9 → k = 0) :
    (missionAt framework k (i + 1)).registered =
      if object.objectId framework ∈ (missionAt framework k i).registered then
        (missionAt framework k i).registered
      else (missionAt framework k i).registered ++ [object.objectId framework] := by
  have hid : (missionIds framework)[i]? = some (object.objectId framework) := by
    rw [missionIds, List.getElem?_map, hobject]
    rfl
  have hnext : (missionIds framework).take (i + 1) =
      (missionIds framework).take i ++ [object.objectId framework] := by
    rw [List.take_add_one, hid]
    rfl
  simp only [missionAt, objectId_mem_take framework _ i object hobject]
  by_cases hk : k = 0
  · rw [if_pos hk, if_pos hk, if_neg (Nat.lt_irrefl i)]
    exact hnext
  · have hlate : 9 ≤ i := Nat.not_lt.mp fun h => hk (hlost h)
    rw [if_neg hk, if_neg hk]
    rcases Nat.eq_or_lt_of_le hlate with rfl | hpast
    · rfl
    · rw [Nat.max_eq_left hpast, Nat.max_eq_left (by omega), if_neg (Nat.lt_irrefl i)]
      exact hnext

variable (call : FactoryCall)

/-- What stands in the way of an object when `k` cookies are lost. -/
def obstacle (k : Nat) (object : MissionObject) : Option Abandoned :=
  if call.granted object then
    if object = .webcamCookie ∧ k ≠ 0 ∧ call.insertReturns = false then
      some (.notRegistered object)
    else none
  else some (.noMemory object)

/-- How attempt `i` fails: nothing has changed, but for the handler, whose cookie is gone. -/
def failsAt (k i : Nat) : Option (Abandoned × Mission) :=
  missionObjects[i]?.bind fun object => (obstacle call k object).map fun reason =>
    (reason,
      if object = .webcamHandler then missionAt framework (k + 1) 9 else missionAt framework k i)

theorem run_makeUnique {object : MissionObject} {k i : Nat}
    (hobject : missionObjects[i]? = some object) (hlost : i < 9 → k = 0) (m : Mission)
    (hm : m.registered = (missionAt framework k i).registered) :
    (makeUnique call object (object.objectId framework)).run m =
      (obstacle call k object).elim
        (.ok () { m with registered := (missionAt framework k (i + 1)).registered })
        fun reason => .error reason m := by
  have huse := objectId_registered framework k i i object hobject hlost
  rw [registered_succ framework k i object hobject hlost, ← hm]
  rw [← hm, or_iff_right (Nat.lt_irrefl i)] at huse
  unfold makeUnique obstacle
  cases call.granted object with
  | false => rfl
  | true =>
    simp only [if_true, EStateM.run_bind, EStateM.run_get]
    by_cases hin : object.objectId framework ∈ m.registered
    · obtain ⟨hcookie, hk⟩ := huse.mp hin
      rw [if_pos hin, if_pos hin]
      cases call.insertReturns with
      | true => simp [EStateM.run_pure]
      | false =>
        rw [if_neg Bool.false_ne_true, if_pos ⟨hcookie, hk, rfl⟩]
        rfl
    · rw [if_neg hin, if_neg hin, if_neg fun h => hin (huse.mpr ⟨h.1, h.2.1⟩)]
      rfl

/-- A block of the common form keeps to the stages. -/
theorem createOnce_stages {isNull : Mission → Bool} {object : MissionObject} {id : ObjectId}
    {assign : Mission → Mission} {k p₀ i : Nat} (hobject : missionObjects[i]? = some object)
    (hother : object ≠ .webcamHandler) (hid : id = object.objectId framework)
    (hlost : p₀ ≤ i → i < 9 → k = 0)
    (later : ∀ p, i < p → isNull (missionAt framework k p) = false)
    (own : isNull (missionAt framework k i) = true)
    (next : assign { missionAt framework k i with
      registered := (missionAt framework k (i + 1)).registered } = missionAt framework k (i + 1)) :
    Stages (missionAt framework k) (failsAt framework call k) p₀ i
      (createOnce call isNull object id assign) := by
  have hfails : failsAt framework call k i =
      (obstacle call k object).map fun reason => (reason, missionAt framework k i) := by
    simp only [failsAt, hobject, Option.bind_some, if_neg hother]
  have hown : p₀ ≤ i → (createOnce call isNull object id assign).run (missionAt framework k i) =
      (obstacle call k object).elim (.ok () (missionAt framework k (i + 1)))
        fun reason => .error reason (missionAt framework k i) := by
    intro hbase
    simp only [createOnce, EStateM.run_bind, EStateM.run_get, own, if_true, hid,
      run_makeUnique framework call hobject (hlost hbase) (missionAt framework k i) rfl]
    cases obstacle call k object with
    | none => exact congrArg (EStateM.Result.ok ()) next
    | some reason => rfl
  refine ⟨fun p hp => ?_, fun hbase hgranted => ?_, fun hbase e s hfailed => ?_⟩
  · simp only [createOnce, EStateM.run_bind, EStateM.run_get, later p hp]
    rfl
  · rw [hfails, Option.map_eq_none_iff] at hgranted
    rw [hown hbase, hgranted]
    rfl
  · rw [hfails] at hfailed
    obtain ⟨reason, hreason, hpair⟩ := Option.map_eq_some_iff.mp hfailed
    cases hpair
    rw [hown hbase, hreason]
    rfl

/-- The handler's block: where the allocation fails, the way is back to the cookie's block. -/
theorem createWebcamHandler_stages (k p₀ : Nat) :
    Stages (missionAt framework k) (failsAt framework call k) p₀ 10
      (createWebcamHandler call) := by
  have hfails : failsAt framework call k 10 = (obstacle call k .webcamHandler).map fun reason =>
      (reason, missionAt framework (k + 1) 9) := rfl
  have hreleased : releaseCookie (missionAt framework k 10) = missionAt framework (k + 1) 9 := by
    cases k with
    | zero => rfl
    | succ k => rfl
  have hown : (createWebcamHandler call).run (missionAt framework k 10) =
      (obstacle call k .webcamHandler).elim (.ok () (missionAt framework k 11))
        fun reason => .error reason (missionAt framework (k + 1) 9) := by
    have hhandler : (missionAt framework k 10).webcamHandler = none := rfl
    have hcookie : (missionAt framework k 10).webcamCookie = some missionCookie := rfl
    have hids : (missionAt framework (k + 1) 9).registered =
        (missionAt framework k 10).registered := by
      rw [← hreleased]
      rfl
    have hmake : (makeUnique call .webcamHandler objectIdWebcamHandler).run
        (missionAt framework (k + 1) 9) = _ :=
      run_makeUnique framework call rfl (fun h => absurd h (by decide)) _ hids
    simp only [createWebcamHandler, EStateM.run_bind, EStateM.run_get, hhandler, hcookie,
      EStateM.run_set, hreleased, hmake]
    cases obstacle call k .webcamHandler with
    | none => rfl
    | some reason => rfl
  refine ⟨fun p hp => ?_, fun _ hgranted => ?_, fun _ e s hfailed => ?_⟩
  · have hhandler : (missionAt framework k p).webcamHandler =
        some ⟨objectIdWebcamComIF, missionCookie, 20⟩ := if_pos hp
    simp only [createWebcamHandler, EStateM.run_bind, EStateM.run_get, hhandler]
    rfl
  · rw [hfails, Option.map_eq_none_iff] at hgranted
    rw [hown, hgranted]
    rfl
  · rw [hfails] at hfailed
    obtain ⟨reason, hreason, hpair⟩ := Option.map_eq_some_iff.mp hfailed
    cases hpair
    rw [hown, hreason]
    rfl

theorem registerWebcamService_stages (k p₀ : Nat) :
    Stages (missionAt framework k) (failsAt framework call k) p₀ 12
      (registerWebcamService framework) := by
  refine ⟨fun p hp => ?_, fun _ _ => ?_, fun _ e s hfailed => ?_⟩
  · have hregistered : (missionAt framework k p).serviceRegistered = true := decide_eq_true hp
    simp only [registerWebcamService, EStateM.run_modify]
    split
    · rename_i hfalse
      rw [hregistered] at hfalse
      cases hfalse
    · rfl
  · cases k with
    | zero => rfl
    | succ k => rfl
  · cases hfailed

/-- The blocks in their order. -/
def blocks : List (Construction Unit) :=
  [createIpcStore framework call, createTcStore framework call, createTmStore framework call,
    createTimeStamper framework call, createVerificationReceiver call,
    createVerificationReporter framework call, createTelemetrySink call, createPusDistributor call,
    createWebcamComIF call, createWebcamCookie call, createWebcamHandler call,
    createWebcamService call, registerWebcamService framework]

theorem createMissionObjects_eq :
    createMissionObjects framework call = attempts (blocks framework call) := by
  simp only [createMissionObjects, blocks, attempts, bind_pure_unit]

/-- Every block keeps to the stages; before the first cookie no cookie can be lost. -/
theorem blocks_stages (k p₀ : Nat) (hbase : p₀ < 9 → k = 0) (j : Nat) (a : Construction Unit)
    (hblock : (blocks framework call)[j]? = some a) :
    Stages (missionAt framework k) (failsAt framework call k) p₀ j a := by
  have hj : j < 13 := (List.getElem?_eq_some_iff.mp hblock).1
  have hlost : p₀ ≤ j → j < 9 → k = 0 := fun hp hearly => hbase (Nat.lt_of_le_of_lt hp hearly)
  rcases Nat.lt_or_ge j 9 with hearly | hlate
  · interval_cases j <;> cases hblock <;>
      exact createOnce_stages framework call rfl (by decide) rfl hlost
        (fun p hp => by simpa only [missionAt, since_isNone, decide_eq_false_iff_not, Nat.not_le])
        rfl rfl
  · interval_cases j <;> cases hblock
    · refine createOnce_stages framework call rfl (by decide) rfl hlost (fun p hp => ?_) rfl rfl
      by_cases hcookie : p = 10
      · rw [hcookie]
        rfl
      · have hhandler : 10 < p := by omega
        simp [missionAt, hhandler]
    · exact createWebcamHandler_stages framework call k p₀
    · exact createOnce_stages framework call rfl (by decide) rfl hlost
        (fun p hp => by simp [missionAt, hp]) rfl rfl
    · exact registerWebcamService_stages framework call k p₀

/-- **A call goes on from its stage.** -/
theorem createMissionObjects_stage (k p : Nat) (hp : p ≤ 13) (hlost : p < 9 → k = 0) :
    (createMissionObjects framework call).run (missionAt framework k p) =
      stageResult (missionAt framework k) (failsAt framework call k) p 13 := by
  rw [createMissionObjects_eq]
  have hstages : ∀ j a, (blocks framework call)[j]? = some a →
      Stages (missionAt framework k) (failsAt framework call k) p (0 + j) a := by
    intro j a hblock
    rw [Nat.zero_add]
    exact blocks_stages framework call k p hlost j a hblock
  exact attempts_stage (blocks framework call) 0 hstages p (Nat.zero_le p) hp Nat.le.refl

/-! ### Runs of the factory -/

/-- Is there such an object?  A cookie may also be the handler's. -/
def Mission.has (m : Mission) : MissionObject → Bool
  | .ipcStore => m.ipcStore.isSome
  | .tcStore => m.tcStore.isSome
  | .tmStore => m.tmStore.isSome
  | .timeStamper => m.timeStamper.isSome
  | .verificationReceiver => m.verificationReceiver.isSome
  | .verificationReporter => m.verificationReporter.isSome
  | .telemetrySink => m.telemetrySink.isSome
  | .pusDistributor => m.pusDistributor.isSome
  | .webcamComIF => m.webcamComIF.isSome
  | .webcamCookie => m.webcamCookie.isSome || m.webcamHandler.isSome
  | .webcamHandler => m.webcamHandler.isSome
  | .webcamService => m.webcamService.isSome

/-- At a stage there are the objects of the attempts that are past. -/
theorem missionAt_has (k p i : Nat) (object : MissionObject)
    (hobject : missionObjects[i]? = some object) :
    (missionAt framework k p).has object = decide (i < p) := by
  have hi : i < 12 := (List.getElem?_eq_some_iff.mp hobject).1
  have hsince : ∀ (j : Nat) (α : Type) (x : α), (since j p x).isSome = decide (j < p) := by
    intro j α x
    by_cases h : j < p
    · simp [since, h]
    · simp [since, h]
  interval_cases i <;> cases hobject
  case «9» =>
    by_cases hcookie : p = 10
    · rw [hcookie]
      rfl
    · have hpast : 9 < p ↔ 10 < p := by omega
      simp only [Mission.has, missionAt, hsince, if_neg hcookie, Option.isSome_none, Bool.false_or,
        hpast]
  all_goals exact hsince _ _ _

theorem missionObjects_complete (object : MissionObject) :
    ∃ i, i < 12 ∧ missionObjects[i]? = some object := by
  cases object
  case ipcStore => exact ⟨0, by decide, rfl⟩
  case tcStore => exact ⟨1, by decide, rfl⟩
  case tmStore => exact ⟨2, by decide, rfl⟩
  case timeStamper => exact ⟨3, by decide, rfl⟩
  case verificationReceiver => exact ⟨4, by decide, rfl⟩
  case verificationReporter => exact ⟨5, by decide, rfl⟩
  case telemetrySink => exact ⟨6, by decide, rfl⟩
  case pusDistributor => exact ⟨7, by decide, rfl⟩
  case webcamComIF => exact ⟨8, by decide, rfl⟩
  case webcamCookie => exact ⟨9, by decide, rfl⟩
  case webcamHandler => exact ⟨10, by decide, rfl⟩
  case webcamService => exact ⟨11, by decide, rfl⟩

/-- **What a call does from a stage**: it comes to the end if nothing stands in its way, and
otherwise to the first object that something does, with the cookie gone if that is the handler. -/
theorem factory_step_cases (k p : Nat) (hp : p ≤ 13) (hlost : p < 9 → k = 0) :
    ((factory framework).step (missionAt framework k p) call = (none, missionAt framework k 13) ∧
      ∀ i object, p ≤ i → missionObjects[i]? = some object → obstacle call k object = none) ∨
    ∃ i object reason, p ≤ i ∧ missionObjects[i]? = some object ∧
      obstacle call k object = some reason ∧
      (∀ j other, p ≤ j → j < i → missionObjects[j]? = some other →
        obstacle call k other = none) ∧
      (factory framework).step (missionAt framework k p) call = (some reason,
        if object = .webcamHandler then missionAt framework (k + 1) 9
        else missionAt framework k i) := by
  have hrun := createMissionObjects_stage framework call k p hp hlost
  have hclear : ∀ i object, failsAt framework call k i = none → missionObjects[i]? = some object →
      obstacle call k object = none := by
    intro i object hnone hobject
    rw [failsAt, hobject, Option.bind_some, Option.map_eq_none_iff] at hnone
    exact hnone
  rcases stageResult_cases (missionAt framework k) (failsAt framework call k) p 13 with
    ⟨hend, hnone⟩ | ⟨i, reason, m, hpast, -, hfails, hbefore, hend⟩
  · rw [hend] at hrun
    refine Or.inl ⟨by simp only [factory, hrun], fun i object hpast hobject => ?_⟩
    have hi : i < 12 := (List.getElem?_eq_some_iff.mp hobject).1
    exact hclear i object (hnone i hpast (by omega)) hobject
  · rw [hend] at hrun
    obtain ⟨object, hobject, hmap⟩ := Option.bind_eq_some_iff.mp hfails
    obtain ⟨reason', hreason, hpair⟩ := Option.map_eq_some_iff.mp hmap
    cases hpair
    refine Or.inr ⟨i, object, reason, hpast, hobject, hreason, fun j other hj hji hother => ?_, ?_⟩
    · exact hclear j other (hbefore j hj hji) hother
    · simp only [factory, hrun]

theorem obstacle_noMemory (k : Nat) (object other : MissionObject) (reason : Abandoned)
    (h : obstacle call k object = some reason) (hcookie : other ≠ .webcamCookie) :
    reason = .noMemory other ↔ object = other := by
  unfold obstacle at h
  split at h
  · split at h
    · rename_i hagain
      cases h
      exact iff_of_false (fun h => by cases h) fun h => hcookie (h.symm.trans hagain.1)
    · cases h
  · cases h
    exact ⟨Abandoned.noMemory.inj, congrArg Abandoned.noMemory⟩

theorem obstacle_notRegistered (k : Nat) (object other : MissionObject)
    (h : obstacle call k object = some (.notRegistered other)) : other = .webcamCookie ∧ k ≠ 0 := by
  unfold obstacle at h
  split at h
  · split at h
    · rename_i hagain
      cases h
      exact ⟨hagain.1, hagain.2.1⟩
    · cases h
  · cases h

theorem obstacle_eq_none_iff (k : Nat) (object : MissionObject) :
    obstacle call k object = none ↔ call.granted object = true ∧
      (object = .webcamCookie → k ≠ 0 → call.insertReturns = true) := by
  unfold obstacle
  cases call.granted object with
  | false => simp
  | true => simp

/-- **A call returns** if it is granted every object that is missing, and the object manager returns
to a cookie after a lost one. -/
theorem factory_returns_iff (k p : Nat) (hp : p ≤ 13) (hlost : p < 9 → k = 0) :
    ((factory framework).step (missionAt framework k p) call).1 = none ↔
      (∀ object, (missionAt framework k p).has object = false → call.granted object = true) ∧
        ((missionAt framework k p).has .webcamCookie = false → k ≠ 0 →
          call.insertReturns = true) := by
  have hmissing : ∀ i object, missionObjects[i]? = some object →
      ((missionAt framework k p).has object = false ↔ p ≤ i) := by
    intro i object hobject
    rw [missionAt_has framework k p i object hobject, decide_eq_false_iff_not, Nat.not_lt]
  rcases factory_step_cases framework call k p hp hlost with
    ⟨hstep, hclear⟩ | ⟨i, object, reason, hpast, hobject, hreason, -, hstep⟩
  · rw [hstep]
    have hfree : ∀ object, (missionAt framework k p).has object = false →
        obstacle call k object = none := by
      intro object hnone
      obtain ⟨i, -, hobject⟩ := missionObjects_complete object
      exact hclear i object ((hmissing i object hobject).mp hnone) hobject
    refine iff_of_true rfl ⟨fun object hnone => ?_, fun hnone hsome => ?_⟩
    · exact ((obstacle_eq_none_iff call k object).mp (hfree object hnone)).1
    · exact ((obstacle_eq_none_iff call k _).mp (hfree .webcamCookie hnone)).2 rfl hsome
  · rw [hstep]
    refine iff_of_false (Option.some_ne_none reason) fun ⟨hall, hreturns⟩ => ?_
    have hnone := (hmissing i object hobject).mpr hpast
    have hclear := (obstacle_eq_none_iff call k object).mpr
      ⟨hall object hnone, fun hcookie hsome => hreturns (hcookie ▸ hnone) hsome⟩
    rw [hclear] at hreason
    cases hreason

abbrev FactoryEvent := Event Mission FactoryCall (Option Abandoned)

/-- How many calls of a history failed at the handler. -/
def handlerFailures (hist : List FactoryEvent) : Nat :=
  hist.countP fun e => e.output == some (.noMemory .webcamHandler)

theorem handlerFailures_snoc (hist : List FactoryEvent) (e : FactoryEvent) :
    handlerFailures (hist ++ [e]) =
      handlerFailures hist + if e.output = some (.noMemory .webcamHandler) then 1 else 0 := by
  rw [handlerFailures, List.countP_append]
  by_cases h : e.output = some (.noMemory .webcamHandler)
  · simp [handlerFailures, h]
  · simp [handlerFailures, h]

/-- The calls have come to a stage, with a cookie lost for each handler that failed; to the end if
one of them returned, and not past the cookie if one is lost and the object manager never returned
to the next one. -/
def FactoryInvariant (hist : List FactoryEvent) (m : Mission) : Prop :=
  ∃ p, m = missionAt framework (handlerFailures hist) p ∧ p ≤ 13 ∧
    (p < 9 → handlerFailures hist = 0) ∧ ((∃ e ∈ hist, e.output = none) → p = 13) ∧
    ((∀ e ∈ hist, e.input.insertReturns = false) → handlerFailures hist ≠ 0 → p = 9)

theorem factoryInvariant_step (hist : List FactoryEvent) (m : Mission)
    (inv : FactoryInvariant framework hist m) :
    FactoryInvariant framework (hist ++ [(factory framework).event m call])
      ((factory framework).step m call).2 := by
  obtain ⟨p, rfl, hp, hlost, hreturned, hstuck⟩ := inv
  have hcount : handlerFailures (hist ++ [(factory framework).event
      (missionAt framework (handlerFailures hist) p) call]) = handlerFailures hist +
        (if ((factory framework).step (missionAt framework (handlerFailures hist) p) call).1 =
          some (.noMemory .webcamHandler) then 1 else 0) := handlerFailures_snoc hist _
  have hheld : (∀ e ∈ hist ++ [(factory framework).event
      (missionAt framework (handlerFailures hist) p) call], e.input.insertReturns = false) →
      handlerFailures hist ≠ 0 →
        p = 9 ∧ obstacle call (handlerFailures hist) .webcamCookie ≠ none := by
    intro hnever hsome
    refine ⟨hstuck (fun e he => hnever e (List.mem_append_left _ he)) hsome, fun hnone => ?_⟩
    have hlast : call.insertReturns = false :=
      hnever _ (List.mem_append_right _ (List.mem_singleton_self _))
    rw [((obstacle_eq_none_iff call _ _).mp hnone).2 rfl hsome] at hlast
    cases hlast
  rcases factory_step_cases framework call (handlerFailures hist) p hp hlost with
    ⟨hstep, hclear⟩ | ⟨i, object, reason, hpast, hobject, hreason, hbefore, hstep⟩
  · rw [hstep] at hcount
    refine ⟨13, ?_, Nat.le.refl, fun h => absurd h (by decide), fun _ => rfl, fun hnever hsome => ?_⟩
    · rw [hcount, hstep]
      rfl
    · rw [hcount] at hsome
      obtain ⟨rfl, hblocked⟩ := hheld hnever hsome
      exact absurd (hclear 9 .webcamCookie Nat.le.refl rfl) hblocked
  · have hi : i < 12 := (List.getElem?_eq_some_iff.mp hobject).1
    have hthrown : ¬ ∃ e ∈ hist ++ [(factory framework).event
        (missionAt framework (handlerFailures hist) p) call], e.output = none := by
      rintro ⟨e, he, hnone⟩
      rcases List.mem_append.mp he with hold | hnew
      · have hend := hreturned ⟨e, hold, hnone⟩
        omega
      · rw [List.mem_singleton.mp hnew, Machine.event, hstep] at hnone
        cases hnone
    rw [hstep] at hcount
    have hhandler := obstacle_noMemory call _ object .webcamHandler reason hreason (by decide)
    by_cases hfailed : object = .webcamHandler
    · rw [hhandler.mpr hfailed, if_pos rfl] at hcount
      refine ⟨9, ?_, by decide, fun h => absurd h (by decide), fun h => absurd h hthrown,
        fun _ _ => rfl⟩
      rw [hcount, hstep, if_pos hfailed]
    · rw [if_neg fun h => hfailed (hhandler.mp (Option.some.inj h)), Nat.add_zero] at hcount
      refine ⟨i, ?_, by omega, fun h => ?_, fun h => absurd h hthrown, fun hnever hsome => ?_⟩
      · rw [hcount, hstep, if_neg hfailed]
      · rw [hcount]
        exact hlost (Nat.lt_of_le_of_lt hpast h)
      · -- the call did not come past the cookie
        rw [hcount] at hsome
        obtain ⟨rfl, hblocked⟩ := hheld hnever hsome
        rcases Nat.eq_or_lt_of_le hpast with hsame | hlater
        · exact hsame.symm
        · exact absurd (hbefore 9 .webcamCookie Nat.le.refl hlater rfl) hblocked

theorem factoryInvariant_run (calls : List FactoryCall) :
    FactoryInvariant framework ((factory framework).trace {} calls)
      ((factory framework).final {} calls) := by
  refine Machine.history_induction _ ⟨0, rfl, by decide, fun _ => rfl, fun h => ?_,
      fun _ h => absurd rfl h⟩
    (fun hist m call => factoryInvariant_step framework call hist m) calls
  obtain ⟨e, he, -⟩ := h
  cases he

/-- Everything is created and told of what it needs; the distributor is ready for telecommands as
soon as it finds the telecommand store. -/
structure Mission.Wired (m : Mission) : Prop where
  pools : m.ipcStore = some (ipcPool framework) ∧ m.tcStore = some (tcPool framework) ∧
    m.tmStore = some (tmPool framework)
  timeStamper : m.timeStamper = some framework.timeStamper
  reporter : m.verificationReceiver = some objectIdWebcamVerificationSink ∧
    m.verificationReporter = some ⟨m.verificationReceiver⟩
  handler : m.webcamComIF = some objectIdWebcamComIF ∧ m.webcamCookie = none ∧
    m.webcamHandler = some ⟨objectIdWebcamComIF, ⟨"/dev/video0", initialFrameRate⟩, 20⟩
  service : m.telemetrySink = some objectIdWebcamTelemetrySink ∧ m.webcamService =
    some ⟨true, some objectIdWebcamTcDistributor, some objectIdWebcamTelemetrySink⟩
  distributor : ∃ d, m.pusDistributor = some d ∧ ∀ tcStore,
    (⟨d.initializeDistributor true, tcStore, []⟩ : TcPath) =
      readyPath ⟨serviceId, framework.requestQueue⟩ tcStore

/-- **The factory can be called again.**  In every sequence of calls of `createMissionObjects`,
whichever allocations fail in each and whatever the object manager does with an id in use: a cookie
is lost for each call that failed at the handler; the ids in use are those of the objects there are
and, once a cookie is lost, the cookie's; the only constructor that ever finds its id in use is that
of a cookie after a lost one.  A call returns if and only if it is granted every object that is
missing and the object manager returns to such a cookie.  So where it never does, a handler that
failed once is not made up for by any call; and once a call returned, everything is wired, and every
further call returns and changes nothing. -/
theorem factory_resumes (calls : List FactoryCall) :
    let hist := (factory framework).trace {} calls
    let m := (factory framework).final {} calls
    m.lost = handlerFailures hist ∧
      m.registered.Nodup ∧
      (∀ object : MissionObject, object.objectId framework ∈ m.registered ↔
        m.has object = true ∨ object = .webcamCookie ∧ m.lost ≠ 0) ∧
      (∀ call object, ((factory framework).step m call).1 = some (.notRegistered object) →
        object = .webcamCookie ∧ m.lost ≠ 0) ∧
      (∀ call, ((factory framework).step m call).1 = none ↔
        (∀ object, m.has object = false → call.granted object = true) ∧
          (m.has .webcamCookie = false → m.lost ≠ 0 → call.insertReturns = true)) ∧
      ((∀ call ∈ calls, call.insertReturns = false) → m.lost ≠ 0 →
        ∀ e ∈ hist, e.output ≠ none) ∧
      ((∃ e ∈ hist, e.output = none) →
        m.Wired framework ∧ ∀ call, (factory framework).step m call = (none, m)) := by
  intro hist m
  obtain ⟨p, hm, hp, hlost, hreturned, hstuck⟩ : FactoryInvariant framework hist m :=
    factoryInvariant_run framework calls
  rw [hm]
  refine ⟨rfl, ?_, fun object => ?_, fun call object hthrown => ?_, fun call => ?_,
    fun hnever hsome e he hnone => ?_, fun h => ?_⟩
  · exact (framework.distinct : (missionIds framework).Nodup).sublist (List.take_sublist ..)
  · obtain ⟨i, -, hobject⟩ := missionObjects_complete object
    rw [objectId_registered framework _ p i object hobject hlost,
      missionAt_has framework _ p i object hobject, decide_eq_true_eq]
    rfl
  · rcases factory_step_cases framework call (handlerFailures hist) p hp hlost with
      ⟨hstep, -⟩ | ⟨i, other, reason, -, -, hreason, -, hstep⟩
    · rw [hstep] at hthrown
      cases hthrown
    · rw [hstep] at hthrown
      cases hthrown
      exact obstacle_notRegistered call _ other object hreason
  · exact factory_returns_iff framework call (handlerFailures hist) p hp hlost
  · have hinputs : ∀ e ∈ hist, e.input.insertReturns = false := by
      intro e he
      refine hnever e.input ?_
      rw [← (factory framework).trace_inputs {} calls]
      exact List.mem_map_of_mem he
    have hcookie := hstuck hinputs hsome
    have hend := hreturned ⟨e, he, hnone⟩
    omega
  · rw [hreturned h]
    refine ⟨⟨⟨rfl, rfl, rfl⟩, rfl, ⟨rfl, rfl⟩, ⟨rfl, rfl, rfl⟩, ⟨rfl, rfl⟩, _, rfl, fun _ => rfl⟩,
      fun call => ?_⟩
    rcases factory_step_cases framework call (handlerFailures hist) 13 Nat.le.refl
      (fun h => absurd h (by decide)) with ⟨hstep, -⟩ | ⟨i, object, reason, hpast, hobject, -⟩
    · exact hstep
    · have hi : i < 12 := (List.getElem?_eq_some_iff.mp hobject).1
      omega

end Stage

theorem fsfwObjects_distinct : ([0x534f0300, 0x534f0100, 0x534f0200, 0x53500010,
    objectIdWebcamVerificationSink, 0x53500020, objectIdWebcamTelemetrySink,
    objectIdWebcamTcDistributor, objectIdWebcamComIF, objectIdWebcamCookie, objectIdWebcamHandler,
    objectIdWebcamCommandingService] : List ObjectId).Nodup := by decide

/-- The ids of the framework's objects. -/
def fsfwObjects : FrameworkObjects :=
  ⟨0x534f0300, 0x534f0100, 0x534f0200, 0x53500010, 0x53500020, 0x0a, fsfwObjects_distinct⟩

/-- There is no memory for the handler in the first call, and for everything in the second: with an
object manager that does not return for an id in use, the second call ends at the cookie. -/
example : ((factory fsfwObjects).trace {} [⟨fun object => object != .webcamHandler, false⟩,
    ⟨fun _ => true, false⟩]).map (·.output) =
      [some (.noMemory .webcamHandler), some (.notRegistered .webcamCookie)] := by decide

end FsfwFromZero
