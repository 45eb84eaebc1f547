import Mathlib.Data.List.Perm.Subperm
import FsfwFromZero.CommandRoundTrip
import FsfwFromZero.Tmtc.ServiceRouting
import FsfwFromZero.Tmtc.StubPusDistributor

/-!
# From the ground to the handler

The whole way of a telecommand: `StubPusDistributor::sendCommand` packs it into an element of the
telecommand store and sends the element's address to the commanding service; the service takes the
request and asks `isValidSubservice` and `getMessageQueueAndObject`; the base class refuses it, keeps
it back for later, or starts it, by calling `prepareCommand` and sending the message to the
handler's command queue, which is bounded; and the handler's base class consumes the message or
hands it to `letChildHandleMessage`.  What the two base classes and the queues decide is no part of
the mission code, so every step takes it as an answer.

* `GroundPath`, `groundPath : Machine` — distributor, telecommand store, service, requests kept
  back, IPC store, command queue and handler;
* `turnTo_cases` — **the ways of a request** when the base class turns to it;
* `RequestInvariant` — the account of the requests: what was sent was taken or waits, and what was
  taken was started, rejected or is kept back; `requestInvariant_step` — every step keeps it;
* `GroundFlight` — the account of the command queue, as on the command path;
  `groundFlight_step` — every step keeps it.
-/

namespace FsfwFromZero

open Lib WebcamCommandingService

/-- The depth of the handler's command queue, as `createMissionObjects` passes it. -/
def cmdQueueSize : Nat := 20

/-- A request that the base class keeps back: the element of its packet and the queue that the
service named for it. -/
structure HeldRequest where
  storeId : StoreAddress
  queue : Option MessageQueueId
  deriving Repr, DecidableEq

structure GroundPath where
  /-- Distributor, telecommand store and the service's request queue. -/
  tc : TcPath
  /-- What `CommandingServiceBase` keeps back. -/
  held : List HeldRequest
  /-- Service, IPC store, the handler's command queue and the handler. -/
  command : CommandPath

/-- What `CommandingServiceBase` does with a request: refuse it with a code of its own, keep it
back, or start it, with the answer of the queue to the message that `prepareCommand` made. -/
inductive BaseAnswer
  | reject (code : ReturnValue)
  | hold
  | start (sendMessage : Option Failure)

/-- `CommandingServiceBase` turns to a request: the message object it gives to `prepareCommand`, how
the IPC store answers there, and what it decides. -/
structure Attempt where
  message : CommandMessage
  getFreeElement : Nat → Except Failure StoreAddress
  base : BaseAnswer

/-- What `DeviceHandlerBase` does with a message: it consumes it, or hands it to
`letChildHandleMessage`, where its own implementation would return this code.  The overrides that it
calls when it consumes a message are steps of their own. -/
inductive Routing
  | consume
  | child (base : ReturnValue)
  deriving Repr, DecidableEq

/-- A step of the ground path. -/
inductive GroundStep
  | sendCommand (subservice : UInt8) (data : Payload) (fsfw : Fsfw)
  /-- The service takes a request. -/
  | serve (lookup : HandlerLookup) (attempt : Attempt)
  /-- The base class turns to a request that it kept back. -/
  | resume (which : Nat) (attempt : Attempt)
  | handleMessage (routing : Routing)
  | overrideCall (call : Call)
  /-- Other users of the two stores, the base classes among them. -/
  | otherUsers (ipcStore : IpcStore) (tcStore : Store StoreAddress (List UInt8))

/-- Where a request came from. -/
inductive RequestSource
  | requestQueue
  | held
  deriving Repr, DecidableEq

/-- What became of a request: it was rejected, it is kept back, or `prepareCommand` returned this
code and the message it made is in the handler's command queue or not. -/
inductive Treatment
  | rejected (code : ReturnValue)
  | held
  | started (ret : ReturnValue) (delivered : Bool)
  deriving Repr, DecidableEq

inductive GroundAnswer
  | sent (answer : TcAnswer)
  | nothing
  /-- The packet of the request could not be read. -/
  | unreadable
  | treated (source : RequestSource) (telecommand : Telecommand) (treatment : Treatment)
  /-- A message left the command queue: `none` if the base class consumed it. -/
  | message (fate : Option Handling)

abbrev GroundEvent := Event GroundPath GroundStep GroundAnswer

/-- The framework's part of the way that does not change. -/
structure GroundFramework where
  /-- `PusTcReader`, by the telecommand it reads. -/
  parse : List UInt8 → Option Telecommand
  /-- `AcceptsTelecommandsIF::INVALID_SUBSERVICE`. -/
  invalidSubservice : Failure
  /-- The handler's command queue. -/
  handlerQueue : MessageQueueId

/-- The telecommand that a call of `sendCommand` packs. -/
def packedTelecommand (subservice : UInt8) (data : Payload) : Telecommand where
  subservice := subservice
  tcData := .bytes (if !data.isNull && 0 < data.len then data.data else [])

/-- Has the telecommand the format that the service accepts? -/
def Telecommand.wellFormed (t : Telecommand) : Bool := decide (WellFormed t.subservice t.tcData)

section

variable {fw : FwMessages} (framework : GroundFramework) (actionHelper : ActionHelper fw)

/-- What the service answers for a telecommand it cannot validate or route, and the base class for
every other. -/
def screen (lookup : HandlerLookup) (t : Telecommand) (base : BaseAnswer) : BaseAnswer :=
  let valid := isValidSubservice framework.invalidSubservice t.subservice
  let route := getMessageQueueAndObject lookup t.subservice
  if valid ≠ .ok then .reject valid
  else if route.ret ≠ .ok then .reject route.ret
  else base

/-- What is asked and decided about a telecommand that was just taken: the queue the service names,
and what is to be done. -/
def routed (lookup : HandlerLookup) (attempt : Attempt) (t : Telecommand) :
    Option MessageQueueId × BaseAnswer :=
  ((getMessageQueueAndObject lookup t.subservice).id, screen framework lookup t attempt.base)

/-- A request is started: `prepareCommand` makes its message, which is sent if the code is `OK`, and
is in the command queue if it was sent there and the queue had room. -/
def CommandPath.start (fw : FwMessages) (p : CommandPath) (t : Telecommand) (attempt : Attempt)
    (reaches : Bool) : Treatment × CommandPath :=
  let result := prepareCommand fw p.present attempt.getFreeElement p.ipcStore attempt.message
    t.subservice t.tcData
  let delivered : Bool :=
    decide (result.ret = .ok) && reaches && decide (p.commandQueue.length < cmdQueueSize)
  (.started result.ret delivered,
    { p with
      ipcStore := result.ipcStore
      commandQueue := if delivered then p.commandQueue ++ [result.message] else p.commandQueue })

/-- The packet of a request is deleted. -/
def GroundPath.release (g : GroundPath) (storeId : StoreAddress) : GroundPath :=
  { g with tc := { g.tc with tcStore := g.tc.tcStore.erase storeId } }

/-- A request is treated as the base class decides. -/
def GroundPath.treat (fw : FwMessages) (g : GroundPath) (request : HeldRequest) (t : Telecommand)
    (attempt : Attempt) (base : BaseAnswer) : Treatment × GroundPath :=
  match base with
  | .reject code => (.rejected code, g.release request.storeId)
  | .hold => (.held, { g with held := g.held ++ [request] })
  | .start sendMessage =>
      let reaches := sendMessage.isNone && decide (request.queue = some framework.handlerQueue)
      let (treatment, command) := g.command.start fw t attempt reaches
      (treatment, { g.release request.storeId with command := command })

/-- The base class turns to the request at this address, which is out of its place already; `ask`
tells the queue and the decision for the telecommand it reads there. -/
def GroundPath.turnTo (fw : FwMessages) (g : GroundPath) (source : RequestSource)
    (storeId : StoreAddress) (attempt : Attempt)
    (ask : Telecommand → Option MessageQueueId × BaseAnswer) : GroundAnswer × GroundPath :=
  match (g.tc.tcStore storeId).bind framework.parse with
  | none => (.unreadable, g.release storeId)
  | some t =>
      let (treatment, g) := g.treat framework fw ⟨storeId, (ask t).1⟩ t attempt (ask t).2
      (.treated source t treatment, g)

def groundPath : Machine GroundPath GroundStep GroundAnswer where
  step g
    | .sendCommand subservice data fsfw =>
        let (answer, tc) := g.tc.sendCommand subservice data fsfw
        (.sent answer, { g with tc := tc })
    | .serve lookup attempt =>
        match g.tc.requestQueue with
        | [] => (.nothing, g)
        | storeId :: rest =>
            { g with tc := { g.tc with requestQueue := rest } }.turnTo framework fw .requestQueue
              storeId attempt (routed framework lookup attempt)
    | .resume which attempt =>
        match g.held[which]? with
        | none => (.nothing, g)
        | some request =>
            { g with held := g.held.eraseIdx which }.turnTo framework fw .held request.storeId
              attempt fun _ => (request.queue, attempt.base)
    | .handleMessage routing =>
        match g.command.commandQueue, routing with
        | [], _ => (.nothing, g)
        | _ :: rest, .consume =>
            (.message none, { g with command := { g.command with commandQueue := rest } })
        | message :: rest, .child base =>
            let (handling, command) := g.command.handle actionHelper base message rest
            (.message (some handling), { g with command := command })
    | .overrideCall call =>
        (.nothing,
          { g with command := { g.command with handler := (g.command.handler.step call).2 } })
    | .otherUsers ipcStore tcStore =>
        (.nothing,
          { g with
            tc := { g.tc with tcStore := tcStore }
            command := { g.command with ipcStore := ipcStore } })

/-! ### What a history sent, took and delivered -/

/-- The telecommand that a call sent. -/
def sentTelecommand (e : GroundEvent) : Option Telecommand :=
  match e.input, e.output with
  | .sendCommand subservice data _, .sent answer =>
      if answer.ret = .ok then some (packedTelecommand subservice data) else none
  | _, _ => none

/-- The telecommand that the service took from its request queue. -/
def takenTelecommand (e : GroundEvent) : Option Telecommand :=
  match e.output with
  | .treated .requestQueue t _ => some t
  | _ => none

/-- The telecommand that was rejected before `prepareCommand`. -/
def rejectedTelecommand (e : GroundEvent) : Option Telecommand :=
  match e.output with
  | .treated _ t (.rejected _) => some t
  | _ => none

/-- The telecommand that was given to `prepareCommand`. -/
def startedTelecommand (e : GroundEvent) : Option Telecommand :=
  match e.output with
  | .treated _ t (.started _ _) => some t
  | _ => none

/-- The telecommand whose message was put into the handler's command queue. -/
def deliveredTelecommand (e : GroundEvent) : Option Telecommand :=
  match e.output with
  | .treated _ t (.started _ true) => some t
  | _ => none

/-- What became of a message that left the command queue. -/
def messageFate (e : GroundEvent) : Option (Option Handling) :=
  match e.output with
  | .message fate => some fate
  | _ => none

/-- The telecommands whose messages have left the command queue. -/
def reachedTelecommands (hist : List GroundEvent) : List Telecommand :=
  (hist.filterMap deliveredTelecommand).take (hist.filterMap messageFate).length

/-- What became of the message of a telecommand: the base class consumed it, or the telecommand was
served. -/
def Fated (fw : FwMessages) (t : Telecommand) : Option Handling → Prop
  | none => True
  | some handling => Served fw t handling

/-- The elements of the requests not yet done with. -/
def GroundPath.addresses (g : GroundPath) : List StoreAddress :=
  g.tc.requestQueue ++ g.held.map HeldRequest.storeId

/-- The stores hand out addresses that are not live, a serialised packet is read as what it was made
from, and other users of the stores leave alone the requests and the elements in flight to the
handler. -/
def groundDiscipline (fw : FwMessages) (_ : List GroundEvent) (g : GroundPath) : GroundStep → Prop
  | .sendCommand _ _ fsfw =>
      (∀ size a, fsfw.getFreeElement size = .ok a → ¬ g.tc.tcStore.Live a) ∧
        ∀ creator bytes, fsfw.serializeBe creator = .ok bytes →
          framework.parse bytes =
            some ⟨creator.subservice, .bytes (creator.rawAppData.getD [])⟩
  | .serve _ attempt | .resume _ attempt =>
      ∀ size a, attempt.getFreeElement size = .ok a → ¬ g.command.ipcStore.Live a
  | .otherUsers ipcStore tcStore =>
      (∀ a ∈ inFlight fw g.command.commandQueue, ipcStore a = g.command.ipcStore a) ∧
        ∀ a ∈ g.addresses, tcStore a = g.tc.tcStore a
  | _ => True

/-! ### Requests -/

/-- The telecommand in the packet at this address. -/
def readAt (tcStore : Store StoreAddress (List UInt8)) (a : StoreAddress) : Option Telecommand :=
  (tcStore a).bind framework.parse

/-- The telecommands that wait in the request queue. -/
def GroundPath.waiting (g : GroundPath) : List Telecommand :=
  g.tc.requestQueue.filterMap (readAt framework g.tc.tcStore)

/-- The telecommands that are kept back. -/
def GroundPath.heldBack (g : GroundPath) : List Telecommand :=
  g.held.filterMap fun request => readAt framework g.tc.tcStore request.storeId

/-- The distributor can send, and every request has a live element of its own. -/
structure GroundPath.Tidy (g : GroundPath) : Prop where
  ready : g.tc.Ready
  distinct : g.addresses.Nodup
  live : ∀ a ∈ g.addresses, g.tc.tcStore.Live a

variable {framework} {g g' : GroundPath}

theorem heldBack_congr (hheld : g'.held = g.held)
    (hstore : ∀ a ∈ g.addresses, g'.tc.tcStore a = g.tc.tcStore a) :
    g'.heldBack framework = g.heldBack framework := by
  rw [GroundPath.heldBack, GroundPath.heldBack, hheld]
  refine List.filterMap_congr fun request hrequest => ?_
  rw [readAt, readAt, hstore]
  exact List.mem_append_right _ (List.mem_map_of_mem hrequest)

theorem waiting_congr (hqueue : g'.tc.requestQueue = g.tc.requestQueue)
    (hstore : ∀ a ∈ g.addresses, g'.tc.tcStore a = g.tc.tcStore a) :
    g'.waiting framework = g.waiting framework := by
  rw [GroundPath.waiting, GroundPath.waiting, hqueue]
  refine List.filterMap_congr fun a ha => ?_
  rw [readAt, readAt, hstore]
  exact List.mem_append_left _ ha

/-- A step that spares the elements of the requests. -/
theorem GroundPath.Tidy.congr (tidy : g.Tidy) (hready : g'.tc.Ready)
    (hqueue : g'.tc.requestQueue = g.tc.requestQueue) (hheld : g'.held = g.held)
    (hstore : ∀ a ∈ g.addresses, g'.tc.tcStore a = g.tc.tcStore a) : g'.Tidy := by
  have hsame : g'.addresses = g.addresses := by
    rw [GroundPath.addresses, GroundPath.addresses, hqueue, hheld]
  refine ⟨hready, by rw [hsame]; exact tidy.distinct, fun a ha => ?_⟩
  rw [hsame] at ha
  rw [Store.Live, hstore a ha]
  exact tidy.live a ha

/-- The request at the front leaves the queue. -/
theorem GroundPath.Tidy.pop {storeId : StoreAddress} {rest : List StoreAddress} (tidy : g.Tidy)
    (hqueue : g.tc.requestQueue = storeId :: rest) :
    let popped : GroundPath := { g with tc := { g.tc with requestQueue := rest } }
    storeId ∉ popped.addresses ∧ popped.tc.tcStore.Live storeId ∧ popped.Tidy := by
  intro popped
  have hadded : g.addresses = storeId :: popped.addresses := by
    rw [GroundPath.addresses, hqueue]
    rfl
  obtain ⟨ready, distinct, live⟩ := tidy
  rw [hadded] at distinct live
  obtain ⟨hout, hnodup⟩ := List.nodup_cons.mp distinct
  exact ⟨hout, live storeId (List.mem_cons_self ..), ready, hnodup,
    fun a ha => live a (List.mem_cons_of_mem _ ha)⟩

theorem held_perm {which : Nat} {request : HeldRequest} (hheld : g.held[which]? = some request) :
    (request :: g.held.eraseIdx which).Perm g.held := by
  obtain ⟨hlength, rfl⟩ := List.getElem?_eq_some_iff.mp hheld
  exact List.getElem_cons_eraseIdx_perm hlength

/-- A request that was kept back leaves its place. -/
theorem GroundPath.Tidy.pick {which : Nat} {request : HeldRequest} (tidy : g.Tidy)
    (hheld : g.held[which]? = some request) :
    let picked : GroundPath := { g with held := g.held.eraseIdx which }
    request.storeId ∉ picked.addresses ∧ picked.tc.tcStore.Live request.storeId ∧
      picked.Tidy := by
  intro picked
  have hadded : (request.storeId :: picked.addresses).Perm g.addresses := by
    refine List.perm_middle.symm.trans ?_
    exact ((held_perm hheld).map HeldRequest.storeId).append_left _
  obtain ⟨ready, distinct, live⟩ := tidy
  obtain ⟨hout, hnodup⟩ := List.nodup_cons.mp (hadded.nodup_iff.mpr distinct)
  exact ⟨hout, live _ (hadded.mem_iff.mp (List.mem_cons_self ..)), ready, hnodup,
    fun a ha => live a (hadded.mem_iff.mp (List.mem_cons_of_mem _ ha))⟩

/-- **The ways of a request**: its packet cannot be read, or the base class rejects it, keeps it
back, or starts it. -/
theorem turnTo_cases (framework : GroundFramework) (fw : FwMessages) (g : GroundPath)
    (source : RequestSource) (storeId : StoreAddress) (attempt : Attempt)
    (ask : Telecommand → Option MessageQueueId × BaseAnswer) :
    let result := g.turnTo framework fw source storeId attempt ask
    (readAt framework g.tc.tcStore storeId = none ∧
        result = (.unreadable, g.release storeId)) ∨
      ∃ t, readAt framework g.tc.tcStore storeId = some t ∧
        ((∃ code, (ask t).2 = .reject code ∧
            result = (.treated source t (.rejected code), g.release storeId)) ∨
          ((ask t).2 = .hold ∧ result =
            (.treated source t .held, { g with held := g.held ++ [⟨storeId, (ask t).1⟩] })) ∨
          ∃ sendMessage, (ask t).2 = .start sendMessage ∧
            let started := g.command.start fw t attempt
              (sendMessage.isNone && decide ((ask t).1 = some framework.handlerQueue))
            result = (.treated source t started.1,
              { g.release storeId with command := started.2 })) := by
  simp only [GroundPath.turnTo]
  cases hread : (g.tc.tcStore storeId).bind framework.parse with
  | none => exact Or.inl ⟨hread, rfl⟩
  | some t =>
    refine Or.inr ⟨t, hread, ?_⟩
    simp only [GroundPath.treat]
    cases hbase : (ask t).2 with
    | reject code => exact Or.inl ⟨code, rfl, rfl⟩
    | hold => exact Or.inr (Or.inl ⟨rfl, rfl⟩)
    | start sendMessage => exact Or.inr (Or.inr ⟨sendMessage, rfl, rfl⟩)

section Treat

variable {storeId : StoreAddress} (tidy : g.Tidy) (hout : storeId ∉ g.addresses)

include hout in
theorem release_spares : ∀ a ∈ g.addresses, (g.release storeId).tc.tcStore a = g.tc.tcStore a :=
  fun _ ha => Store.erase_of_ne _ fun heq => hout (heq ▸ ha)

include tidy hout

theorem tidy_release : (g.release storeId).Tidy :=
  tidy.congr tidy.ready rfl rfl (release_spares hout)

theorem tidy_hold (hlive : g.tc.tcStore.Live storeId) (queue : Option MessageQueueId) :
    ({ g with held := g.held ++ [⟨storeId, queue⟩] } : GroundPath).Tidy := by
  have hadded : ({ g with held := g.held ++ [⟨storeId, queue⟩] } : GroundPath).addresses =
      g.addresses ++ [storeId] := by
    simp [GroundPath.addresses]
  refine ⟨tidy.ready, ?_, ?_⟩
  · rw [hadded]
    exact List.nodup_append.mpr ⟨tidy.distinct, List.nodup_singleton _,
      fun a ha b hb hab => hout (List.mem_singleton.mp hb ▸ hab ▸ ha)⟩
  · intro a ha
    rw [hadded] at ha
    rcases List.mem_append.mp ha with ha | ha
    · exact tidy.live a ha
    · rw [List.mem_singleton.mp ha]
      exact hlive

variable (fw) in
/-- **What turning to a request does to the requests**: whatever the base class decides, the others
stay as they are, and the request is done with unless it is kept back. -/
theorem turnTo_requests (hlive : g.tc.tcStore.Live storeId) (source : RequestSource)
    (attempt : Attempt) (ask : Telecommand → Option MessageQueueId × BaseAnswer) :
    let result := g.turnTo framework fw source storeId attempt ask
    result.2.Tidy ∧ result.2.waiting framework = g.waiting framework ∧
      ((readAt framework g.tc.tcStore storeId = none ∧ result.1 = .unreadable ∧
          result.2.heldBack framework = g.heldBack framework) ∨
        ∃ t treatment, readAt framework g.tc.tcStore storeId = some t ∧
          result.1 = .treated source t treatment ∧
          (treatment = .held → (ask t).2 = .hold) ∧
          (∀ ret delivered, treatment = .started ret delivered →
            ∃ sendMessage, (ask t).2 = .start sendMessage) ∧
          result.2.heldBack framework =
            if treatment = .held then g.heldBack framework ++ [t] else g.heldBack framework) := by
  have hreleased := tidy_release tidy hout
  have hspared := release_spares hout
  intro result
  rcases turnTo_cases framework fw g source storeId attempt ask with
    ⟨hread, hresult⟩ | ⟨t, hread, ⟨code, -, hresult⟩ | ⟨hhold, hresult⟩ |
      ⟨sendMessage, hstart, hresult⟩⟩
  · rw [show result = _ from hresult]
    exact ⟨hreleased, waiting_congr rfl hspared, Or.inl ⟨hread, rfl, heldBack_congr rfl hspared⟩⟩
  · rw [show result = _ from hresult]
    exact ⟨hreleased, waiting_congr rfl hspared, Or.inr ⟨t, .rejected code, hread, rfl,
      fun h => absurd h (by simp), fun _ _ h => absurd h (by simp), heldBack_congr rfl hspared⟩⟩
  · rw [show result = _ from hresult]
    refine ⟨tidy_hold tidy hout hlive _, rfl, Or.inr ⟨t, .held, hread, rfl, fun _ => hhold,
      fun _ _ h => absurd h (by simp), ?_⟩⟩
    rw [if_pos rfl, GroundPath.heldBack, List.filterMap_append]
    congr 1
    exact List.filterMap_cons_some hread
  · rw [show result = _ from hresult]
    refine ⟨hreleased.congr hreleased.ready rfl rfl fun _ _ => rfl, waiting_congr rfl hspared,
      Or.inr ⟨t, _, hread, rfl, fun h => absurd h (by simp [CommandPath.start]),
        fun _ _ _ => ⟨sendMessage, hstart⟩, ?_⟩⟩
    rw [if_neg (by simp [CommandPath.start])]
    exact heldBack_congr rfl hspared

end Treat

/-- The telecommands sent are those taken and those that wait; those taken are those started, those
rejected and those kept back. -/
structure RequestInvariant (framework : GroundFramework) (hist : List GroundEvent)
    (g : GroundPath) : Prop where
  tidy : g.Tidy
  sent : hist.filterMap sentTelecommand =
    hist.filterMap takenTelecommand ++ g.waiting framework
  taken : (hist.filterMap startedTelecommand ++ hist.filterMap rejectedTelecommand ++
    g.heldBack framework).Perm (hist.filterMap takenTelecommand)

/-- An event that treats no request. -/
theorem untreated {e : GroundEvent}
    (hother : ∀ source t treatment, e.output ≠ .treated source t treatment) :
    takenTelecommand e = none ∧ startedTelecommand e = none ∧ rejectedTelecommand e = none ∧
      deliveredTelecommand e = none := by
  unfold takenTelecommand startedTelecommand rejectedTelecommand deliveredTelecommand
  cases hout : e.output with
  | treated source t treatment => exact absurd hout (hother source t treatment)
  | _ => exact ⟨rfl, rfl, rfl, rfl⟩

/-- A step that sends nothing, turns to no request and spares the elements of the requests. -/
theorem requestInvariant_spare {hist : List GroundEvent} (e : GroundEvent)
    (hsent : sentTelecommand e = none)
    (hother : ∀ source t treatment, e.output ≠ .treated source t treatment)
    (hready : g'.tc.Ready) (hqueue : g'.tc.requestQueue = g.tc.requestQueue)
    (hheld : g'.held = g.held)
    (hstore : ∀ a ∈ g.addresses, g'.tc.tcStore a = g.tc.tcStore a)
    (inv : RequestInvariant framework hist g) : RequestInvariant framework (hist ++ [e]) g' := by
  obtain ⟨htaken, hstarted, hrejected, -⟩ := untreated hother
  refine ⟨inv.tidy.congr hready hqueue hheld hstore, ?_, ?_⟩
  · rw [filterMap_snoc, filterMap_snoc, hsent, htaken, waiting_congr hqueue hstore]
    simpa using inv.sent
  · rw [filterMap_snoc, filterMap_snoc, filterMap_snoc, htaken, hstarted, hrejected,
      heldBack_congr hheld hstore]
    simpa using inv.taken

/-- A step that sends nothing, turns to no request and leaves the telecommand side alone. -/
theorem requestInvariant_frame {hist : List GroundEvent} (e : GroundEvent)
    (hsent : sentTelecommand e = none)
    (hother : ∀ source t treatment, e.output ≠ .treated source t treatment)
    (htc : g'.tc = g.tc) (hheld : g'.held = g.held) (inv : RequestInvariant framework hist g) :
    RequestInvariant framework (hist ++ [e]) g' :=
  requestInvariant_spare e hsent hother (htc ▸ inv.tidy.ready) (by rw [htc]) hheld
    (fun a _ => by rw [htc]) inv

/-- **Turning to a request keeps the account**: `g` is the path with the request out of its place,
and what is known of the telecommands counts the request as taken and not yet treated. -/
theorem requestInvariant_turnTo {hist : List GroundEvent} {storeId : StoreAddress} (tidy : g.Tidy)
    (hout : storeId ∉ g.addresses) (hlive : g.tc.tcStore.Live storeId) (source : RequestSource)
    (attempt : Attempt) (ask : Telecommand → Option MessageQueueId × BaseAnswer) (e : GroundEvent)
    (hanswer : e.output = (g.turnTo framework fw source storeId attempt ask).1)
    (hnone : sentTelecommand e = none)
    (hsent : hist.filterMap sentTelecommand =
      (hist ++ [e]).filterMap takenTelecommand ++ g.waiting framework)
    (htaken : (hist.filterMap startedTelecommand ++ hist.filterMap rejectedTelecommand ++
      ((readAt framework g.tc.tcStore storeId).toList ++ g.heldBack framework)).Perm
        ((hist ++ [e]).filterMap takenTelecommand)) :
    RequestInvariant framework (hist ++ [e])
      (g.turnTo framework fw source storeId attempt ask).2 := by
  obtain ⟨htidy, hwaiting, hways⟩ :=
    turnTo_requests fw tidy hout hlive source attempt ask
  refine ⟨htidy, ?_, List.Perm.trans ?_ htaken⟩
  · rw [filterMap_snoc, hnone, hwaiting, Option.toList_none, List.append_nil]
    exact hsent
  · rw [filterMap_snoc, filterMap_snoc]
    rcases hways with ⟨hread, hunreadable, hheld⟩ | ⟨t, treatment, hread, htreated, -, -, hheld⟩
    · rw [hunreadable] at hanswer
      rw [startedTelecommand, rejectedTelecommand, hanswer, hheld, hread]
      simp
    · rw [htreated] at hanswer
      rw [startedTelecommand, rejectedTelecommand, hanswer, hheld, hread]
      -- the request moves from before the ones kept back to where its treatment puts it
      cases treatment with
      | rejected code => simp
      | held =>
        simp only [Option.toList_none, List.append_nil, if_true, Option.toList_some]
        exact (List.perm_append_singleton ..).append_left _
      | started ret delivered =>
        simp only [Option.toList_none, List.append_nil, Option.toList_some, reduceCtorEq, if_false,
          List.append_assoc, List.singleton_append]
        exact List.perm_middle.symm.append_left _

/-! ### The steps of the telecommand side -/

/-- What a call leaves behind, as far as waiting requests can tell: a call that fails spares the live
elements and the queue, one that succeeds adds a request for its serialised packet. -/
theorem sendCommand_requests (p : TcPath) (subservice : UInt8) (data : Payload) (fsfw : Fsfw)
    (ready : p.Ready) (fresh : ∀ size a, fsfw.getFreeElement size = .ok a → ¬ p.tcStore.Live a) :
    let after := (p.sendCommand subservice data fsfw).2
    let ret := (p.sendCommand subservice data fsfw).1.ret
    after.Ready ∧
      ((ret ≠ .ok ∧ after.requestQueue = p.requestQueue ∧
          ∀ x, p.tcStore.Live x → after.tcStore x = p.tcStore x) ∨
        ∃ a bytes, ¬ p.tcStore.Live a ∧ ret = .ok ∧
          fsfw.serializeBe (p.distributor.packetFor subservice data) = .ok bytes ∧
          after.tcStore = p.tcStore.put a bytes ∧ after.requestQueue = p.requestQueue ++ [a]) := by
  have hspec := p.sendCommand_spec subservice data fsfw ready fun a ha => fresh _ a ha
  intro after ret
  have hready : p.counted.registeredService = true ∧ p.counted.tcStore = true := ready
  simp only [after, ret, hspec]
  cases hfree : fsfw.getFreeElement
      (fsfw.getSerializedSize (p.distributor.packetFor subservice data)) with
  | error code => exact ⟨hready, Or.inl ⟨code.property, rfl, fun _ _ => rfl⟩⟩
  | ok a =>
    have hfresh := fresh _ a hfree
    cases hser : fsfw.serializeBe (p.distributor.packetFor subservice data) with
    | error code => exact ⟨hready, Or.inl ⟨code.property, rfl, fun _ _ => rfl⟩⟩
    | ok bytes =>
      cases hsend : fsfw.sendMessage with
      | some code =>
        refine ⟨hready, Or.inl ⟨code.property, rfl, fun x hx => ?_⟩⟩
        exact Store.put_of_ne _ _ fun heq => hfresh (heq ▸ hx)
      | none => exact ⟨hready, Or.inr ⟨a, bytes, hfresh, rfl, rfl, rfl, rfl⟩⟩

/-- A packet is read as the telecommand it was packed from. -/
theorem parse_packet {fsfw : Fsfw} {d : StubPusDistributor} {subservice : UInt8} {data : Payload}
    {bytes : List UInt8}
    (hparse : ∀ creator bytes, fsfw.serializeBe creator = .ok bytes →
      framework.parse bytes = some ⟨creator.subservice, .bytes (creator.rawAppData.getD [])⟩)
    (hser : fsfw.serializeBe (d.packetFor subservice data) = .ok bytes) :
    framework.parse bytes = some (packedTelecommand subservice data) := by
  rw [hparse _ _ hser]
  simp only [StubPusDistributor.packetFor, packedTelecommand]
  split_ifs <;> rfl

section Steps

variable {hist : List GroundEvent}

/-- A call of `sendCommand` spares the elements of the requests. -/
theorem sendCommand_spares (tidy : g.Tidy) (subservice : UInt8) (data : Payload) (fsfw : Fsfw)
    (fresh : ∀ size a, fsfw.getFreeElement size = .ok a → ¬ g.tc.tcStore.Live a) :
    ∀ x ∈ g.addresses, (g.tc.sendCommand subservice data fsfw).2.tcStore x = g.tc.tcStore x := by
  intro x hx
  obtain ⟨-, ⟨-, -, hstore⟩ | ⟨a, bytes, hfresh, -, -, hstore, -⟩⟩ :=
    sendCommand_requests g.tc subservice data fsfw tidy.ready fresh
  · exact hstore x (tidy.live x hx)
  · rw [hstore]
    exact Store.put_of_ne _ _ fun heq => hfresh (heq ▸ tidy.live x hx)

/-- Sending a telecommand keeps the account of requests. -/
theorem requestInvariant_send (subservice : UInt8) (data : Payload) (fsfw : Fsfw)
    (discipline : groundDiscipline framework fw hist g (.sendCommand subservice data fsfw))
    (inv : RequestInvariant framework hist g) :
    let step := GroundStep.sendCommand subservice data fsfw
    RequestInvariant framework (hist ++ [(groundPath framework actionHelper).event g step])
      ((groundPath framework actionHelper).step g step).2 := by
  intro step
  obtain ⟨fresh, hparse⟩ := discipline
  obtain ⟨hready, hways⟩ := sendCommand_requests g.tc subservice data fsfw inv.tidy.ready fresh
  obtain ⟨tidy, hsent, htaken⟩ := inv
  let after := ((groundPath framework actionHelper).step g step).2
  have hspared : ∀ x ∈ g.addresses, after.tc.tcStore x = g.tc.tcStore x :=
    sendCommand_spares tidy subservice data fsfw fresh
  have hback : after.heldBack framework = g.heldBack framework := heldBack_congr rfl hspared
  have hout : sentTelecommand ((groundPath framework actionHelper).event g step) =
      if (g.tc.sendCommand subservice data fsfw).1.ret = .ok then
        some (packedTelecommand subservice data) else none := rfl
  rcases hways with ⟨hret, hqueue, -⟩ | ⟨a, bytes, hfresh, hret, hser, hstore, hqueue⟩
  · refine ⟨tidy.congr hready hqueue rfl hspared, ?_, ?_⟩
    · rw [filterMap_snoc, filterMap_snoc, hout, if_neg hret, waiting_congr hqueue hspared]
      simpa [takenTelecommand, groundPath] using hsent
    · rw [filterMap_snoc, filterMap_snoc, filterMap_snoc,
        show GroundPath.heldBack framework _ = _ from hback]
      simpa [takenTelecommand, startedTelecommand, rejectedTelecommand, groundPath] using htaken
  · have hnew : a ∉ g.addresses := fun hmem => hfresh (tidy.live a hmem)
    have hadded : after.addresses.Perm (a :: g.addresses) := by
      show ((g.tc.sendCommand subservice data fsfw).2.requestQueue ++ _).Perm _
      rw [hqueue, List.append_assoc]
      exact List.perm_middle
    have hread : readAt framework after.tc.tcStore a = some (packedTelecommand subservice data) := by
      rw [readAt, show after.tc.tcStore = _ from hstore, Store.put_self, Option.bind_some]
      exact parse_packet hparse hser
    refine ⟨⟨hready, ?_, fun x hx => ?_⟩, ?_, ?_⟩
    · exact hadded.nodup_iff.mpr (List.nodup_cons.mpr ⟨hnew, tidy.distinct⟩)
    · rcases List.mem_cons.mp (hadded.mem_iff.mp hx) with rfl | hx
      · rw [show after.tc.tcStore = _ from hstore, Store.Live, Store.put_self]
        simp
      · rw [Store.Live, hspared x hx]
        exact tidy.live x hx
    · have hwaiting : after.waiting framework =
          g.waiting framework ++ [packedTelecommand subservice data] := by
        rw [GroundPath.waiting, show after.tc.requestQueue = _ from hqueue, List.filterMap_append,
          List.filterMap_cons_some hread]
        congr 1
        refine List.filterMap_congr fun x hx => ?_
        rw [readAt, readAt, hspared x (List.mem_append_left _ hx)]
      rw [filterMap_snoc, filterMap_snoc, hout, if_pos hret, hwaiting, hsent]
      simp [takenTelecommand, groundPath]
    · rw [filterMap_snoc, filterMap_snoc, filterMap_snoc,
        show GroundPath.heldBack framework _ = _ from hback]
      simpa [takenTelecommand, startedTelecommand, rejectedTelecommand, groundPath] using htaken

variable (framework) in
theorem serve_nil (lookup : HandlerLookup) (attempt : Attempt) (hqueue : g.tc.requestQueue = []) :
    (groundPath framework actionHelper).step g (.serve lookup attempt) = (.nothing, g) := by
  simp only [groundPath, hqueue]

variable (framework) in
theorem serve_cons (lookup : HandlerLookup) (attempt : Attempt) {storeId : StoreAddress}
    {rest : List StoreAddress} (hqueue : g.tc.requestQueue = storeId :: rest) :
    (groundPath framework actionHelper).step g (.serve lookup attempt) =
      { g with tc := { g.tc with requestQueue := rest } }.turnTo framework fw .requestQueue storeId
        attempt (routed framework lookup attempt) := by
  simp only [groundPath, hqueue]

variable (framework) in
theorem resume_none (which : Nat) (attempt : Attempt) (hheld : g.held[which]? = none) :
    (groundPath framework actionHelper).step g (.resume which attempt) = (.nothing, g) := by
  simp only [groundPath, hheld]

variable (framework) in
theorem resume_some (which : Nat) (attempt : Attempt) {request : HeldRequest}
    (hheld : g.held[which]? = some request) :
    (groundPath framework actionHelper).step g (.resume which attempt) =
      { g with held := g.held.eraseIdx which }.turnTo framework fw .held request.storeId attempt
        fun _ => (request.queue, attempt.base) := by
  simp only [groundPath, hheld]

/-- Taking a request from the queue keeps the account of requests. -/
theorem requestInvariant_serve (lookup : HandlerLookup) (attempt : Attempt)
    (inv : RequestInvariant framework hist g) :
    let step := GroundStep.serve lookup attempt
    RequestInvariant framework (hist ++ [(groundPath framework actionHelper).event g step])
      ((groundPath framework actionHelper).step g step).2 := by
  intro step
  cases hqueue : g.tc.requestQueue with
  | nil =>
    have hstep : (groundPath framework actionHelper).step g step = (.nothing, g) :=
      serve_nil framework actionHelper lookup attempt hqueue
    refine requestInvariant_frame _ rfl ?_ (by rw [hstep]) (by rw [hstep]) inv
    rw [Machine.event_output, hstep]
    exact fun _ _ _ h => by cases h
  | cons storeId rest =>
    obtain ⟨tidy, hsent, htaken⟩ := inv
    let popped : GroundPath := { g with tc := { g.tc with requestQueue := rest } }
    let ask := routed framework lookup attempt
    have hstep : (groundPath framework actionHelper).step g step =
        popped.turnTo framework fw .requestQueue storeId attempt ask :=
      serve_cons framework actionHelper lookup attempt hqueue
    obtain ⟨hout, hlive, hpopped⟩ := tidy.pop hqueue
    have hread : takenTelecommand ((groundPath framework actionHelper).event g step) =
        readAt framework g.tc.tcStore storeId := by
      rw [takenTelecommand, Machine.event_output, hstep]
      obtain ⟨-, -, ⟨hnone, hanswer, -⟩ | ⟨t, treatment, hsome, hanswer, -⟩⟩ :=
        turnTo_requests fw hpopped hout hlive .requestQueue attempt ask
      · rw [hanswer]
        exact hnone.symm
      · rw [hanswer]
        exact hsome.symm
    rw [hstep]
    refine requestInvariant_turnTo hpopped hout hlive .requestQueue attempt ask _
      (by rw [Machine.event_output, hstep]) rfl ?_ ?_
    · rw [filterMap_snoc, hread, hsent, GroundPath.waiting, hqueue, List.filterMap_cons,
        List.append_assoc]
      congr 1
      cases readAt framework g.tc.tcStore storeId <;> rfl
    · rw [filterMap_snoc, hread]
      refine List.Perm.trans ?_ (htaken.append_right _)
      rw [List.append_assoc _ (g.heldBack framework)]
      exact List.perm_append_comm.append_left _

/-- Turning to a request that was kept back keeps the account of requests. -/
theorem requestInvariant_resume (which : Nat) (attempt : Attempt)
    (inv : RequestInvariant framework hist g) :
    let step := GroundStep.resume which attempt
    RequestInvariant framework (hist ++ [(groundPath framework actionHelper).event g step])
      ((groundPath framework actionHelper).step g step).2 := by
  intro step
  cases hheld : g.held[which]? with
  | none =>
    have hstep : (groundPath framework actionHelper).step g step = (.nothing, g) :=
      resume_none framework actionHelper which attempt hheld
    refine requestInvariant_frame _ rfl ?_ (by rw [hstep]) (by rw [hstep]) inv
    rw [Machine.event_output, hstep]
    exact fun _ _ _ h => by cases h
  | some request =>
    obtain ⟨tidy, hsent, htaken⟩ := inv
    let picked : GroundPath := { g with held := g.held.eraseIdx which }
    let ask (_ : Telecommand) : Option MessageQueueId × BaseAnswer := (request.queue, attempt.base)
    have hstep : (groundPath framework actionHelper).step g step =
        picked.turnTo framework fw .held request.storeId attempt ask :=
      resume_some framework actionHelper which attempt hheld
    obtain ⟨hout, hlive, hpicked⟩ := tidy.pick hheld
    have hnone : takenTelecommand ((groundPath framework actionHelper).event g step) = none := by
      rw [takenTelecommand, Machine.event_output, hstep]
      obtain ⟨-, -, ⟨-, hanswer, -⟩ | ⟨t, treatment, -, hanswer, -⟩⟩ :=
        turnTo_requests fw hpicked hout hlive .held attempt ask
      · rw [hanswer]
      · rw [hanswer]
    rw [hstep]
    refine requestInvariant_turnTo hpicked hout hlive .held attempt ask _
      (by rw [Machine.event_output, hstep]) rfl ?_ ?_
    · rw [filterMap_snoc, hnone, Option.toList_none, List.append_nil]
      exact hsent
    · rw [filterMap_snoc, hnone, Option.toList_none, List.append_nil]
      refine List.Perm.trans (List.Perm.append_left _ ?_) htaken
      -- the request counts among those kept back before the step
      have hback := (held_perm hheld).filterMap fun r => readAt framework g.tc.tcStore r.storeId
      refine List.Perm.trans ?_ hback
      rw [List.filterMap_cons]
      cases readAt framework g.tc.tcStore request.storeId <;> exact List.Perm.refl _

variable (framework) in
/-- A message that leaves the command queue leaves the telecommand side alone. -/
theorem handleMessage_requests (routing : Routing) :
    let next := (groundPath framework actionHelper).step g (.handleMessage routing)
    next.2.tc = g.tc ∧ next.2.held = g.held ∧
      ∀ source t treatment, next.1 ≠ .treated source t treatment := by
  simp only [groundPath]
  split <;> exact ⟨rfl, rfl, fun _ _ _ h => by cases h⟩

variable (framework g) in
/-- **Which steps turn to a request**: the service taking one, and the base class turning to one that
it kept back. -/
theorem step_treats (step : GroundStep) :
    let next := (groundPath framework actionHelper).step g step
    ((∀ source t treatment, next.1 ≠ .treated source t treatment) ∧ next.2.held = g.held ∧
        next.2.command.present = g.command.present) ∨
      (∃ lookup attempt storeId rest, step = .serve lookup attempt ∧
        g.tc.requestQueue = storeId :: rest ∧
        next = { g with tc := { g.tc with requestQueue := rest } }.turnTo framework fw .requestQueue
          storeId attempt (routed framework lookup attempt)) ∨
      ∃ which attempt request, step = .resume which attempt ∧ g.held[which]? = some request ∧
        next = { g with held := g.held.eraseIdx which }.turnTo framework fw .held request.storeId
          attempt fun _ => (request.queue, attempt.base) := by
  intro next
  cases step with
  | sendCommand subservice data fsfw => exact Or.inl ⟨fun _ _ _ h => (by cases h), rfl, rfl⟩
  | handleMessage routing =>
    obtain ⟨-, hheld, hother⟩ := handleMessage_requests framework actionHelper (g := g) routing
    refine Or.inl ⟨hother, hheld, ?_⟩
    simp only [next, groundPath]
    split <;> rfl
  | overrideCall call => exact Or.inl ⟨fun _ _ _ h => (by cases h), rfl, rfl⟩
  | otherUsers ipcStore tcStore => exact Or.inl ⟨fun _ _ _ h => (by cases h), rfl, rfl⟩
  | serve lookup attempt =>
    cases hqueue : g.tc.requestQueue with
    | nil =>
      refine Or.inl ?_
      rw [show next = _ from serve_nil framework actionHelper lookup attempt hqueue]
      exact ⟨fun _ _ _ h => (by cases h), rfl, rfl⟩
    | cons storeId rest =>
      exact Or.inr (Or.inl ⟨lookup, attempt, storeId, rest, rfl, rfl,
        serve_cons framework actionHelper lookup attempt hqueue⟩)
  | resume which attempt =>
    cases hheld : g.held[which]? with
    | none =>
      refine Or.inl ?_
      rw [show next = _ from resume_none framework actionHelper which attempt hheld]
      exact ⟨fun _ _ _ h => (by cases h), rfl, rfl⟩
    | some request =>
      exact Or.inr (Or.inr ⟨which, attempt, request, rfl, hheld,
        resume_some framework actionHelper which attempt hheld⟩)

/-- **Every step keeps the account of requests.** -/
theorem requestInvariant_step (step : GroundStep)
    (discipline : groundDiscipline framework fw hist g step)
    (inv : RequestInvariant framework hist g) :
    RequestInvariant framework (hist ++ [(groundPath framework actionHelper).event g step])
      ((groundPath framework actionHelper).step g step).2 := by
  cases step with
  | sendCommand subservice data fsfw =>
    exact requestInvariant_send actionHelper subservice data fsfw discipline inv
  | serve lookup attempt => exact requestInvariant_serve actionHelper lookup attempt inv
  | resume which attempt => exact requestInvariant_resume actionHelper which attempt inv
  | handleMessage routing =>
    obtain ⟨htc, hheld, hother⟩ :=
      handleMessage_requests framework actionHelper (g := g) routing
    exact requestInvariant_frame _ rfl hother htc hheld inv
  | overrideCall call =>
    exact requestInvariant_frame (g := g) _ rfl (fun _ _ _ h => by cases h) rfl rfl inv
  | otherUsers ipcStore tcStore =>
    exact requestInvariant_spare (g := g) _ rfl (fun _ _ _ h => by cases h) inv.tidy.ready rfl rfl
      discipline.2 inv

/-! ### The command queue -/

/-- What a run delivered was answered or is in flight, and the queue keeps its depth. -/
structure GroundFlight (fw : FwMessages) (answered : Telecommand → Option Handling → Prop)
    (hist : List GroundEvent) (g : GroundPath) : Prop where
  flight : Flight fw answered (hist.filterMap deliveredTelecommand) (hist.filterMap messageFate)
    g.command
  depth : g.command.commandQueue.length ≤ cmdQueueSize

section Flight

variable {answered : Telecommand → Option Handling → Prop}

/-- A step that delivers nothing, takes no message, keeps the queue and spares the elements in
flight. -/
theorem groundFlight_frame {e : GroundEvent} (hdelivered : deliveredTelecommand e = none)
    (hfate : messageFate e = none) (hqueue : g'.command.commandQueue = g.command.commandQueue)
    (hstore : ∀ a ∈ inFlight fw g.command.commandQueue,
      g'.command.ipcStore a = g.command.ipcStore a)
    (inv : GroundFlight fw answered hist g) : GroundFlight fw answered (hist ++ [e]) g' := by
  obtain ⟨flight, depth⟩ := inv
  refine ⟨?_, by rw [hqueue]; exact depth⟩
  rw [filterMap_snoc, filterMap_snoc, hdelivered, hfate, Option.toList_none, Option.toList_none,
    List.append_nil, List.append_nil]
  exact flight.spare hqueue hstore

/-- Starting a request keeps the account of the command queue. -/
theorem flight_start {delivered : List Telecommand} {fates : List (Option Handling)}
    {p : CommandPath} (flight : Flight fw answered delivered fates p)
    (depth : p.commandQueue.length ≤ cmdQueueSize) (t : Telecommand) (attempt : Attempt)
    (fresh : ∀ size a, attempt.getFreeElement size = .ok a → ¬ p.ipcStore.Live a) (reaches : Bool)
    {e : GroundEvent} {source : RequestSource}
    (hanswer : e.output = .treated source t (p.start fw t attempt reaches).1) :
    Flight fw answered (delivered ++ (deliveredTelecommand e).toList) fates
        (p.start fw t attempt reaches).2 ∧
      (p.start fw t attempt reaches).2.commandQueue.length ≤ cmdQueueSize := by
  let result := prepareCommand fw p.present attempt.getFreeElement p.ipcStore attempt.message
    t.subservice t.tcData
  let queued : Bool :=
    decide (result.ret = .ok) && reaches && decide (p.commandQueue.length < cmdQueueSize)
  have hstart : p.start fw t attempt reaches = (.started result.ret queued, { p with
      ipcStore := result.ipcStore
      commandQueue :=
        if queued = true then p.commandQueue ++ [result.message] else p.commandQueue }) := rfl
  have hok : queued = true → result.ret = .ok ∧ p.commandQueue.length < cmdQueueSize := by
    intro hqueued
    simp only [queued, Bool.and_eq_true, decide_eq_true_eq] at hqueued
    exact ⟨hqueued.1.1, hqueued.2⟩
  have hflight := flight.prepare attempt.message t attempt.getFreeElement fresh (queued = true)
    fun hqueued => (hok hqueued).1
  rw [hstart] at hanswer ⊢
  rw [deliveredTelecommand, hanswer]
  cases hqueued : queued with
  | false =>
    simp only [hqueued, Bool.false_eq_true, if_false] at hflight ⊢
    rw [Option.toList_none, List.append_nil]
    exact ⟨hflight, depth⟩
  | true =>
    simp only [hqueued, if_true] at hflight ⊢
    refine ⟨hflight, ?_⟩
    have hroom := (hok hqueued).2
    rw [List.length_append, List.length_singleton]
    omega

/-- Turning to a request keeps the account of the command queue. -/
theorem groundFlight_turnTo (source : RequestSource) (storeId : StoreAddress) (attempt : Attempt)
    (ask : Telecommand → Option MessageQueueId × BaseAnswer) {e : GroundEvent}
    (hanswer : e.output = (g.turnTo framework fw source storeId attempt ask).1)
    (fresh : ∀ size a, attempt.getFreeElement size = .ok a → ¬ g.command.ipcStore.Live a)
    (inv : GroundFlight fw answered hist g) :
    GroundFlight fw answered (hist ++ [e])
      (g.turnTo framework fw source storeId attempt ask).2 := by
  have hkept : ∀ g' : GroundPath, g'.command = g.command → deliveredTelecommand e = none →
      messageFate e = none → GroundFlight fw answered (hist ++ [e]) g' := by
    intro g' hcommand hdelivered hfate
    exact groundFlight_frame hdelivered hfate (by rw [hcommand]) (fun a _ => by rw [hcommand]) inv
  rcases turnTo_cases framework fw g source storeId attempt ask with
    ⟨-, hresult⟩ | ⟨t, -, ⟨code, -, hresult⟩ | ⟨-, hresult⟩ | ⟨sendMessage, -, hresult⟩⟩
  · rw [hresult] at hanswer ⊢
    exact hkept _ rfl (by rw [deliveredTelecommand, hanswer]) (by rw [messageFate, hanswer])
  · rw [hresult] at hanswer ⊢
    exact hkept _ rfl (by rw [deliveredTelecommand, hanswer]) (by rw [messageFate, hanswer])
  · rw [hresult] at hanswer ⊢
    exact hkept _ rfl (by rw [deliveredTelecommand, hanswer]) (by rw [messageFate, hanswer])
  · rw [hresult] at hanswer ⊢
    obtain ⟨hflight, hdepth⟩ := flight_start inv.flight inv.depth t attempt fresh _ hanswer
    have hfate : messageFate e = none := by rw [messageFate, hanswer]
    refine ⟨?_, hdepth⟩
    rw [filterMap_snoc, filterMap_snoc, hfate, Option.toList_none, List.append_nil]
    exact hflight

variable (framework) in
theorem handleMessage_nil (routing : Routing) (hqueue : g.command.commandQueue = []) :
    (groundPath framework actionHelper).step g (.handleMessage routing) = (.nothing, g) := by
  simp only [groundPath, hqueue]

variable (framework) in
theorem handleMessage_consume {message : CommandMessage} {rest : List CommandMessage}
    (hqueue : g.command.commandQueue = message :: rest) :
    (groundPath framework actionHelper).step g (.handleMessage .consume) =
      (.message none, { g with command := { g.command with commandQueue := rest } }) := by
  simp only [groundPath, hqueue]

variable (framework) in
theorem handleMessage_child (base : ReturnValue) {message : CommandMessage}
    {rest : List CommandMessage} (hqueue : g.command.commandQueue = message :: rest) :
    (groundPath framework actionHelper).step g (.handleMessage (.child base)) =
      (.message (some (g.command.handle actionHelper base message rest).1),
        { g with command := (g.command.handle actionHelper base message rest).2 }) := by
  simp only [groundPath, hqueue]

/-- A message that leaves the queue keeps the account, where being served is an answer and so is
being consumed. -/
theorem groundFlight_handleMessage (routing : Routing)
    (hserved : ∀ t handling, Served fw t handling → answered t (some handling))
    (hconsumed : ∀ t, ∀ message ∈ g.command.commandQueue.head?, routing = .consume →
      Carries fw g.command.ipcStore t message → answered t none)
    (inv : GroundFlight fw answered hist g) :
    let step := GroundStep.handleMessage routing
    GroundFlight fw answered (hist ++ [(groundPath framework actionHelper).event g step])
      ((groundPath framework actionHelper).step g step).2 := by
  intro step
  have hdelivered : ∀ fate : Option Handling,
      ((groundPath framework actionHelper).step g step).1 = .message fate →
      deliveredTelecommand ((groundPath framework actionHelper).event g step) = none ∧
        messageFate ((groundPath framework actionHelper).event g step) = some fate := by
    intro fate hanswer
    rw [deliveredTelecommand, messageFate, Machine.event_output, hanswer]
    exact ⟨rfl, rfl⟩
  cases hqueue : g.command.commandQueue with
  | nil =>
    have hstep : (groundPath framework actionHelper).step g step = (.nothing, g) :=
      handleMessage_nil framework actionHelper routing hqueue
    refine groundFlight_frame ?_ ?_ (by rw [hstep]) (fun a _ => by rw [hstep]) inv
    · rw [deliveredTelecommand, Machine.event_output, hstep]
    · rw [messageFate, Machine.event_output, hstep]
  | cons message rest =>
    obtain ⟨flight, depth⟩ := inv
    have hrest : rest.length ≤ cmdQueueSize := by
      rw [hqueue, List.length_cons] at depth
      omega
    cases routing with
    | consume =>
      have hstep := handleMessage_consume framework actionHelper hqueue
      obtain ⟨hnone, hfate⟩ := hdelivered none (by rw [hstep])
      obtain ⟨t, hcarry, htake⟩ := flight.take hqueue
      have hanswered := hconsumed t message (by rw [hqueue]; rfl) rfl hcarry
      rw [hstep]
      refine ⟨?_, hrest⟩
      rw [filterMap_snoc, filterMap_snoc, hnone, hfate, Option.toList_none, List.append_nil]
      exact htake _ none hanswered rfl fun _ _ => rfl
    | child base =>
      have hstep := handleMessage_child framework actionHelper base hqueue
      obtain ⟨hnone, hfate⟩ := hdelivered _ (by rw [hstep])
      rw [hstep]
      refine ⟨?_, hrest⟩
      rw [filterMap_snoc, filterMap_snoc, hnone, hfate, Option.toList_none, List.append_nil]
      exact Flight.handle actionHelper base flight hqueue some hserved

/-- **Every step keeps the account of the command queue.** -/
theorem groundFlight_step (step : GroundStep)
    (discipline : groundDiscipline framework fw hist g step)
    (hserved : ∀ t handling, Served fw t handling → answered t (some handling))
    (hconsumed : ∀ t, ∀ message ∈ g.command.commandQueue.head?, step = .handleMessage .consume →
      Carries fw g.command.ipcStore t message → answered t none)
    (inv : GroundFlight fw answered hist g) :
    GroundFlight fw answered (hist ++ [(groundPath framework actionHelper).event g step])
      ((groundPath framework actionHelper).step g step).2 := by
  cases step with
  | sendCommand subservice data fsfw =>
    exact groundFlight_frame (g := g) rfl rfl rfl (fun _ _ => rfl) inv
  | serve lookup attempt =>
    cases hqueue : g.tc.requestQueue with
    | nil =>
      have hstep := serve_nil framework actionHelper lookup attempt hqueue
      refine groundFlight_frame ?_ ?_ (by rw [hstep]) (fun a _ => by rw [hstep]) inv
      · rw [deliveredTelecommand, Machine.event_output, hstep]
      · rw [messageFate, Machine.event_output, hstep]
    | cons storeId rest =>
      have hstep := serve_cons framework actionHelper lookup attempt hqueue
      rw [hstep]
      exact groundFlight_turnTo _ storeId attempt _ (by rw [Machine.event_output, hstep])
        discipline ⟨inv.flight, inv.depth⟩
  | resume which attempt =>
    cases hheld : g.held[which]? with
    | none =>
      have hstep := resume_none framework actionHelper which attempt hheld
      refine groundFlight_frame ?_ ?_ (by rw [hstep]) (fun a _ => by rw [hstep]) inv
      · rw [deliveredTelecommand, Machine.event_output, hstep]
      · rw [messageFate, Machine.event_output, hstep]
    | some request =>
      have hstep := resume_some framework actionHelper which attempt hheld
      rw [hstep]
      exact groundFlight_turnTo _ request.storeId attempt _ (by rw [Machine.event_output, hstep])
        discipline ⟨inv.flight, inv.depth⟩
  | handleMessage routing =>
    exact groundFlight_handleMessage actionHelper routing hserved
      (fun t message hmessage hrouting => hconsumed t message hmessage (by rw [hrouting])) inv
  | overrideCall call => exact groundFlight_frame (g := g) rfl rfl rfl (fun _ _ => rfl) inv
  | otherUsers ipcStore tcStore =>
    exact groundFlight_frame (g := g) rfl rfl rfl discipline.1 inv

end Flight

end Steps

end

end FsfwFromZero
