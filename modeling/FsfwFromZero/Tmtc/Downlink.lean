import FsfwFromZero.Lib.Fifo
import FsfwFromZero.Tmtc.QueueLifetime
import FsfwFromZero.Tmtc.ReplyHandling
import FsfwFromZero.Tmtc.TelemetryDrain

/-!
# From a reply to the ground

The way of the data that a reply brings: the service takes the element out of the IPC store and
gives its bytes to `sendTmPacket`, which puts a packet into the telemetry store and sends its
address to the queue that the service was told; the telemetry sink prints a line for each packet in
the queue it has, and frees it.  The service asks for the queue once, and the sink creates a new one
whenever it is initialised, so that the two need not be the same.

* `Downlink`, `downlink : Machine` — IPC store, telemetry store, the sink with its queues and the
  queue id that the service holds, with the other users of the IPC store;
* `relayedPacket_iff` — a reply relays a packet exactly if it brings a live element, the packet is
  stored and the queue that the service holds takes it;
* `Filed` — the run invariant: every packet relayed to a queue was shown or waits there, and what
  waits is what the telemetry store has in addition; `filed_step` — every step keeps it;
* `replies_reach_the_ground` — **the packets of each queue are shown in order**, all of those in the
  sink's own queue, and none is left behind where the service holds that queue.
-/

namespace FsfwFromZero

open Lib WebcamCommandingService

structure Downlink where
  ipcStore : IpcStore
  tmStore : Store StoreAddress (List UInt8)
  /-- The telemetry sink and the queues it created. -/
  world : SinkWorld StubTelemetrySink StoreAddress
  /-- The queue that the service sends to, `none` for `MessageQueueIF::NO_QUEUE`. -/
  handle : Option MessageQueueId

/-- A reply as the service gets it, with what the framework answers: `getData` for an address that
is not live, the telemetry store to the packet, and `sendTmPacket` if the queue does not take it. -/
structure ReplyInput where
  reply : CommandMessage
  objectId : UInt32
  isStep : Bool
  getDataFailure : Failure
  storePacket : Except Failure StoreAddress
  refused : Failure
  /-- Does a packet that is stored and not sent stay in the telemetry store? -/
  unsentStays : Bool

inductive DownlinkStep
  | initializeSink (objects : SinkObjects)
  /-- The service takes the queue id from the sink. -/
  | takeHandle
  | reply (input : ReplyInput)
  | performOperation
  | otherUsers (ipcStore : IpcStore)

/-- A packet that was stored, and the queue that its address was sent to. -/
structure RelayedPacket where
  queue : MessageQueueId
  storeId : StoreAddress
  packet : TmPacket
  deriving Repr, DecidableEq

structure DownlinkAnswer where
  /-- What `handleReply` did. -/
  result : Option ReplyResult := none
  relayed : Option RelayedPacket := none
  /-- The address of a packet that was stored, was not sent and stays. -/
  left : Option StoreAddress := none
  /-- The queue that the sink drained, and what it printed. -/
  drained : Option MessageQueueId := none
  lines : List TmLine := []

abbrev DownlinkEvent := Event Downlink DownlinkStep DownlinkAnswer

/-- `sendTmPacket`: the packet is stored, and its address sent to the queue the service holds. -/
def Downlink.sendTmPacket (d : Downlink) (input : ReplyInput) :
    Except Failure (MessageQueueId × StoreAddress) :=
  match input.storePacket, d.handle with
  | .error code, _ => .error code
  | .ok _, none => .error input.refused
  | .ok a, some queue =>
      if ((sinkWorld telemetrySink).step d.world (.send queue a)).1.accepted then .ok (queue, a)
      else .error input.refused

/-- The packet that `sendTmPacket` stores, does not send and leaves in the store. -/
def Downlink.unsent (d : Downlink) (input : ReplyInput) : Option StoreAddress :=
  match d.sendTmPacket input, input.storePacket with
  | .error _, .ok a => if input.unsentStays then some a else none
  | _, _ => none

/-- The code `sendTmPacket` returns. -/
def sendCode {α : Type} : Except Failure α → ReturnValue
  | .ok _ => .ok
  | .error code => code

/-- The reply as `handleReply` gets it. -/
def Downlink.call (d : Downlink) (input : ReplyInput) : ReplyCall where
  reply := input.reply
  objectId := input.objectId
  isStep := input.isStep
  getDataFailure := input.getDataFailure
  sendTmPacket _ := sendCode (d.sendTmPacket input)

section

variable (fw : FwMessages) (replies : FwReplies) (encode : TmPacket → List UInt8)
  (parse : StoreAddress → List UInt8 → Option PusTmHeader)

/-- The service has its IPC store.  A packet in the telemetry store has the bytes `encode` gives it;
`parse` is how the sink reads them. -/
def downlink : Machine Downlink DownlinkStep DownlinkAnswer where
  step d
    | .initializeSink objects =>
        ({}, { d with world := ((sinkWorld telemetrySink).step d.world (.call (.init objects))).2 })
    | .takeHandle => ({}, { d with handle := d.world.sink.getReportReceptionQueue })
    | .reply input =>
        let result := handleReply fw replies true d.ipcStore (d.call input)
        match d.sendTmPacket input, result.packets with
        | .ok (queue, a), [packet] =>
            ({ result := some result, relayed := some ⟨queue, a, packet⟩ },
              { d with
                ipcStore := result.ipcStore
                tmStore := d.tmStore.put a (encode packet)
                world := ((sinkWorld telemetrySink).step d.world (.send queue a)).2 })
        | _, [packet] =>
            ({ result := some result, left := d.unsent input },
              { d with
                ipcStore := result.ipcStore
                tmStore := (d.unsent input).elim d.tmStore fun a =>
                  d.tmStore.put a (encode packet) })
        | _, _ => ({ result := some result }, { d with ipcStore := result.ipcStore })
    | .performOperation =>
        -- the loop handles what is taken from the queue
        let (answer, world) := (sinkWorld telemetrySink).step d.world (.call .performOperation)
        match StubTelemetrySink.performOperation parse d.world.sink (answer.taken.length + 1)
          { queue := answer.taken, tmStore := d.tmStore } with
        | some (_, drain) =>
            ({ drained := answer.answer.drained, lines := drain.lines },
              { d with tmStore := drain.tmStore, world := world })
        | none => ({}, d)
    | .otherUsers ipcStore => ({}, { d with ipcStore := ipcStore })

/-- Packets are stored at new addresses, and the queues that the factory creates are new. -/
def downlinkDiscipline (_ : List DownlinkEvent) (d : Downlink) : DownlinkStep → Prop
  | .initializeSink objects =>
      ∀ id, objects.createMessageQueue = some id → ¬ d.world.queues.Live id
  | .reply input => ∀ a, input.storePacket = .ok a → ¬ d.tmStore.Live a
  | _ => True

/-- The service holds the sink's queue when it relays a packet, and the sink is initialised only
while nothing waits. -/
def holdsSinkQueue (_ : List DownlinkEvent) (d : Downlink) : DownlinkStep → Prop
  | .initializeSink _ => ∀ id, d.world.waiting id = []
  | .reply _ => d.handle = d.world.sink.queue
  | _ => True

/-- The line for a packet. -/
def packetLine (p : RelayedPacket) : TmLine := reportLine parse p.storeId (encode p.packet)

/-- The packets relayed to a queue, oldest first. -/
def relayedTo (id : MessageQueueId) (hist : List DownlinkEvent) : List RelayedPacket :=
  hist.filterMap fun e => e.output.relayed.filter fun p => p.queue = id

/-- The lines printed for the packets of a queue, oldest first. -/
def linesFrom (id : MessageQueueId) (hist : List DownlinkEvent) : List TmLine :=
  hist.flatMap fun e => if e.output.drained = some id then e.output.lines else []

/-- The packets that were left in the telemetry store unsent. -/
def leftBehind (hist : List DownlinkEvent) : List StoreAddress := hist.filterMap (·.output.left)

theorem linesFrom_snoc (id : MessageQueueId) (hist : List DownlinkEvent) (e : DownlinkEvent) :
    linesFrom id (hist ++ [e]) =
      linesFrom id hist ++ if e.output.drained = some id then e.output.lines else [] := by
  rw [linesFrom, List.flatMap_append, List.flatMap_singleton, ← linesFrom]

/-! ### What the steps do to the queues -/

/-- Initialising the sink adds a queue in which nothing waits. -/
theorem waiting_initializeSink (w : SinkWorld StubTelemetrySink StoreAddress)
    (objects : SinkObjects)
    (fresh : ∀ id, objects.createMessageQueue = some id → ¬ w.queues.Live id)
    (id : MessageQueueId) :
    ((sinkWorld telemetrySink).step w (.call (.init objects))).2.waiting id = w.waiting id :=
  waiting_created w (some objects.createMessageQueue)
    (fun new hnew => fresh new (Option.some.inj hnew)) id

/-- A queue that takes a message has it at its end. -/
theorem waiting_send (w : SinkWorld StubTelemetrySink StoreAddress) (queue : MessageQueueId)
    (a : StoreAddress)
    (taken : ((sinkWorld telemetrySink).step w (.send queue a)).1.accepted = true)
    (id : MessageQueueId) :
    ((sinkWorld telemetrySink).step w (.send queue a)).2.waiting id =
      if id = queue then w.waiting queue ++ [a] else w.waiting id := by
  rcases send_cases telemetrySink w queue a with hstep | ⟨waiting, hqueue, -, hstep⟩
  · rw [hstep] at taken
    cases taken
  · rw [hstep]
    by_cases hid : id = queue
    · subst hid
      rw [if_pos rfl]
      simp only [SinkWorld.waiting, Store.put_self, hqueue, Option.getD_some]
    · rw [if_neg hid]
      show (w.queues.put queue (waiting ++ [a]) id).getD [] = _
      rw [Store.put_of_ne _ _ hid, SinkWorld.waiting]

/-- Draining takes all that waits in one queue. -/
theorem waiting_performOperation (w : SinkWorld StubTelemetrySink StoreAddress)
    {queue : MessageQueueId} (hdrained : w.sink.drainedQueue = some queue) :
    let next := (sinkWorld telemetrySink).step w (.call .performOperation)
    next.1.taken = w.waiting queue ∧
      ∀ id, next.2.waiting id = if id = queue then [] else w.waiting id := by
  have hnext : (sinkWorld telemetrySink).step w (.call .performOperation) =
      ({ answer := { drained := some queue }, taken := (emptied w.queues (some queue)).1 },
        ⟨w.sink, (emptied w.queues (some queue)).2⟩) := by
    rw [← hdrained]
    rfl
  intro next
  rw [show next = _ from hnext]
  cases hqueue : w.queues queue with
  | none =>
    refine ⟨by simp [emptied, hqueue, SinkWorld.waiting], fun id => ?_⟩
    by_cases hid : id = queue
    · simp [emptied, hqueue, SinkWorld.waiting, hid]
    · simp [emptied, hqueue, SinkWorld.waiting, hid]
  | some waiting =>
    refine ⟨by simp [emptied, hqueue, SinkWorld.waiting], fun id => ?_⟩
    by_cases hid : id = queue
    · simp [emptied, hqueue, SinkWorld.waiting, hid]
    · simp [emptied, hqueue, SinkWorld.waiting, hid, Store.put_of_ne _ _ hid]

/-! ### One reply -/

/-- A packet is sent to the queue that the service holds, if it is stored and that queue takes
it. -/
theorem sendTmPacket_ok_iff (d : Downlink) (input : ReplyInput) (queue : MessageQueueId)
    (a : StoreAddress) :
    d.sendTmPacket input = .ok (queue, a) ↔
      d.handle = some queue ∧ input.storePacket = .ok a ∧
        ((sinkWorld telemetrySink).step d.world (.send queue a)).1.accepted = true := by
  unfold Downlink.sendTmPacket
  cases hstore : input.storePacket with
  | error code => simp
  | ok a' =>
    cases hhandle : d.handle with
    | none => simp
    | some queue' =>
      by_cases haccepted :
          ((sinkWorld telemetrySink).step d.world (.send queue' a')).1.accepted = true
      · simp only [haccepted, if_true]
        constructor
        · intro h
          cases h
          exact ⟨rfl, rfl, haccepted⟩
        · rintro ⟨hqueue, ha, -⟩
          cases hqueue
          cases ha
          rfl
      · simp only [haccepted, Bool.false_eq_true, if_false]
        refine iff_of_false (by simp) ?_
        rintro ⟨hqueue, ha, htaken⟩
        cases hqueue
        cases ha
        exact haccepted htaken

theorem storePacket_of_unsent {d : Downlink} {input : ReplyInput} {a : StoreAddress}
    (h : d.unsent input = some a) : input.storePacket = .ok a := by
  unfold Downlink.unsent at h
  split at h
  · rename_i hstored
    split at h
    · cases h
      exact hstored
    · cases h
  · cases h

/-- What a reply does to the downlink: it relays a packet, it leaves one in the store, or neither. -/
theorem downlink_reply (d : Downlink) (input : ReplyInput) :
    let next := (downlink fw replies encode parse).step d (.reply input)
    let result := handleReply fw replies true d.ipcStore (d.call input)
    (next.1.drained = none ∧ next.1.lines = []) ∧
      ((∃ queue a packet, d.sendTmPacket input = .ok (queue, a) ∧ result.packets = [packet] ∧
          next.1.relayed = some ⟨queue, a, packet⟩ ∧ next.1.left = none ∧
          next.2 = { d with
            ipcStore := result.ipcStore
            tmStore := d.tmStore.put a (encode packet)
            world := ((sinkWorld telemetrySink).step d.world (.send queue a)).2 }) ∨
        (∀ sent packet, d.sendTmPacket input = .ok sent → result.packets ≠ [packet]) ∧
          next.1.relayed = none ∧
          (next.1.left = none ∧ next.2 = { d with ipcStore := result.ipcStore } ∨
            ∃ a packet, input.storePacket = .ok a ∧ next.1.left = some a ∧
              next.2 = { d with
                ipcStore := result.ipcStore
                tmStore := d.tmStore.put a (encode packet) })) := by
  simp only [downlink]
  split
  · rename_i queue a packet hsend hpackets
    exact ⟨⟨rfl, rfl⟩, Or.inl ⟨queue, a, packet, hsend, hpackets, rfl, rfl, rfl⟩⟩
  · rename_i packet hpackets hfailed
    refine ⟨⟨rfl, rfl⟩, Or.inr ⟨fun sent packet' hsend _ => ?_, rfl, ?_⟩⟩
    · exact hfailed sent.1 sent.2 hsend
    · cases hunsent : d.unsent input with
      | none => exact Or.inl ⟨rfl, rfl⟩
      | some a => exact Or.inr ⟨a, packet, storePacket_of_unsent hunsent, rfl, rfl⟩
  · rename_i hnone _
    refine ⟨⟨rfl, rfl⟩, Or.inr ⟨fun _ packet _ hpackets => ?_, rfl, Or.inl ⟨rfl, rfl⟩⟩⟩
    exact hnone packet hpackets

/-- **Which replies relay a packet**: those that bring a live element while the packet is stored and
the queue that the service holds takes it. -/
theorem relayedPacket_iff (d : Downlink) (input : ReplyInput) (p : RelayedPacket) :
    ((downlink fw replies encode parse).step d (.reply input)).1.relayed = some p ↔
      d.sendTmPacket input = .ok (p.queue, p.storeId) ∧
        ∃ element data, namedElement fw replies input.reply = some element ∧
          d.ipcStore element = some data ∧ p.packet = replyPacket fw (d.call input) data := by
  have hspec := handleReply_spec fw replies d.ipcStore (d.call input)
  rw [show (d.call input).reply = input.reply from rfl] at hspec
  -- the packets of the reply are the element's, if there is one
  have hpackets : ∀ packet,
      (handleReply fw replies true d.ipcStore (d.call input)).packets = [packet] ↔
        ∃ element data, namedElement fw replies input.reply = some element ∧
          d.ipcStore element = some data ∧ packet = replyPacket fw (d.call input) data := by
    intro packet
    cases hnamed : namedElement fw replies input.reply with
    | none =>
      simp only [hnamed] at hspec
      rw [hspec.2]
      simp
    | some element =>
      cases hdata : d.ipcStore element with
      | none =>
        simp only [hnamed, hdata] at hspec
        rw [hspec.2]
        simp [hdata]
      | some data =>
        simp only [hnamed, hdata] at hspec
        rw [hspec.2.1]
        simp [hdata, eq_comm]
  rw [← hpackets p.packet]
  obtain ⟨-, ⟨queue, a, packet, hsend, hlist, hrelayed, -⟩ | ⟨hneither, hrelayed, -⟩⟩ :=
    downlink_reply fw replies encode parse d input
  · rw [hrelayed, hsend, hlist]
    constructor
    · intro h
      cases h
      exact ⟨rfl, rfl⟩
    · rintro ⟨hsent, hpacket⟩
      cases hsent
      cases hpacket
      rfl
  · rw [hrelayed]
    exact iff_of_false (by simp) fun hboth => hneither _ _ hboth.1 hboth.2

/-! ### The run invariant -/

theorem eraseDups_of_nodup {α : Type*} [DecidableEq α] {l : List α} (hl : l.Nodup) :
    l.eraseDups = l := by
  induction l with
  | nil => rfl
  | cons a l ih =>
    obtain ⟨ha, hl⟩ := List.nodup_cons.mp hl
    rw [List.eraseDups_cons, List.filter_eq_self.mpr, ih hl]
    intro x hx
    have hne : x ≠ a := fun heq => ha (heq ▸ hx)
    simp [hne]

/-- Every packet relayed to a queue was shown or waits there, in order; what waits lies in the
telemetry store at addresses of its own, in addition to what was there at the start and to what was
left there unsent. -/
structure Filed (base : Store StoreAddress (List UInt8)) (hist : List DownlinkEvent)
    (d : Downlink) : Prop where
  account : ∀ id, Fifo (fun p line => packetLine encode parse p = line)
    (fun p a => p.storeId = a ∧ d.tmStore a = some (encode p.packet)) (relayedTo id hist)
    (linesFrom id hist) (d.world.waiting id)
  nodup : ∀ id, (d.world.waiting id).Nodup
  apart : ∀ id id' a, a ∈ d.world.waiting id → a ∈ d.world.waiting id' → id = id'
  fresh : ∀ id, ∀ a ∈ d.world.waiting id, ¬ base.Live a
  left : ∀ a ∈ leftBehind hist, d.tmStore.Live a ∧ ∀ id, a ∉ d.world.waiting id
  rest : ∀ a, (∀ id, a ∉ d.world.waiting id) → a ∉ leftBehind hist → d.tmStore a = base a

section Filed

variable {encode parse} {base : Store StoreAddress (List UInt8)} {hist : List DownlinkEvent}
  {d d' : Downlink}

/-- What waits is live. -/
theorem Filed.live (filed : Filed encode parse base hist d) {id : MessageQueueId}
    {a : StoreAddress} (ha : a ∈ d.world.waiting id) : d.tmStore.Live a := by
  obtain ⟨p, -, hdata⟩ := (filed.account id).exists_of_mem ha
  rw [Store.Live, hdata]
  exact Option.some_ne_none _

theorem Filed.live_iff (filed : Filed encode parse base hist d) (a : StoreAddress) :
    d.tmStore.Live a ↔
      base.Live a ∨ (∃ id, a ∈ d.world.waiting id) ∨ a ∈ leftBehind hist := by
  by_cases hwaits : ∃ id, a ∈ d.world.waiting id
  · obtain ⟨id, ha⟩ := hwaits
    exact iff_of_true (filed.live ha) (Or.inr (Or.inl ⟨id, ha⟩))
  · by_cases hleft : a ∈ leftBehind hist
    · exact iff_of_true (filed.left a hleft).1 (Or.inr (Or.inr hleft))
    · rw [Store.Live, filed.rest a (not_exists.mp hwaits) hleft, or_iff_right hwaits,
        or_iff_left hleft]
      rfl

/-- Where nothing waits, everything was shown. -/
theorem Filed.shown (filed : Filed encode parse base hist d) {id : MessageQueueId}
    (hempty : d.world.waiting id = []) :
    linesFrom id hist = (relayedTo id hist).map (packetLine encode parse) := by
  have account := filed.account id
  rw [hempty] at account
  obtain ⟨shown, waiting, hrelayed, hlines, hwaiting⟩ := account.eq_map fun _ _ h => h.1
  rw [hlines, hrelayed, List.map_eq_nil_iff.mp hwaiting.symm, List.append_nil]

theorem relayedTo_snoc_none (id : MessageQueueId) {e : DownlinkEvent}
    (h : e.output.relayed = none) : relayedTo id (hist ++ [e]) = relayedTo id hist := by
  rw [relayedTo, filterMap_snoc, h]
  exact List.append_nil _

theorem linesFrom_snoc_none (id : MessageQueueId) {e : DownlinkEvent}
    (h : e.output.drained = none) : linesFrom id (hist ++ [e]) = linesFrom id hist := by
  rw [linesFrom_snoc, h]
  exact List.append_nil _

theorem leftBehind_snoc_none {e : DownlinkEvent} (h : e.output.left = none) :
    leftBehind (hist ++ [e]) = leftBehind hist := by
  rw [leftBehind, filterMap_snoc, h]
  exact List.append_nil _

/-- A step that relays nothing, prints nothing and leaves the telemetry side alone. -/
theorem Filed.frame (filed : Filed encode parse base hist d) {e : DownlinkEvent}
    (hrelayed : e.output.relayed = none) (hdrained : e.output.drained = none)
    (hleft : e.output.left = none) (hstore : d'.tmStore = d.tmStore) (hwaiting : ∀ id, d'.world.waiting id = d.world.waiting id) :
    Filed encode parse base (hist ++ [e]) d' := by
  refine ⟨fun id => ?_, fun id => ?_, fun id id' a => ?_, fun id => ?_, fun a ha => ?_,
    fun a ha hnot => ?_⟩
  · rw [relayedTo_snoc_none id hrelayed, linesFrom_snoc_none id hdrained, hwaiting, hstore]
    exact filed.account id
  · rw [hwaiting]
    exact filed.nodup id
  · rw [hwaiting, hwaiting]
    exact filed.apart id id' a
  · rw [hwaiting]
    exact filed.fresh id
  · rw [leftBehind_snoc_none hleft] at ha
    rw [hstore]
    exact ⟨(filed.left a ha).1, fun id => hwaiting id ▸ (filed.left a ha).2 id⟩
  · rw [leftBehind_snoc_none hleft] at hnot
    rw [hstore]
    exact filed.rest a (fun id => hwaiting id ▸ ha id) hnot

/-- **A packet that is left in the store** joins those left there before. -/
theorem Filed.leave (filed : Filed encode parse base hist d) {e : DownlinkEvent}
    {new : StoreAddress} {data : List UInt8} (hrelayed : e.output.relayed = none)
    (hdrained : e.output.drained = none) (hleft : e.output.left = some new)
    (hnew : ¬ d.tmStore.Live new) (hstore : d'.tmStore = d.tmStore.put new data)
    (hwaiting : ∀ id, d'.world.waiting id = d.world.waiting id) :
    Filed encode parse base (hist ++ [e]) d' := by
  have hall : leftBehind (hist ++ [e]) = leftBehind hist ++ [new] := by
    rw [leftBehind, filterMap_snoc, hleft]
    rfl
  have hout : ∀ id, new ∉ d.world.waiting id := fun id hmem => hnew (filed.live hmem)
  have hspared : ∀ a, a ≠ new → d'.tmStore a = d.tmStore a := by
    intro a hne
    rw [hstore]
    exact Store.put_of_ne _ _ hne
  refine ⟨fun id => ?_, fun id => ?_, fun id id' a => ?_, fun id => ?_, fun a ha => ?_,
    fun a ha hnot => ?_⟩
  · rw [relayedTo_snoc_none id hrelayed, linesFrom_snoc_none id hdrained, hwaiting]
    refine (filed.account id).congr fun _ a ha hwaits => ⟨hwaits.1, ?_⟩
    exact (hspared a fun heq => hout id (heq ▸ ha)).trans hwaits.2
  · rw [hwaiting]
    exact filed.nodup id
  · rw [hwaiting, hwaiting]
    exact filed.apart id id' a
  · rw [hwaiting]
    exact filed.fresh id
  · rw [hall, List.mem_append, List.mem_singleton] at ha
    by_cases heq : a = new
    · rw [heq, hstore, Store.Live, Store.put_self]
      exact ⟨Option.some_ne_none _, fun id => hwaiting id ▸ hout id⟩
    · obtain ⟨hlive, hapart⟩ := filed.left a (ha.resolve_right heq)
      rw [Store.Live, hspared a heq]
      exact ⟨hlive, fun id => hwaiting id ▸ hapart id⟩
  · rw [hall, List.mem_append, List.mem_singleton, not_or] at hnot
    rw [hspared a hnot.2]
    exact filed.rest a (fun id => hwaiting id ▸ ha id) hnot.1

/-- **A packet that is relayed** waits at the end of the queue it was sent to. -/
theorem Filed.relay (filed : Filed encode parse base hist d) {e : DownlinkEvent} {p : RelayedPacket}
    (hrelayed : e.output.relayed = some p) (hdrained : e.output.drained = none)
    (hleft : e.output.left = none) (hnew : ¬ d.tmStore.Live p.storeId)
    (hstore : d'.tmStore = d.tmStore.put p.storeId (encode p.packet))
    (hwaiting : ∀ id, d'.world.waiting id =
      if id = p.queue then d.world.waiting p.queue ++ [p.storeId] else d.world.waiting id) :
    Filed encode parse base (hist ++ [e]) d' := by
  have hout : ∀ id, p.storeId ∉ d.world.waiting id := fun id hmem => hnew (filed.live hmem)
  -- an address that waits now waited before, or is the new one in its queue
  have hmem : ∀ id a, a ∈ d'.world.waiting id ↔
      a ∈ d.world.waiting id ∨ id = p.queue ∧ a = p.storeId := by
    intro id a
    rw [hwaiting]
    by_cases hid : id = p.queue
    · simp [hid]
    · simp [hid]
  have hspared : ∀ id, ∀ a ∈ d.world.waiting id, d'.tmStore a = d.tmStore a := by
    intro id a ha
    rw [hstore]
    exact Store.put_of_ne _ _ fun heq => hout id (heq ▸ ha)
  have hkept : ∀ id, Fifo (fun p line => packetLine encode parse p = line)
      (fun p a => p.storeId = a ∧ d'.tmStore a = some (encode p.packet)) (relayedTo id hist)
      (linesFrom id hist) (d.world.waiting id) := fun id =>
    (filed.account id).congr fun _ a ha hwaits => ⟨hwaits.1, (hspared id a ha).trans hwaits.2⟩
  refine ⟨fun id => ?_, fun id => ?_, fun id id' a ha ha' => ?_, fun id a ha => ?_, fun a ha => ?_,
    fun a ha hnot => ?_⟩
  · rw [relayedTo, filterMap_snoc, hrelayed, ← relayedTo, linesFrom_snoc_none id hdrained, hwaiting]
    by_cases hid : id = p.queue
    · rw [if_pos hid, ← hid, Option.filter_some, if_pos (by simp [hid])]
      refine (hkept id).push ⟨rfl, ?_⟩
      rw [hstore]
      exact Store.put_self ..
    · rw [if_neg hid, Option.filter_some, if_neg (by simp [Ne.symm hid]), Option.toList_none,
        List.append_nil]
      exact hkept id
  · rw [hwaiting]
    split
    · exact List.nodup_append.mpr ⟨filed.nodup _, List.nodup_singleton _,
        fun a ha b hb hab => hout _ (List.mem_singleton.mp hb ▸ hab ▸ ha)⟩
    · exact filed.nodup id
  · rcases (hmem id a).mp ha with ha | ⟨hid, rfl⟩
    · rcases (hmem id' a).mp ha' with ha' | ⟨-, rfl⟩
      · exact filed.apart id id' a ha ha'
      · exact absurd ha (hout id)
    · rcases (hmem id' p.storeId).mp ha' with ha' | ⟨hid', -⟩
      · exact absurd ha' (hout id')
      · rw [hid, hid']
  · rcases (hmem id a).mp ha with ha | ⟨-, rfl⟩
    · exact filed.fresh id a ha
    · rw [Store.Live, ← filed.rest _ hout fun h => hnew (filed.left _ h).1]
      exact hnew
  · rw [leftBehind_snoc_none hleft] at ha
    obtain ⟨hlive, hapart⟩ := filed.left a ha
    have hne : a ≠ p.storeId := fun heq => hnew (heq ▸ hlive)
    rw [hstore, Store.Live, Store.put_of_ne _ _ hne]
    refine ⟨hlive, fun id hold => ?_⟩
    rcases (hmem id a).mp hold with hold | ⟨-, heq⟩
    · exact hapart id hold
    · exact hne heq
  · have hne : a ≠ p.storeId := fun heq => ha p.queue ((hmem _ _).mpr (Or.inr ⟨rfl, heq⟩))
    rw [leftBehind_snoc_none hleft] at hnot
    rw [hstore, Store.put_of_ne _ _ hne]
    exact filed.rest a (fun id hold => ha id ((hmem id a).mpr (Or.inl hold))) hnot

/-- **A queue that is drained** is shown, and its packets are gone from the telemetry store. -/
theorem Filed.drain (filed : Filed encode parse base hist d) {e : DownlinkEvent}
    {queue : MessageQueueId} (hrelayed : e.output.relayed = none)
    (hdrained : e.output.drained = some queue) (hleft : e.output.left = none)
    (hlines : e.output.lines = (d.world.waiting queue).eraseDups.filterMap fun a =>
      (d.tmStore a).map (reportLine parse a))
    (hstore : d'.tmStore = d.tmStore.without (d.world.waiting queue))
    (hwaiting : ∀ id, d'.world.waiting id = if id = queue then [] else d.world.waiting id) :
    Filed encode parse base (hist ++ [e]) d' := by
  have hsub : ∀ id, ∀ a ∈ d'.world.waiting id, id ≠ queue ∧ a ∈ d.world.waiting id := by
    intro id a ha
    rw [hwaiting] at ha
    by_cases hid : id = queue
    · rw [if_pos hid] at ha
      cases ha
    · rw [if_neg hid] at ha
      exact ⟨hid, ha⟩
  have hspared : ∀ id, id ≠ queue → ∀ a ∈ d.world.waiting id, d'.tmStore a = d.tmStore a := by
    intro id hid a ha
    rw [hstore, Store.without, if_neg fun hmem => hid (filed.apart id queue a ha hmem)]
  refine ⟨fun id => ?_, fun id => ?_, fun id id' a ha ha' => ?_, fun id a ha => ?_, fun a ha => ?_,
    fun a ha hnot => ?_⟩
  · rw [relayedTo_snoc_none id hrelayed, linesFrom_snoc, hdrained, hwaiting]
    by_cases hid : id = queue
    · subst hid
      rw [if_pos rfl, if_pos rfl]
      have hshown : e.output.lines = (d.world.waiting id).map fun a =>
          reportLine parse a ((d.tmStore a).getD []) := by
        rw [hlines, eraseDups_of_nodup (filed.nodup id), ← List.filterMap_eq_map]
        refine List.filterMap_congr fun a ha => ?_
        obtain ⟨data, hdata⟩ := Option.ne_none_iff_exists'.mp (filed.live ha)
        simp only [hdata, Option.map_some, Function.comp_apply, Option.getD_some]
      rw [hshown]
      refine (filed.account id).drain fun p a _ hwaits => ?_
      rw [hwaits.2, ← hwaits.1]
      rfl
    · rw [if_neg hid, if_neg (fun h => hid (Option.some.inj h).symm), List.append_nil]
      exact (filed.account id).congr fun _ a ha hwaits =>
        ⟨hwaits.1, (hspared id hid a ha).trans hwaits.2⟩
  · rw [hwaiting]
    split
    · exact List.nodup_nil
    · exact filed.nodup id
  · exact filed.apart id id' a (hsub id a ha).2 (hsub id' a ha').2
  · exact filed.fresh id a (hsub id a ha).2
  · rw [leftBehind_snoc_none hleft] at ha
    obtain ⟨hlive, hapart⟩ := filed.left a ha
    rw [hstore, Store.Live, Store.without, if_neg (hapart queue)]
    exact ⟨hlive, fun id hmem => hapart id (hsub id a hmem).2⟩
  · rw [leftBehind_snoc_none hleft] at hnot
    rw [hstore, Store.without]
    by_cases hgone : a ∈ d.world.waiting queue
    · rw [if_pos hgone]
      exact (not_not.mp (filed.fresh queue a hgone)).symm
    · rw [if_neg hgone]
      refine filed.rest a (fun id hmem => ?_) hnot
      by_cases hid : id = queue
      · exact hgone (hid ▸ hmem)
      · refine ha id ?_
        rw [hwaiting, if_neg hid]
        exact hmem

end Filed

/-- A sink that has a queue to drain has a queue and a store. -/
theorem drainedQueue_eq_some {sink : StubTelemetrySink} {queue : MessageQueueId} :
    sink.drainedQueue = some queue ↔ sink.queue = some queue ∧ sink.tmStore = true := by
  obtain ⟨own, tmStore, timeReader⟩ := sink
  cases own <;> cases tmStore <;> simp [StubTelemetrySink.drainedQueue]

theorem drainedQueue_eq_none {sink : StubTelemetrySink} :
    sink.drainedQueue = none ↔ (sink.queue.isNone || !sink.tmStore) = true := by
  obtain ⟨own, tmStore, timeReader⟩ := sink
  cases own <;> cases tmStore <;> simp [StubTelemetrySink.drainedQueue]

/-- A call of a sink without a queue or without its store does nothing. -/
theorem performOperation_idle {d : Downlink} (hnone : d.world.sink.drainedQueue = none) :
    (downlink fw replies encode parse).step d .performOperation = ({}, d) := by
  have hcall : (sinkWorld telemetrySink).step d.world (.call .performOperation) =
      ({ answer := { drained := none }, taken := [] }, d.world) := by
    simp only [sinkWorld, telemetrySink, hnone]
    rfl
  simp only [downlink, hcall, StubTelemetrySink.performOperation,
    if_pos (drainedQueue_eq_none.mp hnone)]

/-- **A call of the sink** with queue and store shows what waits in its queue, and frees it. -/
theorem performOperation_drains {d : Downlink} {queue : MessageQueueId}
    (hdrained : d.world.sink.drainedQueue = some queue) :
    let next := (downlink fw replies encode parse).step d .performOperation
    next.1.relayed = none ∧ next.1.drained = some queue ∧ next.1.left = none ∧
      next.1.lines = ((d.world.waiting queue).eraseDups.filterMap fun a =>
        (d.tmStore a).map (reportLine parse a)) ∧
      next.2.tmStore = d.tmStore.without (d.world.waiting queue) ∧
      next.2.world.sink = d.world.sink ∧
      ∀ id, next.2.world.waiting id = if id = queue then [] else d.world.waiting id := by
  obtain ⟨hqueue, hstore⟩ := drainedQueue_eq_some.mp hdrained
  obtain ⟨htaken, hwaiting⟩ := waiting_performOperation d.world hdrained
  let next := (sinkWorld telemetrySink).step d.world (.call .performOperation)
  obtain ⟨drain, hcall, -, -, hleft, hprinted, -⟩ :=
    StubTelemetrySink.drain_exact parse d.world.sink (by rw [hqueue]; rfl) hstore next.1.taken
      d.tmStore (next.1.taken.length + 1) (Nat.lt_succ_self _)
  have hstep : (downlink fw replies encode parse).step d .performOperation =
      ({ drained := next.1.answer.drained, lines := drain.lines },
        { d with tmStore := drain.tmStore, world := next.2 }) := by
    simp only [downlink]
    rw [show StubTelemetrySink.performOperation parse d.world.sink _ _ = _ from hcall]
  rw [show next.1.taken = _ from htaken] at hleft hprinted
  intro after
  rw [show after = _ from hstep]
  exact ⟨rfl, hdrained, rfl, hprinted, hleft, rfl, hwaiting⟩

/-- **Every step keeps the account of the packets.** -/
theorem filed_step (base : Store StoreAddress (List UInt8)) (hist : List DownlinkEvent)
    (d : Downlink) (step : DownlinkStep) (discipline : downlinkDiscipline hist d step)
    (filed : Filed encode parse base hist d) :
    Filed encode parse base (hist ++ [(downlink fw replies encode parse).event d step])
      ((downlink fw replies encode parse).step d step).2 := by
  cases step with
  | initializeSink objects =>
    exact filed.frame rfl rfl rfl rfl (waiting_initializeSink d.world objects discipline)
  | takeHandle => exact filed.frame rfl rfl rfl rfl fun _ => rfl
  | otherUsers ipcStore => exact filed.frame rfl rfl rfl rfl fun _ => rfl
  | reply input =>
    obtain ⟨⟨hdrained, -⟩, ⟨queue, a, packet, hsend, -, hrelayed, hleft, hnext⟩ |
        ⟨-, hrelayed, ⟨hleft, hnext⟩ | ⟨a, packet, hstored, hleft, hnext⟩⟩⟩ :=
      downlink_reply fw replies encode parse d input
    · obtain ⟨-, hstored, htaken⟩ := (sendTmPacket_ok_iff d input queue a).mp hsend
      refine filed.relay hrelayed hdrained hleft (discipline a hstored) ?_ ?_
      · rw [hnext]
      · rw [hnext]
        exact waiting_send d.world queue a htaken
    · refine filed.frame hrelayed hdrained hleft ?_ ?_
      · rw [hnext]
      · rw [hnext]
        exact fun _ => rfl
    · refine filed.leave hrelayed hdrained hleft (discipline a hstored)
        (congrArg Downlink.tmStore hnext) ?_
      rw [hnext]
      exact fun _ => rfl
  | performOperation =>
    cases hdrained : d.world.sink.drainedQueue with
    | none =>
      have hidle := performOperation_idle fw replies encode parse hdrained
      rw [Machine.event, hidle]
      exact filed.frame rfl rfl rfl rfl fun _ => rfl
    | some queue =>
      obtain ⟨hrelayed, hqueue, hleft, hlines, hstore, -, hwaiting⟩ :=
        performOperation_drains fw replies encode parse hdrained
      exact filed.drain hrelayed hqueue hleft hlines hstore hwaiting

/-- Nothing waits but in the sink's own queue. -/
def OwnQueueOnly (d : Downlink) : Prop :=
  ∀ id, d.world.sink.queue ≠ some id → d.world.waiting id = []

/-- A service that holds the sink's queue sends to no other. -/
theorem ownQueueOnly_step (hist : List DownlinkEvent) (d : Downlink) (step : DownlinkStep)
    (discipline : downlinkDiscipline hist d step) (holds : holdsSinkQueue hist d step)
    (own : OwnQueueOnly d) :
    OwnQueueOnly ((downlink fw replies encode parse).step d step).2 := by
  cases step with
  | initializeSink objects =>
    intro id _
    exact (waiting_initializeSink d.world objects discipline id).trans (holds id)
  | takeHandle => exact own
  | otherUsers ipcStore => exact own
  | reply input =>
    obtain ⟨-, ⟨queue, a, packet, hsend, -, -, -, hnext⟩ |
        ⟨-, -, ⟨-, hnext⟩ | ⟨a, packet, -, -, hnext⟩⟩⟩ :=
      downlink_reply fw replies encode parse d input
    · obtain ⟨hhandle, -, htaken⟩ := (sendTmPacket_ok_iff d input queue a).mp hsend
      rw [hnext]
      intro id hid
      have hsink := (live_send telemetrySink d.world queue a).1
      have hother : d.world.sink.queue ≠ some id := by
        rw [← hsink]
        exact hid
      have hne : id ≠ queue := by
        intro heq
        rw [show d.world.sink.queue = some queue from holds.symm.trans hhandle, heq] at hother
        exact hother rfl
      refine (waiting_send d.world queue a htaken id).trans ?_
      rw [if_neg hne]
      exact own id hother
    · rw [hnext]
      exact own
    · rw [hnext]
      exact own
  | performOperation =>
    cases hdrained : d.world.sink.drainedQueue with
    | none =>
      rw [performOperation_idle fw replies encode parse hdrained]
      exact own
    | some queue =>
      obtain ⟨-, -, -, -, -, hsink, hwaiting⟩ :=
        performOperation_drains fw replies encode parse hdrained
      intro id hid
      rw [hsink] at hid
      rw [hwaiting]
      split
      · rfl
      · exact own id hid

/-! ### Every run -/

section Run

variable {start : Downlink} (nothingWaits : ∀ id, start.world.waiting id = [])

include nothingWaits

/-- The account of the packets over a run. -/
theorem filed_run {steps : List DownlinkStep}
    (discipline : (downlink fw replies encode parse).Lawful downlinkDiscipline start steps) :
    Filed encode parse start.tmStore ((downlink fw replies encode parse).trace start steps)
      ((downlink fw replies encode parse).final start steps) := by
  have hstart : Filed encode parse start.tmStore [] start := by
    refine ⟨fun id => ?_, fun id => ?_, fun id _ a ha => ?_, fun id a ha => ?_, fun a ha => ?_,
      fun _ _ _ => rfl⟩
    · rw [nothingWaits]
      exact Fifo.empty
    · rw [nothingWaits]
      exact List.nodup_nil
    · rw [nothingWaits] at ha
      cases ha
    · rw [nothingWaits] at ha
      cases ha
    · cases ha
  exact Machine.lawful_induction hstart (filed_step fw replies encode parse start.tmStore) steps
    discipline

/-- Where the service holds the sink's queue, nothing waits anywhere else. -/
theorem ownQueueOnly_run {steps : List DownlinkStep}
    (discipline : (downlink fw replies encode parse).Lawful downlinkDiscipline start steps)
    (holds : (downlink fw replies encode parse).Lawful holdsSinkQueue start steps) :
    OwnQueueOnly ((downlink fw replies encode parse).final start steps) :=
  Machine.lawful_induction (R := fun _ d => OwnQueueOnly d) (fun id _ => nothingWaits id)
    (fun hist d step hstep own =>
      ownQueueOnly_step fw replies encode parse hist d step hstep.1 hstep.2 own) steps
    (discipline.and holds)

/-- **The packets of each queue are shown in order.**  However the calls of the sink, its
initialisations and the service's taking of the queue id interleave with the replies it handles and
with the other users of the IPC store, and whatever the stores, the queues and `sendTmPacket`
answer: for every queue, the packets relayed to it are those shown, one line for each and in order,
and then those that wait in it; the live elements of the telemetry store are those it had, those
that wait in a queue and those that `sendTmPacket` left there unsent; and after a call of a sink that
has its store, every packet relayed to the sink's own queue is shown.  If the service held the sink's
queue whenever it relayed a packet, and the sink was initialised only while nothing waited, every
packet relayed is then shown and, but for what was left unsent, the telemetry store is as at the
start. -/
theorem replies_reach_the_ground (steps : List DownlinkStep)
    (discipline : (downlink fw replies encode parse).Lawful downlinkDiscipline start steps) :
    let hist := (downlink fw replies encode parse).trace start steps
    let d := (downlink fw replies encode parse).final start steps
    (∀ id, ∃ shown waiting, relayedTo id hist = shown ++ waiting ∧
        linesFrom id hist = shown.map (packetLine encode parse) ∧
        d.world.waiting id = waiting.map RelayedPacket.storeId) ∧
      (∀ a, d.tmStore.Live a ↔ start.tmStore.Live a ∨ (∃ id, a ∈ d.world.waiting id) ∨
        a ∈ leftBehind hist) ∧
      ∀ earlier queue, steps = earlier ++ [.performOperation] →
        d.world.sink.drainedQueue = some queue →
        linesFrom queue hist = (relayedTo queue hist).map (packetLine encode parse) ∧
          ((downlink fw replies encode parse).Lawful holdsSinkQueue start steps →
            (∀ id, linesFrom id hist = (relayedTo id hist).map (packetLine encode parse)) ∧
              ∀ a ∉ leftBehind hist, d.tmStore a = start.tmStore a) := by
  intro hist d
  have filed := filed_run fw replies encode parse nothingWaits discipline
  refine ⟨fun id => (filed.account id).eq_map fun _ _ h => h.1, filed.live_iff,
    fun earlier queue hsteps hdrained => ?_⟩
  have hd : d = ((downlink fw replies encode parse).step
      ((downlink fw replies encode parse).final start earlier) .performOperation).2 := by
    rw [← Machine.final_snoc, ← hsteps]
  have hown : d.world.waiting queue = [] := by
    cases hbefore :
        ((downlink fw replies encode parse).final start earlier).world.sink.drainedQueue with
    | none =>
      rw [hd, performOperation_idle fw replies encode parse hbefore, hbefore] at hdrained
      cases hdrained
    | some before =>
      obtain ⟨-, -, -, -, -, hsink, hwaiting⟩ :=
        performOperation_drains fw replies encode parse hbefore
      rw [hd, hsink, hbefore] at hdrained
      rw [hd, hwaiting, if_pos (Option.some.inj hdrained).symm]
  refine ⟨filed.shown hown, fun holds => ?_⟩
  have own := ownQueueOnly_run fw replies encode parse nothingWaits discipline holds
  have hnone : ∀ id, d.world.waiting id = [] := by
    intro id
    by_cases hid : id = queue
    · rw [hid]
      exact hown
    · refine own id ?_
      rw [(drainedQueue_eq_some.mp hdrained).1]
      exact fun h => hid (Option.some.inj h).symm
  refine ⟨fun id => filed.shown (hnone id), fun a => filed.rest a fun id ha => ?_⟩
  rw [show SinkWorld.waiting _ id = [] from hnone id] at ha
  cases ha

end Run

end

/-! ### Two replies and a stale queue id -/

/-- Four bytes, highest first. -/
def bigEndian (x : UInt32) : List UInt8 :=
  [(x >>> 24).toUInt8, (x >>> 16).toUInt8, (x >>> 8).toUInt8, x.toUInt8]

/-- A telemetry packet of service `200`: six bytes of primary and seven of secondary header, seven
for the time, the reply, and two for the checksum. -/
def pusTmPacket (packet : TmPacket) : List UInt8 :=
  let (subservice, first, second) := match packet with
    | .dataReply subservice objectId actionId _ => (subservice, objectId, actionId)
    | .parameterDumpReply subservice objectId parameterId _ => (subservice, objectId, parameterId)
  [0x08, 0x01, 0xc0, 0, 0, (packet.data.length + 23).toUInt8, 0x20, 200, subservice, 0, 0, 0, 0] ++
    List.replicate 7 0 ++ bigEndian first ++ bigEndian second ++ packet.data ++ [0, 0]

/-- The reader of such packets. -/
def pusTmReader (_ : StoreAddress) (data : List UInt8) : Option PusTmHeader :=
  if 22 ≤ data.length then some ⟨data.getD 7 0, data.getD 8 0, data.length - 22⟩ else none

/-- The sink is initialised with this queue. -/
def sinkReady (id : MessageQueueId) : DownlinkStep := .initializeSink ⟨some id, true, true⟩

/-- A data reply that brings element `3`, whose packet is stored at this address and stays there if
it is not sent. -/
def dataReplyTo (a : Except Failure StoreAddress) : DownlinkStep :=
  .reply ⟨⟨makeCommandId 4 4, 1, 3⟩, objectIdWebcamHandler, false, Failure.framework 1, a,
    Failure.framework 7, true⟩

/-- A data reply and a parameter dump, and a packet that the telemetry store refuses. -/
def downlinkRun : List DownlinkStep :=
  [sinkReady 6, .takeHandle, dataReplyTo (.ok 20),
    .reply ⟨⟨makeCommandId 9 3, 0x00010000, 5⟩, objectIdWebcamHandler, false,
      Failure.framework 1, .ok 21, Failure.framework 7, true⟩,
    .otherUsers twoElements.store, dataReplyTo (.error (Failure.framework 7)), .performOperation]

/-- A reply comes before the service took the queue id, and the sink is initialised again after
that. -/
def strandedRun : List DownlinkStep :=
  [sinkReady 6, dataReplyTo (.ok 19), .otherUsers twoElements.store, .takeHandle, sinkReady 8,
    dataReplyTo (.ok 20), .performOperation]

def downlinkStart : Downlink where
  ipcStore := twoElements.store
  tmStore := fun _ => none
  world := .begin .construct
  handle := none

theorem downlinkRun_discipline :
    (downlink numberedMessages numberedReplies pusTmPacket pusTmReader).Lawful downlinkDiscipline
      downlinkStart downlinkRun := by
  refine ⟨fun a ha => ?_, trivial, fun a ha => ?_, fun a ha => ?_, trivial, fun a ha => ?_, trivial,
    trivial⟩
  · cases ha
    exact not_not.mpr rfl
  · cases ha
    exact not_not.mpr rfl
  · cases ha
    exact not_not.mpr rfl
  · cases ha

theorem downlinkRun_holds :
    (downlink numberedMessages numberedReplies pusTmPacket pusTmReader).Lawful holdsSinkQueue
      downlinkStart downlinkRun :=
  ⟨fun _ => rfl, trivial, rfl, rfl, trivial, rfl, trivial, trivial⟩

theorem strandedRun_discipline :
    (downlink numberedMessages numberedReplies pusTmPacket pusTmReader).Lawful downlinkDiscipline
      downlinkStart strandedRun := by
  refine ⟨fun a ha => ?_, fun a ha => ?_, trivial, trivial, fun a ha => ?_, fun a ha => ?_, trivial,
    trivial⟩ <;> cases ha <;> exact not_not.mpr (by decide)

theorem downlinkRun_relayed :
    (relayedTo 6 ((downlink numberedMessages numberedReplies pusTmPacket pusTmReader).trace
      downlinkStart downlinkRun)).map (packetLine pusTmPacket pusTmReader) =
        [.packet ⟨200, Subservice.tmCommandDataReply.toRaw, 9⟩,
          .packet ⟨200, Subservice.tmParameterDump.toRaw, 10⟩] := by
  decide +kernel

theorem downlinkRun_left :
    leftBehind ((downlink numberedMessages numberedReplies pusTmPacket pusTmReader).trace
      downlinkStart downlinkRun) = [] := by
  decide +kernel

theorem strandedRun_waits :
    ((downlink numberedMessages numberedReplies pusTmPacket pusTmReader).final downlinkStart
      strandedRun).world.waiting 6 = [20] := by
  decide +kernel

theorem strandedRun_left :
    leftBehind ((downlink numberedMessages numberedReplies pusTmPacket pusTmReader).trace
      downlinkStart strandedRun) = [19] := by
  decide +kernel

/-- Two packets are shown, with `9` and `10` bytes; a packet that came too early for a queue id and
one sent to the queue that the sink had before stay in the telemetry store. -/
theorem replies_reach_the_ground_two :
    let path := downlink numberedMessages numberedReplies pusTmPacket pusTmReader
    (linesFrom 6 (path.trace downlinkStart downlinkRun) =
        [.packet ⟨200, Subservice.tmCommandDataReply.toRaw, 9⟩,
          .packet ⟨200, Subservice.tmParameterDump.toRaw, 10⟩] ∧
      ∀ a, (path.final downlinkStart downlinkRun).tmStore a = downlinkStart.tmStore a) ∧
      (path.final downlinkStart strandedRun).tmStore.Live 19 ∧
      (path.final downlinkStart strandedRun).tmStore.Live 20 := by
  dsimp only
  have nothingWaits : ∀ id, downlinkStart.world.waiting id = [] := fun _ => rfl
  obtain ⟨-, -, hlast⟩ := replies_reach_the_ground numberedMessages numberedReplies pusTmPacket
    pusTmReader nothingWaits downlinkRun downlinkRun_discipline
  obtain ⟨hlines, hall⟩ := hlast (downlinkRun.take 6) 6 rfl rfl
  obtain ⟨-, hstore⟩ := hall downlinkRun_holds
  rw [downlinkRun_left] at hstore
  obtain ⟨-, hlive, -⟩ := replies_reach_the_ground numberedMessages numberedReplies pusTmPacket
    pusTmReader nothingWaits strandedRun strandedRun_discipline
  rw [strandedRun_left] at hlive
  refine ⟨⟨hlines.trans downlinkRun_relayed, fun a => hstore a List.not_mem_nil⟩,
    (hlive 19).mpr (Or.inr (Or.inr (List.mem_singleton_self 19))),
    (hlive 20).mpr (Or.inr (Or.inl ⟨6, ?_⟩))⟩
  rw [strandedRun_waits]
  exact List.mem_singleton_self 20

end FsfwFromZero
