import FsfwFromZero.Framework
import FsfwFromZero.Lib.Machine
import FsfwFromZero.Lib.Store

/-!
# The telecommand distributor

`StubPusDistributor` of `mission/tmtc/TmtcInfrastructure.{h,cpp}`.  `sendCommand` creates a
telecommand packet, takes an element of the telecommand store for it, serialises the packet into the
element and sends the element's address to the registered service.

* `PusTcCreator` — what the packet creator is given; `packetFor` — what `sendCommand` gives it;
* `Fsfw` — how the framework answers one call of `sendCommand`: the store's allocation, the
  serialisation, and the queue;
* `sendCommand` — the call itself; `TcPath` — distributor, store and request queue together, and
  `tcPath : Machine`, where the service takes messages and frees their elements;
* `sendCommand_spec` — **the four ways out** of a call, with what each leaves behind.
-/

namespace FsfwFromZero

open Lib

/-- `ccsds::PacketType`. -/
inductive PacketType
  | tm
  | tc
  deriving Repr, DecidableEq

/-- `ccsds::SequenceFlags`. -/
inductive SequenceFlags
  | continuation
  | firstSegment
  | lastSegment
  | unsegmented
  deriving Repr, DecidableEq

/-- What a `PusTcCreator` is constructed from: packet id, sequence control, and the PUS parameters.
-/
structure PusTcCreator where
  packetType : PacketType
  secHeaderFlag : Bool
  apid : UInt16
  sequenceFlags : SequenceFlags
  sequenceCount : UInt16
  service : UInt8
  subservice : UInt8
  /-- The application data, if `setRawAppData` was called. -/
  rawAppData : Option (List UInt8)
  deriving Repr, DecidableEq

/-- A service as `registerService` sees it. -/
structure TelecommandService where
  identifier : UInt32
  requestQueue : MessageQueueId
  deriving Repr, DecidableEq

structure StubPusDistributor where
  /-- Is `registeredService` set? -/
  registeredService : Bool
  /-- `none` stands for `MessageQueueIF::NO_QUEUE`. -/
  serviceRequestQueue : Option MessageQueueId
  registeredServiceId : UInt8
  /-- Is `tcStore` set? -/
  tcStore : Bool
  sequenceCounter : UInt16
  apid : UInt16
  deriving Repr, DecidableEq

/-- How the framework answers during one call of `sendCommand`. -/
structure Fsfw where
  /-- `creator.getSerializedSize()`. -/
  getSerializedSize : PusTcCreator → Nat
  /-- `tcStore->getFreeElement` for an element of the given size. -/
  getFreeElement : Nat → Except Failure StoreAddress
  /-- `creator.serializeBe`, with the bytes it wrote. -/
  serializeBe : PusTcCreator → Except Failure (List UInt8)
  /-- What `MessageQueueSenderIF::sendMessage` refused the message with, `none` if it was enqueued.
  -/
  sendMessage : Option Failure

/-- What a call hands back, and the packet it created on the way. -/
structure TcAnswer where
  ret : ReturnValue
  creator : Option PusTcCreator := none
  deriving Repr, DecidableEq

/-- The distributor with the telecommand store and the service's request queue, oldest message
first.  A `TmTcMessage` is the address it carries. -/
structure TcPath where
  distributor : StubPusDistributor
  tcStore : Store StoreAddress (List UInt8)
  requestQueue : List StoreAddress

namespace StubPusDistributor

/-- The distributor as constructed. -/
def construct : StubPusDistributor where
  registeredService := false
  serviceRequestQueue := none
  registeredServiceId := 0
  tcStore := false
  sequenceCounter := 0
  apid := 0x01

/-- `initialize()`, with what the object manager found under `TC_STORE`. -/
def initializeDistributor (d : StubPusDistributor) (found : Bool) : StubPusDistributor :=
  { d with tcStore := found }

/-- The identifier is stored in a `uint8_t`. -/
def registerService (d : StubPusDistributor) :
    Option TelecommandService → ReturnValue × StubPusDistributor
  | none => (.failed, d)
  | some service =>
      (.ok, { d with
        registeredService := true
        registeredServiceId := service.identifier.toUInt8
        serviceRequestQueue := some service.requestQueue })

/-- The packet a call of `sendCommand` creates. -/
def packetFor (d : StubPusDistributor) (subservice : UInt8) (data : Payload) : PusTcCreator where
  packetType := .tc
  secHeaderFlag := true
  apid := d.apid
  sequenceFlags := .unsegmented
  sequenceCount := d.sequenceCounter
  service := d.registeredServiceId
  subservice := subservice
  rawAppData := if !data.isNull && 0 < data.len then some data.data else none

end StubPusDistributor

namespace TcPath

def sendCommand (p : TcPath) (subservice : UInt8) (data : Payload) (fsfw : Fsfw) :
    TcAnswer × TcPath :=
  if !p.distributor.registeredService || !p.distributor.tcStore then ({ ret := .failed }, p)
  else
    let creator := p.distributor.packetFor subservice data
    let p :=
      { p with distributor.sequenceCounter := p.distributor.sequenceCounter + 1 }
    let serializedSize := fsfw.getSerializedSize creator
    match fsfw.getFreeElement serializedSize with
    | .error code => ({ ret := code, creator := creator }, p)
    | .ok storeId =>
        -- the element is taken from here on; what it held before is not read
        let p := { p with tcStore := p.tcStore.put storeId (List.replicate serializedSize 0) }
        match fsfw.serializeBe creator with
        | .error code =>
            ({ ret := code, creator := creator }, { p with tcStore := p.tcStore.erase storeId })
        | .ok bytes =>
            let p := { p with tcStore := p.tcStore.put storeId bytes }
            match fsfw.sendMessage with
            | some code => ({ ret := code, creator := creator }, p)
            | none =>
                ({ ret := .ok, creator := creator },
                  { p with requestQueue := p.requestQueue ++ [storeId] })

/-- The service receives a message and deletes the element it names. -/
def serviceReceive (p : TcPath) : TcAnswer × TcPath :=
  match p.requestQueue with
  | [] => ({ ret := .failed }, p)
  | storeId :: rest =>
      ({ ret := .ok }, { p with tcStore := p.tcStore.erase storeId, requestQueue := rest })

end TcPath

/-- A step of the telecommand path. -/
inductive TcStep
  | sendCommand (subservice : UInt8) (data : Payload) (fsfw : Fsfw)
  | serviceReceive

/-- Distributor and service as a machine. -/
def tcPath : Machine TcPath TcStep TcAnswer where
  step p
    | .sendCommand subservice data fsfw => p.sendCommand subservice data fsfw
    | .serviceReceive => p.serviceReceive

abbrev TcEvent := Event TcPath TcStep TcAnswer

/-- The path once a service is registered and the store was found, with whatever the store holds for
others. -/
def readyPath (service : TelecommandService) (tcStore : Store StoreAddress (List UInt8)) :
    TcPath where
  distributor :=
    ((StubPusDistributor.construct.initializeDistributor true).registerService service).2
  tcStore := tcStore
  requestQueue := []

/-! ### What a call does -/

/-- The path can send: a service is registered and the store was found. -/
def TcPath.Ready (p : TcPath) : Prop :=
  p.distributor.registeredService = true ∧ p.distributor.tcStore = true

theorem readyPath_ready (service : TelecommandService)
    (tcStore : Store StoreAddress (List UInt8)) : (readyPath service tcStore).Ready :=
  ⟨rfl, rfl⟩

namespace TcPath

variable (p : TcPath) (subservice : UInt8) (data : Payload) (fsfw : Fsfw)

/-- The test at the start of `sendCommand`. -/
theorem idle_iff :
    (!p.distributor.registeredService || !p.distributor.tcStore) = false ↔ p.Ready := by
  simp [TcPath.Ready]

/-- The distributor after a call that created a packet. -/
def counted : StubPusDistributor :=
  { p.distributor with sequenceCounter := p.distributor.sequenceCounter + 1 }

/-- **The four ways out of `sendCommand`**: no element to be had, a packet that does not serialise,
a queue that does not take the message, and success. -/
theorem sendCommand_spec (ready : p.Ready)
    (fresh : ∀ a, fsfw.getFreeElement
      (fsfw.getSerializedSize (p.distributor.packetFor subservice data)) = .ok a →
        ¬ p.tcStore.Live a) :
    p.sendCommand subservice data fsfw =
      let creator := p.distributor.packetFor subservice data
      match fsfw.getFreeElement (fsfw.getSerializedSize creator) with
      | .error code =>
          ({ ret := code, creator := creator }, ⟨p.counted, p.tcStore, p.requestQueue⟩)
      | .ok a =>
          match fsfw.serializeBe creator with
          | .error code =>
              ({ ret := code, creator := creator }, ⟨p.counted, p.tcStore, p.requestQueue⟩)
          | .ok bytes =>
              match fsfw.sendMessage with
              | some code =>
                  ({ ret := code, creator := creator },
                    ⟨p.counted, p.tcStore.put a bytes, p.requestQueue⟩)
              | none =>
                  ({ ret := .ok, creator := creator },
                    ⟨p.counted, p.tcStore.put a bytes, p.requestQueue ++ [a]⟩) := by
  simp only [sendCommand, p.idle_iff.mpr ready, Bool.false_eq_true, if_false]
  cases hfree : fsfw.getFreeElement
      (fsfw.getSerializedSize (p.distributor.packetFor subservice data)) with
  | error code => rfl
  | ok a =>
    have herase := p.tcStore.erase_put a (List.replicate
      (fsfw.getSerializedSize (p.distributor.packetFor subservice data)) 0) (fresh a hfree)
    cases fsfw.serializeBe (p.distributor.packetFor subservice data) with
    | error code => simp only [herase]; rfl
    | ok bytes =>
      simp only [Store.put_put]
      cases fsfw.sendMessage <;> rfl

end TcPath

end FsfwFromZero
