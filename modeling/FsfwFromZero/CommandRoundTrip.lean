import FsfwFromZero.Handler.LetChildHandleMessage
import FsfwFromZero.Lib.Fifo
import FsfwFromZero.Lib.History
import FsfwFromZero.Tmtc.WebcamCommandingService

/-!
# From telecommand to handler and back to the data

The commanding service and the device handler with what lies between them: the handler's command
queue, which carries messages in order, and the IPC store, which carries the data out of band and
has other users.

* `CommandPath`, `commandPath : Machine` — service, store, queue and handler; any number of messages
  may be in flight;
* `Served` — what handling its message does for a telecommand;
* `Carries` — a queued message names the command of its telecommand and an element with its data;
* `Flight` — **the account of the queue**: the messages in flight carry the accepted telecommands
  not yet answered, through distinct elements; `Flight.spare`, `Flight.accept`, `Flight.take` — how
  it is kept;
* `command_round_trip` — **every accepted telecommand is executed once**, in order, as the command
  its subservice names and with its application data.
-/

namespace FsfwFromZero

open Lib

/-- A telecommand as the service sees it. -/
structure Telecommand where
  subservice : UInt8
  tcData : Payload
  deriving Repr, DecidableEq

/-- Service, IPC store, the handler's command queue (oldest message first) and the handler. -/
structure CommandPath where
  /-- Has the service an IPC store? -/
  present : Bool
  ipcStore : IpcStore
  commandQueue : List CommandMessage
  handler : WebcamDeviceHandler

/-- A step of the path: a telecommand given to the service, the handler taking a message, any other
call of the handler, and other users of the IPC store. -/
inductive PathStep
  | prepareCommand (message : CommandMessage) (telecommand : Telecommand)
      (getFreeElement : Nat → Except Failure StoreAddress)
  | handleMessage (base : ReturnValue)
  | overrideCall (call : Call)
  | otherUsers (ipcStore : IpcStore)

/-- A call of `letChildHandleMessage`: the message and what the base class returns, handler and IPC
store before the call, and what it did. -/
structure Handling where
  message : CommandMessage
  base : ReturnValue
  handler : WebcamDeviceHandler
  ipcStore : IpcStore
  result : MessageResult

inductive PathAnswer
  | prepared (ret : ReturnValue)
  | handled (handling : Handling)
  | nothing

abbrev PathEvent := Event CommandPath PathStep PathAnswer

section

variable {fw : FwMessages}

/-- The handler takes this message, with these behind it. -/
def CommandPath.handle (p : CommandPath) (actionHelper : ActionHelper fw) (base : ReturnValue)
    (message : CommandMessage) (rest : List CommandMessage) : Handling × CommandPath :=
  let result := p.handler.letChildHandleMessage actionHelper base p.ipcStore (some message)
  (⟨message, base, p.handler, p.ipcStore, result⟩,
    { p with ipcStore := result.ipcStore, commandQueue := rest, handler := result.handler })

/-- An accepted message is queued; the handler takes messages from the front. -/
def commandPath (actionHelper : ActionHelper fw) : Machine CommandPath PathStep PathAnswer where
  step p
    | .prepareCommand message telecommand getFreeElement =>
        let result := WebcamCommandingService.prepareCommand fw p.present getFreeElement p.ipcStore
          message telecommand.subservice telecommand.tcData
        (.prepared result.ret,
          { p with
            ipcStore := result.ipcStore
            commandQueue :=
              if result.ret = .ok then p.commandQueue ++ [result.message] else p.commandQueue })
    | .handleMessage base =>
        match p.commandQueue with
        | [] => (.nothing, p)
        | message :: rest =>
            let (handling, p) := p.handle actionHelper base message rest
            (.handled handling, p)
    | .overrideCall call => (.nothing, { p with handler := (p.handler.step call).2 })
    | .otherUsers ipcStore => (.nothing, { p with ipcStore := ipcStore })

/-! ### What a history accepted and handled -/

/-- The telecommand the service accepted. -/
def acceptedTelecommand (e : PathEvent) : Option Telecommand :=
  match e.input, e.output with
  | .prepareCommand _ telecommand _, .prepared .ok => some telecommand
  | _, _ => none

/-- What the handler did with the message it took. -/
def handledMessage (e : PathEvent) : Option Handling :=
  match e.output with
  | .handled handling => some handling
  | _ => none

def acceptedTelecommands (hist : List PathEvent) : List Telecommand :=
  hist.filterMap acceptedTelecommand

def handledMessages (hist : List PathEvent) : List Handling := hist.filterMap handledMessage

/-- The telecommand was served.  For a device command no reply was sent, so in particular not
`UNKNOWN_COMMAND`; its command was executed once with its application data, which is what became of
the handler, so that a commanded frame rate is the requested one; and the element that brought the
data is gone.  Any other telecommand is a parameter dump: its message asks for the parameter the
telecommand names, and goes to the base class with nothing done to it, to the handler or to the
store. -/
def Served (fw : FwMessages) (t : Telecommand) (handling : Handling) : Prop :=
  match commandOfSubservice t.subservice with
  | some k =>
      handling.result.ret = .ok ∧ handling.result.replies = [] ∧
        handling.result.executed = [(k.toRaw, t.tcData.data)] ∧
        handling.result.handler =
          (handling.handler.buildCommandFromCommand k.toRaw (.bytes t.tcData.data)).2 ∧
        (k = .commandSetFrameRate →
          handling.result.handler.requestedFrameRate.toBytes = t.tcData.data) ∧
        handling.result.ipcStore = handling.ipcStore.erase handling.message.parameter
  | none =>
      Subservice.cast t.subservice = some .parameterDump ∧
        (∃ message, handling.message =
          WebcamCommandingService.dumpMessage fw message t.tcData) ∧
        handling.result =
          { ret := handling.base, handler := handling.handler, ipcStore := handling.ipcStore }

/-- The elements named by the device command messages of a queue. -/
def inFlight (fw : FwMessages) (queue : List CommandMessage) : List StoreAddress :=
  (queue.filter fun message => message.getMessageType = fw.deviceHandlerCommand).map
    CommandMessage.parameter

/-- The store hands out addresses that are not live, and its other users leave alone the elements in
flight to the handler. -/
def storeDiscipline (fw : FwMessages) (_ : List PathEvent) (p : CommandPath) : PathStep → Prop
  | .prepareCommand _ _ getFreeElement =>
      ∀ size a, getFreeElement size = .ok a → ¬ p.ipcStore.Live a
  | .otherUsers ipcStore => ∀ a ∈ inFlight fw p.commandQueue, ipcStore a = p.ipcStore a
  | _ => True

/-! ### Messages carry telecommands -/

/-- The message stands for the telecommand: a device command names its command and an element with
its data, a parameter dump names the parameter. -/
def Carries (fw : FwMessages) (ipcStore : IpcStore) (t : Telecommand) (message : CommandMessage) :
    Prop :=
  match commandOfSubservice t.subservice with
  | some k =>
      message.command = makeCommandId fw.deviceHandlerCommand (commandToRaw k).toUInt8 ∧
        ipcStore message.parameter = some t.tcData.data ∧
        (k = .commandSetFrameRate → t.tcData.data.length = Double.size)
  | none =>
      Subservice.cast t.subservice = some .parameterDump ∧
        ∃ original, message = WebcamCommandingService.dumpMessage fw original t.tcData

theorem carries_device {ipcStore : IpcStore} {t : Telecommand} {message : CommandMessage}
    {k : CommandId} (hk : commandOfSubservice t.subservice = some k) :
    Carries fw ipcStore t message ↔
      message.command = makeCommandId fw.deviceHandlerCommand (commandToRaw k).toUInt8 ∧
        ipcStore message.parameter = some t.tcData.data ∧
        (k = .commandSetFrameRate → t.tcData.data.length = Double.size) := by
  rw [Carries, hk]

theorem carries_other {ipcStore : IpcStore} {t : Telecommand} {message : CommandMessage}
    (hk : commandOfSubservice t.subservice = none) :
    Carries fw ipcStore t message ↔ Subservice.cast t.subservice = some .parameterDump ∧
      ∃ original, message = WebcamCommandingService.dumpMessage fw original t.tcData := by
  rw [Carries, hk]

/-- The message type tells device commands from parameter dumps. -/
theorem Carries.isDevice {ipcStore : IpcStore} {t : Telecommand} {message : CommandMessage}
    (hc : Carries fw ipcStore t message) :
    message.getMessageType = fw.deviceHandlerCommand ↔
      commandOfSubservice t.subservice ≠ none := by
  cases hk : commandOfSubservice t.subservice with
  | none =>
    obtain ⟨-, original, rfl⟩ := (carries_other hk).mp hc
    refine iff_of_false (fun htype => ?_) (by simp)
    rw [WebcamCommandingService.getMessageType_dumpMessage] at htype
    exact fw.parameter_ne_deviceHandlerCommand htype
  | some k =>
    have hword := ((carries_device hk).mp hc).1
    exact iff_of_true (getMessageType_makeCommandId hword) (by simp)

theorem inFlight_cons (message : CommandMessage) (queue : List CommandMessage) :
    inFlight fw (message :: queue) =
      (if message.getMessageType = fw.deviceHandlerCommand then [message.parameter] else []) ++
        inFlight fw queue := by
  rw [inFlight, List.filter_cons]
  split_ifs <;> simp_all [inFlight]

theorem inFlight_snoc (queue : List CommandMessage) (message : CommandMessage) :
    inFlight fw (queue ++ [message]) = inFlight fw queue ++
      if message.getMessageType = fw.deviceHandlerCommand then [message.parameter] else [] := by
  rw [inFlight, List.filter_append, List.map_append, ← inFlight]
  congr 1
  rw [List.filter_singleton]
  split_ifs <;> simp_all

theorem mem_inFlight {queue : List CommandMessage} {a : StoreAddress} :
    a ∈ inFlight fw queue ↔ ∃ message ∈ queue,
      message.getMessageType = fw.deviceHandlerCommand ∧ message.parameter = a := by
  simp [inFlight, and_assoc]

/-- A carrying message looks at its own element only. -/
theorem Carries.congr {ipcStore ipcStore' : IpcStore} {t : Telecommand} {message : CommandMessage}
    (hc : Carries fw ipcStore t message)
    (hsame : message.getMessageType = fw.deviceHandlerCommand →
      ipcStore' message.parameter = ipcStore message.parameter) :
    Carries fw ipcStore' t message := by
  cases hk : commandOfSubservice t.subservice with
  | none => exact (carries_other hk).mpr ((carries_other hk).mp hc)
  | some k =>
    obtain ⟨hword, hlive, hlength⟩ := (carries_device hk).mp hc
    have htype := getMessageType_makeCommandId hword
    exact (carries_device hk).mpr ⟨hword, by rw [hsame htype, hlive], hlength⟩

/-- The element of a device command in flight is live. -/
theorem Carries.live {ipcStore : IpcStore} {t : Telecommand} {message : CommandMessage}
    (hc : Carries fw ipcStore t message)
    (htype : message.getMessageType = fw.deviceHandlerCommand) :
    ipcStore.Live message.parameter := by
  obtain ⟨k, hk⟩ := Option.ne_none_iff_exists'.mp (hc.isDevice.mp htype)
  rw [Store.Live, ((carries_device hk).mp hc).2.1]
  simp

/-- **What preparing a command leaves behind**: the live elements as they were, and if it is
accepted a message that carries the telecommand through a new element. -/
theorem prepareCommand_carries (present : Bool) (ipcStore : IpcStore) (message : CommandMessage)
    (t : Telecommand) (getFreeElement : Nat → Except Failure StoreAddress)
    (fresh : ∀ size a, getFreeElement size = .ok a → ¬ ipcStore.Live a) :
    let result := WebcamCommandingService.prepareCommand fw present getFreeElement ipcStore message
      t.subservice t.tcData
    (∀ a, ipcStore.Live a → result.ipcStore a = ipcStore a) ∧
      (result.ret = .ok → Carries fw result.ipcStore t result.message ∧
        (result.message.getMessageType = fw.deviceHandlerCommand →
          ¬ ipcStore.Live result.message.parameter)) := by
  intro result
  cases hk : commandOfSubservice t.subservice with
  | none =>
    obtain ⟨hstore, hmessage⟩ := WebcamCommandingService.prepareCommand_other fw present
      getFreeElement ipcStore message t.tcData hk
    refine ⟨fun a _ => congrFun hstore a, fun hok => ?_⟩
    obtain ⟨hdump, hwritten⟩ := hmessage hok
    have hcarry : Carries fw result.ipcStore t result.message :=
      (carries_other hk).mpr ⟨hdump, message, hwritten⟩
    exact ⟨hcarry, fun htype => absurd hk (hcarry.isDevice.mp htype)⟩
  | some k =>
    have hdevice := WebcamCommandingService.prepareCommand_device fw present getFreeElement ipcStore
      message t.tcData hk
    rcases WebcamCommandingService.prepareDeviceCommand_cases fw present getFreeElement ipcStore
      message t.tcData k with ⟨hret, -, hstore⟩ | ⟨a, hfree, hparameters, -, hmessage, hstore⟩
    · rw [← hdevice] at hret hstore
      exact ⟨fun a _ => congrFun hstore a, fun hok => absurd hok hret⟩
    · rw [← hdevice] at hmessage hstore
      have hfresh := fresh _ a hfree
      refine ⟨fun x hx => ?_, fun _ => ⟨(carries_device hk).mpr ⟨?_, ?_, fun hset => ?_⟩, ?_⟩⟩
      · rw [show result.ipcStore = _ from hstore]
        exact Store.put_of_ne _ _ fun heq => hfresh (heq ▸ hx)
      · rw [show result.message = _ from hmessage]
        rfl
      · rw [show result.message = _ from hmessage, show result.ipcStore = _ from hstore]
        exact Store.put_self _ a _
      · subst hset
        exact WebcamCommandingService.deviceParameters_length hparameters
      · rw [show result.message = _ from hmessage]
        exact fun _ => hfresh

/-! ### The account of the queue -/

/-- The accepted telecommands are those answered, in order, followed by those whose messages are in
flight, each through an element of its own. -/
structure Flight {β : Type} (fw : FwMessages) (answered : Telecommand → β → Prop)
    (accepted : List Telecommand) (answers : List β) (p : CommandPath) : Prop where
  account : Fifo answered (Carries fw p.ipcStore) accepted answers p.commandQueue
  distinct : (inFlight fw p.commandQueue).Nodup

section

variable {β : Type} {answered : Telecommand → β → Prop} {accepted : List Telecommand}
  {answers : List β} {p : CommandPath}

/-- The elements in flight are live. -/
theorem Flight.live (flight : Flight fw answered accepted answers p) :
    ∀ a ∈ inFlight fw p.commandQueue, p.ipcStore.Live a := by
  intro a ha
  obtain ⟨message, hmessage, htype, rfl⟩ := mem_inFlight.mp ha
  obtain ⟨t, hcarry⟩ := flight.account.exists_of_mem hmessage
  exact hcarry.live htype

theorem Flight.empty (hqueue : p.commandQueue = []) : Flight fw answered [] [] p := by
  refine ⟨?_, ?_⟩
  · rw [hqueue]
    exact Fifo.empty
  · rw [hqueue]
    exact List.nodup_nil

/-- A step that keeps the queue and spares the elements in flight. -/
theorem Flight.spare {p' : CommandPath} (flight : Flight fw answered accepted answers p)
    (hqueue : p'.commandQueue = p.commandQueue)
    (hstore : ∀ a ∈ inFlight fw p.commandQueue, p'.ipcStore a = p.ipcStore a) :
    Flight fw answered accepted answers p' := by
  refine ⟨?_, by rw [hqueue]; exact flight.distinct⟩
  rw [hqueue]
  refine flight.account.congr fun t message hmessage hcarry => hcarry.congr fun htype => ?_
  exact hstore _ (mem_inFlight.mpr ⟨message, hmessage, htype, rfl⟩)

/-- A telecommand that is accepted joins the queue with its message. -/
theorem Flight.accept {p' : CommandPath} {t : Telecommand} {message : CommandMessage}
    (flight : Flight fw answered accepted answers p)
    (hqueue : p'.commandQueue = p.commandQueue ++ [message])
    (hstore : ∀ a ∈ inFlight fw p.commandQueue, p'.ipcStore a = p.ipcStore a)
    (hcarry : Carries fw p'.ipcStore t message)
    (hnew : message.getMessageType = fw.deviceHandlerCommand →
      message.parameter ∉ inFlight fw p.commandQueue) :
    Flight fw answered (accepted ++ [t]) answers p' := by
  have spared : Flight fw answered accepted answers { p with ipcStore := p'.ipcStore } :=
    flight.spare rfl hstore
  obtain ⟨account, distinct⟩ := spared
  refine ⟨by rw [hqueue]; exact account.push hcarry, ?_⟩
  rw [hqueue, inFlight_snoc]
  by_cases htype : message.getMessageType = fw.deviceHandlerCommand
  · rw [if_pos htype]
    refine List.nodup_append.mpr ⟨distinct, List.nodup_singleton _, fun a ha b hb hab => ?_⟩
    rw [List.mem_singleton] at hb
    exact hnew htype (hb ▸ hab ▸ ha)
  · rw [if_neg htype, List.append_nil]
    exact distinct

/-- **Preparing a command keeps the account**, whether its message is then queued or not. -/
theorem Flight.prepare (flight : Flight fw answered accepted answers p) (message : CommandMessage)
    (t : Telecommand) (getFreeElement : Nat → Except Failure StoreAddress)
    (fresh : ∀ size a, getFreeElement size = .ok a → ¬ p.ipcStore.Live a) (queued : Prop)
    [Decidable queued] :
    let result := WebcamCommandingService.prepareCommand fw p.present getFreeElement p.ipcStore
      message t.subservice t.tcData
    (queued → result.ret = .ok) →
      Flight fw answered (if queued then accepted ++ [t] else accepted) answers
        { p with
          ipcStore := result.ipcStore
          commandQueue :=
            if queued then p.commandQueue ++ [result.message] else p.commandQueue } := by
  intro result hqueued
  obtain ⟨hspared, hcarries⟩ :=
    @prepareCommand_carries fw p.present p.ipcStore message t getFreeElement fresh
  have hstore : ∀ a ∈ inFlight fw p.commandQueue, result.ipcStore a = p.ipcStore a :=
    fun a ha => hspared a (flight.live a ha)
  by_cases hq : queued
  · obtain ⟨hcarry, hnew⟩ := hcarries (hqueued hq)
    simp only [if_pos hq]
    exact flight.accept rfl hstore hcarry fun htype hmem => hnew htype (flight.live _ hmem)
  · simp only [if_neg hq]
    exact flight.spare rfl hstore

/-- The message at the front carries a telecommand, and goes with an answer to it. -/
theorem Flight.take {message : CommandMessage} {rest : List CommandMessage}
    (flight : Flight fw answered accepted answers p)
    (hqueue : p.commandQueue = message :: rest) :
    ∃ t, Carries fw p.ipcStore t message ∧ ∀ (p' : CommandPath) (answer : β),
      answered t answer → p'.commandQueue = rest →
      (∀ a ∈ inFlight fw rest, p'.ipcStore a = p.ipcStore a) →
      Flight fw answered accepted (answers ++ [answer]) p' := by
  obtain ⟨account, distinct⟩ := flight
  rw [hqueue] at account distinct
  rw [inFlight_cons] at distinct
  obtain ⟨t, hcarry, hrest⟩ := account.pop
  refine ⟨t, hcarry, fun p' answer hanswer hqueue' hstore => ?_⟩
  refine Flight.spare (p := { p with commandQueue := rest }) ?_ hqueue' hstore
  exact ⟨hrest answer hanswer, (List.nodup_append.mp distinct).2.1⟩

end

/-- Executing a set-frame-rate command with eight bytes requests the rate they encode. -/
theorem execute_setFrameRate (h : WebcamDeviceHandler) (bytes : List UInt8)
    (hlength : bytes.length = Double.size) :
    (h.execute (CommandId.commandSetFrameRate.toRaw, bytes)).requestedFrameRate.toBytes =
      bytes := by
  have hrate : (h.execute (CommandId.commandSetFrameRate.toRaw, bytes)).requestedFrameRate =
      Double.memcpy bytes := by
    simp [WebcamDeviceHandler.execute, WebcamDeviceHandler.buildCommandFromCommand, hlength]
  rw [hrate, Double.toBytes_memcpy bytes hlength]

section

variable (actionHelper : ActionHelper fw) (p : CommandPath) (base : ReturnValue)

/-- A message that carries a telecommand serves it, and the elements still in flight are spared. -/
theorem served_of_carries (t : Telecommand) (message : CommandMessage)
    (rest : List CommandMessage) (hcarry : Carries fw p.ipcStore t message)
    (hnodup : (inFlight fw (message :: rest)).Nodup) :
    Served fw t (p.handle actionHelper base message rest).1 ∧
      ∀ a ∈ inFlight fw rest,
        (p.handle actionHelper base message rest).2.ipcStore a = p.ipcStore a := by
  simp only [CommandPath.handle, Served]
  cases hk : commandOfSubservice t.subservice with
  | none =>
    obtain ⟨hdump, original, hmessage⟩ := (carries_other hk).mp hcarry
    have htype : message.getMessageType ≠ fw.deviceHandlerCommand :=
      fun htype => hcarry.isDevice.mp htype hk
    rw [WebcamDeviceHandler.letChildHandleMessage_other actionHelper base p.handler p.ipcStore
      message htype]
    exact ⟨⟨hdump, ⟨original, hmessage⟩, rfl⟩, fun a _ => rfl⟩
  | some k =>
    obtain ⟨hword, hlive, hlength⟩ := (carries_device hk).mp hcarry
    have htype := getMessageType_makeCommandId hword
    rw [WebcamDeviceHandler.letChildHandleMessage_device actionHelper base p.handler p.ipcStore
      message k t.tcData.data hword hlive]
    refine ⟨⟨rfl, rfl, rfl, rfl, fun hset => ?_, rfl⟩, fun a ha => ?_⟩
    · subst hset
      exact execute_setFrameRate p.handler t.tcData.data (hlength rfl)
    · rw [inFlight_cons, if_pos htype] at hnodup
      have hne : a ≠ message.parameter := by
        intro heq
        exact (List.nodup_cons.mp hnodup).1 (heq ▸ ha)
      exact Store.erase_of_ne _ hne

/-- **Handling a message keeps the account**, where being served is an answer. -/
theorem Flight.handle {β : Type} {answered : Telecommand → β → Prop} {accepted : List Telecommand}
    {answers : List β} {p : CommandPath} {message : CommandMessage} {rest : List CommandMessage}
    (flight : Flight fw answered accepted answers p) (hqueue : p.commandQueue = message :: rest)
    (answer : Handling → β) (hanswer : ∀ t handling, Served fw t handling →
      answered t (answer handling)) :
    Flight fw answered accepted
      (answers ++ [answer (p.handle actionHelper base message rest).1])
      (p.handle actionHelper base message rest).2 := by
  have distinct := flight.distinct
  rw [hqueue] at distinct
  obtain ⟨t, hcarry, htake⟩ := flight.take hqueue
  obtain ⟨hserved, hspared⟩ :=
    served_of_carries actionHelper p base t message rest hcarry distinct
  exact htake _ _ (hanswer t _ hserved) rfl hspared

end

/-! ### Runs -/

/-- The account over a history: what was accepted was served or is in flight. -/
def PathInvariant (fw : FwMessages) (hist : List PathEvent) (p : CommandPath) : Prop :=
  Flight fw (Served fw) (acceptedTelecommands hist) (handledMessages hist) p

variable (actionHelper : ActionHelper fw) (hist : List PathEvent) (p : CommandPath)

theorem acceptedTelecommands_snoc (e : PathEvent) : acceptedTelecommands (hist ++ [e]) =
    acceptedTelecommands hist ++ (acceptedTelecommand e).toList :=
  filterMap_snoc acceptedTelecommand hist e

theorem handledMessages_snoc (e : PathEvent) : handledMessages (hist ++ [e]) =
    handledMessages hist ++ (handledMessage e).toList :=
  filterMap_snoc handledMessage hist e

/-- A step that neither accepts nor handles, keeps the queue, and spares the elements in flight. -/
theorem pathInvariant_frame {p' : CommandPath} (e : PathEvent)
    (haccepted : acceptedTelecommand e = none) (hhandled : handledMessage e = none)
    (hqueue : p'.commandQueue = p.commandQueue)
    (hstore : ∀ a ∈ inFlight fw p.commandQueue, p'.ipcStore a = p.ipcStore a)
    (inv : PathInvariant fw hist p) : PathInvariant fw (hist ++ [e]) p' := by
  rw [PathInvariant, acceptedTelecommands_snoc, handledMessages_snoc, haccepted, hhandled,
    Option.toList_none, Option.toList_none, List.append_nil, List.append_nil]
  exact inv.spare hqueue hstore

/-- Giving a telecommand to the service keeps the invariant. -/
theorem pathInvariant_prepareCommand (message : CommandMessage) (t : Telecommand)
    (getFreeElement : Nat → Except Failure StoreAddress)
    (fresh : ∀ size a, getFreeElement size = .ok a → ¬ p.ipcStore.Live a)
    (inv : PathInvariant fw hist p) :
    let step := PathStep.prepareCommand message t getFreeElement
    PathInvariant fw (hist ++ [(commandPath actionHelper).event p step])
      ((commandPath actionHelper).step p step).2 := by
  intro step
  let result := WebcamCommandingService.prepareCommand fw p.present getFreeElement p.ipcStore
    message t.subservice t.tcData
  have hflight := Flight.prepare inv message t getFreeElement fresh (result.ret = .ok) id
  have haccepted : acceptedTelecommand ((commandPath actionHelper).event p step) =
      if result.ret = .ok then some t else none := by
    show acceptedTelecommand ⟨step, .prepared result.ret, _⟩ = _
    cases result.ret <;> rfl
  have hhandled : handledMessage ((commandPath actionHelper).event p step) = none := rfl
  rw [PathInvariant, acceptedTelecommands_snoc, handledMessages_snoc, haccepted, hhandled,
    Option.toList_none, List.append_nil]
  by_cases hret : result.ret = .ok
  · rw [if_pos hret] at hflight ⊢
    exact hflight
  · rw [if_neg hret] at hflight ⊢
    rw [Option.toList_none, List.append_nil]
    exact hflight

/-- Taking a message off the queue keeps the invariant. -/
theorem pathInvariant_handleMessage (base : ReturnValue) (inv : PathInvariant fw hist p) :
    PathInvariant fw (hist ++ [(commandPath actionHelper).event p (.handleMessage base)])
      ((commandPath actionHelper).step p (.handleMessage base)).2 := by
  cases hqueue : p.commandQueue with
  | nil =>
    have hstep : (commandPath actionHelper).step p (.handleMessage base) = (.nothing, p) := by
      simp only [commandPath, hqueue]
    refine pathInvariant_frame hist p _ rfl ?_ (by rw [hstep]) (fun a _ => by rw [hstep]) inv
    rw [handledMessage, Machine.event_output, hstep]
  | cons message rest =>
    have hstep : (commandPath actionHelper).step p (.handleMessage base) =
        (.handled (p.handle actionHelper base message rest).1,
          (p.handle actionHelper base message rest).2) := by
      simp only [commandPath, hqueue]
    have hhandled : handledMessage ((commandPath actionHelper).event p (.handleMessage base)) =
        some (p.handle actionHelper base message rest).1 := by
      rw [handledMessage, Machine.event_output, hstep]
    have haccepted : acceptedTelecommand
        ((commandPath actionHelper).event p (.handleMessage base)) = none := rfl
    rw [PathInvariant, acceptedTelecommands_snoc, handledMessages_snoc, haccepted, hhandled, hstep,
      Option.toList_none, List.append_nil]
    exact Flight.handle actionHelper base inv hqueue id fun _ _ hserved => hserved

/-- **Every step keeps the invariant.** -/
theorem pathInvariant_step (step : PathStep) (discipline : storeDiscipline fw hist p step)
    (inv : PathInvariant fw hist p) :
    PathInvariant fw (hist ++ [(commandPath actionHelper).event p step])
      ((commandPath actionHelper).step p step).2 := by
  cases step with
  | prepareCommand message t getFreeElement =>
    exact pathInvariant_prepareCommand actionHelper hist p message t getFreeElement discipline inv
  | handleMessage base => exact pathInvariant_handleMessage actionHelper hist p base inv
  | overrideCall call => exact pathInvariant_frame hist p _ rfl rfl rfl (fun _ _ => rfl) inv
  | otherUsers ipcStore => exact pathInvariant_frame hist p _ rfl rfl rfl discipline inv

/-- **The command round trip.**  However telecommands, message handling, other calls of the handler
and other users of the IPC store interleave, from whatever store and handler: the messages handled
serve the accepted telecommands one after the other in order, each executed once as the command its
subservice names and with exactly its application data, and the telecommands not yet served are
those whose messages wait in the queue. -/
theorem command_round_trip (start : CommandPath) (empty : start.commandQueue = [])
    (steps : List PathStep)
    (discipline : (commandPath actionHelper).Lawful (storeDiscipline fw) start steps) :
    ∃ served waiting,
      acceptedTelecommands ((commandPath actionHelper).trace start steps) = served ++ waiting ∧
        List.Forall₂ (Served fw) served
          (handledMessages ((commandPath actionHelper).trace start steps)) ∧
        waiting.length = ((commandPath actionHelper).final start steps).commandQueue.length := by
  have hstart : PathInvariant fw [] start := Flight.empty empty
  obtain ⟨⟨served, waiting, hsplit, hserved, hcarries⟩, -⟩ :=
    Machine.lawful_induction hstart (fun hist p => pathInvariant_step actionHelper hist p) steps
      discipline
  exact ⟨served, waiting, hsplit, hserved, hcarries.length_eq⟩

end

/-! ### Two commands in flight -/

/-- A set-frame-rate telecommand for 24 fps. -/
def setTwentyFour : Telecommand := ⟨2, .bytes [0, 0, 0, 0, 0, 0, 0x38, 0x40]⟩

/-- A set-frame-rate and a snapshot telecommand are given to the service before the handler takes
the first message; a parameter dump follows, and all three are taken. -/
def overlappingExchange : List PathStep :=
  [.prepareCommand ⟨0, 0, 0⟩ setTwentyFour (fun _ => .ok 7),
    .prepareCommand ⟨0, 0, 0⟩ ⟨1, .bytes []⟩ (fun _ => .ok 8), .handleMessage .failed,
    .prepareCommand ⟨0, 0, 0⟩ ⟨4, .bytes []⟩ (fun _ => .ok 7), .handleMessage .failed,
    .handleMessage .failed]

/-- The telecommands of `overlappingExchange`. -/
def overlappingCommands : List Telecommand := [setTwentyFour, ⟨1, .bytes []⟩, ⟨4, .bytes []⟩]

/-- All three are accepted and served, each with its own data. -/
theorem command_round_trip_exchange :
    let path := commandPath (ActionHelper.direct numberedMessages)
    let start : CommandPath := ⟨true, fun _ => none, [], .construct true⟩
    acceptedTelecommands (path.trace start overlappingExchange) = overlappingCommands ∧
      List.Forall₂ (Served numberedMessages) overlappingCommands
        (handledMessages (path.trace start overlappingExchange)) := by
  intro path start
  have discipline : path.Lawful (storeDiscipline numberedMessages) start overlappingExchange := by
    refine ⟨fun _ a ha => ?_, fun _ a ha => ?_, trivial, fun _ a ha => ?_, trivial, trivial,
      trivial⟩ <;> cases ha <;> exact not_not.mpr (by decide)
  have haccepted : acceptedTelecommands (path.trace start overlappingExchange) =
      overlappingCommands := rfl
  obtain ⟨served, waiting, hsplit, hserved, hlength⟩ :=
    command_round_trip (ActionHelper.direct numberedMessages) start rfl overlappingExchange
      discipline
  have hwaiting : waiting = [] := List.eq_nil_of_length_eq_zero hlength
  rw [hwaiting, List.append_nil] at hsplit
  exact ⟨haccepted, hsplit.symm.trans haccepted ▸ hserved⟩

end FsfwFromZero
