import FsfwFromZero.Lib.Machine
import FsfwFromZero.Tmtc.WebcamCommandingService

/-!
# Replies and the data they bring

`handleReply` of `mission/tmtc/WebcamCommandingService.cpp` with the two functions it dispatches to.
A data reply and a parameter dump name an element of the IPC store; the service sends its bytes as
telemetry and frees it.  Every other reply is answered from the message alone.

* `handleActionReply`, `handleParameterReply`, `handleReply` — the source's functions, over
  `relayElement`, the part the first two share;
* `IpcPool` — the IPC store as the object factory configures it, where an element is at most `128`
  bytes;
* `namedElement` — the element a reply brings;
* `handleReply_spec` — **what a reply does to the store and to telemetry**;
* `replyHandling : Machine`, `replies_final` — after any replies the store has lost the elements
  they name and no others.
-/

namespace FsfwFromZero

open Lib

/-! ### The messages -/

/-- The command bytes of the framework's replies. -/
structure FwReplies where
  /-- `ActionMessage::STEP_SUCCESS`. -/
  stepSuccess : UInt8
  /-- `ActionMessage::STEP_FAILED`. -/
  stepFailed : UInt8
  /-- `ActionMessage::DATA_REPLY`. -/
  dataReply : UInt8
  /-- `ActionMessage::COMPLETION_SUCCESS`. -/
  completionSuccess : UInt8
  /-- `ActionMessage::COMPLETION_FAILED`. -/
  completionFailed : UInt8
  /-- `ParameterMessage::REPLY_PARAMETER_DUMP`. -/
  replyParameterDump : UInt8
  /-- `ActionMessage::getReturnCode`. -/
  getReturnCode : CommandMessage → ReturnValue
  /-- They are labels of one `switch`. -/
  labels_nodup :
    [completionSuccess, stepSuccess, dataReply, stepFailed, completionFailed].Nodup

namespace ParameterMessage

/-- `ParameterMessage::getParameterId`. -/
def getParameterId (message : CommandMessage) : UInt32 := message.parameter

/-- `ParameterMessage::getStoreId`. -/
def getStoreId (message : CommandMessage) : StoreAddress := message.parameter2

end ParameterMessage

/-- A telemetry packet as it is given to `sendTmPacket`: a `DataReply` or a `ParameterDumpReply`
under a subservice. -/
inductive TmPacket
  | dataReply (subservice : UInt8) (objectId actionId : UInt32) (data : List UInt8)
  | parameterDumpReply (subservice : UInt8) (objectId parameterId : UInt32) (data : List UInt8)
  deriving Repr, DecidableEq

/-- The bytes a packet carries. -/
def TmPacket.data : TmPacket → List UInt8
  | dataReply _ _ _ data | parameterDumpReply _ _ _ data => data

/-- `DataReply(objectId, actionId, data, size)`, which takes the size as a `uint16_t`. -/
def TmPacket.ofDataReply (actionId : UInt32) (data : List UInt8) : TmPacket :=
  .dataReply Subservice.tmCommandDataReply.toRaw objectIdWebcamHandler actionId
    (data.take (UInt16.ofNat data.length).toNat)

/-- `ParameterDumpReply(objectId, parameterId, data, size)`. -/
def TmPacket.ofParameterDump (objectId parameterId : UInt32) (data : List UInt8) : TmPacket :=
  .parameterDumpReply Subservice.tmParameterDump.toRaw objectId parameterId data

/-- A reply with what the framework answers while it is handled. -/
structure ReplyCall where
  reply : CommandMessage
  objectId : UInt32
  /-- `*isStep` as the caller set it. -/
  isStep : Bool
  /-- What `getData` answers for an address that is not live. -/
  getDataFailure : Failure
  sendTmPacket : TmPacket → ReturnValue

structure ReplyResult where
  ret : ReturnValue
  isStep : Bool
  error : Option String := none
  /-- The packets given to `sendTmPacket`, oldest first. -/
  packets : List TmPacket := []
  ipcStore : IpcStore

/-! ### The functions -/

namespace WebcamCommandingService

variable (fw : FwMessages) (replies : FwReplies)

/-- `ipcStore->getData(storeId, &data, &size)`. -/
def getData (ipcStore : IpcStore) (failure : Failure) (storeId : StoreAddress) :
    Except Failure (List UInt8) :=
  match ipcStore storeId with
  | none => .error failure
  | some data => .ok data

/-- What both kinds of data do: look up the element, send its bytes, free it. -/
def relayElement (present : Bool) (ipcStore : IpcStore) (call : ReplyCall) (isStep : Bool)
    (storeId : StoreAddress) (unavailable : String) (packet : List UInt8 → TmPacket) :
    ReplyResult :=
  if !present then
    { ret := .failed, isStep := isStep, error := some unavailable, ipcStore := ipcStore }
  else
    match getData ipcStore call.getDataFailure storeId with
    | .error code => { ret := code, isStep := isStep, ipcStore := ipcStore }
    | .ok data =>
        { ret := call.sendTmPacket (packet data), isStep := isStep, packets := [packet data]
          ipcStore := ipcStore.erase storeId }

def handleActionReply (present : Bool) (ipcStore : IpcStore) (call : ReplyCall) : ReplyResult :=
  let replyId := call.reply.command
  let answer (ret : ReturnValue) (isStep : Bool) : ReplyResult :=
    { ret := ret, isStep := isStep, ipcStore := ipcStore }
  if replyId = makeCommandId fw.action replies.completionSuccess then
    answer .executionComplete call.isStep
  else if replyId = makeCommandId fw.action replies.stepSuccess then answer .ok true
  else if replyId = makeCommandId fw.action replies.dataReply then
    relayElement present ipcStore call true (ActionMessage.getStoreId call.reply)
      "WebcamCommandingService::handleActionReply: IPC store unavailable"
      (.ofDataReply (ActionMessage.getActionId call.reply))
  else if replyId = makeCommandId fw.action replies.stepFailed then
    answer (replies.getReturnCode call.reply) true
  else if replyId = makeCommandId fw.action replies.completionFailed then
    answer (replies.getReturnCode call.reply) call.isStep
  else answer .invalidReply call.isStep

def handleParameterReply (present : Bool) (ipcStore : IpcStore) (call : ReplyCall) : ReplyResult :=
  if call.reply.command ≠ makeCommandId fw.parameter replies.replyParameterDump then
    { ret := .invalidReply, isStep := call.isStep, ipcStore := ipcStore }
  else
    relayElement present ipcStore call call.isStep (ParameterMessage.getStoreId call.reply)
      "WebcamCommandingService::handleParameterReply: IPC store unavailable"
      (.ofParameterDump call.objectId (ParameterMessage.getParameterId call.reply))

def handleReply (present : Bool) (ipcStore : IpcStore) (call : ReplyCall) : ReplyResult :=
  if call.reply.getMessageType = fw.action then
    handleActionReply fw replies present ipcStore call
  else if call.reply.getMessageType = fw.parameter then
    handleParameterReply fw replies present ipcStore call
  else { ret := .invalidReply, isStep := call.isStep, ipcStore := ipcStore }

/-- Reply handling by a service that has an IPC store, over the store. -/
def replyHandling : Machine IpcStore ReplyCall ReplyResult where
  step ipcStore call :=
    let result := handleReply fw replies true ipcStore call
    (result, result.ipcStore)

/-! ### The pool -/

/-- The buckets of the IPC store as `createMissionObjects` configures them: elements and their size.
-/
def ipcCfg : List (Nat × Nat) := [(40, 32), (20, 64), (10, 128)]

/-- A state of the configured IPC store: every element lies in a bucket. -/
structure IpcPool where
  store : IpcStore
  fits : ∀ a data, store a = some data → ∃ bucket ∈ ipcCfg, data.length ≤ bucket.2

/-- The length of an element fits a `uint16_t`. -/
theorem IpcPool.length_lt (pool : IpcPool) {a : StoreAddress} {data : List UInt8}
    (h : pool.store a = some data) : data.length < 65536 := by
  obtain ⟨bucket, hbucket, hlength⟩ := pool.fits a data h
  have hsize : ∀ bucket ∈ ipcCfg, bucket.2 ≤ 128 := by decide
  have := hsize bucket hbucket
  omega

/-- A data reply carries all bytes of an element. -/
theorem data_ofDataReply {actionId : UInt32} {data : List UInt8} (h : data.length < 65536) :
    (TmPacket.ofDataReply actionId data).data = data := by
  show data.take (UInt16.ofNat data.length).toNat = data
  rw [UInt16.toNat_ofNat_of_lt' h, List.take_length]

/-! ### One reply -/

/-- The address of the element a reply brings. -/
def namedElement (reply : CommandMessage) : Option StoreAddress :=
  if reply.command = makeCommandId fw.action replies.dataReply then
    some (ActionMessage.getStoreId reply)
  else if reply.command = makeCommandId fw.parameter replies.replyParameterDump then
    some (ParameterMessage.getStoreId reply)
  else none

/-- The packet a reply sends an element's bytes in. -/
def replyPacket (call : ReplyCall) (data : List UInt8) : TmPacket :=
  if call.reply.getMessageType = fw.action then
    .ofDataReply (ActionMessage.getActionId call.reply) data
  else .ofParameterDump call.objectId (ParameterMessage.getParameterId call.reply) data

/-- The labels of the `switch` are different words. -/
theorem makeCommandId_inj {messageType a b : UInt8} :
    makeCommandId messageType a = makeCommandId messageType b ↔ a = b := by
  refine ⟨fun heq => ?_, fun heq => by rw [heq]⟩
  have hnat := congrArg UInt16.toNat heq
  rw [makeCommandId_toNat, makeCommandId_toNat] at hnat
  exact UInt8.toNat_inj.mp (by omega)

/-- An action reply is the data reply and names an element, or leaves store and telemetry alone. -/
theorem handleActionReply_cases (ipcStore : IpcStore) (call : ReplyCall) :
    (call.reply.command = makeCommandId fw.action replies.dataReply ∧
      handleActionReply fw replies true ipcStore call =
        relayElement true ipcStore call true (ActionMessage.getStoreId call.reply)
          "WebcamCommandingService::handleActionReply: IPC store unavailable"
          (.ofDataReply (ActionMessage.getActionId call.reply))) ∨
      (call.reply.command ≠ makeCommandId fw.action replies.dataReply ∧
        (handleActionReply fw replies true ipcStore call).ipcStore = ipcStore ∧
        (handleActionReply fw replies true ipcStore call).packets = []) := by
  have hlabels := replies.labels_nodup
  simp only [List.nodup_cons, List.mem_cons, not_or] at hlabels
  by_cases hdata : call.reply.command = makeCommandId fw.action replies.dataReply
  · have hcompletion : replies.dataReply ≠ replies.completionSuccess :=
      fun heq => hlabels.1.2.1 heq.symm
    have hstep : replies.dataReply ≠ replies.stepSuccess := fun heq => hlabels.2.1.1 heq.symm
    refine Or.inl ⟨hdata, ?_⟩
    simp only [handleActionReply, hdata, makeCommandId_inj, hcompletion, hstep, if_false, if_true]
  · refine Or.inr ⟨hdata, ?_⟩
    simp only [handleActionReply, hdata, if_false]
    split_ifs <;> exact ⟨rfl, rfl⟩

/-- What relaying an element does, by whether it is there. -/
theorem relayElement_spec (ipcStore : IpcStore) (call : ReplyCall) (isStep : Bool)
    (storeId : StoreAddress) (unavailable : String) (packet : List UInt8 → TmPacket) :
    let result := relayElement true ipcStore call isStep storeId unavailable packet
    result.ipcStore = ipcStore.erase storeId ∧
      match ipcStore storeId with
      | none => result.packets = []
      | some data =>
          result.packets = [packet data] ∧ result.ret = call.sendTmPacket (packet data) := by
  intro result
  cases hlookup : ipcStore storeId with
  | none =>
    have hresult : result =
        { ret := call.getDataFailure, isStep := isStep, ipcStore := ipcStore } := by
      simp [result, relayElement, getData, hlookup]
    rw [hresult]
    exact ⟨(ipcStore.erase_of_not_live (not_not.mpr hlookup)).symm, rfl⟩
  | some data =>
    have hresult : result =
        { ret := call.sendTmPacket (packet data), isStep := isStep, packets := [packet data]
          ipcStore := ipcStore.erase storeId } := by
      simp [result, relayElement, getData, hlookup]
    rw [hresult]
    exact ⟨rfl, rfl, rfl⟩

theorem action_ne_parameter : fw.action ≠ fw.parameter := by
  have hnodup := fw.types_nodup
  simp only [List.nodup_cons, List.mem_singleton] at hnodup
  exact hnodup.2.1

/-- **What a reply does.**  A reply that brings an element frees it, and sends its bytes if it was
there; any other reply leaves the store alone and sends nothing. -/
theorem handleReply_spec (ipcStore : IpcStore) (call : ReplyCall) :
    let result := handleReply fw replies true ipcStore call
    match namedElement fw replies call.reply with
    | none => result.ipcStore = ipcStore ∧ result.packets = []
    | some a =>
        result.ipcStore = ipcStore.erase a ∧
          match ipcStore a with
          | none => result.packets = []
          | some data =>
              result.packets = [replyPacket fw call data] ∧
                result.ret = call.sendTmPacket (replyPacket fw call data) := by
  intro result
  have htypes := action_ne_parameter fw
  by_cases haction : call.reply.getMessageType = fw.action
  · -- a word of type ACTION is not the parameter dump's
    have hdump : call.reply.command ≠ makeCommandId fw.parameter replies.replyParameterDump :=
      fun hword => htypes (haction.symm.trans (getMessageType_makeCommandId hword))
    have hresult : result = handleActionReply fw replies true ipcStore call := if_pos haction
    have hpacket : replyPacket fw call =
        TmPacket.ofDataReply (ActionMessage.getActionId call.reply) :=
      funext fun _ => if_pos haction
    rw [hresult, namedElement, hpacket]
    rcases handleActionReply_cases fw replies ipcStore call with ⟨hdata, hrelay⟩ | ⟨hdata, hquiet⟩
    · rw [if_pos hdata, hrelay]
      exact relayElement_spec ..
    · rw [if_neg hdata, if_neg hdump]
      exact hquiet
  · have hdata : call.reply.command ≠ makeCommandId fw.action replies.dataReply :=
      fun hword => haction (getMessageType_makeCommandId hword)
    have hpacket : replyPacket fw call =
        .ofParameterDump call.objectId (ParameterMessage.getParameterId call.reply) :=
      funext fun _ => if_neg haction
    rw [namedElement, if_neg hdata, hpacket]
    by_cases hdump : call.reply.command = makeCommandId fw.parameter replies.replyParameterDump
    · have hparameter : call.reply.getMessageType = fw.parameter :=
        getMessageType_makeCommandId hdump
      have hresult : result =
          relayElement true ipcStore call call.isStep (ParameterMessage.getStoreId call.reply)
            "WebcamCommandingService::handleParameterReply: IPC store unavailable"
            (.ofParameterDump call.objectId (ParameterMessage.getParameterId call.reply)) := by
        simp only [result, handleReply, if_neg haction, if_pos hparameter, handleParameterReply,
          hdump, ne_eq, not_true_eq_false, if_false]
      rw [if_pos hdump, hresult]
      exact relayElement_spec ..
    · rw [if_neg hdump]
      simp only [result, handleReply, if_neg haction, handleParameterReply, ne_eq, hdump,
        not_false_eq_true, if_true]
      split_ifs <;> exact ⟨rfl, rfl⟩

/-- The packet carries the element's bytes, whichever kind of reply brings them. -/
theorem data_replyPacket (call : ReplyCall) {data : List UInt8} (h : data.length < 65536) :
    (replyPacket fw call data).data = data := by
  unfold replyPacket
  split_ifs
  · exact data_ofDataReply h
  · rfl

/-! ### Any number of replies -/

/-- **What replies do to the store.**  After any replies, in any order, the store has lost the
elements they name, and no others. -/
theorem replies_final (ipcStore : IpcStore) (calls : List ReplyCall) :
    (replyHandling fw replies).final ipcStore calls =
      ipcStore.without (calls.filterMap fun call => namedElement fw replies call.reply) := by
  induction calls generalizing ipcStore with
  | nil => exact (Store.without_nil ipcStore).symm
  | cons call calls ih =>
    have hspec := handleReply_spec fw replies ipcStore call
    rw [Machine.final_cons, ih]
    show (handleReply fw replies true ipcStore call).ipcStore.without _ = _
    cases hnamed : namedElement fw replies call.reply with
    | none =>
      simp only [hnamed] at hspec
      simp only [hspec.1, List.filterMap_cons, hnamed]
    | some a =>
      simp only [hnamed] at hspec
      simp only [hspec.1, List.filterMap_cons, hnamed, Store.without_cons]

/-- **Reply handling releases exactly the data it is given.**  A reply that brings a live element
frees that element only, sends one packet with its bytes, and answers what `sendTmPacket` answered;
every other reply leaves the store as it was and sends nothing.  Replies that bring elements free
precisely these, in whatever order they are handled; that the elements are distinct and live is not
needed. -/
theorem handleReply_releases :
    (∀ (pool : IpcPool) (call : ReplyCall),
      let result := handleReply fw replies true pool.store call
      (∀ a data, namedElement fw replies call.reply = some a → pool.store a = some data →
        result.ipcStore = pool.store.erase a ∧
          ∃ packet, result.packets = [packet] ∧ packet.data = data ∧
            result.ret = call.sendTmPacket packet) ∧
      ((∀ a, namedElement fw replies call.reply = some a → ¬ pool.store.Live a) →
        result.ipcStore = pool.store ∧ result.packets = [])) ∧
    ∀ (pool : IpcPool) (calls : List ReplyCall) (addresses : List StoreAddress),
      calls.map (fun call => namedElement fw replies call.reply) = addresses.map some →
      ∀ order, order.Perm calls →
        (replyHandling fw replies).final pool.store order = pool.store.without addresses := by
  refine ⟨fun pool call => ?_, fun pool calls addresses hnamed order hperm => ?_⟩
  · have hspec := handleReply_spec fw replies pool.store call
    refine ⟨fun a data hnamed hdata => ?_, fun hdead => ?_⟩
    · simp only [hnamed, hdata] at hspec
      obtain ⟨hstore, hpackets, hret⟩ := hspec
      exact ⟨hstore, _, hpackets, data_replyPacket fw call (pool.length_lt hdata), hret⟩
    · cases hnamed : namedElement fw replies call.reply with
      | none =>
        simp only [hnamed] at hspec
        exact hspec
      | some a =>
        have hlive := hdead a hnamed
        have hnone : pool.store a = none := not_not.mp hlive
        simp only [hnamed, hnone] at hspec
        exact ⟨hspec.1.trans (pool.store.erase_of_not_live hlive), hspec.2⟩
  · have hmem : ∀ a, a ∈ order.filterMap (fun call => namedElement fw replies call.reply) ↔
        a ∈ addresses := by
      intro a
      rw [(hperm.filterMap _).mem_iff, List.mem_filterMap]
      constructor
      · intro hmem
        obtain ⟨call, hcall, ha⟩ := hmem
        have hsome : some a ∈ addresses.map some := by
          rw [← hnamed, ← ha]
          exact List.mem_map_of_mem hcall
        simpa using hsome
      · intro ha
        have hsome : some a ∈ calls.map fun call => namedElement fw replies call.reply := by
          rw [hnamed]
          exact List.mem_map_of_mem ha
        exact List.mem_map.mp hsome
    rw [replies_final]
    exact Store.without_congr _ hmem

/-! ### Two replies -/

/-- The replies, numbered. -/
def numberedReplies : FwReplies where
  stepSuccess := 2
  stepFailed := 3
  dataReply := 4
  completionSuccess := 5
  completionFailed := 6
  replyParameterDump := 3
  getReturnCode message := .framework message.parameter2.toUInt16
  labels_nodup := by decide

/-- Two elements. -/
def twoElements : IpcPool where
  store := fun a => if a = 3 then some [0xab] else if a = 5 then some [0x01, 0x02] else none
  fits := by
    intro a data hdata
    refine ⟨(40, 32), by decide, ?_⟩
    split_ifs at hdata <;> cases hdata <;> decide

/-- A data reply that brings the first element, with a telemetry queue that is full. -/
def dataReplyCall : ReplyCall where
  reply := ⟨makeCommandId 4 4, 1, 3⟩
  objectId := objectIdWebcamHandler
  isStep := false
  getDataFailure := ⟨.framework 1, by decide⟩
  sendTmPacket _ := .framework 7

/-- A parameter dump that brings the second. -/
def dumpReplyCall : ReplyCall where
  reply := ⟨makeCommandId 9 3, 0x00010000, 5⟩
  objectId := objectIdWebcamHandler
  isStep := false
  getDataFailure := ⟨.framework 1, by decide⟩
  sendTmPacket _ := .ok

/-- The failed send frees its element too, and both orders free both. -/
theorem handleReply_releases_two :
    (handleReply numberedMessages numberedReplies true twoElements.store dataReplyCall).ipcStore =
        twoElements.store.erase 3 ∧
      (replyHandling numberedMessages numberedReplies).final twoElements.store
        [dumpReplyCall, dataReplyCall] = twoElements.store.without [3, 5] := by
  obtain ⟨hone, hmany⟩ := handleReply_releases numberedMessages numberedReplies
  refine ⟨((hone twoElements dataReplyCall).1 3 [0xab] (by decide) rfl).1, ?_⟩
  exact hmany twoElements [dataReplyCall, dumpReplyCall] [3, 5] (by decide) _ (List.Perm.swap ..)

end WebcamCommandingService

end FsfwFromZero
