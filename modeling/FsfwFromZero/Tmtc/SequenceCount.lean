import FsfwFromZero.Tmtc.StubPusDistributor

/-!
# Sequence counts of telecommand packets

`sendCommand` numbers its packets with `sequenceCounter++`, a counter of 16 bits, and hands the
number to a field of 14.  The two agree for a quarter of the counter's range; in the other three
quarters the packet is invalid and every command is refused.

* `DistributorCall` — the operations of one distributor from its construction on, registration
  included, and `distributorRun : Machine`;
* `packetsCreated` — how many calls of a run created a packet;
* `counter_invariant` — **the run invariant**: the counter is that number modulo `65536`;
* `count_in_field_iff` — **a command is numbered within the field, and not refused for its place in
  the run, exactly when that number modulo `65536` is below `16384`**;
* `refused_outside_field` — at any other place every command is refused.
-/

namespace FsfwFromZero

open Lib

/-- An operation on one distributor. -/
inductive DistributorCall
  | init (found : Bool)
  | registerService (service : Option TelecommandService)
  | path (step : TcStep)

/-- The distributor from its construction on, with the store and the request queue. -/
def distributorRun : Machine TcPath DistributorCall TcAnswer where
  step p
    | .init found =>
        ({ ret := .ok }, { p with distributor := p.distributor.initializeDistributor found })
    | .registerService service =>
        let (ret, distributor) := p.distributor.registerService service
        ({ ret := ret }, { p with distributor := distributor })
    | .path step => tcPath.step p step

/-- A distributor as constructed, with any store and queue. -/
def constructedPath (tcStore : Store StoreAddress (List UInt8)) (requestQueue : List StoreAddress) :
    TcPath :=
  ⟨.construct, tcStore, requestQueue⟩

/-- The number of calls that created a packet. -/
def packetsCreated (hist : List (Event TcPath DistributorCall TcAnswer)) : Nat :=
  hist.countP fun e => e.output.creator.isSome

/-- The largest count that fits the sequence count field. -/
def maxSequenceCount : Nat := 16383

/-- What the framework does with the sequence count of a packet: it refuses to serialise a count
that does not fit, it treats all counts that fit alike, and the size of the packet does not depend
on it. -/
structure Fsfw.SerializesField (fsfw : Fsfw) : Prop where
  wide : ∀ creator : PusTcCreator, maxSequenceCount < creator.sequenceCount.toNat →
    ∃ code, fsfw.serializeBe creator = .error code
  narrow : ∀ (creator : PusTcCreator) (count : UInt16) (code : Failure),
    creator.sequenceCount.toNat ≤ maxSequenceCount → count.toNat ≤ maxSequenceCount →
    fsfw.serializeBe creator = .error code →
    fsfw.serializeBe { creator with sequenceCount := count } = .error code
  size : ∀ (creator : PusTcCreator) (count : UInt16),
    fsfw.getSerializedSize { creator with sequenceCount := count } =
      fsfw.getSerializedSize creator

namespace TcPath

/-- The same path, with the counter where it stands before the first packet. -/
def atFirstPosition (p : TcPath) : TcPath := { p with distributor.sequenceCounter := 0 }

/-- The command is not refused for its place in the run: the same command with the same pool and
queue is refused in the first place too. -/
def NotRefusedForPosition (p : TcPath) (subservice : UInt8) (data : Payload) (fsfw : Fsfw) : Prop :=
  (p.sendCommand subservice data fsfw).1.ret ≠ .ok →
    (p.atFirstPosition.sendCommand subservice data fsfw).1.ret ≠ .ok

end TcPath

/-! ### The answer of a call -/

section Call

variable (p : TcPath) (subservice : UInt8) (data : Payload) (fsfw : Fsfw)

/-- The code a path that can send answers with. -/
theorem sendCommand_ret (ready : p.Ready) :
    (p.sendCommand subservice data fsfw).1.ret =
      let creator := p.distributor.packetFor subservice data
      match fsfw.getFreeElement (fsfw.getSerializedSize creator) with
      | .error code => code.val
      | .ok _ =>
          match fsfw.serializeBe creator with
          | .error code => code.val
          | .ok _ => (fsfw.sendMessage.map Subtype.val).getD .ok := by
  simp only [TcPath.sendCommand, p.idle_iff.mpr ready, Bool.false_eq_true, if_false]
  cases fsfw.getFreeElement (fsfw.getSerializedSize (p.distributor.packetFor subservice data)) with
  | error code => rfl
  | ok storeId =>
    cases fsfw.serializeBe (p.distributor.packetFor subservice data) with
    | error code => rfl
    | ok bytes => cases fsfw.sendMessage <;> rfl

/-- A path creates a packet exactly when it can send, and counts it. -/
theorem sendCommand_creates :
    (p.Ready ∧ (p.sendCommand subservice data fsfw).1.creator =
        some (p.distributor.packetFor subservice data) ∧
        (p.sendCommand subservice data fsfw).2.distributor = p.counted) ∨
      (¬ p.Ready ∧ (p.sendCommand subservice data fsfw).1.creator = none ∧
        (p.sendCommand subservice data fsfw).2 = p) := by
  by_cases ready : p.Ready
  · refine Or.inl ⟨ready, ?_⟩
    simp only [TcPath.sendCommand, p.idle_iff.mpr ready, Bool.false_eq_true, if_false]
    cases fsfw.getFreeElement
        (fsfw.getSerializedSize (p.distributor.packetFor subservice data)) with
    | error code => exact ⟨rfl, rfl⟩
    | ok storeId =>
      cases fsfw.serializeBe (p.distributor.packetFor subservice data) with
      | error code => exact ⟨rfl, rfl⟩
      | ok bytes => cases fsfw.sendMessage <;> exact ⟨rfl, rfl⟩
  · have hidle : (!p.distributor.registeredService || !p.distributor.tcStore) = true :=
      eq_true_of_ne_false fun hgo => ready (p.idle_iff.mp hgo)
    have hsend : p.sendCommand subservice data fsfw = ({ ret := .failed }, p) := by
      simp only [TcPath.sendCommand, hidle, if_true]
    exact Or.inr ⟨ready, by rw [hsend], by rw [hsend]⟩

/-- The service creates no packets. -/
theorem serviceReceive_counts :
    p.serviceReceive.1.creator = none ∧ p.serviceReceive.2.distributor = p.distributor := by
  unfold TcPath.serviceReceive
  split <;> exact ⟨rfl, rfl⟩

end Call

/-! ### The counter over a run -/

theorem packetsCreated_snoc (hist : List (Event TcPath DistributorCall TcAnswer)) (p : TcPath)
    (call : DistributorCall) :
    packetsCreated (hist ++ [distributorRun.event p call]) =
      packetsCreated hist + if (distributorRun.step p call).1.creator.isSome then 1 else 0 := by
  rw [packetsCreated, List.countP_append, List.countP_singleton]
  rfl

/-- The counter moves with the packets, by one each. -/
theorem sequenceCounter_step (p : TcPath) (call : DistributorCall) :
    (distributorRun.step p call).2.distributor.sequenceCounter =
      p.distributor.sequenceCounter +
        if (distributorRun.step p call).1.creator.isSome then 1 else 0 := by
  cases call with
  | init found => exact (UInt16.add_zero _).symm
  | registerService service => cases service <;> exact (UInt16.add_zero _).symm
  | path step =>
    cases step with
    | serviceReceive =>
      show p.serviceReceive.2.distributor.sequenceCounter = _ +
        if p.serviceReceive.1.creator.isSome then 1 else 0
      rw [(serviceReceive_counts p).1, (serviceReceive_counts p).2]
      exact (UInt16.add_zero _).symm
    | sendCommand subservice data fsfw =>
      show (p.sendCommand subservice data fsfw).2.distributor.sequenceCounter = _ +
        if (p.sendCommand subservice data fsfw).1.creator.isSome then 1 else 0
      rcases sendCommand_creates p subservice data fsfw with
        ⟨-, hcreator, hcounted⟩ | ⟨-, hcreator, hsame⟩
      · rw [hcreator, hcounted]
        rfl
      · rw [hcreator, hsame]
        exact (UInt16.add_zero _).symm

/-- **The run invariant.**  The counter is the number of packets created, modulo `65536`. -/
theorem counter_invariant (tcStore : Store StoreAddress (List UInt8))
    (requestQueue : List StoreAddress) (calls : List DistributorCall) :
    let start := constructedPath tcStore requestQueue
    (distributorRun.final start calls).distributor.sequenceCounter.toNat =
      packetsCreated (distributorRun.trace start calls) % 65536 := by
  intro start
  refine distributorRun.history_induction
    (R := fun hist p => p.distributor.sequenceCounter.toNat = packetsCreated hist % 65536)
    rfl (fun hist p call inv => ?_) calls
  rw [sequenceCounter_step, packetsCreated_snoc]
  split
  · rw [UInt16.toNat_add, inv]
    show (packetsCreated hist % 65536 + 1) % 65536 = _
    omega
  · rw [UInt16.add_zero, inv, Nat.add_zero]

/-! ### Counts within the field -/

theorem packetFor_atFirstPosition (p : TcPath) (subservice : UInt8) (data : Payload) :
    p.atFirstPosition.distributor.packetFor subservice data =
      { p.distributor.packetFor subservice data with sequenceCount := 0 } := rfl

/-- A command whose count does not fit the field is refused. -/
theorem sendCommand_wide {p : TcPath} {subservice : UInt8} {data : Payload} {fsfw : Fsfw}
    (ready : p.Ready) (field : fsfw.SerializesField)
    (wide : maxSequenceCount < p.distributor.sequenceCounter.toNat) :
    (p.sendCommand subservice data fsfw).1.ret ≠ .ok := by
  obtain ⟨code, hcode⟩ := field.wide (p.distributor.packetFor subservice data) wide
  rw [sendCommand_ret p subservice data fsfw ready]
  simp only [hcode]
  split
  · rename_i code' _
    exact code'.property
  · exact code.property

/-- A command whose count fits is refused only for reasons it would be refused for in the first
place. -/
theorem sendCommand_narrow {p : TcPath} {subservice : UInt8} {data : Payload} {fsfw : Fsfw}
    (ready : p.Ready) (field : fsfw.SerializesField)
    (narrow : p.distributor.sequenceCounter.toNat ≤ maxSequenceCount) :
    p.NotRefusedForPosition subservice data fsfw := by
  intro refused
  have hsize := field.size (p.distributor.packetFor subservice data) 0
  rw [sendCommand_ret p.atFirstPosition subservice data fsfw ready, packetFor_atFirstPosition]
  rw [sendCommand_ret p subservice data fsfw ready] at refused
  simp only [hsize]
  cases hfree : fsfw.getFreeElement
      (fsfw.getSerializedSize (p.distributor.packetFor subservice data)) with
  | error code => exact code.property
  | ok storeId =>
    simp only [hfree] at refused
    cases hser : fsfw.serializeBe (p.distributor.packetFor subservice data) with
    | error code =>
      rw [field.narrow _ 0 code narrow (Nat.zero_le _) hser]
      exact code.property
    | ok bytes =>
      simp only [hser] at refused
      cases fsfw.serializeBe
          { p.distributor.packetFor subservice data with sequenceCount := 0 } with
      | error code => exact code.property
      | ok bytes => exact refused

/-- **Where in a run a command is numbered within the field.**  After any operations on a
distributor, a call that creates a packet numbers it with the count of earlier packets modulo
`16384`, below `16384`, and is not refused for its place in the run, exactly when the count of
earlier packets modulo `65536` is below `16384`. -/
theorem count_in_field_iff (tcStore : Store StoreAddress (List UInt8))
    (requestQueue : List StoreAddress) (calls : List DistributorCall) (subservice : UInt8)
    (data : Payload) (fsfw : Fsfw) (field : fsfw.SerializesField) (creator : PusTcCreator)
    (created : ((distributorRun.final (constructedPath tcStore requestQueue) calls).sendCommand
      subservice data fsfw).1.creator = some creator) :
    let start := constructedPath tcStore requestQueue
    let n := packetsCreated (distributorRun.trace start calls)
    (creator.sequenceCount.toNat = n % 16384 ∧ creator.sequenceCount.toNat ≤ maxSequenceCount ∧
        (distributorRun.final start calls).NotRefusedForPosition subservice data fsfw) ↔
      n % 65536 < 16384 := by
  intro start n
  have hcounter := counter_invariant tcStore requestQueue calls
  have hready : (distributorRun.final start calls).Ready ∧
      creator = (distributorRun.final start calls).distributor.packetFor subservice data := by
    rcases sendCommand_creates (distributorRun.final start calls) subservice data fsfw with
      ⟨hready, hsome, -⟩ | ⟨-, hnone, -⟩
    · exact ⟨hready, Option.some.inj (created.symm.trans hsome)⟩
    · exact absurd (created.symm.trans hnone) (by simp)
  obtain ⟨hready, hcreator⟩ := hready
  have hcount : creator.sequenceCount.toNat = n % 65536 := by
    rw [hcreator]
    exact hcounter
  rw [hcount]
  constructor
  · intro hnumbered
    obtain ⟨-, hfits, -⟩ := hnumbered
    exact Nat.lt_succ_of_le hfits
  · intro hfits
    refine ⟨by omega, Nat.le_of_lt_succ hfits, sendCommand_narrow hready field ?_⟩
    rw [hcounter]
    exact Nat.le_of_lt_succ hfits

/-- At any other place of a run every command is refused. -/
theorem refused_outside_field (tcStore : Store StoreAddress (List UInt8))
    (requestQueue : List StoreAddress) (calls : List DistributorCall) (subservice : UInt8)
    (data : Payload) (fsfw : Fsfw) (field : fsfw.SerializesField) :
    let start := constructedPath tcStore requestQueue
    (distributorRun.final start calls).Ready →
      16384 ≤ packetsCreated (distributorRun.trace start calls) % 65536 →
      ((distributorRun.final start calls).sendCommand subservice data fsfw).1.ret ≠ .ok := by
  intro start ready hwide
  refine sendCommand_wide ready field ?_
  rw [counter_invariant]
  exact hwide

/-! ### Two places of a run -/

/-- A pool that grants the element `a`, a queue that takes every message, and the framework's
serialiser as far as the primary header: packet id, sequence control, packet length. -/
def spacePackets (a : StoreAddress) : Fsfw where
  getSerializedSize creator := 13 + (creator.rawAppData.getD []).length
  getFreeElement _ := .ok a
  serializeBe creator :=
    if creator.sequenceCount.toNat ≤ maxSequenceCount then
      .ok [0x18, creator.apid.toUInt8, (0xc0 : UInt8) ||| (creator.sequenceCount >>> 8).toUInt8,
        creator.sequenceCount.toUInt8, 0, UInt8.ofNat (6 + (creator.rawAppData.getD []).length)]
    else .error ⟨.failed, by decide⟩
  sendMessage := none

theorem spacePackets_field (a : StoreAddress) : (spacePackets a).SerializesField where
  wide creator hwide := ⟨⟨.failed, by decide⟩, if_neg (Nat.not_le.mpr hwide)⟩
  narrow creator count code hnarrow _ herror := by
    simp [spacePackets, hnarrow] at herror
  size _ _ := rfl

/-- A snapshot command that the service receives at once. -/
def exchange : List DistributorCall :=
  [.path (.sendCommand 1 (.null 0) (spacePackets 7)), .path .serviceReceive]

/-- Initialisation, registration, and `k` exchanges. -/
def exchanges (k : Nat) : List DistributorCall :=
  .init true :: .registerService (some ⟨200, 0x0a⟩) :: (List.replicate k exchange).flatten

/-- An exchange leaves a path that can send able to send. -/
theorem exchange_ready (p : TcPath) (ready : p.Ready) :
    (distributorRun.final p exchange).Ready := by
  show (p.sendCommand 1 (.null 0) (spacePackets 7)).2.serviceReceive.2.Ready
  rcases sendCommand_creates p 1 (.null 0) (spacePackets 7) with ⟨-, -, hcounted⟩ | ⟨hidle, -, -⟩
  · rw [TcPath.Ready, (serviceReceive_counts _).2, hcounted]
    exact ready
  · exact absurd ready hidle

theorem packetsCreated_exchange (p : TcPath) (ready : p.Ready) :
    packetsCreated (distributorRun.trace p exchange) = 1 := by
  rcases sendCommand_creates p 1 (.null 0) (spacePackets 7) with ⟨-, hsome, -⟩ | ⟨hidle, -, -⟩
  · have hsplit : distributorRun.trace p exchange =
        [] ++ [distributorRun.event p (.path (.sendCommand 1 (.null 0) (spacePackets 7)))] ++
          [distributorRun.event _ (.path .serviceReceive)] := rfl
    rw [hsplit, packetsCreated_snoc, packetsCreated_snoc]
    show (0 + if (p.sendCommand 1 (.null 0) (spacePackets 7)).1.creator.isSome then 1 else 0) +
      (if (TcPath.serviceReceive _).1.creator.isSome then 1 else 0) = 1
    rw [hsome, (serviceReceive_counts _).1]
    rfl
  · exact absurd ready hidle

/-- Each exchange creates one packet. -/
theorem exchanges_spec (k : Nat) (p : TcPath) (ready : p.Ready) :
    (distributorRun.final p (List.replicate k exchange).flatten).Ready ∧
      packetsCreated (distributorRun.trace p (List.replicate k exchange).flatten) = k := by
  induction k generalizing p with
  | zero => exact ⟨ready, rfl⟩
  | succ k ih =>
    obtain ⟨hready, hcount⟩ := ih _ (exchange_ready p ready)
    rw [List.replicate_succ, List.flatten_cons, Machine.final_append, Machine.trace_append]
    refine ⟨hready, ?_⟩
    rw [packetsCreated, List.countP_append, ← packetsCreated, ← packetsCreated,
      packetsCreated_exchange p ready, hcount]
    exact Nat.add_comm 1 k

/-- The path after `k` exchanges can send, and has created `k` packets. -/
theorem exchanges_count (k : Nat) :
    let start := constructedPath (fun _ => none) []
    (distributorRun.final start (exchanges k)).Ready ∧
      packetsCreated (distributorRun.trace start (exchanges k)) = k := by
  intro start
  have hregistered : (distributorRun.final start (exchanges 0)).Ready := ⟨rfl, rfl⟩
  obtain ⟨hready, hcount⟩ := exchanges_spec k _ hregistered
  have hsplit : exchanges k = exchanges 0 ++ (List.replicate k exchange).flatten := rfl
  rw [hsplit, Machine.final_append, Machine.trace_append]
  refine ⟨hready, ?_⟩
  rw [packetsCreated, List.countP_append, ← packetsCreated, ← packetsCreated, hcount]
  exact Nat.zero_add k

/-- The second command of a run is numbered `1`. -/
theorem count_in_field_second :
    let p := distributorRun.final (constructedPath (fun _ => none) []) (exchanges 1)
    (p.sendCommand 1 (.null 0) (spacePackets 7)).1.creator =
        some (p.distributor.packetFor 1 (.null 0)) ∧
      (p.distributor.packetFor 1 (.null 0)).sequenceCount.toNat = 1 ∧
      p.NotRefusedForPosition 1 (.null 0) (spacePackets 7) := by
  intro p
  have hcreated : (p.sendCommand 1 (.null 0) (spacePackets 7)).1.creator =
      some (p.distributor.packetFor 1 (.null 0)) := rfl
  obtain ⟨hcount, -, hposition⟩ :=
    (count_in_field_iff (fun _ => none) [] (exchanges 1) 1 (.null 0) (spacePackets 7)
      (spacePackets_field 7) _ hcreated).mpr (by decide)
  exact ⟨hcreated, hcount, hposition⟩

/-- With a count that does not fit, a command is refused that is accepted in the first place. -/
theorem spacePackets_refused {p : TcPath} (ready : p.Ready)
    (wide : maxSequenceCount < p.distributor.sequenceCounter.toNat) :
    ¬ p.NotRefusedForPosition 1 (.null 0) (spacePackets 7) := by
  intro hposition
  refine hposition (sendCommand_wide ready (spacePackets_field 7) wide) ?_
  rw [sendCommand_ret p.atFirstPosition 1 (.null 0) (spacePackets 7) ready,
    packetFor_atFirstPosition]
  rfl

/-- What becomes of the command after `k` exchanges, where `k` does not fit the field. -/
theorem exchanges_refused (k : Nat) (hwide : maxSequenceCount < k) (hcounter : k < 65536) :
    let start := constructedPath (fun _ => none) []
    let p := distributorRun.final start (exchanges k)
    packetsCreated (distributorRun.trace start (exchanges k)) = k ∧
      (p.sendCommand 1 (.null 0) (spacePackets 7)).1.creator =
        some (p.distributor.packetFor 1 (.null 0)) ∧
      (p.distributor.packetFor 1 (.null 0)).sequenceCount.toNat = k ∧
      ¬ p.NotRefusedForPosition 1 (.null 0) (spacePackets 7) := by
  intro start p
  obtain ⟨hready, hcount⟩ := exchanges_count k
  have hcounter : p.distributor.sequenceCounter.toNat = k := by
    rw [counter_invariant, hcount, Nat.mod_eq_of_lt hcounter]
  refine ⟨hcount, ?_, hcounter, spacePackets_refused hready ?_⟩
  · exact (sendCommand_creates p 1 (.null 0) (spacePackets 7)).elim (fun h => h.2.1)
      fun h => absurd hready h.1
  · rw [hcounter]
    exact hwide

/-- **The 16385th command is refused for its place in the run.**  After 16384 exchanges the next
packet has the count `16384`, and its command is refused although the first command of a run is
accepted with the same pool and queue. -/
theorem count_leaves_field :
    let start := constructedPath (fun _ => none) []
    let p := distributorRun.final start (exchanges 16384)
    (spacePackets 7).SerializesField ∧
      packetsCreated (distributorRun.trace start (exchanges 16384)) = 16384 ∧
      (p.sendCommand 1 (.null 0) (spacePackets 7)).1.creator =
        some (p.distributor.packetFor 1 (.null 0)) ∧
      (p.distributor.packetFor 1 (.null 0)).sequenceCount.toNat = 16384 ∧
      ¬ p.NotRefusedForPosition 1 (.null 0) (spacePackets 7) :=
  ⟨spacePackets_field 7, exchanges_refused 16384 (by decide) (by decide)⟩

end FsfwFromZero
