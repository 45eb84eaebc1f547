import FsfwFromZero.Tmtc.StubPusDistributor

/-!
# The account of the telecommand store

Every element `sendCommand` takes either travels to the service in the request queue, which frees
it, or is given back at once when its packet does not serialise.  A message that the queue refuses
leaves its element behind with nobody to free it.

* `strandedAddress` — the element a call left behind, `stranded` — those of a run;
* `account_invariant` — **the run invariant**: the store holds, beside what it held before the run,
  the elements named in the request queue and the stranded ones, each once;
* `no_leak_iff` — **no element leaks exactly when no message was refused**;
* `refused_send_leaks` — one refused message is an element lost.
-/

namespace FsfwFromZero

open Lib

/-- The element of a packet that was serialised but whose message was refused. -/
def Fsfw.strandedAddress (fsfw : Fsfw) (creator : PusTcCreator) : Option StoreAddress :=
  match fsfw.getFreeElement (fsfw.getSerializedSize creator), fsfw.serializeBe creator,
      fsfw.sendMessage with
  | .ok a, .ok _, some _ => some a
  | _, _, _ => none

/-- The elements stranded in a run. -/
def stranded (hist : List TcEvent) : List StoreAddress :=
  hist.filterMap fun e =>
    match e.input with
    | .sendCommand _ _ fsfw => e.output.creator.bind fsfw.strandedAddress
    | .serviceReceive => none

/-- The store hands out addresses that are not live. -/
def allocatesFresh (_ : List TcEvent) (p : TcPath) : TcStep → Prop
  | .sendCommand _ _ fsfw => ∀ size a, fsfw.getFreeElement size = .ok a → ¬ p.tcStore.Live a
  | .serviceReceive => True

/-- The queue takes the message of every packet that was serialised into an element. -/
def queueAccepts (_ : List TcEvent) (p : TcPath) : TcStep → Prop
  | .sendCommand subservice data fsfw =>
      fsfw.strandedAddress (p.distributor.packetFor subservice data) = none
  | .serviceReceive => True

/-- The live elements that were not live before the run are those named in the request queue, each
once, and a call that does not return `OK` leaves the store as it was. -/
def NoLeak (start : TcPath) (steps : List TcStep) : Prop :=
  ((tcPath.final start steps).requestQueue.Nodup ∧
      ∀ a, ((tcPath.final start steps).tcStore.Live a ∧ ¬ start.tcStore.Live a) ↔
        a ∈ (tcPath.final start steps).requestQueue) ∧
    ∀ pre subservice data fsfw post, steps = pre ++ .sendCommand subservice data fsfw :: post →
      ((tcPath.final start pre).sendCommand subservice data fsfw).1.ret ≠ .ok →
      ((tcPath.final start pre).sendCommand subservice data fsfw).2.tcStore =
        (tcPath.final start pre).tcStore

/-! ### One step -/

/-- What a call leaves behind: the store and queue of one of the four ways out. -/
theorem sendCommand_account (p : TcPath) (subservice : UInt8) (data : Payload) (fsfw : Fsfw)
    (ready : p.Ready) (fresh : ∀ size a, fsfw.getFreeElement size = .ok a → ¬ p.tcStore.Live a) :
    let after := (p.sendCommand subservice data fsfw).2
    let answer := (p.sendCommand subservice data fsfw).1
    let creator := p.distributor.packetFor subservice data
    after.Ready ∧ answer.creator = some creator ∧
      ((answer.ret ≠ .ok ∧ fsfw.strandedAddress creator = none ∧ after.tcStore = p.tcStore ∧
          after.requestQueue = p.requestQueue) ∨
        (∃ a bytes, ¬ p.tcStore.Live a ∧ fsfw.strandedAddress creator = some a ∧
          after.tcStore = p.tcStore.put a bytes ∧ after.requestQueue = p.requestQueue) ∨
        ∃ a bytes, ¬ p.tcStore.Live a ∧ answer.ret = .ok ∧ fsfw.strandedAddress creator = none ∧
          after.tcStore = p.tcStore.put a bytes ∧ after.requestQueue = p.requestQueue ++ [a]) := by
  have hspec := p.sendCommand_spec subservice data fsfw ready fun a ha => fresh _ a ha
  intro after answer creator
  have hready : p.counted.registeredService = true ∧ p.counted.tcStore = true := ready
  simp only [after, answer, creator, hspec, Fsfw.strandedAddress]
  cases hfree : fsfw.getFreeElement
      (fsfw.getSerializedSize (p.distributor.packetFor subservice data)) with
  | error code => exact ⟨hready, rfl, Or.inl ⟨code.property, rfl, rfl, rfl⟩⟩
  | ok a =>
    have hfresh := fresh _ a hfree
    cases hser : fsfw.serializeBe (p.distributor.packetFor subservice data) with
    | error code => exact ⟨hready, rfl, Or.inl ⟨code.property, rfl, rfl, rfl⟩⟩
    | ok bytes =>
      cases hsend : fsfw.sendMessage with
      | some code => exact ⟨hready, rfl, Or.inr (Or.inl ⟨a, bytes, hfresh, rfl, rfl, rfl⟩)⟩
      | none => exact ⟨hready, rfl, Or.inr (Or.inr ⟨a, bytes, hfresh, rfl, rfl, rfl, rfl⟩)⟩

theorem stranded_snoc (hist : List TcEvent) (p : TcPath) (subservice : UInt8) (data : Payload)
    (fsfw : Fsfw) : stranded (hist ++ [tcPath.event p (.sendCommand subservice data fsfw)]) =
      stranded hist ++
        ((p.sendCommand subservice data fsfw).1.creator.bind fsfw.strandedAddress).toList := by
  rw [stranded, List.filterMap_append]
  rfl

theorem stranded_receive (hist : List TcEvent) (p : TcPath) :
    stranded (hist ++ [tcPath.event p .serviceReceive]) = stranded hist := by
  rw [stranded, List.filterMap_append]
  exact List.append_nil _

/-! ### The run invariant -/

/-- The path is ready, and the store holds the queue's elements and the stranded ones. -/
structure TcAccount (base : Store StoreAddress (List UInt8)) (hist : List TcEvent) (p : TcPath) :
    Prop where
  ready : p.Ready
  holds : Store.Holds base p.tcStore (p.requestQueue ++ stranded hist)

theorem tcAccount_step (base : Store StoreAddress (List UInt8)) (hist : List TcEvent) (p : TcPath)
    (step : TcStep) (fresh : allocatesFresh hist p step) (inv : TcAccount base hist p) :
    TcAccount base (hist ++ [tcPath.event p step]) (tcPath.step p step).2 := by
  cases step with
  | sendCommand subservice data fsfw =>
    obtain ⟨hready, hcreator, hways⟩ := sendCommand_account p subservice data fsfw inv.ready fresh
    refine ⟨hready, ?_⟩
    rw [stranded_snoc, hcreator, Option.bind_some]
    show Store.Holds base (p.sendCommand subservice data fsfw).2.tcStore
      ((p.sendCommand subservice data fsfw).2.requestQueue ++ _)
    rcases hways with ⟨-, hnone, hstore, hqueue⟩ | ⟨a, bytes, hfresh, hsome, hstore, hqueue⟩ |
      ⟨a, bytes, hfresh, -, hnone, hstore, hqueue⟩
    · rw [hnone, hstore, hqueue, Option.toList_none, List.append_nil]
      exact inv.holds
    · rw [hsome, hstore, hqueue, Option.toList_some, ← List.append_assoc]
      exact (inv.holds.alloc hfresh bytes).perm (List.perm_append_singleton ..).symm
    · rw [hnone, hstore, hqueue, Option.toList_none, List.append_nil, List.append_assoc]
      exact (inv.holds.alloc hfresh bytes).perm List.perm_middle.symm
  | serviceReceive =>
    have hready : p.serviceReceive.2.Ready := by
      unfold TcPath.serviceReceive
      split <;> exact inv.ready
    refine ⟨hready, ?_⟩
    rw [stranded_receive]
    show Store.Holds base p.serviceReceive.2.tcStore (p.serviceReceive.2.requestQueue ++ _)
    have hholds := inv.holds
    cases hqueue : p.requestQueue with
    | nil =>
      simp only [TcPath.serviceReceive, hqueue]
      rw [hqueue] at hholds
      exact hholds
    | cons a rest =>
      simp only [TcPath.serviceReceive, hqueue]
      rw [hqueue, List.cons_append] at hholds
      exact hholds.free

/-- **The account is kept** by every run in which the store hands out fresh addresses. -/
theorem account_invariant (service : TelecommandService)
    (tcStore : Store StoreAddress (List UInt8)) (steps : List TcStep)
    (fresh : tcPath.Lawful allocatesFresh (readyPath service tcStore) steps) :
    TcAccount tcStore (tcPath.trace (readyPath service tcStore) steps)
      (tcPath.final (readyPath service tcStore) steps) :=
  Machine.lawful_induction ⟨readyPath_ready service tcStore, Store.holds_nil tcStore⟩
    (tcAccount_step tcStore) steps fresh

/-! ### Leaks and refusals -/

/-- Nothing was stranded exactly if the queue accepted every message. -/
theorem stranded_eq_nil_iff (service : TelecommandService)
    (tcStore : Store StoreAddress (List UInt8)) (steps : List TcStep)
    (fresh : tcPath.Lawful allocatesFresh (readyPath service tcStore) steps) :
    stranded (tcPath.trace (readyPath service tcStore) steps) = [] ↔
      tcPath.Lawful queueAccepts (readyPath service tcStore) steps := by
  induction steps using List.reverseRecOn with
  | nil => exact ⟨fun _ => trivial, fun _ => rfl⟩
  | append_singleton steps step ih =>
    obtain ⟨hfresh, hstep⟩ := Machine.lawful_snoc.mp fresh
    have inv := account_invariant service tcStore steps hfresh
    rw [Machine.trace_snoc, Machine.lawful_snoc, ← ih hfresh]
    cases step with
    | sendCommand subservice data fsfw =>
      have hcreator := (sendCommand_account _ subservice data fsfw inv.ready hstep).2.1
      rw [stranded_snoc, hcreator, List.append_eq_nil_iff, Option.bind_some, queueAccepts,
        Option.toList_eq_nil_iff]
    | serviceReceive =>
      rw [stranded_receive]
      exact ⟨fun hnil => ⟨hnil, trivial⟩, fun h => h.1⟩

/-- **When the telecommand store does not leak.**  In every run after a service is registered and
the store found, the elements taken by `sendCommand` and still live are those named in the request
queue, each once, and failed calls leave the store alone, if and only if the queue refused no
message of a serialised packet. -/
theorem no_leak_iff (service : TelecommandService) (tcStore : Store StoreAddress (List UInt8))
    (steps : List TcStep)
    (fresh : tcPath.Lawful allocatesFresh (readyPath service tcStore) steps) :
    NoLeak (readyPath service tcStore) steps ↔
      tcPath.Lawful queueAccepts (readyPath service tcStore) steps := by
  have inv := account_invariant service tcStore steps fresh
  constructor
  · intro ⟨⟨_, hlive⟩, _⟩
    rw [← stranded_eq_nil_iff service tcStore steps fresh]
    refine inv.holds.eq_nil_of_live fun a ha => ?_
    by_cases hbase : tcStore.Live a
    · exact Or.inl hbase
    · exact Or.inr ((hlive a).mp ⟨ha, hbase⟩)
  · intro haccepts
    have hholds := inv.holds
    rw [(stranded_eq_nil_iff service tcStore steps fresh).mpr haccepts, List.append_nil] at hholds
    refine ⟨⟨hholds.nodup, fun a => ?_⟩, ?_⟩
    · constructor
      · intro ⟨ha, hbase⟩
        exact ((hholds.live_iff a).mp ha).resolve_left hbase
      · intro ha
        exact ⟨hholds.live a ha, hholds.fresh a ha⟩
    · intro pre subservice data fsfw post hsteps hfailed
      rw [hsteps] at fresh haccepts
      obtain ⟨hfresh, hstep⟩ := Machine.lawful_split fresh
      have hsent : fsfw.strandedAddress _ = none := (Machine.lawful_split haccepts).2
      have hpre := account_invariant service tcStore pre hfresh
      obtain ⟨-, -, hways⟩ := sendCommand_account _ subservice data fsfw hpre.ready hstep
      rcases hways with ⟨-, -, hstore, -⟩ | ⟨a, _, -, hsome, -⟩ | ⟨_, _, -, hok, -⟩
      · exact hstore
      · rw [hsent] at hsome
        cases hsome
      · exact absurd hok hfailed

/-! ### Two runs -/

/-- A framework that grants one element, serialises, and answers the send as given. -/
def grants (a : StoreAddress) (sendMessage : Option Failure) : Fsfw where
  getSerializedSize _ := 13
  getFreeElement _ := .ok a
  serializeBe _ := .ok [0x18, 0x01]
  sendMessage := sendMessage

/-- The commanding service, as it registers. -/
def commandingService : TelecommandService := ⟨200, 0x0a⟩

/-- Two snapshot commands in two elements; the service receives the first, and a third command gets
its element. -/
def overlappingSends : List TcStep :=
  [.sendCommand 1 (.null 0) (grants 7 none), .sendCommand 1 (.null 0) (grants 9 none),
    .serviceReceive, .sendCommand 1 (.null 0) (grants 7 none)]

/-- Nothing leaks: the second and the third command are in the queue. -/
theorem no_leak_of_overlapping :
    NoLeak (readyPath commandingService fun _ => none) overlappingSends ∧
      (tcPath.final (readyPath commandingService fun _ => none) overlappingSends).requestQueue =
        [9, 7] := by
  have fresh : tcPath.Lawful allocatesFresh (readyPath commandingService fun _ => none)
      overlappingSends := by
    refine ⟨fun _ a ha => ?_, fun _ a ha => ?_, trivial, fun _ a ha => ?_, trivial⟩
    · cases ha
      decide
    · cases ha
      decide
    · cases ha
      decide
  exact ⟨(no_leak_iff _ _ _ fresh).mpr ⟨rfl, rfl, trivial, rfl, trivial⟩, by decide⟩

/-- **A refused message leaks its element.**  The queue is full, the call fails, and the element it
took is live with no message naming it. -/
theorem refused_send_leaks :
    ¬ NoLeak (readyPath commandingService fun _ => none)
      [.sendCommand 1 (.null 0) (grants 7 (some ⟨.framework 3, by decide⟩))] := by
  intro ⟨⟨_, hlive⟩, _⟩
  have hmem := (hlive 7).mp ⟨by decide, by decide⟩
  exact absurd hmem (by decide)

end FsfwFromZero
