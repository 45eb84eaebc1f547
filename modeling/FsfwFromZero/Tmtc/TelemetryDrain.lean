import FsfwFromZero.Lib.Loop
import FsfwFromZero.Lib.Store
import FsfwFromZero.Tmtc.TmtcSinks

/-!
# Draining the telemetry queue

`StubTelemetrySink::performOperation` of `mission/tmtc/TmtcInfrastructure.cpp`: it takes messages
from its queue until there are none, prints the element each message names, and frees it.  A message
may name an element that is not there, or one that an earlier message of the same drain freed.

* `TmLine` — a printed line, `reportLine` — the line of one element;
* `TmDrain` — the queue, the store and what was printed, `consume` — one round of the loop,
  `performOperation` — the call;
* `Drained` / `consume_drained` — **the loop invariant**: what was consumed, printed and freed are
  all determined by the messages taken so far;
* `drain_exact` — **a drain loses and leaks nothing**.
-/

namespace FsfwFromZero

open Lib

/-- What `PusTmReader` reads of a packet it could parse. -/
structure PusTmHeader where
  service : UInt8
  subService : UInt8
  userDataLen : Nat
  deriving Repr, DecidableEq

/-- A line printed by the sink. -/
inductive TmLine
  /-- `[TM] service %u subservice %u, %zu bytes`. -/
  | packet (header : PusTmHeader)
  /-- `[TM] Received %zu bytes of telemetry (first %zu bytes): `, and the bytes printed with their
  indices. -/
  | dump (size bytesToPrint : Nat) (bytes : List (Nat × UInt8))
  deriving Repr, DecidableEq

/-- The indices a line read from its element. -/
def TmLine.indices : TmLine → List Nat
  | packet _ => []
  | dump _ _ bytes => bytes.map Prod.fst

/-- `MAX_TM_PRINT_BYTES`. -/
def maxTmPrintBytes : Nat := 32

/-- The line for an element; `parse` is what `parseDataWithoutCrcCheck` makes of it. -/
def reportLine (parse : StoreAddress → List UInt8 → Option PusTmHeader) (storeId : StoreAddress)
    (data : List UInt8) : TmLine :=
  match parse storeId data with
  | some header => .packet header
  | none =>
      let bytesToPrint := if data.length < maxTmPrintBytes then data.length else maxTmPrintBytes
      .dump data.length bytesToPrint
        ((List.range bytesToPrint).map fun idx => (idx, data.getD idx 0))

/-- The sink's queue and store with what a call consumed and printed, oldest first.  A `TmTcMessage`
is the address it carries. -/
structure TmDrain where
  queue : List StoreAddress
  tmStore : Store StoreAddress (List UInt8)
  consumed : List StoreAddress := []
  lines : List TmLine := []

namespace StubTelemetrySink

variable (parse : StoreAddress → List UInt8 → Option PusTmHeader)

/-- One round of the loop, `none` where `receiveMessage` does not return `OK`. -/
def consume (d : TmDrain) : Option TmDrain :=
  match d.queue with
  | [] => none
  | storeId :: rest =>
      let d := { d with queue := rest, consumed := d.consumed ++ [storeId] }
      match d.tmStore storeId with
      | none => some d
      | some data =>
          some { d with
            lines := d.lines ++ [reportLine parse storeId data]
            tmStore := d.tmStore.erase storeId }

/-- `none` would be a loop that has not ended after `fuel` tests. -/
def performOperation (sink : StubTelemetrySink) (fuel : Nat) (d : TmDrain) :
    Option (ReturnValue × TmDrain) :=
  if sink.queue.isNone || !sink.tmStore then some (.ok, d)
  else (loop (consume parse) fuel d).map fun d => (.ok, d)

/-! ### The loop invariant -/

/-- The lines that messages with these addresses call for: one for each address with an element, in
the order in which the addresses first occur. -/
def reports (tmStore : Store StoreAddress (List UInt8)) (addresses : List StoreAddress) :
    List TmLine :=
  addresses.eraseDups.filterMap fun a => (tmStore a).map (reportLine parse a)

/-- Of the messages in `queue` some are consumed; their elements are gone from the store, and
printed. -/
structure Drained (queue : List StoreAddress) (tmStore : Store StoreAddress (List UInt8))
    (d : TmDrain) : Prop where
  messages : d.consumed ++ d.queue = queue
  store : d.tmStore = tmStore.without d.consumed
  lines : d.lines = reports parse tmStore d.consumed

/-- One address more is one line more, if it is new and has an element. -/
theorem reports_snoc (tmStore : Store StoreAddress (List UInt8)) (addresses : List StoreAddress)
    (a : StoreAddress) :
    reports parse tmStore (addresses ++ [a]) = reports parse tmStore addresses ++
      ((tmStore.without addresses a).map (reportLine parse a)).toList := by
  rw [reports, reports, List.eraseDups_append, List.filterMap_append]
  congr 1
  by_cases ha : a ∈ addresses
  · simp [Store.without, ha, List.removeAll]
  · cases hdata : tmStore a <;> simp [Store.without, ha, List.removeAll, hdata, List.eraseDups_cons]

/-- **One round keeps the invariant**, and shortens the queue. -/
theorem consume_drained (queue : List StoreAddress) (tmStore : Store StoreAddress (List UInt8))
    (d d' : TmDrain) (inv : Drained parse queue tmStore d) (hround : consume parse d = some d') :
    Drained parse queue tmStore d' ∧ d'.queue.length < d.queue.length := by
  cases hqueue : d.queue with
  | nil => simp [consume, hqueue] at hround
  | cons storeId rest =>
    have hmessages : d.consumed ++ [storeId] ++ rest = queue := by
      rw [← inv.messages, hqueue, List.append_assoc]
      rfl
    have hlines := reports_snoc parse tmStore d.consumed storeId
    have hstore := tmStore.without_snoc d.consumed storeId
    rw [← inv.store] at hlines hstore
    rw [← inv.lines] at hlines
    simp only [consume, hqueue] at hround
    cases hdata : d.tmStore storeId with
    | none =>
      rw [hdata] at hround hlines
      cases hround
      refine ⟨⟨hmessages, ?_, ?_⟩, by simp⟩
      · rw [hstore, d.tmStore.erase_of_not_live (not_not.mpr hdata)]
      · rw [hlines]
        exact (List.append_nil _).symm
    | some data =>
      rw [hdata] at hround hlines
      cases hround
      exact ⟨⟨hmessages, hstore.symm, hlines.symm⟩, by simp⟩

/-- A dump reads only bytes of its element, and at most the first `32`. -/
theorem reportLine_indices (storeId : StoreAddress) (data : List UInt8) :
    ∀ idx ∈ (reportLine parse storeId data).indices, idx < data.length ∧ idx < 32 := by
  intro idx hidx
  unfold reportLine at hidx
  split at hidx
  · simp [TmLine.indices] at hidx
  · have hlt : idx < if data.length < maxTmPrintBytes then data.length else maxTmPrintBytes := by
      simpa [TmLine.indices] using hidx
    rw [maxTmPrintBytes] at hlt
    split_ifs at hlt with hsize <;> omega

/-- **Draining telemetry loses and leaks nothing.**  With a queue and a store, whatever they hold
and however the packets parse, a call ends: each message is consumed once, in order, and the queue
is empty; the store has lost the elements that the messages name, and no others; there is one line
for each element, in the order in which they are first named; and the dumps read only bytes of their
elements, at most `32`. -/
theorem drain_exact (sink : StubTelemetrySink) (hqueue : sink.queue.isSome = true)
    (hstore : sink.tmStore = true) (queue : List StoreAddress)
    (tmStore : Store StoreAddress (List UInt8)) (fuel : Nat) (hfuel : queue.length < fuel) :
    ∃ d, performOperation parse sink fuel { queue := queue, tmStore := tmStore } = some (.ok, d) ∧
      d.consumed = queue ∧ d.queue = [] ∧ d.tmStore = tmStore.without queue ∧
      d.lines = queue.eraseDups.filterMap (fun a => (tmStore a).map (reportLine parse a)) ∧
      ∀ a data, tmStore a = some data → ∀ idx ∈ (reportLine parse a data).indices,
        idx < data.length ∧ idx < 32 := by
  have hpresent : (sink.queue.isNone || !sink.tmStore) = false := by
    rw [hstore]
    simpa using hqueue
  obtain ⟨d, hloop, inv, hend⟩ :=
    loop_spec (consume_drained parse queue tmStore) fuel
      { queue := queue, tmStore := tmStore } ⟨rfl, (Store.without_nil _).symm, rfl⟩ hfuel
  have hempty : d.queue = [] := by
    cases hrest : d.queue with
    | nil => rfl
    | cons storeId rest =>
      simp only [consume, hrest] at hend
      split at hend <;> cases hend
  have hconsumed : d.consumed = queue := by
    rw [← inv.messages, hempty, List.append_nil]
  refine ⟨d, ?_, hconsumed, hempty, ?_, ?_, fun a data _ => reportLine_indices parse a data⟩
  · simp only [performOperation, hpresent, hloop]
    rfl
  · rw [inv.store, hconsumed]
  · rw [inv.lines, hconsumed]
    rfl

/-- Two elements, the first too short to parse. -/
def twoPackets : Store StoreAddress (List UInt8) := fun a =>
  if a = 3 then some [0x08, 0x01] else if a = 5 then some (List.replicate 40 0) else none

/-- Packets of at least `17` bytes parse. -/
def parseLong (_ : StoreAddress) (data : List UInt8) : Option PusTmHeader :=
  if 17 ≤ data.length then some ⟨1, 7, data.length - 17⟩ else none

/-- A repeated and a dangling message are consumed and print nothing. -/
theorem drain_exact_repeated :
    ∃ d, performOperation parseLong ⟨some 1, true, true⟩ 5
        { queue := [3, 9, 3, 5], tmStore := twoPackets } = some (.ok, d) ∧
      d.queue = [] ∧ d.tmStore = twoPackets.without [3, 9, 3, 5] ∧
      d.lines = [.dump 2 2 [(0, 0x08), (1, 0x01)], .packet ⟨1, 7, 23⟩] := by
  obtain ⟨d, hcall, -, hqueue, hstore, hlines, -⟩ :=
    drain_exact parseLong ⟨some 1, true, true⟩ rfl rfl [3, 9, 3, 5] twoPackets 5 (by decide)
  exact ⟨d, hcall, hqueue, hstore, hlines.trans (by decide)⟩

end StubTelemetrySink

end FsfwFromZero
