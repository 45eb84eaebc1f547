import Mathlib
import FsfwFromZero.Lib.Machine

/-!
# The integer queue of the message workshop

`ws-ipc/ipc-solutions/main-02.cpp`: `intSender` pushes the next counter value, `intReceiver` takes
one value if there is one.  Each does so under `QUEUE_MUTEX`, so a run of the two threads is an
interleaving of the two critical sections, and a list of `Section`s is any such interleaving.

The receiver reads `back()` and then calls `pop()`, which removes the front.

* `IpcWorkshop` — the shared counter and queue; `workshop : Machine` runs interleavings;
* `queue_invariant` — whatever was received, the queue holds the values sent after the first as many
  as were received;
* `delivers_in_order_iff` — **delivery is in order exactly when no reception found two values
  waiting**;
* `two_sends_reordered` — two values waiting are enough to receive the wrong one.
-/

namespace FsfwFromZero

open Lib

/-- `SENT_INTS` and `INT_QUEUE`, front first. -/
structure IpcWorkshop where
  sentInts : UInt32
  intQueue : List Int32
  deriving Repr, DecidableEq

namespace IpcWorkshop

/-- `INT_QUEUE.push(++SENT_INTS)`, answered with the value pushed. -/
def intSender (w : IpcWorkshop) : Option Int32 × IpcWorkshop :=
  let sentInts := w.sentInts + 1
  (some sentInts.toInt32, ⟨sentInts, w.intQueue ++ [sentInts.toInt32]⟩)

/-- `optInt = INT_QUEUE.back(); INT_QUEUE.pop()` if the queue is not empty, answered with `optInt`.
-/
def intReceiver (w : IpcWorkshop) : Option Int32 × IpcWorkshop :=
  if w.intQueue.isEmpty then (none, w)
  else (w.intQueue.getLast?, { w with intQueue := w.intQueue.tail })

end IpcWorkshop

/-- The critical sections of the two threads. -/
inductive Section
  | intSender
  | intReceiver
  deriving Repr, DecidableEq

/-- The two threads as a machine over critical sections. -/
def workshop : Machine IpcWorkshop Section (Option Int32) where
  step w
    | .intSender => w.intSender
    | .intReceiver => w.intReceiver

/-- The program as started. -/
def freshWorkshop : IpcWorkshop := ⟨0, []⟩

abbrev SectionEvent := Event IpcWorkshop Section (Option Int32)

/-- What a run pushed, oldest first. -/
def sentValues (hist : List SectionEvent) : List Int32 :=
  hist.filterMap fun e => if e.input = .intSender then e.output else none

/-- What a run received, oldest first. -/
def receivedValues (hist : List SectionEvent) : List Int32 :=
  hist.filterMap fun e => if e.input = .intReceiver then e.output else none

/-- The values sent are 1, 2, 3, ..., those received come first among them, and the rest waits in
the queue, in order. -/
def DeliversInOrder (hist : List SectionEvent) (w : IpcWorkshop) : Prop :=
  (sentValues hist).map Int32.toInt =
      (List.range (sentValues hist).length).map (fun i : Nat => (i : Int) + 1) ∧
    receivedValues hist ++ w.intQueue = sentValues hist

/-- A reception never finds more than one value waiting. -/
def findsAtMostOne (_ : List SectionEvent) (w : IpcWorkshop) (s : Section) : Prop :=
  s = .intReceiver → w.intQueue.length ≤ 1

instance (hist : List SectionEvent) (w : IpcWorkshop) (s : Section) :
    Decidable (findsAtMostOne hist w s) :=
  inferInstanceAs (Decidable (_ → _))

/-! ### One critical section -/

section Events

variable (w : IpcWorkshop) (hist : List SectionEvent)

theorem sentValues_sender : sentValues (hist ++ [workshop.event w .intSender]) =
    sentValues hist ++ [(w.sentInts + 1).toInt32] := by
  rw [sentValues, List.filterMap_append]
  rfl

theorem sentValues_receiver : sentValues (hist ++ [workshop.event w .intReceiver]) =
    sentValues hist := by
  rw [sentValues, List.filterMap_append]
  exact List.append_nil _

theorem receivedValues_sender : receivedValues (hist ++ [workshop.event w .intSender]) =
    receivedValues hist := by
  rw [receivedValues, List.filterMap_append]
  exact List.append_nil _

theorem receivedValues_receiver : receivedValues (hist ++ [workshop.event w .intReceiver]) =
    receivedValues hist ++ (workshop.step w .intReceiver).1.toList := by
  rw [receivedValues, List.filterMap_append]
  rfl

theorem receive_nil (hq : w.intQueue = []) : workshop.step w .intReceiver = (none, w) := by
  show w.intReceiver = _
  simp [IpcWorkshop.intReceiver, hq]

/-- A reception answers with the last value and takes the first out of the queue. -/
theorem receive_cons (x : Int32) (rest : List Int32) (hq : w.intQueue = x :: rest) :
    workshop.step w .intReceiver =
      (some ((x :: rest).getLast (by simp)), { w with intQueue := rest }) := by
  show w.intReceiver = _
  simp [IpcWorkshop.intReceiver, hq, List.getLast?_eq_some_getLast]

end Events

/-! ### The queue is a suffix of what was sent -/

/-- The value of the `i`-th push, counted from 0. -/
def pushed (i : Nat) : Int32 := (UInt32.ofNat (i + 1)).toInt32

/-- The counter counts the pushes, the pushes are the counter's values, and the queue is what is
left of them after as many as were received. -/
structure QueueInvariant (hist : List SectionEvent) (w : IpcWorkshop) : Prop where
  counter : w.sentInts = UInt32.ofNat (sentValues hist).length
  sent : sentValues hist = (List.range (sentValues hist).length).map pushed
  queue : w.intQueue = (sentValues hist).drop (receivedValues hist).length
  received_le : (receivedValues hist).length ≤ (sentValues hist).length

theorem queueInvariant_step (hist : List SectionEvent) (w : IpcWorkshop) (s : Section)
    (inv : QueueInvariant hist w) :
    QueueInvariant (hist ++ [workshop.event w s]) (workshop.step w s).2 := by
  cases s with
  | intSender =>
    have hsent := sentValues_sender w hist
    have hreceived := receivedValues_sender w hist
    have hcounter : w.sentInts + 1 = UInt32.ofNat ((sentValues hist).length + 1) := by
      rw [inv.counter, UInt32.ofNat_add]
      rfl
    constructor
    · rw [hsent, List.length_append]
      exact hcounter
    · rw [hsent, List.length_append, List.length_singleton, List.range_succ, List.map_append,
        ← inv.sent, hcounter]
      rfl
    · rw [hsent, hreceived, List.drop_append_of_le_length inv.received_le, ← inv.queue]
      rfl
    · rw [hsent, hreceived, List.length_append]
      exact Nat.le_add_right_of_le inv.received_le
  | intReceiver =>
    have hsent := sentValues_receiver w hist
    have hreceived := receivedValues_receiver w hist
    cases hq : w.intQueue with
    | nil =>
      have hstep := receive_nil w hq
      rw [hstep, Option.toList_none, List.append_nil] at hreceived
      constructor
      · rw [hsent, hstep, inv.counter]
      · rw [hsent]
        exact inv.sent
      · rw [hsent, hreceived, hstep, inv.queue]
      · rw [hsent, hreceived]
        exact inv.received_le
    | cons x rest =>
      have hstep := receive_cons w x rest hq
      have hlength : (receivedValues (hist ++ [workshop.event w .intReceiver])).length =
          (receivedValues hist).length + 1 := by
        rw [hreceived, hstep]
        simp
      have hdrop : x :: rest = (sentValues hist).drop (receivedValues hist).length := by
        rw [← inv.queue, hq]
      constructor
      · rw [hsent, hstep]
        exact inv.counter
      · rw [hsent]
        exact inv.sent
      · rw [hsent, hlength, hstep, ← List.tail_drop, ← hdrop]
        rfl
      · have hpos := congrArg List.length hdrop
        rw [List.length_cons, List.length_drop] at hpos
        rw [hsent, hlength]
        omega

/-- **The queue invariant** holds after every interleaving. -/
theorem queue_invariant (sections : List Section) :
    QueueInvariant (workshop.trace freshWorkshop sections)
      (workshop.final freshWorkshop sections) :=
  workshop.history_induction ⟨rfl, rfl, rfl, Nat.le_refl 0⟩ queueInvariant_step sections

/-! ### Fewer than `2 ^ 31` pushes are distinct values -/

theorem pushed_toInt (i : Nat) (hi : i + 1 < 2 ^ 31) : (pushed i).toInt = (i : Int) + 1 := by
  rw [pushed, UInt32.toInt32_ofNat', Int32.toInt_ofNat_of_lt hi]
  rfl

theorem QueueInvariant.sent_toInt {hist : List SectionEvent} {w : IpcWorkshop}
    (inv : QueueInvariant hist w) (bound : (sentValues hist).length < 2 ^ 31) :
    (sentValues hist).map Int32.toInt =
      (List.range (sentValues hist).length).map (fun i : Nat => (i : Int) + 1) := by
  have hvalue : ∀ i ∈ List.range (sentValues hist).length,
      (Int32.toInt ∘ pushed) i = (i : Int) + 1 := by
    intro i hi
    have hlt := List.mem_range.mp hi
    exact pushed_toInt i (by omega)
  calc (sentValues hist).map Int32.toInt
      = ((List.range (sentValues hist).length).map pushed).map Int32.toInt := by rw [← inv.sent]
    _ = (List.range (sentValues hist).length).map (fun i : Nat => (i : Int) + 1) := by
        rw [List.map_map]
        exact List.map_congr_left hvalue

theorem QueueInvariant.sent_nodup {hist : List SectionEvent} {w : IpcWorkshop}
    (inv : QueueInvariant hist w) (bound : (sentValues hist).length < 2 ^ 31) :
    (sentValues hist).Nodup := by
  have hnodup : ((sentValues hist).map Int32.toInt).Nodup := by
    rw [inv.sent_toInt bound]
    refine List.Nodup.map (fun i j hij => ?_) List.nodup_range
    have hcast : (i : Int) = j := by simpa using hij
    exact_mod_cast hcast
  exact List.Nodup.of_map _ hnodup

/-- The pushes of a run are its sender sections. -/
theorem sentValues_length (sections : List Section) :
    (sentValues (workshop.trace freshWorkshop sections)).length = sections.count .intSender := by
  induction sections using List.reverseRecOn with
  | nil => rfl
  | append_singleton sections s ih =>
    rw [Machine.trace_snoc, List.count_append]
    cases s with
    | intSender => rw [sentValues_sender, List.length_append, ih]; rfl
    | intReceiver => rw [sentValues_receiver, ih]; rfl

/-! ### Order is lost where two values wait -/

/-- Receiving the last of the waiting values keeps the order only if it is also the first. -/
theorem order_kept_iff {sent received rest : List Int32} {x : Int32} (nodup : sent.Nodup)
    (hdrop : x :: rest = sent.drop received.length) :
    received ++ [(x :: rest).getLast (by simp)] ++ rest = sent ↔
      received ++ x :: rest = sent ∧ (x :: rest).length ≤ 1 := by
  have hsent : sent.take received.length ++ [x] ++ rest = sent := by
    rw [List.append_assoc, List.singleton_append, hdrop, List.take_append_drop]
  constructor
  · intro horder
    have hfront := List.append_cancel_right (horder.trans hsent.symm)
    obtain ⟨hreceived, hlast⟩ := List.append_inj' hfront rfl
    have hx : (x :: rest).getLast (by simp) = x := by simpa using hlast
    have hrest : rest = [] := by
      by_contra hne
      rw [List.getLast_cons hne] at hx
      have hmem : x ∈ rest := hx ▸ List.getLast_mem hne
      have hnodup : (x :: rest).Nodup := hdrop ▸ nodup.sublist (List.drop_sublist _ _)
      exact (List.nodup_cons.mp hnodup).1 hmem
    subst hrest
    refine ⟨?_, Nat.le_refl 1⟩
    simpa using horder
  · intro ⟨horder, hlength⟩
    have hrest : rest = [] := by
      rw [List.length_cons] at hlength
      exact List.eq_nil_of_length_eq_zero (by omega)
    subst hrest
    simpa using horder

/-- One critical section keeps the order unless it is a reception that finds two values waiting. -/
theorem order_step (hist : List SectionEvent) (w : IpcWorkshop) (s : Section)
    (inv : QueueInvariant hist w) (nodup : (sentValues hist).Nodup) :
    receivedValues (hist ++ [workshop.event w s]) ++ (workshop.step w s).2.intQueue =
        sentValues (hist ++ [workshop.event w s]) ↔
      receivedValues hist ++ w.intQueue = sentValues hist ∧ findsAtMostOne hist w s := by
  cases s with
  | intSender =>
    have hqueue : (workshop.step w .intSender).2.intQueue =
        w.intQueue ++ [(w.sentInts + 1).toInt32] := rfl
    rw [sentValues_sender, receivedValues_sender, hqueue, ← List.append_assoc,
      List.append_left_inj]
    simp [findsAtMostOne]
  | intReceiver =>
    rw [sentValues_receiver, receivedValues_receiver]
    cases hq : w.intQueue with
    | nil =>
      rw [receive_nil w hq, hq]
      simp [findsAtMostOne, hq]
    | cons x rest =>
      rw [receive_cons w x rest hq]
      have hdrop : x :: rest = (sentValues hist).drop (receivedValues hist).length := by
        rw [← inv.queue, hq]
      rw [findsAtMostOne, hq]
      simpa using order_kept_iff nodup hdrop

/-- A run keeps the order exactly if each of its sections does. -/
theorem order_run (sections : List Section) (bound : sections.count .intSender < 2 ^ 31) :
    receivedValues (workshop.trace freshWorkshop sections) ++
          (workshop.final freshWorkshop sections).intQueue =
        sentValues (workshop.trace freshWorkshop sections) ↔
      workshop.Lawful findsAtMostOne freshWorkshop sections := by
  induction sections using List.reverseRecOn with
  | nil => exact ⟨fun _ => trivial, fun _ => rfl⟩
  | append_singleton sections s ih =>
    have hbound : sections.count .intSender < 2 ^ 31 := by
      rw [List.count_append] at bound
      omega
    have inv := queue_invariant sections
    have nodup := inv.sent_nodup (by rw [sentValues_length]; exact hbound)
    have hstep := order_step _ _ s inv nodup
    rw [Machine.trace_snoc, Machine.final_snoc, Machine.lawful_snoc]
    exact hstep.trans (and_congr_left fun _ => ih hbound)

/-- **When messages arrive in order.**  After every interleaving with fewer than `2 ^ 31` sends, the
values received are the first of the values 1, 2, 3, ... sent and the queue holds the others in
order, if and only if no reception of the run found more than one value in the queue. -/
theorem delivers_in_order_iff (sections : List Section)
    (bound : sections.count .intSender < 2 ^ 31) :
    DeliversInOrder (workshop.trace freshWorkshop sections)
        (workshop.final freshWorkshop sections) ↔
      workshop.Lawful findsAtMostOne freshWorkshop sections := by
  have hlength : (sentValues (workshop.trace freshWorkshop sections)).length < 2 ^ 31 := by
    rw [sentValues_length]
    exact bound
  have hvalues := (queue_invariant sections).sent_toInt hlength
  constructor
  · intro ⟨_, horder⟩
    exact (order_run sections bound).mp horder
  · intro hlawful
    exact ⟨hvalues, (order_run sections bound).mpr hlawful⟩

/-- Sending and receiving in turns delivers in order. -/
theorem delivers_in_order_alternating :
    DeliversInOrder (workshop.trace freshWorkshop [.intSender, .intReceiver, .intSender])
      (workshop.final freshWorkshop [.intSender, .intReceiver, .intSender]) :=
  (delivers_in_order_iff _ (by decide)).mpr (by decide)

/-- **Two values waiting are received out of order.**  After two sends the receiver gets 2, and 1 is
gone. -/
theorem two_sends_reordered :
    ¬ DeliversInOrder (workshop.trace freshWorkshop [.intSender, .intSender, .intReceiver])
      (workshop.final freshWorkshop [.intSender, .intSender, .intReceiver]) := by
  intro ⟨_, horder⟩
  revert horder
  decide

end FsfwFromZero
