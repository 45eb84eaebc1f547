import FsfwFromZero.Lib.Mutex
import FsfwFromZero.Ipc.IntQueue

/-!
# The threads of the message workshop, access by access

`ws-ipc/ipc-solutions/main-02.cpp` once more, below the level of critical sections: `intSender` and
`intReceiver` as they take `QUEUE_MUTEX`, touch the counter and the queue one access at a time, give
the mutex back, and print outside of it.  `intSender` prints `SENT_INTS` without the mutex.

* `Point`, `program` — the two loops; `Observation` — what is seen of them: the end of a critical
  section and the printed lines;
* `Serial` — the shared state is the one that the sections seen so far leave when each is run at
  once, one after the other;
* `threadsOutline` — what holds at each point of the loops;
* `threads_refine_sections` — **every interleaving of accesses is an interleaving of sections**, and
  the lines printed outside the mutex are those of the sections, in their order.
-/

namespace FsfwFromZero

open Lib

namespace IntThreads

/-- Where a thread is in its loop. -/
inductive Point
  | senderLock
  | senderLoad
  | senderStore (loaded : UInt32)
  | senderPush
  | senderUnlock
  | senderPrint
  | receiverLock
  | receiverTest
  | receiverBack
  | receiverPop (optInt : Int32)
  | receiverUnlock (optInt : Option Int32)
  | receiverPrint (optInt : Option Int32)
  deriving Repr, DecidableEq

/-- What is seen of the threads. -/
inductive Observation
  /-- The sender pushed this value. -/
  | pushed (value : Int32)
  /-- The receiver took this value out of the queue, or found it empty. -/
  | took (optInt : Option Int32)
  /-- `intSender: Sent value `. -/
  | sentLine (value : UInt32)
  /-- `intReceiver: Received integer value `. -/
  | receivedLine (value : Int32)
  deriving Repr, DecidableEq

/-- The two loops.  `++SENT_INTS` is a load and a store, and its value is loaded again to be
pushed. -/
def program : Point → Op Point IpcWorkshop Observation
  | .senderLock => .lock .senderLoad
  | .senderLoad => .access fun w => (.senderStore w.sentInts, w, none)
  | .senderStore loaded => .access fun w => (.senderPush, { w with sentInts := loaded + 1 }, none)
  | .senderPush =>
      .access fun w =>
        (.senderUnlock, { w with intQueue := w.intQueue ++ [w.sentInts.toInt32] },
          some (.pushed w.sentInts.toInt32))
  | .senderUnlock => .unlock .senderPrint
  | .senderPrint => .access fun w => (.senderLock, w, some (.sentLine w.sentInts))
  | .receiverLock => .lock .receiverTest
  | .receiverTest =>
      .access fun w =>
        if w.intQueue.isEmpty then (.receiverUnlock none, w, some (.took none))
        else (.receiverBack, w, none)
  | .receiverBack => .access fun w => (.receiverPop (w.intQueue.getLastD 0), w, none)
  | .receiverPop optInt =>
      .access fun w =>
        (.receiverUnlock (some optInt), { w with intQueue := w.intQueue.tail },
          some (.took (some optInt)))
  | .receiverUnlock optInt => .unlock (.receiverPrint optInt)
  | .receiverPrint optInt => .access fun w => (.receiverLock, w, optInt.map .receivedLine)

/-- The points between `lock` and `unlock`. -/
def inside : Point → Bool
  | .senderLock | .senderPrint | .receiverLock | .receiverPrint _ => false
  | _ => true

/-- The two threads around `QUEUE_MUTEX`. -/
def threads : Threads Section Point IpcWorkshop Observation where
  op _ := program
  inside := inside
  lock_inside _ k next hop := by cases k <;> cases hop <;> exact ⟨rfl, rfl⟩
  unlock_inside _ k next hop := by cases k <;> cases hop <;> exact ⟨rfl, rfl⟩
  access_inside _ k run w hop := by
    cases k <;> cases hop <;> try rfl
    simp only
    split <;> rfl

/-- The program as started. -/
def started : Config Section Point IpcWorkshop where
  shared := freshWorkshop
  locked := false
  pc
    | .intSender => .senderLock
    | .intReceiver => .receiverLock

/-! ### What was seen -/

section Seen

variable (seen : List (Section × Observation))

/-- The critical sections that ended, oldest first. -/
def sections : List Section :=
  seen.filterMap fun e =>
    match e.2 with
    | .pushed _ => some .intSender
    | .took _ => some .intReceiver
    | _ => none

def pushes : List Int32 :=
  seen.filterMap fun e =>
    match e.2 with
    | .pushed value => some value
    | _ => none

def takes : List Int32 :=
  seen.filterMap fun e =>
    match e.2 with
    | .took optInt => optInt
    | _ => none

def sentLines : List UInt32 :=
  seen.filterMap fun e =>
    match e.2 with
    | .sentLine value => some value
    | _ => none

def receivedLines : List Int32 :=
  seen.filterMap fun e =>
    match e.2 with
    | .receivedLine value => some value
    | _ => none

/-- The state that the sections seen leave when each is run at once. -/
def serial : IpcWorkshop := workshop.final freshWorkshop (sections seen)

/-- What the sections seen pushed and took is what they push and take when each is run at once. -/
structure Values : Prop where
  sent : sentValues (workshop.trace freshWorkshop (sections seen)) = pushes seen
  received : receivedValues (workshop.trace freshWorkshop (sections seen)) = takes seen

end Seen

variable {seen : List (Section × Observation)}

theorem sections_pushed (v : Int32) :
    sections (seen ++ [(.intSender, .pushed v)]) = sections seen ++ [.intSender] := by
  simp [sections]

theorem sections_took (optInt : Option Int32) :
    sections (seen ++ [(.intReceiver, .took optInt)]) = sections seen ++ [.intReceiver] := by
  simp [sections]

/-- The shared state is the one that the sections seen leave. -/
def Serial (seen : List (Section × Observation)) (w : IpcWorkshop) : Prop :=
  w = serial seen ∧ Values seen

/-- A push ends a section of the sender. -/
theorem serial_pushed (h : Values seen) :
    Serial (seen ++ [(.intSender, .pushed ((serial seen).sentInts + 1).toInt32)])
      ⟨(serial seen).sentInts + 1,
        (serial seen).intQueue ++ [((serial seen).sentInts + 1).toInt32]⟩ := by
  refine ⟨?_, ⟨?_, ?_⟩⟩
  · simp only [serial, sections_pushed, Machine.final_snoc]
    rfl
  · rw [sections_pushed, Machine.trace_snoc, sentValues_sender, h.sent]
    simp [pushes, serial]
  · rw [sections_pushed, Machine.trace_snoc, receivedValues_sender, h.received]
    simp [takes]

/-- Finding the queue empty, or taking its front and answering with its back, ends a section of the
receiver. -/
theorem serial_took (h : Values seen) {optInt : Option Int32} {w : IpcWorkshop}
    (hsection : workshop.step (serial seen) .intReceiver = (optInt, w)) :
    Serial (seen ++ [(.intReceiver, .took optInt)]) w := by
  refine ⟨?_, ⟨?_, ?_⟩⟩
  · rw [serial, sections_took, Machine.final_snoc, ← serial, hsection]
  · rw [sections_took, Machine.trace_snoc, sentValues_receiver, h.sent]
    simp [pushes]
  · rw [sections_took, Machine.trace_snoc, receivedValues_receiver, h.received, ← serial, hsection]
    cases optInt <;> simp [takes]

/-! ### What holds at each point -/

/-- The thread a point belongs to. -/
def Point.thread : Point → Section
  | .senderLock | .senderLoad | .senderStore _ | .senderPush | .senderUnlock | .senderPrint =>
      .intSender
  | _ => .intReceiver

/-- What a thread knows of the shared state inside the mutex. -/
def holds (k : Point) (seen : List (Section × Observation)) (w : IpcWorkshop) : Prop :=
  match k with
  | .senderLock | .senderPrint | .receiverLock | .receiverPrint _ => True
  | .senderLoad | .senderUnlock | .receiverTest | .receiverUnlock _ => Serial seen w
  | .senderStore loaded => Serial seen w ∧ loaded = w.sentInts
  | .senderPush => w = { serial seen with sentInts := (serial seen).sentInts + 1 } ∧ Values seen
  | .receiverBack => Serial seen w ∧ w.intQueue ≠ []
  | .receiverPop optInt => Serial seen w ∧ w.intQueue.getLast? = some optInt

/-- The lines a thread has printed: all that it has to, or all but the one it is about to print. -/
def printed (k : Point) (seen : List (Section × Observation)) (w : IpcWorkshop) : Prop :=
  match k with
  | .senderLock | .senderLoad | .senderStore _ | .senderPush =>
      (sentLines seen).map UInt32.toInt32 = pushes seen
  | .senderUnlock | .senderPrint =>
      (sentLines seen).map UInt32.toInt32 ++ [w.sentInts.toInt32] = pushes seen
  | .receiverLock | .receiverTest | .receiverBack | .receiverPop _ =>
      receivedLines seen = takes seen
  | .receiverUnlock optInt | .receiverPrint optInt =>
      receivedLines seen ++ optInt.toList = takes seen

/-- What a thread at a point relies on. -/
structure Here (t : Section) (k : Point) (seen : List (Section × Observation)) (w : IpcWorkshop) :
    Prop where
  thread : k.thread = t
  state : holds k seen w
  lines : printed k seen w

/-- A thread inside knows the values of the sections. -/
theorem values_of_inside {k : Point} {w : IpcWorkshop} (hinside : inside k = true)
    (h : holds k seen w) : Values seen := by
  cases k with
  | senderLoad | senderUnlock | receiverTest | receiverUnlock => exact h.2
  | senderPush => exact h.2
  | senderStore | receiverBack | receiverPop => exact h.1.2
  | _ => cases hinside

/-- The sender is at most one line behind. -/
theorem sender_behind {k : Point} {w : IpcWorkshop} (hthread : k.thread = .intSender)
    (h : printed k seen w) :
    ∃ next, (sentLines seen).map UInt32.toInt32 ++ next = pushes seen ∧ next.length ≤ 1 := by
  cases k with
  | senderLock | senderLoad | senderStore | senderPush =>
    exact ⟨[], (List.append_nil _).trans h, Nat.zero_le 1⟩
  | senderUnlock | senderPrint => exact ⟨[w.sentInts.toInt32], h, Nat.le_refl 1⟩
  | _ => cases hthread

/-- The receiver is at most one line behind. -/
theorem receiver_behind {k : Point} {w : IpcWorkshop} (hthread : k.thread = .intReceiver)
    (h : printed k seen w) :
    ∃ next, receivedLines seen ++ next = takes seen ∧ next.length ≤ 1 := by
  cases k with
  | receiverLock | receiverTest | receiverBack | receiverPop =>
    exact ⟨[], (List.append_nil _).trans h, Nat.zero_le 1⟩
  | receiverUnlock optInt | receiverPrint optInt =>
    exact ⟨optInt.toList, h, by cases optInt <;> simp⟩
  | _ => cases hthread

/-- One access of a thread takes it from what holds at one point to what holds at the next. -/
theorem access_here {t : Section} {k : Point}
    {run : IpcWorkshop → Point × IpcWorkshop × Option Observation} {w : IpcWorkshop}
    (hop : program k = .access run) (h : Here t k seen w) :
    Here t (run w).1 (seen ++ ((run w).2.2.map fun o => (t, o)).toList) (run w).2.1 := by
  obtain ⟨hthread, hstate, hlines⟩ := h
  cases k with
  | senderLock => cases hop
  | senderUnlock => cases hop
  | receiverLock => cases hop
  | receiverUnlock optInt => cases hop
  | senderLoad =>
    cases hop
    simp only [Option.map_none, Option.toList_none, List.append_nil]
    exact ⟨hthread, ⟨hstate, rfl⟩, hlines⟩
  | senderStore loaded =>
    cases hop
    obtain ⟨⟨hw, hvalues⟩, hloaded⟩ := hstate
    simp only [Option.map_none, Option.toList_none, List.append_nil]
    refine ⟨hthread, ⟨?_, hvalues⟩, hlines⟩
    rw [hloaded, hw]
  | senderPush =>
    cases hop
    obtain ⟨hw, hvalues⟩ := hstate
    cases hthread
    simp only [Option.map_some, Option.toList_some]
    refine ⟨by rfl, ?_, ?_⟩
    · subst hw
      exact serial_pushed hvalues
    · have hbefore : (sentLines seen).map UInt32.toInt32 = pushes seen := hlines
      simpa [printed, sentLines, pushes] using hbefore
  | senderPrint =>
    cases hop
    simp only [Option.map_some, Option.toList_some]
    refine ⟨hthread, by trivial, ?_⟩
    have hbefore : (sentLines seen).map UInt32.toInt32 ++ [w.sentInts.toInt32] = pushes seen :=
      hlines
    simpa [printed, sentLines, pushes] using hbefore
  | receiverTest =>
    cases hop
    obtain ⟨hw, hvalues⟩ := hstate
    cases hthread
    cases hqueue : w.intQueue with
    | nil =>
      have hsection := receive_nil (serial seen) (hw ▸ hqueue)
      have hbefore : receivedLines seen = takes seen := hlines
      simp only [hqueue, List.isEmpty_nil, if_true]
      refine ⟨by rfl, ?_, ?_⟩
      · subst hw
        exact serial_took hvalues hsection
      · simpa [printed, receivedLines, takes] using hbefore
    | cons x rest =>
      simp only [hqueue, List.isEmpty_cons, Bool.false_eq_true, if_false, Option.map_none,
        Option.toList_none, List.append_nil]
      exact ⟨rfl, ⟨⟨hw, hvalues⟩, by simp [hqueue]⟩, hlines⟩
  | receiverBack =>
    cases hop
    obtain ⟨hserial, hne⟩ := hstate
    simp only [Option.map_none, Option.toList_none, List.append_nil]
    refine ⟨hthread, ⟨hserial, ?_⟩, hlines⟩
    rw [List.getLastD_eq_getLast?, List.getLast?_eq_some_getLast hne]
    rfl
  | receiverPop optInt =>
    cases hop
    obtain ⟨⟨hw, hvalues⟩, hlast⟩ := hstate
    cases hthread
    have hsection : workshop.step (serial seen) .intReceiver =
        (some optInt, { serial seen with intQueue := (serial seen).intQueue.tail }) := by
      rw [← hw]
      show w.intReceiver = _
      have hne : w.intQueue.isEmpty = false := by
        cases hqueue : w.intQueue with
        | nil => simp [hqueue] at hlast
        | cons x rest => rfl
      simp [IpcWorkshop.intReceiver, hne, hlast]
    have hbefore : receivedLines seen = takes seen := hlines
    simp only [Option.map_some, Option.toList_some]
    refine ⟨by rfl, ?_, ?_⟩
    · subst hw
      exact serial_took hvalues hsection
    · simpa [printed, receivedLines, takes] using hbefore
  | receiverPrint optInt =>
    cases hop
    refine ⟨hthread, trivial, ?_⟩
    have hbefore : receivedLines seen ++ optInt.toList = takes seen := hlines
    cases optInt with
    | none => simpa [printed] using hbefore
    | some v => simpa [printed, receivedLines, takes] using hbefore

/-! ### What the other thread relies on -/

/-- What is known inside the mutex depends on the sections only, not on the lines. -/
theorem holds_congr {seen' : List (Section × Observation)} {k : Point} {w : IpcWorkshop}
    (hsections : sections seen' = sections seen) (hpushes : pushes seen' = pushes seen)
    (htakes : takes seen' = takes seen) (h : holds k seen w) : holds k seen' w := by
  have hserial : serial seen' = serial seen := by rw [serial, hsections, serial]
  have hvalues : Values seen' ↔ Values seen := by
    constructor
    · intro ⟨hsent, hreceived⟩
      rw [hsections, hpushes] at hsent
      rw [hsections, htakes] at hreceived
      exact ⟨hsent, hreceived⟩
    · intro ⟨hsent, hreceived⟩
      refine ⟨?_, ?_⟩
      · rw [hsections, hpushes, hsent]
      · rw [hsections, htakes, hreceived]
  cases k with
  | senderLock | senderPrint | receiverLock | receiverPrint => trivial
  | _ => simpa only [holds, Serial, hserial, hvalues] using h

section Stable

variable {k m : Point} {run : IpcWorkshop → Point × IpcWorkshop × Option Observation}
  {w w' : IpcWorkshop} {seen' : List (Section × Observation)}

/-- Outside of the mutex nothing is known of the shared state. -/
theorem holds_outside (houtside : inside k = false) : holds k seen w := by
  cases k with
  | senderLock | senderPrint | receiverLock | receiverPrint => trivial
  | _ => cases houtside

/-- What the receiver has printed depends on its lines and its sections. -/
theorem printed_receiver (hthread : m.thread = .intReceiver)
    (hlines : receivedLines seen' = receivedLines seen) (htakes : takes seen' = takes seen)
    (h : printed m seen w) : printed m seen' w' := by
  cases m <;> cases hthread <;> simpa only [printed, hlines, htakes] using h

/-- What the sender has printed depends on its lines, its sections and `SENT_INTS`. -/
theorem printed_sender (hthread : m.thread = .intSender)
    (hlines : sentLines seen' = sentLines seen) (hpushes : pushes seen' = pushes seen)
    (hcounter : w'.sentInts = w.sentInts) (h : printed m seen w) : printed m seen' w' := by
  cases m <;> cases hthread <;> simpa only [printed, hlines, hpushes, hcounter] using h

/-- The sender neither receives nor prints receptions. -/
theorem sender_seen (hop : program k = .access run) (hthread : k.thread = .intSender)
    (seen : List (Section × Observation)) (w : IpcWorkshop) (t : Section) :
    receivedLines (seen ++ ((run w).2.2.map fun o => (t, o)).toList) = receivedLines seen ∧
      takes (seen ++ ((run w).2.2.map fun o => (t, o)).toList) = takes seen := by
  cases k with
  | senderLoad | senderStore | senderPush | senderPrint =>
    cases hop
    simp [receivedLines, takes]
  | senderLock | senderUnlock => cases hop
  | _ => cases hthread

/-- The receiver neither sends nor prints what was sent, and leaves `SENT_INTS` alone. -/
theorem receiver_seen (hop : program k = .access run) (hthread : k.thread = .intReceiver)
    (seen : List (Section × Observation)) (w : IpcWorkshop) (t : Section) :
    sentLines (seen ++ ((run w).2.2.map fun o => (t, o)).toList) = sentLines seen ∧
      pushes (seen ++ ((run w).2.2.map fun o => (t, o)).toList) = pushes seen ∧
      (run w).2.1.sentInts = w.sentInts := by
  cases k with
  | receiverTest =>
    cases hop
    cases hqueue : w.intQueue <;> simp [sentLines, pushes, hqueue]
  | receiverBack | receiverPop =>
    cases hop
    simp [sentLines, pushes]
  | receiverPrint optInt =>
    cases hop
    cases optInt <;> simp [sentLines, pushes]
  | receiverLock | receiverUnlock => cases hop
  | _ => cases hthread

/-- Outside of the mutex the threads only print. -/
theorem outside_seen (hop : program k = .access run) (houtside : inside k = false)
    (seen : List (Section × Observation)) (w : IpcWorkshop) (t : Section) :
    sections (seen ++ ((run w).2.2.map fun o => (t, o)).toList) = sections seen ∧
      pushes (seen ++ ((run w).2.2.map fun o => (t, o)).toList) = pushes seen ∧
      takes (seen ++ ((run w).2.2.map fun o => (t, o)).toList) = takes seen ∧
      (run w).2.1 = w := by
  cases k with
  | senderPrint =>
    cases hop
    simp [sections, pushes, takes]
  | receiverPrint optInt =>
    cases hop
    cases optInt <;> simp [sections, pushes, takes]
  | senderLock | receiverLock => cases hop
  | _ => cases houtside

/-- An access leaves alone what the other thread knows inside the mutex. -/
theorem holds_stable (hop : program k = .access run)
    (hexclusive : inside k = true → inside m = false) (t : Section) (h : holds m seen w) :
    holds m (seen ++ ((run w).2.2.map fun o => (t, o)).toList) (run w).2.1 := by
  cases hk : inside k with
  | true => exact holds_outside (hexclusive hk)
  | false =>
    obtain ⟨hsections, hpushes, htakes, hw⟩ := outside_seen hop hk seen w t
    rw [hw]
    exact holds_congr hsections hpushes htakes h

/-- An access leaves alone what the other thread relies on. -/
theorem here_stable {t u : Section} (hop : program k = .access run) (ht : Here t k seen w)
    (hne : u ≠ t) (hexclusive : inside k = true → inside m = false) (hu : Here u m seen w) :
    Here u m (seen ++ ((run w).2.2.map fun o => (t, o)).toList) (run w).2.1 := by
  refine ⟨hu.thread, holds_stable hop hexclusive t hu.state, ?_⟩
  cases t with
  | intSender =>
    have hm : m.thread = .intReceiver := by
      rw [hu.thread]
      cases u with
      | intSender => exact absurd rfl hne
      | intReceiver => rfl
    obtain ⟨hlines, htakes⟩ := sender_seen hop ht.thread seen w .intSender
    exact printed_receiver hm hlines htakes hu.lines
  | intReceiver =>
    have hm : m.thread = .intSender := by
      rw [hu.thread]
      cases u with
      | intSender => rfl
      | intReceiver => exact absurd rfl hne
    obtain ⟨hlines, hpushes, hcounter⟩ :=
      receiver_seen hop ht.thread seen w .intReceiver
    exact printed_sender hm hlines hpushes hcounter hu.lines

end Stable

/-- The outline of both threads. -/
def threadsOutline : threads.Outline where
  free := Serial
  here := Here
  lock t k next seen w hop hfree h := by
    obtain ⟨hthread, -, hlines⟩ := h
    cases k <;> cases hop <;> exact ⟨hthread, hfree, hlines⟩
  unlock t k next seen w hop h := by
    obtain ⟨hthread, hstate, hlines⟩ := h
    cases k <;> cases hop <;> exact ⟨hstate, hthread, by trivial, hlines⟩
  access t k run seen w hop h := access_here hop h
  others t k run seen w u m hop h hne hexclusive hu := here_stable hop h hne hexclusive hu
  outside t k run seen w hop houtside _ hfree :=
    holds_stable (m := .senderLoad) hop
      (fun hinside => absurd (houtside.symm.trans hinside) Bool.false_ne_true) t hfree

theorem started_meets : threadsOutline.Meets [] started where
  exclusive := by
    refine ⟨⟨fun h => (by cases h), fun ⟨t, ht⟩ => ?_⟩, fun t u ht => ?_⟩
    · cases t <;> cases ht
    · cases t <;> cases ht
  free _ := ⟨rfl, rfl, rfl⟩
  here t := by cases t <;> exact ⟨rfl, trivial, rfl⟩

/-- **Every interleaving of accesses is an interleaving of sections.**  However the two threads are
scheduled, access by access: they are never both inside the mutex; what the sections pushed and
received is what they push and receive when each is run at once, in the order in which they were
seen to end; whenever the mutex is free the shared state is the one they leave then; and the lines
printed outside of the mutex, `SENT_INTS` read without it included, are the values pushed and the
values received, in order, except that the last of each may still be to come. -/
theorem threads_refine_sections (schedule : List Section) :
    let c := threads.run.final started schedule
    let seen := Threads.observed (threads.run.trace started schedule)
    let hist := workshop.trace freshWorkshop (sections seen)
    (∀ t u, inside (c.pc t) = true → inside (c.pc u) = true → t = u) ∧
      sentValues hist = pushes seen ∧ receivedValues hist = takes seen ∧
      (c.locked = false → c.shared = workshop.final freshWorkshop (sections seen)) ∧
      (∃ next, (sentLines seen).map UInt32.toInt32 ++ next = sentValues hist ∧ next.length ≤ 1) ∧
      ∃ next, receivedLines seen ++ next = receivedValues hist ∧ next.length ≤ 1 := by
  have hmeets := threadsOutline.outline_run started started_meets schedule
  intro c seen hist
  have hvalues : Values seen := by
    by_cases hlocked : c.locked = true
    · obtain ⟨t, ht⟩ := hmeets.exclusive.taken.mp hlocked
      exact values_of_inside ht (hmeets.here t).state
    · exact (hmeets.free (by simpa using hlocked)).2
  refine ⟨hmeets.exclusive.unique, hvalues.sent, hvalues.received,
    fun hlocked => (hmeets.free hlocked).1, ?_, ?_⟩
  · rw [show sentValues hist = pushes seen from hvalues.sent]
    exact sender_behind (hmeets.here .intSender).thread (hmeets.here .intSender).lines
  · rw [show receivedValues hist = takes seen from hvalues.received]
    exact receiver_behind (hmeets.here .intReceiver).thread (hmeets.here .intReceiver).lines

end IntThreads

end FsfwFromZero
