import FsfwFromZero.Lib.Loop
import FsfwFromZero.Lib.Store
import FsfwFromZero.Tmtc.QueueHandles

/-!
# The queues of the two sinks, from creation to destruction

`StubVerificationReceiver::performOperation` and the destructors of both sinks, in a world where the
queue factory creates queues, clients send to whatever queue they were told, and a queue that is
full or gone refuses.  Both sinks ask for queues of depth `10`; the destructor deletes the one queue
the sink then knows.

* `VerificationLine`, `receive`, `performOperation` — the receiver's loop, `performOperation_exact`
  — it takes everything that waits, in order;
* `SinkWorld`, `sinkWorld : Machine` — a sink, the queues it created, and their clients;
  `destroyReceiver`, `destroySink` — the destructors;
* `Delivers` / `delivers_run` — **each queue is a FIFO**: for either class, what a queue accepted is
  what was taken from it and then what waits in it;
* `receiver_delivers` — **the receiver loses no report and no queue**;
* `sink_queues_survive_iff` — **the telemetry sink loses every queue but its last**.
-/

namespace FsfwFromZero

open Lib

/-- `QUEUE_DEPTH` of both sinks. -/
def queueDepth : Nat := 10

/-! ### The receiver's loop -/

/-- What the receiver reads of a message. -/
structure PusVerificationMessage where
  reportId : UInt8
  ackFlags : UInt8
  step : UInt8
  errorCode : UInt16
  deriving Repr, DecidableEq

/-- `[TMTC] Verification report %u ack 0x%02x step %u error %d`, by the values printed. -/
structure VerificationLine where
  reportId : Nat
  ack : Nat
  step : Nat
  error : Int
  deriving Repr, DecidableEq

def PusVerificationMessage.line (message : PusVerificationMessage) : VerificationLine :=
  ⟨message.reportId.toNat, message.ackFlags.toNat, message.step.toNat, message.errorCode.toNat⟩

/-- The receiver's queue and what was printed, oldest first. -/
structure ReportDrain where
  queue : List PusVerificationMessage
  lines : List VerificationLine
  deriving Repr, DecidableEq

namespace StubVerificationReceiver

/-- One round of the loop, `none` where `receiveMessage` does not return `OK`. -/
def receive (d : ReportDrain) : Option ReportDrain :=
  match d.queue with
  | [] => none
  | message :: rest => some ⟨rest, d.lines ++ [message.line]⟩

/-- `none` would be a loop that has not ended after `fuel` tests. -/
def performOperation (receiver : StubVerificationReceiver) (fuel : Nat) (d : ReportDrain) :
    Option (ReturnValue × ReportDrain) :=
  if receiver.queue.isNone then some (.ok, d)
  else (loop receive fuel d).map fun d => (.ok, d)

/-- One round keeps what is printed and what is left together, and shortens the queue. -/
theorem receive_keeps (all : List VerificationLine) (d d' : ReportDrain)
    (inv : d.lines ++ d.queue.map PusVerificationMessage.line = all)
    (hround : receive d = some d') :
    d'.lines ++ d'.queue.map PusVerificationMessage.line = all ∧
      d'.queue.length < d.queue.length := by
  cases hqueue : d.queue with
  | nil => simp [receive, hqueue] at hround
  | cons message rest =>
    rw [receive, hqueue] at hround
    cases hround
    rw [hqueue, List.map_cons] at inv
    refine ⟨?_, by simp⟩
    rw [List.append_assoc, List.singleton_append]
    exact inv

/-- **The loop takes everything that waits**, in order, and ends with the queue empty. -/
theorem performOperation_exact (receiver : StubVerificationReceiver)
    (hqueue : receiver.queue.isSome = true) (d : ReportDrain) (fuel : Nat)
    (hfuel : d.queue.length < fuel) :
    receiver.performOperation fuel d =
      some (.ok, ⟨[], d.lines ++ d.queue.map PusVerificationMessage.line⟩) := by
  have hpresent : receiver.queue.isNone = false := by
    rw [Option.isNone_eq_false_iff]
    exact hqueue
  obtain ⟨r, hloop, inv, hend⟩ := loop_spec
    (receive_keeps (d.lines ++ d.queue.map PusVerificationMessage.line)) fuel d rfl hfuel
  obtain ⟨queue, lines⟩ := r
  have hempty : queue = [] := by
    cases queue with
    | nil => rfl
    | cons message rest => cases hend
  subst hempty
  rw [List.map_nil, List.append_nil] at inv
  rw [performOperation, hpresent, hloop, ← inv]
  rfl

end StubVerificationReceiver

/-! ### A sink among its clients -/

/-- A sink and the queues it created that still exist. -/
structure SinkWorld (σ μ : Type) where
  sink : σ
  queues : Store MessageQueueId (List μ)

inductive WorldStep (μ : Type)
  | call (call : SinkCall)
  /-- A client sends a message to a queue. -/
  | send (queue : MessageQueueId) (message : μ)

structure WorldAnswer (μ : Type) where
  /-- What the sink answered to a call. -/
  answer : SinkAnswer := {}
  /-- Did the queue take the message? -/
  accepted : Bool := false
  /-- The messages that `performOperation` took from the queue it drained. -/
  taken : List μ := []

abbrev WorldEvent (σ μ : Type) := Event (SinkWorld σ μ) (WorldStep μ) (WorldAnswer μ)

section World

variable {σ μ : Type} (M : Machine σ SinkCall SinkAnswer)

/-- The queues after a call of `createMessageQueue`, if there was one. -/
def created (queues : Store MessageQueueId (List μ)) :
    Option (Option MessageQueueId) → Store MessageQueueId (List μ)
  | some (some id) => queues.put id []
  | some none => queues
  | none => queues

/-- The queues after everything was taken from one of them, and what that was. -/
def emptied (queues : Store MessageQueueId (List μ)) :
    Option MessageQueueId → List μ × Store MessageQueueId (List μ)
  | some id =>
      match queues id with
      | some waiting => (waiting, queues.put id [])
      | none => ([], queues)
  | none => ([], queues)

def sinkWorld : Machine (SinkWorld σ μ) (WorldStep μ) (WorldAnswer μ) where
  step w
    | .call call =>
        let (answer, sink) := M.step w.sink call
        let (taken, queues) := emptied (created w.queues answer.creation) answer.drained
        ({ answer := answer, taken := taken }, ⟨sink, queues⟩)
    | .send queue message =>
        match w.queues queue with
        | some waiting =>
            if waiting.length < queueDepth then
              ({ accepted := true }, ⟨w.sink, w.queues.put queue (waiting ++ [message])⟩)
            else ({}, w)
        | none => ({}, w)

/-- Every queue that the factory creates is new. -/
def factoryFresh (_ : List (WorldEvent σ μ)) (w : SinkWorld σ μ) : WorldStep μ → Prop
  | .call call => ∀ id, (M.step w.sink call).1.creation = some (some id) → ¬ w.queues.Live id
  | .send _ _ => True

/-- The messages a queue accepted, oldest first. -/
def acceptedBy (id : MessageQueueId) (hist : List (WorldEvent σ μ)) : List μ :=
  hist.filterMap fun e => match e.input with
    | .send queue message => if queue = id ∧ e.output.accepted = true then some message else none
    | .call _ => none

/-- The messages taken from a queue, oldest first. -/
def takenFrom (id : MessageQueueId) (hist : List (WorldEvent σ μ)) : List μ :=
  hist.flatMap fun e => if e.output.answer.drained = some id then e.output.taken else []

theorem acceptedBy_snoc (id : MessageQueueId) (hist : List (WorldEvent σ μ)) (e : WorldEvent σ μ) :
    acceptedBy id (hist ++ [e]) = acceptedBy id hist ++ acceptedBy id [e] := List.filterMap_append

theorem takenFrom_snoc (id : MessageQueueId) (hist : List (WorldEvent σ μ)) (e : WorldEvent σ μ) :
    takenFrom id (hist ++ [e]) = takenFrom id hist ++ takenFrom id [e] := List.flatMap_append

/-- What waits in a queue. -/
def SinkWorld.waiting (w : SinkWorld σ μ) (id : MessageQueueId) : List μ := (w.queues id).getD []

/-- What a queue accepted was taken from it or waits in it, in order, and no more waits than it is
deep. -/
def Delivers (hist : List (WorldEvent σ μ)) (w : SinkWorld σ μ) : Prop :=
  ∀ id, acceptedBy id hist = takenFrom id hist ++ w.waiting id ∧
    (w.waiting id).length ≤ queueDepth

/-- A new queue is empty. -/
theorem waiting_created (w : SinkWorld σ μ) (creation : Option (Option MessageQueueId))
    (fresh : ∀ id, creation = some (some id) → ¬ w.queues.Live id) (id : MessageQueueId) :
    (created w.queues creation id).getD [] = w.waiting id := by
  rcases creation with _ | _ | new
  · rfl
  · rfl
  · by_cases hid : id = new
    · subst hid
      have hnone : w.queues id = none := not_not.mp (fresh id rfl)
      rw [created, Store.put_self, SinkWorld.waiting, hnone]
      rfl
    · rw [created, Store.put_of_ne _ _ hid]
      rfl

/-- Taking everything moves what waits to what was taken, for the one queue it is taken from. -/
theorem waiting_emptied (queues : Store MessageQueueId (List μ)) (drained : Option MessageQueueId)
    (id : MessageQueueId) :
    (if drained = some id then (emptied queues drained).1 else []) ++
      ((emptied queues drained).2 id).getD [] = (queues id).getD [] := by
  cases drained with
  | none => simp [emptied]
  | some from_ =>
    by_cases hid : from_ = id
    · subst hid
      cases hqueue : queues from_ with
      | none => simp [emptied, hqueue]
      | some waiting => simp [emptied, hqueue]
    · have hne : id ≠ from_ := Ne.symm hid
      cases hqueue : queues from_ with
      | none => simp [emptied, hqueue, hid]
      | some waiting => simp [emptied, hqueue, hid, Store.put_of_ne _ _ hne]

/-- **Inversion of sending**: a live queue that has room takes the message, and otherwise nothing
happens. -/
theorem send_cases (w : SinkWorld σ μ) (queue : MessageQueueId) (message : μ) :
    (sinkWorld M).step w (.send queue message) = ({}, w) ∨
      ∃ waiting, w.queues queue = some waiting ∧ waiting.length < queueDepth ∧
        (sinkWorld M).step w (.send queue message) =
          ({ accepted := true }, ⟨w.sink, w.queues.put queue (waiting ++ [message])⟩) := by
  cases hqueue : w.queues queue with
  | none => exact Or.inl (by simp only [sinkWorld, hqueue])
  | some waiting =>
    by_cases hroom : waiting.length < queueDepth
    · exact Or.inr ⟨waiting, rfl, hroom, by simp only [sinkWorld, hqueue, if_pos hroom]⟩
    · exact Or.inl (by simp only [sinkWorld, hqueue, if_neg hroom])

theorem delivers_call (hist : List (WorldEvent σ μ)) (w : SinkWorld σ μ) (call : SinkCall)
    (fresh : factoryFresh M hist w (.call call)) (inv : Delivers hist w) :
    Delivers (hist ++ [(sinkWorld M).event w (.call call)])
      ((sinkWorld M).step w (.call call)).2 := by
  intro id
  obtain ⟨hfifo, hdepth⟩ := inv id
  have hmoved := waiting_emptied (created w.queues (M.step w.sink call).1.creation)
    (M.step w.sink call).1.drained id
  rw [waiting_created w _ fresh id] at hmoved
  have htaken : takenFrom id [(sinkWorld M).event w (.call call)] =
      if (M.step w.sink call).1.drained = some id then
        (emptied (created w.queues (M.step w.sink call).1.creation)
          (M.step w.sink call).1.drained).1
      else [] := List.append_nil _
  have haccepted : acceptedBy id [(sinkWorld M).event w (.call call)] = [] := rfl
  rw [acceptedBy_snoc, takenFrom_snoc, htaken, haccepted, List.append_nil, List.append_assoc, hfifo]
  refine ⟨congrArg _ hmoved.symm, Nat.le_trans ?_ hdepth⟩
  rw [← hmoved, List.length_append]
  exact Nat.le_add_left _ _

theorem delivers_send (hist : List (WorldEvent σ μ)) (w : SinkWorld σ μ) (queue : MessageQueueId)
    (message : μ) (inv : Delivers hist w) :
    Delivers (hist ++ [(sinkWorld M).event w (.send queue message)])
      ((sinkWorld M).step w (.send queue message)).2 := by
  intro id
  obtain ⟨hfifo, hdepth⟩ := inv id
  rw [acceptedBy_snoc, takenFrom_snoc, hfifo]
  rcases send_cases M w queue message with hstep | ⟨waiting, hqueue, hroom, hstep⟩
  · have haccepted : acceptedBy id [(sinkWorld M).event w (.send queue message)] = [] := by
      simp [acceptedBy, Machine.event, hstep]
    have htaken : takenFrom id [(sinkWorld M).event w (.send queue message)] = [] := by
      simp [takenFrom, Machine.event, hstep]
    rw [haccepted, htaken, List.append_nil, List.append_nil, hstep]
    exact ⟨rfl, hdepth⟩
  · have htaken : takenFrom id [(sinkWorld M).event w (.send queue message)] = [] := by
      simp [takenFrom, Machine.event, hstep]
    rw [htaken, List.append_nil, hstep]
    by_cases hid : queue = id
    · subst hid
      have haccepted : acceptedBy queue [(sinkWorld M).event w (.send queue message)] =
          [message] := by
        simp [acceptedBy, Machine.event, hstep]
      have hwaiting : w.waiting queue = waiting := by
        rw [SinkWorld.waiting, hqueue]
        rfl
      rw [haccepted, hwaiting, List.append_assoc]
      simp only [SinkWorld.waiting, Store.put_self, Option.getD_some, List.length_append,
        List.length_singleton]
      exact ⟨trivial, hroom⟩
    · have haccepted : acceptedBy id [(sinkWorld M).event w (.send queue message)] = [] := by
        simp [acceptedBy, Machine.event, hid]
      have hwaiting : SinkWorld.waiting
          (⟨w.sink, w.queues.put queue (waiting ++ [message])⟩ : SinkWorld σ μ) id =
            w.waiting id := by
        show (w.queues.put queue (waiting ++ [message]) id).getD [] = _
        rw [Store.put_of_ne _ _ (Ne.symm hid), SinkWorld.waiting]
      rw [haccepted, List.append_nil, hwaiting]
      exact ⟨rfl, hdepth⟩

/-- Every step keeps the queues FIFOs. -/
theorem delivers_step (hist : List (WorldEvent σ μ)) (w : SinkWorld σ μ) (step : WorldStep μ)
    (fresh : factoryFresh M hist w step) (inv : Delivers hist w) :
    Delivers (hist ++ [(sinkWorld M).event w step]) ((sinkWorld M).step w step).2 := by
  cases step with
  | call call => exact delivers_call M hist w call fresh inv
  | send queue message => exact delivers_send M hist w queue message inv

/-- A sink as constructed, which has created no queue. -/
def SinkWorld.begin (sink : σ) : SinkWorld σ μ := ⟨sink, fun _ => none⟩

/-- **Each queue is a FIFO.** -/
theorem delivers_run (sink : σ) (steps : List (WorldStep μ))
    (fresh : (sinkWorld M).Lawful (factoryFresh M) (.begin sink) steps) :
    Delivers ((sinkWorld M).trace (.begin sink) steps)
      ((sinkWorld M).final (.begin sink) steps) :=
  Machine.lawful_induction (fun _ => ⟨rfl, Nat.zero_le _⟩) (delivers_step M) steps fresh

/-- A queue is live after a call exactly if it was live before, or the call created it. -/
theorem live_call (w : SinkWorld σ μ) (call : SinkCall) (id : MessageQueueId) :
    ((sinkWorld M).step w (.call call)).2.queues.Live id ↔
      w.queues.Live id ∨ (M.step w.sink call).1.creation = some (some id) := by
  have hemptied : ∀ (queues : Store MessageQueueId (List μ)) (drained : Option MessageQueueId),
      (emptied queues drained).2.Live id ↔ queues.Live id := by
    intro queues drained
    cases drained with
    | none => rfl
    | some from_ =>
      cases hqueue : queues from_ with
      | none => simp [emptied, hqueue]
      | some waiting =>
        by_cases hid : id = from_
        · subst hid
          simp [emptied, hqueue, Store.Live]
        · simp [emptied, hqueue, Store.Live, Store.put_of_ne _ _ hid]
  show (emptied _ _).2.Live id ↔ _
  rw [hemptied]
  rcases (M.step w.sink call).1.creation with _ | _ | new
  · simp [created]
  · simp [created]
  · by_cases hid : id = new
    · simp [created, hid, Store.Live]
    · have hne : new ≠ id := Ne.symm hid
      simp [created, Store.Live, Store.put_of_ne _ _ hid, hne]

/-- Sending changes neither the sink nor which queues are live. -/
theorem live_send (w : SinkWorld σ μ) (queue : MessageQueueId) (message : μ) :
    ((sinkWorld M).step w (.send queue message)).2.sink = w.sink ∧
      ∀ id, ((sinkWorld M).step w (.send queue message)).2.queues.Live id ↔ w.queues.Live id := by
  rcases send_cases M w queue message with hstep | ⟨waiting, hqueue, -, hstep⟩
  · rw [hstep]
    exact ⟨rfl, fun _ => Iff.rfl⟩
  · rw [hstep]
    refine ⟨rfl, fun id => ?_⟩
    by_cases hid : id = queue
    · subst hid
      simp [Store.Live, hqueue]
    · simp [Store.Live, Store.put_of_ne _ _ hid]

/-- A message is accepted by a live queue only. -/
theorem acceptedBy_send (w : SinkWorld σ μ) (queue id : MessageQueueId) (message : μ)
    (hid : w.queues.Live queue → id ≠ queue) :
    acceptedBy id [(sinkWorld M).event w (.send queue message)] = [] := by
  rcases send_cases M w queue message with hstep | ⟨waiting, hqueue, -, -⟩
  · simp [acceptedBy, Machine.event, hstep]
  · have hlive : w.queues.Live queue := by
      rw [Store.Live, hqueue]
      exact Option.some_ne_none waiting
    have hne : queue ≠ id := Ne.symm (hid hlive)
    simp [acceptedBy, Machine.event, hne]

end World

/-! ### The verification receiver -/

/-- `~StubVerificationReceiver`. -/
def destroyReceiver {μ : Type} (w : SinkWorld StubVerificationReceiver μ) :
    Store MessageQueueId (List μ) :=
  match w.sink.queue with
  | some id => w.queues.erase id
  | none => w.queues

section Receiver

open StubVerificationReceiver

variable {μ : Type}

/-- **Inversion of the receiver's calls.**  A call creates nothing and leaves the queue; or there was
no queue, and now there is what the factory returned. -/
theorem receiver_step_cases (r : StubVerificationReceiver) (call : SinkCall) :
    ((verificationReceiver.step r call).1.creation = none ∧
        (verificationReceiver.step r call).2 = r) ∨
      (r.queue = none ∧ (verificationReceiver.step r call).1.creation =
        some (verificationReceiver.step r call).2.queue) := by
  cases hqueue : r.queue with
  | some id =>
    refine Or.inl ?_
    cases call <;>
      simp [verificationReceiver, initializeReceiver, getVerificationQueue, hqueue]
  | none =>
    cases call with
    | init objects => exact Or.inr ⟨rfl, by simp [verificationReceiver, initializeReceiver, hqueue]⟩
    | performOperation => exact Or.inl ⟨rfl, rfl⟩
    | getQueue c =>
      refine Or.inr ⟨rfl, ?_⟩
      cases c <;> simp [verificationReceiver, getVerificationQueue, hqueue]

/-- The one queue that exists is the receiver's, and no other ever accepted anything. -/
structure ReceiverOwns (hist : List (WorldEvent StubVerificationReceiver μ))
    (w : SinkWorld StubVerificationReceiver μ) : Prop where
  live : ∀ id, w.queues.Live id ↔ w.sink.queue = some id
  only : ∀ id, w.sink.queue ≠ some id → acceptedBy id hist = []

theorem receiverOwns_step (hist : List (WorldEvent StubVerificationReceiver μ))
    (w : SinkWorld StubVerificationReceiver μ) (step : WorldStep μ) (inv : ReceiverOwns hist w) :
    ReceiverOwns (hist ++ [(sinkWorld verificationReceiver).event w step])
      ((sinkWorld verificationReceiver).step w step).2 := by
  cases step with
  | call call =>
    have hsink : ((sinkWorld verificationReceiver).step w (.call call)).2.sink =
        (verificationReceiver.step w.sink call).2 := rfl
    have haccepted : ∀ id, acceptedBy id (hist ++ [(sinkWorld verificationReceiver).event w
        (.call call)]) = acceptedBy id hist := by
      intro id
      rw [acceptedBy_snoc]
      exact List.append_nil _
    rcases receiver_step_cases w.sink call with ⟨hnone, hsame⟩ | ⟨hempty, hcreated⟩
    · refine ⟨fun id => ?_, fun id hid => ?_⟩
      · rw [live_call, hsink, hnone, hsame, inv.live id]
        simp
      · rw [haccepted]
        rw [hsink, hsame] at hid
        exact inv.only id hid
    · refine ⟨fun id => ?_, fun id hid => ?_⟩
      · rw [live_call, hsink, hcreated, inv.live id, hempty]
        simp
      · rw [haccepted]
        refine inv.only id ?_
        rw [hempty]
        exact (Option.some_ne_none id).symm
  | send queue message =>
    obtain ⟨hsink, hlive⟩ := live_send verificationReceiver w queue message
    refine ⟨fun id => ?_, fun id hid => ?_⟩
    · rw [hlive, hsink, inv.live id]
    · rw [hsink] at hid
      rw [acceptedBy_snoc, inv.only id hid, List.nil_append]
      refine acceptedBy_send verificationReceiver w queue id message fun hqueue heq => ?_
      rw [heq] at hid
      exact hid ((inv.live queue).mp hqueue)

/-- The destructor deletes the one queue there is. -/
theorem ReceiverOwns.destroyed {hist : List (WorldEvent StubVerificationReceiver μ)}
    {w : SinkWorld StubVerificationReceiver μ} (owns : ReceiverOwns hist w) (id : MessageQueueId) :
    ¬ (destroyReceiver w).Live id := by
  intro hlive
  unfold destroyReceiver at hlive
  split at hlive
  · rename_i own hown
    by_cases hid : id = own
    · rw [hid] at hlive
      exact hlive (Store.erase_self ..)
    · rw [Store.Live, Store.erase_of_ne _ hid] at hlive
      have hqueue := (owns.live id).mp hlive
      rw [hown] at hqueue
      exact hid (Option.some.inj hqueue).symm
  · rename_i hnone
    have hqueue := (owns.live id).mp hlive
    rw [hnone] at hqueue
    cases hqueue

/-- `performOperation` takes what waits in the receiver's queue. -/
theorem ReceiverOwns.taken {hist : List (WorldEvent StubVerificationReceiver μ)}
    {w : SinkWorld StubVerificationReceiver μ} (owns : ReceiverOwns hist w) {id : MessageQueueId}
    (hqueue : w.sink.queue = some id) :
    ((sinkWorld verificationReceiver).step w (.call .performOperation)).1.taken =
      w.waiting id := by
  obtain ⟨waiting, hwaiting⟩ : ∃ waiting, w.queues id = some waiting :=
    Option.ne_none_iff_exists'.mp ((owns.live id).mpr hqueue)
  have hdrained : w.sink.drainedQueue = some id := by
    simp [StubVerificationReceiver.drainedQueue, hqueue]
  show (emptied w.queues w.sink.drainedQueue).1 = _
  simp only [hdrained, emptied, hwaiting, SinkWorld.waiting, Option.getD_some]

theorem receiverOwns_run (steps : List (WorldStep μ)) :
    ReceiverOwns ((sinkWorld verificationReceiver).trace (.begin construct) steps)
      ((sinkWorld verificationReceiver).final (.begin construct) steps) := by
  refine Machine.history_induction _ ⟨fun id => ?_, fun _ _ => rfl⟩ receiverOwns_step steps
  exact iff_of_false (not_not.mpr rfl) (by simp [SinkWorld.begin, construct])

end Receiver

/-- **The receiver loses no report and no queue.**  In every run of `initialize()`,
`performOperation()`, `getVerificationQueue()` and clients that send to any queue, in any order and
with a factory that may fail: a report that a queue accepted went to the receiver's one queue, and
what that accepted is what was taken from it and then what waits, in order and at most `10`; each
`performOperation()` ends, having printed a line for each report it took; and the destructor leaves
no queue behind. -/
theorem receiver_delivers (steps : List (WorldStep PusVerificationMessage))
    (fresh : (sinkWorld verificationReceiver).Lawful (factoryFresh verificationReceiver)
      (.begin .construct) steps) :
    let world := sinkWorld verificationReceiver
    let hist := world.trace (.begin .construct) steps
    let w := world.final (.begin .construct) steps
    (∀ id, acceptedBy id hist ≠ [] → w.sink.queue = some id) ∧
      (∀ id, acceptedBy id hist = takenFrom id hist ++ w.waiting id ∧
        (w.waiting id).length ≤ 10) ∧
      (∀ pre post id, steps = pre ++ .call .performOperation :: post →
        (world.final (.begin .construct) pre).sink.queue = some id →
        ∀ lines, (world.final (.begin .construct) pre).sink.performOperation 11
          ⟨(world.final (.begin .construct) pre).waiting id, lines⟩ = some (.ok, ⟨[], lines ++
            (world.step (world.final (.begin .construct) pre) (.call .performOperation)).1.taken.map
              PusVerificationMessage.line⟩)) ∧
      ∀ id, ¬ (destroyReceiver w).Live id := by
  intro world hist w
  have owns : ReceiverOwns hist w := receiverOwns_run steps
  have delivers : Delivers hist w := delivers_run verificationReceiver .construct steps fresh
  refine ⟨fun id haccepted => ?_, delivers, fun pre post id hsteps hqueue lines => ?_,
    owns.destroyed⟩
  · by_contra hother
    exact haccepted (owns.only id hother)
  · rw [hsteps] at fresh
    have hpre := delivers_run verificationReceiver .construct pre (Machine.lawful_split fresh).1
    have htaken := (receiverOwns_run pre).taken hqueue
    rw [show (world.step _ (.call .performOperation)).1.taken = _ from htaken]
    refine StubVerificationReceiver.performOperation_exact _ ?_ ⟨_, lines⟩ 11
      (Nat.lt_succ_of_le (hpre id).2)
    rw [hqueue]
    rfl

/-- A client reports before and after the receiver is initialised, and once to no queue. -/
def reportingRun : List (WorldStep PusVerificationMessage) :=
  [.call (.getQueue (some 4)), .send 4 ⟨1, 0, 0, 0⟩, .call (.init ⟨some 5, true, true⟩),
    .send 9 ⟨3, 0, 0, 7⟩, .call .performOperation, .send 4 ⟨2, 0, 1, 0⟩]

/-- The first report is printed, the last one waits, and no queue is left. -/
theorem receiver_delivers_reporting :
    let world := sinkWorld verificationReceiver
    let w := world.final (.begin .construct) reportingRun
    takenFrom 4 (world.trace (.begin .construct) reportingRun) = [⟨1, 0, 0, 0⟩] ∧
      w.waiting 4 = [⟨2, 0, 1, 0⟩] ∧ w.sink.queue = some 4 ∧
      ∀ id, ¬ (destroyReceiver w).Live id := by
  intro world w
  have fresh : world.Lawful (factoryFresh verificationReceiver) (.begin .construct)
      reportingRun := by
    refine ⟨fun id hid => not_not.mpr rfl, trivial, fun id hid => ?_, trivial, fun id hid => ?_,
      trivial, trivial⟩
    · cases hid
    · cases hid
  obtain ⟨hown, -, -, hnone⟩ := receiver_delivers reportingRun fresh
  exact ⟨by decide, by decide, hown 4 (by decide), hnone⟩

/-! ### The telemetry sink -/

/-- `~StubTelemetrySink`. -/
def destroySink {μ : Type} (w : SinkWorld StubTelemetrySink μ) : Store MessageQueueId (List μ) :=
  match w.sink.queue with
  | some id => w.queues.erase id
  | none => w.queues

/-- What the factory returned to the calls of `initialize()` in a history. -/
def creations {μ : Type} (hist : List (WorldEvent StubTelemetrySink μ)) :
    List (Option MessageQueueId) := hist.filterMap fun e => e.output.answer.creation

section Sink

open StubTelemetrySink

variable {μ : Type}

theorem creations_snoc (hist : List (WorldEvent StubTelemetrySink μ))
    (e : WorldEvent StubTelemetrySink μ) :
    creations (hist ++ [e]) = creations hist ++ e.output.answer.creation.toList := by
  rw [creations, List.filterMap_append]
  cases hcreation : e.output.answer.creation <;> simp [creations, hcreation]

/-- Every queue that was created exists; the sink knows the one created last, which is new. -/
structure SinkKnows (hist : List (WorldEvent StubTelemetrySink μ))
    (w : SinkWorld StubTelemetrySink μ) : Prop where
  live : ∀ id, w.queues.Live id ↔ some id ∈ creations hist
  last : w.sink.queue = ((creations hist).getLast?).join
  new : ∀ id, w.sink.queue = some id → some id ∉ (creations hist).dropLast

/-- A step that creates nothing, and keeps the sink and the live queues, keeps the invariant. -/
theorem sinkKnows_frame {hist : List (WorldEvent StubTelemetrySink μ)}
    {w w' : SinkWorld StubTelemetrySink μ} (e : WorldEvent StubTelemetrySink μ)
    (hnone : e.output.answer.creation = none) (hsink : w'.sink = w.sink)
    (hlive : ∀ id, w'.queues.Live id ↔ w.queues.Live id) (inv : SinkKnows hist w) :
    SinkKnows (hist ++ [e]) w' := by
  have hlist : creations (hist ++ [e]) = creations hist := by
    rw [creations_snoc, hnone]
    exact List.append_nil _
  refine ⟨fun id => ?_, ?_, fun id hid => ?_⟩
  · rw [hlive, hlist, inv.live id]
  · rw [hsink, hlist, inv.last]
  · rw [hsink] at hid
    rw [hlist]
    exact inv.new id hid

theorem sinkKnows_init (hist : List (WorldEvent StubTelemetrySink μ))
    (w : SinkWorld StubTelemetrySink μ) (objects : SinkObjects)
    (fresh : factoryFresh telemetrySink hist w (.call (.init objects)))
    (inv : SinkKnows hist w) :
    SinkKnows (hist ++ [(sinkWorld telemetrySink).event w (.call (.init objects))])
      ((sinkWorld telemetrySink).step w (.call (.init objects))).2 := by
  have hlist : creations (hist ++ [(sinkWorld telemetrySink).event w (.call (.init objects))]) =
      creations hist ++ [objects.createMessageQueue] := creations_snoc ..
  refine ⟨fun id => ?_, ?_, fun id hid => ?_⟩
  · rw [live_call, hlist, inv.live id, List.mem_append, List.mem_singleton]
    refine or_congr_right ?_
    show some objects.createMessageQueue = some (some id) ↔ _
    rw [Option.some.injEq, eq_comm]
  · rw [hlist, List.getLast?_concat]
    rfl
  · rw [hlist, List.dropLast_concat]
    intro hmem
    refine fresh id ?_ ((inv.live id).mpr hmem)
    exact congrArg some hid

theorem sinkKnows_step (hist : List (WorldEvent StubTelemetrySink μ))
    (w : SinkWorld StubTelemetrySink μ) (step : WorldStep μ)
    (fresh : factoryFresh telemetrySink hist w step) (inv : SinkKnows hist w) :
    SinkKnows (hist ++ [(sinkWorld telemetrySink).event w step])
      ((sinkWorld telemetrySink).step w step).2 := by
  cases step with
  | call call =>
    cases call with
    | init objects => exact sinkKnows_init hist w objects fresh inv
    | performOperation =>
      refine sinkKnows_frame (w := w) _ rfl rfl (fun id => ?_) inv
      rw [live_call]
      simp [telemetrySink]
    | getQueue c =>
      refine sinkKnows_frame (w := w) _ rfl rfl (fun id => ?_) inv
      rw [live_call]
      simp [telemetrySink]
  | send queue message =>
    obtain ⟨hsink, hlive⟩ := live_send telemetrySink w queue message
    refine sinkKnows_frame _ ?_ hsink hlive inv
    rcases send_cases telemetrySink w queue message with hstep | ⟨waiting, -, -, hstep⟩
    · rw [Machine.event, hstep]
    · rw [Machine.event, hstep]

theorem sinkKnows_run (steps : List (WorldStep μ))
    (fresh : (sinkWorld telemetrySink).Lawful (factoryFresh telemetrySink) (.begin construct)
      steps) :
    SinkKnows ((sinkWorld telemetrySink).trace (.begin construct) steps)
      ((sinkWorld telemetrySink).final (.begin construct) steps) := by
  refine Machine.lawful_induction ⟨fun id => ?_, rfl, fun id hid => ?_⟩ sinkKnows_step steps fresh
  · exact iff_of_false (not_not.mpr rfl) List.not_mem_nil
  · cases hid

/-- What the destructor leaves is what the sink does not know. -/
theorem destroySink_live (w : SinkWorld StubTelemetrySink μ) (id : MessageQueueId) :
    (destroySink w).Live id ↔ w.queues.Live id ∧ w.sink.queue ≠ some id := by
  cases hqueue : w.sink.queue with
  | none => simp [destroySink, hqueue]
  | some own =>
    by_cases hid : id = own
    · simp [destroySink, hqueue, hid, Store.Live]
    · have hne : own ≠ id := Ne.symm hid
      simp [destroySink, hqueue, Store.Live, Store.erase_of_ne _ hid, hne]

theorem destroySink_of_ne (w : SinkWorld StubTelemetrySink μ) {id : MessageQueueId}
    (hother : w.sink.queue ≠ some id) : destroySink w id = w.queues id := by
  cases hown : w.sink.queue with
  | none => simp only [destroySink, hown]
  | some own =>
    have hne : id ≠ own := by
      intro heq
      rw [heq, hown] at hother
      exact hother rfl
    simp only [destroySink, hown, Store.erase_of_ne _ hne]

/-- The queues that the sink does not know are those created by a call other than the last. -/
theorem SinkKnows.survives {hist : List (WorldEvent StubTelemetrySink μ)}
    {w : SinkWorld StubTelemetrySink μ} (knows : SinkKnows hist w) (id : MessageQueueId) :
    (destroySink w).Live id ↔ some id ∈ (creations hist).dropLast := by
  rw [destroySink_live, knows.live id]
  constructor
  · rintro ⟨hmem, hother⟩
    rcases List.eq_nil_or_concat (creations hist) with hnil | ⟨earlier, last, hconcat⟩
    · rw [hnil] at hmem
      exact absurd hmem List.not_mem_nil
    · rw [List.concat_eq_append] at hconcat
      rw [hconcat, List.dropLast_concat]
      rw [hconcat] at hmem
      rcases List.mem_append.mp hmem with hearlier | hlast
      · exact hearlier
      · refine absurd ?_ hother
        rw [knows.last, hconcat, List.getLast?_concat, ← List.mem_singleton.mp hlast]
        rfl
  · intro hmem
    exact ⟨List.dropLast_subset _ hmem, fun hown => knows.new id hown hmem⟩

/-- **The telemetry sink loses every queue but its last.**  In every run of `initialize()`,
`performOperation()`, `getReportReceptionQueue()` and clients that send to any queue, in any order
and with a factory that may fail: a queue survives the sink's destructor if and only if a call of
`initialize()` other than the last created it, and with it stays whatever it accepted and
`performOperation()` did not take from it; so nothing survives if and only if no call but the last
created a queue. -/
theorem sink_queues_survive_iff (steps : List (WorldStep μ))
    (fresh : (sinkWorld telemetrySink).Lawful (factoryFresh telemetrySink) (.begin construct)
      steps) :
    let hist := (sinkWorld telemetrySink).trace (.begin construct) steps
    let left := destroySink ((sinkWorld telemetrySink).final (.begin construct) steps)
    (∀ id, left.Live id ↔ some id ∈ (creations hist).dropLast) ∧
      (∀ id, left.Live id → acceptedBy id hist = takenFrom id hist ++ (left id).getD []) ∧
      ((∀ id, ¬ left.Live id) ↔ ∀ creation ∈ (creations hist).dropLast, creation = none) := by
  intro hist left
  have knows : SinkKnows hist ((sinkWorld telemetrySink).final (.begin construct) steps) :=
    sinkKnows_run steps fresh
  have delivers : Delivers hist ((sinkWorld telemetrySink).final (.begin construct) steps) :=
    delivers_run telemetrySink construct steps fresh
  refine ⟨knows.survives, fun id hid => ?_, ?_⟩
  · have hother := ((destroySink_live _ id).mp hid).2
    rw [show left id = _ from destroySink_of_ne _ hother]
    exact (delivers id).1
  · constructor
    · intro hnothing creation hcreation
      cases creation with
      | none => rfl
      | some id => exact absurd ((knows.survives id).mpr hcreation) (hnothing id)
    · intro hnone id hid
      cases hnone _ ((knows.survives id).mp hid)

end Sink

/-- A sink that is initialised twice, with a packet sent to the first queue. -/
def twiceInitialised : List (WorldStep StoreAddress) :=
  [.call (.init ⟨some 4, true, true⟩), .call (.getQueue none), .send 4 17,
    .call (.init ⟨some 5, true, true⟩), .call .performOperation]

/-- The first queue survives, and the packet with it. -/
theorem sink_queues_survive_twice :
    let left := destroySink ((sinkWorld telemetrySink).final (.begin .construct) twiceInitialised)
    left.Live 4 ∧ ¬ left.Live 5 ∧ left 4 = some [17] := by
  intro left
  have fresh : (sinkWorld telemetrySink).Lawful (factoryFresh telemetrySink)
      (.begin .construct) twiceInitialised := by
    refine ⟨fun id hid => not_not.mpr rfl, fun id hid => ?_, trivial, fun id hid => ?_,
      fun id hid => ?_, trivial⟩
    · cases hid
    · cases hid
      decide
    · cases hid
  obtain ⟨hsurvive, -, -⟩ := sink_queues_survive_iff twiceInitialised fresh
  exact ⟨(hsurvive 4).mpr (by decide), fun hlive => absurd ((hsurvive 5).mp hlive) (by decide), rfl⟩

end FsfwFromZero
