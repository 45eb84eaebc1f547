import FsfwFromZero.Framework
import FsfwFromZero.Lib.Machine

/-!
# The telemetry sink and the verification receiver

`StubTelemetrySink` and `StubVerificationReceiver` of `mission/tmtc/TmtcInfrastructure.{h,cpp}`, as
far as their queue is concerned: each owns one message queue, gives its id to clients, and drains it
in `performOperation`.  The sink creates the queue in `initialize()`; the receiver creates it where
it is first needed.

* `SinkCall` — the three operations, with what the queue factory and the object manager answer;
* `SinkAnswer` — the queue created, the handle given out, the queue drained;
* `telemetrySink`, `verificationReceiver` — the two classes as machines over the same calls.
-/

namespace FsfwFromZero

open Lib

/-- What the framework hands to a call of `initialize()`. -/
structure SinkObjects where
  /-- The queue `QueueFactory::createMessageQueue` returns, by its id; `none` for a null pointer. -/
  createMessageQueue : Option MessageQueueId
  /-- Was an object found under `TM_STORE`? -/
  tmStore : Bool
  /-- Was an object found under `TIME_STAMPER`? -/
  timeReader : Bool
  deriving Repr, DecidableEq

/-- An operation of a sink. -/
inductive SinkCall
  | init (objects : SinkObjects)
  | performOperation
  | getQueue (createMessageQueue : Option MessageQueueId)
  deriving Repr, DecidableEq

structure SinkAnswer where
  /-- What `createMessageQueue` returned, if it was called. -/
  creation : Option (Option MessageQueueId) := none
  /-- The id a getter returned, `none` for `MessageQueueIF::NO_QUEUE`. -/
  handle : Option MessageQueueId := none
  /-- The queue `performOperation` received from until it was empty, `none` if it returned at once.
  -/
  drained : Option MessageQueueId := none
  deriving Repr, DecidableEq

/-! ### `StubTelemetrySink` -/

structure StubTelemetrySink where
  /-- The queue by its id, `none` for a null pointer. -/
  queue : Option MessageQueueId
  /-- Is `tmStore` set? -/
  tmStore : Bool
  /-- Is `timeReader` set? -/
  timeReader : Bool
  deriving Repr, DecidableEq

namespace StubTelemetrySink

def construct : StubTelemetrySink := ⟨none, false, false⟩

/-- `initialize()` creates a queue whatever the sink has. -/
def initializeSink (_ : StubTelemetrySink) (objects : SinkObjects) :
    SinkAnswer × StubTelemetrySink :=
  ({ creation := some objects.createMessageQueue },
    ⟨objects.createMessageQueue, objects.tmStore, objects.timeReader⟩)

/-- The queue that `performOperation` drains. -/
def drainedQueue (sink : StubTelemetrySink) : Option MessageQueueId :=
  if sink.queue.isNone || !sink.tmStore then none else sink.queue

def getReportReceptionQueue (sink : StubTelemetrySink) : Option MessageQueueId :=
  match sink.queue with
  | none => none
  | some id => some id

end StubTelemetrySink

def telemetrySink : Machine StubTelemetrySink SinkCall SinkAnswer where
  step sink
    | .init objects => sink.initializeSink objects
    | .performOperation => ({ drained := sink.drainedQueue }, sink)
    | .getQueue _ => ({ handle := sink.getReportReceptionQueue }, sink)

/-! ### `StubVerificationReceiver` -/

structure StubVerificationReceiver where
  /-- The queue by its id, `none` for a null pointer. -/
  queue : Option MessageQueueId
  deriving Repr, DecidableEq

namespace StubVerificationReceiver

def construct : StubVerificationReceiver := ⟨none⟩

/-- `initialize()` creates a queue if the receiver has none. -/
def initializeReceiver (receiver : StubVerificationReceiver) (objects : SinkObjects) :
    SinkAnswer × StubVerificationReceiver :=
  if receiver.queue.isNone then
    ({ creation := some objects.createMessageQueue }, ⟨objects.createMessageQueue⟩)
  else ({}, receiver)

/-- The queue that `performOperation` drains. -/
def drainedQueue (receiver : StubVerificationReceiver) : Option MessageQueueId :=
  if receiver.queue.isNone then none else receiver.queue

def getVerificationQueue (receiver : StubVerificationReceiver)
    (createMessageQueue : Option MessageQueueId) : SinkAnswer × StubVerificationReceiver :=
  let (creation, receiver) :=
    if receiver.queue.isNone then (some createMessageQueue, ⟨createMessageQueue⟩)
    else (none, receiver)
  match receiver.queue with
  | none => ({ creation := creation, handle := none }, receiver)
  | some id => ({ creation := creation, handle := some id }, receiver)

end StubVerificationReceiver

def verificationReceiver : Machine StubVerificationReceiver SinkCall SinkAnswer where
  step receiver
    | .init objects => receiver.initializeReceiver objects
    | .performOperation => ({ drained := receiver.drainedQueue }, receiver)
    | .getQueue createMessageQueue => receiver.getVerificationQueue createMessageQueue

end FsfwFromZero
