import FsfwFromZero.GroundArrival
import FsfwFromZero.Handler.ReportedRate
import FsfwFromZero.Handler.RequestedWork
import FsfwFromZero.Lib.Simulation

/-!
# What telecommands do to the webcam

The handler at the end of the ground path is the handler of its own development, run on the calls
that reach it: the overrides the framework calls in its cycles, and the requests that the action
helper executes.  So what is known of the handler's runs is known of the whole mission's.

* `groundDriver` — **the ground path drives the handler**; `handlerCalls` — the calls that a run of
  the ground path makes it take;
* `servedTelecommands` — the telecommands whose messages were handed to the handler;
* `requests_are_telecommands` — **the requests that reach the handler are the telecommands it
  served**, in order and with their data;
* `query_reads_last_set` — **read your writes**: the handler settles on the rate of the last
  set-frame-rate telecommand it served, and a query it builds reports that rate;
* `webcam_does_what_was_sent` — nothing reaches the webcam that the ground did not send.
-/

namespace FsfwFromZero

open Lib WebcamCommandingService

/-- The call that executes an action. -/
def Execution.call (execution : Execution) : Call :=
  .buildCommandFromCommand execution.1 (.bytes execution.2)

/-- The request that a telecommand amounts to, if it is a device command. -/
def Telecommand.requests (t : Telecommand) : List Call :=
  (commandOfSubservice t.subservice).toList.map fun k => Execution.call (k.toRaw, t.tcData.data)

/-- The frame rate that a telecommand sets. -/
def telecommandRate (t : Telecommand) : Option Double :=
  if commandOfSubservice t.subservice = some .commandSetFrameRate then
    some (Double.memcpy t.tcData.data)
  else none

/-- Is this telecommand for the device command `k`? -/
def Telecommand.commands (k : CommandId) (t : Telecommand) : Bool :=
  decide (commandOfSubservice t.subservice = some k)

/-- The telecommands that the handler has served: of those whose messages left the command queue, the
ones that the base class handed on. -/
def servedTelecommands (hist : List GroundEvent) : List Telecommand :=
  (((reachedTelecommands hist).zip (hist.filterMap messageFate)).filter fun p => p.2.isSome).map
    Prod.fst

/-- The framework calls the overrides in its cycles; it neither requests a command of its own accord
nor loads a parameter. -/
def Call.unprompted (call : Call) : Bool := !call.isRequest && !call.isLoad

def unpromptedOverrides (_ : List GroundEvent) (_ : GroundPath) : GroundStep → Prop
  | .overrideCall call => call.unprompted = true
  | _ => True

/-! ### Telecommands as requests -/

/-- The request of a well-formed telecommand brings the rate that the telecommand sets. -/
theorem requestedRate_call {t : Telecommand} {k : CommandId}
    (hk : commandOfSubservice t.subservice = some k) (hformat : WellFormed t.subservice t.tcData) :
    (Execution.call (k.toRaw, t.tcData.data)).requestedRate = telecommandRate t := by
  rw [telecommandRate, hk]
  cases k with
  | commandTakeSnapshot => rfl
  | commandGetFrameRate => rfl
  | commandSetFrameRate =>
    have hlength : Double.size ≤ t.tcData.data.length := by
      rcases hformat with ⟨hsub | hsub, -⟩ | ⟨-, hnull, hlen⟩ | ⟨hsub, -⟩
      · rw [hsub] at hk
        cases hk
      · rw [hsub] at hk
        cases hk
      · rw [t.tcData.data_length_of_not_null hnull, hlen]
        exact Nat.le_refl 8
      · rw [hsub] at hk
        cases hk
    simp [Execution.call, Call.requestedRate, Call.isRequest, Call.suppliedRate, hlength]

theorem requestedRate_requests {t : Telecommand} (hformat : WellFormed t.subservice t.tcData)
    (d : Double) : lastValue Call.requestedRate d t.requests = (telecommandRate t).getD d := by
  cases hk : commandOfSubservice t.subservice with
  | none =>
    rw [Telecommand.requests, telecommandRate, hk]
    rfl
  | some k =>
    rw [Telecommand.requests, ← requestedRate_call hk hformat, hk]
    exact lastValue_snoc Call.requestedRate d [] _

/-- A rate that a request of these telecommands brings is set by one of them. -/
theorem telecommandRate_of_request {served : List Telecommand}
    (hformat : ∀ t ∈ served, WellFormed t.subservice t.tcData) {call : Call}
    (hcall : call ∈ served.flatMap Telecommand.requests) :
    ∃ t ∈ served, telecommandRate t = call.requestedRate := by
  obtain ⟨t, ht, hmem⟩ := List.mem_flatMap.mp hcall
  obtain ⟨k, hk, rfl⟩ := List.mem_map.mp hmem
  exact ⟨t, ht, (requestedRate_call (Option.mem_toList.mp hk) (hformat t ht)).symm⟩

/-- A request for `k` is the request of a telecommand for `k`. -/
theorem countP_requests (k : CommandId) (served : List Telecommand) :
    (served.flatMap Telecommand.requests).countP (Call.requestedId · = some k.toRaw) =
      served.countP (Telecommand.commands k) := by
  induction served with
  | nil => rfl
  | cons t served ih =>
    rw [List.flatMap_cons, List.countP_append, ih, List.countP_cons, Nat.add_comm]
    congr 1
    cases hk : commandOfSubservice t.subservice with
    | none => simp [Telecommand.requests, Telecommand.commands, hk]
    | some j => simp [Telecommand.requests, Telecommand.commands, hk, Execution.call,
        Call.requestedId]

/-- Only requests bring a rate. -/
theorem lastValue_filter_isRequest (d : Double) (calls : List Call) :
    lastValue Call.requestedRate d (calls.filter Call.isRequest) =
      lastValue Call.requestedRate d calls := by
  refine lastValue_filter _ _ _ _ fun call _ hcall => ?_
  rw [Call.requestedRate, hcall]
  rfl

/-- What is requested of the handler settles what rate is asked for. -/
theorem requestedRate_of_requests {calls : List Call} {served : List Telecommand}
    (hrequests : calls.filter Call.isRequest = served.flatMap Telecommand.requests)
    (hformat : ∀ t ∈ served, WellFormed t.subservice t.tcData) (d : Double) :
    lastValue Call.requestedRate d calls = lastValue telecommandRate d served := by
  rw [← lastValue_filter_isRequest, hrequests]
  exact lastValue_flatMap _ _ _ _ _ fun t ht => requestedRate_requests (hformat t ht)

/-- Only requests ask for a command. -/
theorem countP_filter_isRequest (k : CommandId) (calls : List Call) :
    (calls.filter Call.isRequest).countP (Call.requestedId · = some k.toRaw) =
      calls.countP (Call.requestedId · = some k.toRaw) := by
  rw [List.countP_filter]
  congr 1
  funext call
  cases call <;> simp [Call.requestedId, Call.isRequest]

section

variable {fw : FwMessages} (framework : GroundFramework) (actionHelper : ActionHelper fw)

/-! ### The handler inside -/

/-- What a message made the handler execute is all it did to the handler. -/
theorem letChildHandleMessage_handler (base : ReturnValue) (h : WebcamDeviceHandler)
    (ipcStore : IpcStore) (message : Option CommandMessage) :
    let result := h.letChildHandleMessage actionHelper base ipcStore message
    result.handler = result.executed.foldl WebcamDeviceHandler.execute h := by
  intro result
  simp only [result, WebcamDeviceHandler.letChildHandleMessage]
  split
  · rfl
  · split
    · rfl
    · split <;> rfl

theorem final_executed (h : WebcamDeviceHandler) (executed : List Execution) :
    handler.final h (executed.map Execution.call) =
      executed.foldl WebcamDeviceHandler.execute h := by
  induction executed generalizing h with
  | nil => rfl
  | cons execution executed ih => exact ih (h.execute execution)

/-- The calls that a message made the handler take. -/
def fateCalls (fate : Option Handling) : List Call :=
  fate.elim [] fun handling => handling.result.executed.map Execution.call

/-- The calls that an event of the ground path makes the handler take. -/
def callsOf (e : GroundEvent) : List Call :=
  match e.input, e.output with
  | .overrideCall call, _ => [call]
  | _, .message fate => fateCalls fate
  | _, _ => []

variable (fw) in
/-- Turning to a request leaves the handler alone. -/
theorem turnTo_handler (g : GroundPath) (source : RequestSource) (storeId : StoreAddress)
    (attempt : Attempt) (ask : Telecommand → Option MessageQueueId × BaseAnswer) :
    let result := g.turnTo framework fw source storeId attempt ask
    result.2.command.handler = g.command.handler ∧ ∀ fate, result.1 ≠ .message fate := by
  intro result
  rcases turnTo_cases framework fw g source storeId attempt ask with
    ⟨-, hresult⟩ | ⟨t, -, ⟨code, -, hresult⟩ | ⟨-, hresult⟩ | ⟨sendMessage, -, hresult⟩⟩ <;>
  · rw [show result = _ from hresult]
    exact ⟨rfl, fun _ h => by cases h⟩

/-- **What a step does to the handler**: it calls an override, it hands the handler a message, or it
leaves the handler alone. -/
theorem step_handler (g : GroundPath) (step : GroundStep) :
    let next := (groundPath framework actionHelper).step g step
    (∃ call, step = .overrideCall call) ∨
      (∃ base message rest, step = .handleMessage (.child base) ∧
        g.command.commandQueue = message :: rest) ∨
      ((∀ call, step ≠ .overrideCall call) ∧ (∀ handling, next.1 ≠ .message (some handling)) ∧
        next.2.command.handler = g.command.handler) := by
  intro next
  cases step with
  | overrideCall call => exact Or.inl ⟨call, rfl⟩
  | sendCommand subservice data fsfw =>
    exact Or.inr (Or.inr ⟨fun _ h => (by cases h), fun _ h => (by cases h), rfl⟩)
  | otherUsers ipcStore tcStore =>
    exact Or.inr (Or.inr ⟨fun _ h => (by cases h), fun _ h => (by cases h), rfl⟩)
  | serve lookup attempt =>
    refine Or.inr (Or.inr ⟨fun _ h => (by cases h), ?_⟩)
    cases hqueue : g.tc.requestQueue with
    | nil =>
      rw [show next = _ from serve_nil framework actionHelper lookup attempt hqueue]
      exact ⟨fun _ h => (by cases h), rfl⟩
    | cons storeId rest =>
      rw [show next = _ from serve_cons framework actionHelper lookup attempt hqueue]
      obtain ⟨hsame, hother⟩ := turnTo_handler fw framework
        { g with tc := { g.tc with requestQueue := rest } } .requestQueue storeId attempt
        (routed framework lookup attempt)
      exact ⟨fun _ => hother _, hsame⟩
  | resume which attempt =>
    refine Or.inr (Or.inr ⟨fun _ h => (by cases h), ?_⟩)
    cases hheld : g.held[which]? with
    | none =>
      rw [show next = _ from resume_none framework actionHelper which attempt hheld]
      exact ⟨fun _ h => (by cases h), rfl⟩
    | some request =>
      rw [show next = _ from resume_some framework actionHelper which attempt hheld]
      obtain ⟨hsame, hother⟩ := turnTo_handler fw framework
        { g with held := g.held.eraseIdx which } .held request.storeId attempt
        fun _ => (request.queue, attempt.base)
      exact ⟨fun _ => hother _, hsame⟩
  | handleMessage routing =>
    cases hqueue : g.command.commandQueue with
    | nil =>
      rw [show next = _ from handleMessage_nil framework actionHelper routing hqueue]
      exact Or.inr (Or.inr ⟨fun _ h => (by cases h), fun _ h => (by cases h), rfl⟩)
    | cons message rest =>
      cases routing with
      | consume =>
        rw [show next = _ from handleMessage_consume framework actionHelper hqueue]
        exact Or.inr (Or.inr ⟨fun _ h => (by cases h), fun _ h => (by cases h), rfl⟩)
      | child base => exact Or.inr (Or.inl ⟨base, message, rest, rfl, rfl⟩)

/-- A step that leaves the handler alone makes it take no call. -/
theorem calls_untouched {e : GroundEvent} (hinput : ∀ call, e.input ≠ .overrideCall call)
    (hother : ∀ handling, e.output ≠ .message (some handling)) :
    callsOf e = [] ∧ (messageFate e).toList.flatMap fateCalls = [] := by
  have hfate : (messageFate e).toList.flatMap fateCalls = [] := by
    unfold messageFate
    split
    · rename_i fate hanswer
      cases fate with
      | none => rfl
      | some handling => exact absurd hanswer (hother handling)
    · rfl
  refine ⟨?_, hfate⟩
  unfold callsOf
  split
  · exact absurd ‹_› (hinput _)
  · rename_i fate hanswer _
    rw [messageFate, hanswer, Option.toList_some, List.flatMap_singleton] at hfate
    exact hfate
  · rfl

/-- **The ground path drives the handler.** -/
def groundDriver : Driver (groundPath framework actionHelper) handler where
  view g := g.command.handler
  inputs := callsOf
  step_final g step := by
    rcases step_handler framework actionHelper g step with
      ⟨call, rfl⟩ | ⟨base, message, rest, rfl, hqueue⟩ | ⟨hinput, hother, hsame⟩
    · rfl
    · have hstep := handleMessage_child framework actionHelper base hqueue
      rw [Machine.event, hstep]
      show handler.final g.command.handler (List.map Execution.call _) = _
      rw [final_executed]
      exact (letChildHandleMessage_handler actionHelper base g.command.handler g.command.ipcStore
        (some message)).symm
    · rw [(calls_untouched hinput hother).1, hsame]
      rfl

/-- The calls that a run of the ground path makes the handler take. -/
def handlerCalls (hist : List GroundEvent) : List Call :=
  (groundDriver framework actionHelper).inputsOf hist

/-- What a run of the ground path does at the handler. -/
def handlerEvents (start : GroundPath) (hist : List GroundEvent) : List CallEvent :=
  handler.trace start.command.handler (handlerCalls framework actionHelper hist)

/-- The handler ends where its calls take it. -/
theorem handler_of_ground (start : GroundPath) (steps : List GroundStep) :
    handler.final start.command.handler
        (handlerCalls framework actionHelper
          ((groundPath framework actionHelper).trace start steps)) =
      ((groundPath framework actionHelper).final start steps).command.handler :=
  (groundDriver framework actionHelper).run_final start steps

/-! ### Requests are telecommands -/

theorem requests_isRequest (executed : List Execution) :
    (executed.map Execution.call).filter Call.isRequest = executed.map Execution.call := by
  refine List.filter_eq_self.mpr fun call hcall => ?_
  obtain ⟨execution, -, rfl⟩ := List.mem_map.mp hcall
  rfl

/-- **What a step asks of the handler**: what the message that it takes makes it execute. -/
theorem requests_step (hist : List GroundEvent) (g : GroundPath) (step : GroundStep)
    (unprompted : unpromptedOverrides hist g step) :
    let e := (groundPath framework actionHelper).event g step
    (callsOf e).filter Call.isRequest = (messageFate e).toList.flatMap fateCalls ∧
      ∀ call ∈ callsOf e, call.isLoad = false := by
  intro e
  rcases step_handler framework actionHelper g step with
    ⟨call, rfl⟩ | ⟨base, message, rest, rfl, hqueue⟩ | ⟨hinput, hother, -⟩
  · have h : (!call.isRequest && !call.isLoad) = true := unprompted
    obtain ⟨hrequest, hload⟩ := Bool.and_eq_true_iff.mp h
    refine ⟨?_, fun other hmem => ?_⟩
    · show [call].filter Call.isRequest = []
      simpa using hrequest
    · rw [List.mem_singleton.mp hmem]
      simpa using hload
  · have hstep := handleMessage_child framework actionHelper base hqueue
    let handling := (g.command.handle actionHelper base message rest).1
    have hcalls : callsOf e = handling.result.executed.map Execution.call := by
      rw [callsOf, Machine.event_output, hstep]
      rfl
    have hfate : messageFate e = some (some handling) := by
      rw [messageFate, Machine.event_output, hstep]
    rw [hcalls, hfate, Option.toList_some, List.flatMap_singleton]
    refine ⟨requests_isRequest _, fun call hcall => ?_⟩
    obtain ⟨execution, -, rfl⟩ := List.mem_map.mp hcall
    rfl
  · obtain ⟨hcalls, hfate⟩ := calls_untouched (e := e) hinput hother
    rw [hcalls, hfate]
    exact ⟨rfl, fun _ h => by cases h⟩

/-- Over a run, the handler is asked what the messages make it execute, and loads nothing. -/
theorem requests_of_fates (start : GroundPath) (steps : List GroundStep)
    (unprompted : (groundPath framework actionHelper).Lawful unpromptedOverrides start steps) :
    let hist := (groundPath framework actionHelper).trace start steps
    let calls := handlerCalls framework actionHelper hist
    calls.filter Call.isRequest = (hist.filterMap messageFate).flatMap fateCalls ∧
      ∀ call ∈ calls, call.isLoad = false := by
  refine Machine.lawful_induction (R := fun hist _ =>
    (handlerCalls framework actionHelper hist).filter Call.isRequest =
      (hist.filterMap messageFate).flatMap fateCalls ∧
    ∀ call ∈ handlerCalls framework actionHelper hist, call.isLoad = false)
    ⟨rfl, fun _ h => by cases h⟩ (fun hist g step hstep inv => ?_) steps unprompted
  obtain ⟨hrequests, hloads⟩ := inv
  obtain ⟨hnew, hquiet⟩ := requests_step framework actionHelper hist g step hstep
  have hcalls : handlerCalls framework actionHelper
      (hist ++ [(groundPath framework actionHelper).event g step]) =
        handlerCalls framework actionHelper hist ++ callsOf _ := Driver.inputsOf_snoc _ _ _
  rw [hcalls]
  refine ⟨?_, fun call hcall => ?_⟩
  · rw [List.filter_append, hrequests, hnew, filterMap_snoc, List.flatMap_append]
  · rcases List.mem_append.mp hcall with hold | hcall
    · exact hloads call hold
    · exact hquiet call hcall

/-- A telecommand that was served made the handler take its request. -/
theorem fateCalls_of_served {t : Telecommand} {handling : Handling} (h : Served fw t handling) :
    fateCalls (some handling) = t.requests := by
  rw [Served] at h
  rw [Telecommand.requests]
  show List.map Execution.call handling.result.executed = _
  cases hk : commandOfSubservice t.subservice with
  | none =>
    rw [hk] at h
    obtain ⟨-, -, hresult⟩ := h
    rw [hresult]
    rfl
  | some k =>
    rw [hk] at h
    obtain ⟨-, -, hexecuted, -⟩ := h
    rw [hexecuted]
    rfl

/-- What messages made the handler execute are the requests of the telecommands it served. -/
theorem fateCalls_of_fated {reached : List Telecommand} {fates : List (Option Handling)}
    (hfated : List.Forall₂ (Fated fw) reached fates) :
    fates.flatMap fateCalls = (((reached.zip fates).filter fun p => p.2.isSome).map
      Prod.fst).flatMap Telecommand.requests := by
  induction hfated with
  | nil => rfl
  | @cons t fate reached fates hfate _ ih =>
    rw [List.flatMap_cons, List.zip_cons_cons, ih]
    cases fate with
    | none => rfl
    | some handling =>
      rw [fateCalls_of_served hfate, List.filter_cons_of_pos rfl, List.map_cons, List.flatMap_cons]

/-- Where every telecommand was executed, the handler executed the requests of all. -/
theorem fateCalls_of_executed {reached : List Telecommand} {fates : List (Option Handling)}
    (hexecuted : List.Forall₂ (Executed fw) reached fates) :
    fates.flatMap fateCalls = reached.flatMap Telecommand.requests := by
  induction hexecuted with
  | nil => rfl
  | @cons t fate reached fates hfate _ ih =>
    obtain ⟨hfated, hdump⟩ := hfate
    rw [List.flatMap_cons, List.flatMap_cons, ih]
    congr 1
    cases fate with
    | none =>
      rw [Telecommand.requests, hdump rfl]
      rfl
    | some handling => exact fateCalls_of_served hfated

variable {framework}

/-- What was served was delivered. -/
theorem served_sublist_delivered (hist : List GroundEvent) :
    (servedTelecommands hist).Sublist (hist.filterMap deliveredTelecommand) := by
  have hserved : (servedTelecommands hist).Sublist
      (((reachedTelecommands hist).zip (hist.filterMap messageFate)).map Prod.fst) :=
    List.filter_sublist.map _
  have hlength : (reachedTelecommands hist).length ≤ (hist.filterMap messageFate).length := by
    rw [reachedTelecommands, List.length_take]
    exact Nat.min_le_left _ _
  rw [List.map_fst_zip hlength] at hserved
  exact hserved.trans (List.take_sublist _ _)

theorem served_wellFormed (start : GroundPath) (steps : List GroundStep) :
    ∀ t ∈ servedTelecommands ((groundPath framework actionHelper).trace start steps),
      WellFormed t.subservice t.tcData :=
  fun t ht => delivered_wellFormed actionHelper start steps t
    ((served_sublist_delivered _).subset ht)

section

variable {start : GroundPath} (idle : start.Idle) {steps : List GroundStep}
  (discipline : (groundPath framework actionHelper).Lawful (groundDiscipline framework fw) start
    steps)

include idle discipline

/-- What is served was sent. -/
theorem served_subperm_sent :
    let hist := (groundPath framework actionHelper).trace start steps
    (servedTelecommands hist).Subperm (hist.filterMap sentTelecommand) :=
  (served_sublist_delivered _).subperm.trans (delivered_subperm_sent actionHelper idle discipline)

variable (unprompted : (groundPath framework actionHelper).Lawful unpromptedOverrides start steps)

include unprompted

/-- **The requests that reach the handler are the telecommands it served**, and it is made to load
nothing. -/
theorem requests_are_telecommands :
    let hist := (groundPath framework actionHelper).trace start steps
    let calls := handlerCalls framework actionHelper hist
    calls.filter Call.isRequest = (servedTelecommands hist).flatMap Telecommand.requests ∧
      ∀ call ∈ calls, call.isLoad = false := by
  intro hist calls
  obtain ⟨hrequests, hloads⟩ := requests_of_fates framework actionHelper start steps unprompted
  have hfated := (flight_run actionHelper idle discipline).flight.account.split.1
  exact ⟨hrequests.trans (fateCalls_of_fated hfated), hloads⟩

/-- The handler inside a run from a fresh handler does the work of the telecommands served. -/
theorem handler_work (fresh : start.command.handler = freshHandler) :
    let hist := (groundPath framework actionHelper).trace start steps
    let h := ((groundPath framework actionHelper).final start steps).command.handler
    WorkInvariant (handlerCalls framework actionHelper hist) h ∧
      h.board.requested = lastValue telecommandRate .zero (servedTelecommands hist) := by
  intro hist h
  obtain ⟨hrequests, hloads⟩ := requests_are_telecommands actionHelper idle discipline unprompted
  have hfinal := handler_of_ground framework actionHelper start steps
  rw [fresh] at hfinal
  have inv := work_invariant _ hloads
  rw [show handler.final freshHandler _ = h from hfinal] at inv
  refine ⟨inv, inv.requested.trans ?_⟩
  exact requestedRate_of_requests hrequests (served_wellFormed actionHelper start steps) _

/-- Each command is built at most as often as the ground sent a telecommand for it, and transmitted
at most twice as often. -/
theorem transmitted_le_sent (fresh : start.command.handler = freshHandler) (k : CommandId) :
    let hist := (groundPath framework actionHelper).trace start steps
    let webcam := handlerEvents framework actionHelper start hist
    let asked := (hist.filterMap sentTelecommand).countP (Telecommand.commands k)
    webcam.countP (emittedId · = some k.toRaw) ≤ asked ∧
      webcam.countP (transmittedId · = some k.toRaw) ≤ 2 * asked := by
  intro hist webcam asked
  obtain ⟨hrequests, -⟩ := requests_are_telecommands actionHelper idle discipline unprompted
  have hquiet : start.command.handler.board.pending k = false := by
    rw [fresh]
    cases k <;> rfl
  obtain ⟨hemitted, htransmitted⟩ := transmissions_le_requests start.command.handler
    (by rw [fresh]; rfl) k hquiet (handlerCalls framework actionHelper hist)
  have hasked : (handlerCalls framework actionHelper hist).countP
      (Call.requestedId · = some k.toRaw) ≤ asked := by
    rw [← countP_filter_isRequest, hrequests, countP_requests]
    exact (served_subperm_sent actionHelper idle discipline).countP_le _
  exact ⟨Nat.le_trans hemitted hasked,
    Nat.le_trans htransmitted (Nat.mul_le_mul (Nat.le_refl 2) hasked)⟩

/-- A rate that was asked for is `0.0` or was sent. -/
theorem sent_of_askedFor {rate : Double} :
    let hist := (groundPath framework actionHelper).trace start steps
    AskedFor (handlerCalls framework actionHelper hist) rate →
      rate = .zero ∨ ∃ t ∈ hist.filterMap sentTelecommand, telecommandRate t = some rate := by
  intro hist hasked
  obtain ⟨hrequests, -⟩ := requests_are_telecommands actionHelper idle discipline unprompted
  have hsent := served_subperm_sent actionHelper idle discipline
  rcases hasked with hzero | ⟨call, hcall, hrate⟩
  · exact Or.inl hzero
  · have hrequest : call.isRequest = true := by
      by_contra hnot
      rw [Call.requestedRate, if_neg hnot] at hrate
      cases hrate
    have hmem : call ∈ (servedTelecommands hist).flatMap Telecommand.requests := by
      rw [← hrequests]
      exact List.mem_filter.mpr ⟨hcall, hrequest⟩
    obtain ⟨t, ht, htrate⟩ :=
      telecommandRate_of_request (served_wellFormed actionHelper start steps) hmem
    exact Or.inr ⟨t, hsent.subset ht, htrate.trans hrate⟩

/-- **Nothing reaches the webcam that the ground did not send**, whatever the base classes answer, if
the framework neither loads a parameter nor requests a command of its own accord.  Each command is
built at most as often as the ground sent a telecommand for it and transmitted at most twice as
often, and the two frame rates are `0.0` or rates that the ground sent. -/
theorem webcam_does_what_was_sent (fresh : start.command.handler = freshHandler) :
    let hist := (groundPath framework actionHelper).trace start steps
    let h := ((groundPath framework actionHelper).final start steps).command.handler
    let webcam := handlerEvents framework actionHelper start hist
    let sent := hist.filterMap sentTelecommand
    (∀ k : CommandId,
        webcam.countP (emittedId · = some k.toRaw) ≤ sent.countP (Telecommand.commands k) ∧
        webcam.countP (transmittedId · = some k.toRaw) ≤
          2 * sent.countP (Telecommand.commands k)) ∧
      ∀ rate ∈ [h.requestedFrameRate, h.currentFrameRate],
        rate = .zero ∨ ∃ t ∈ sent, telecommandRate t = some rate := by
  intro hist h webcam sent
  obtain ⟨inv, -⟩ := handler_work actionHelper idle discipline unprompted fresh
  refine ⟨transmitted_le_sent actionHelper idle discipline unprompted fresh, fun rate hrate => ?_⟩
  refine sent_of_askedFor actionHelper idle discipline unprompted ?_
  rcases List.mem_cons.mp hrate with rfl | hrate
  · exact inv.asked.1
  · rw [List.mem_singleton.mp hrate]
    exact inv.asked.2

end

end

/-! ### The commands of `main` at the webcam -/

/-- `main`'s run, after which the handler builds its first command. -/
def builtRun : List GroundStep := mainRun ++ [.overrideCall (.buildNormalDeviceCommand true)]

theorem builtRun_discipline : (groundPath pusReader (ActionHelper.direct numberedMessages)).Lawful
    (groundDiscipline pusReader numberedMessages) mainStart builtRun :=
  Machine.lawful_snoc.mpr ⟨mainRun_discipline, trivial⟩

theorem builtRun_unprompted : (groundPath pusReader (ActionHelper.direct numberedMessages)).Lawful
    unpromptedOverrides mainStart builtRun := by
  refine ⟨trivial, trivial, trivial, trivial, trivial, trivial, trivial, trivial, trivial, trivial,
    ?_, trivial⟩
  rfl

theorem builtRun_query :
    ((((groundPath pusReader (ActionHelper.direct numberedMessages)).final mainStart
      builtRun).command.handler).buildNormalDeviceCommand true).1.id =
        some (some CommandId.commandGetFrameRate.toRaw) := by
  decide +kernel

theorem builtRun_rate :
    lastValue telecommandRate .zero (servedTelecommands
      ((groundPath pusReader (ActionHelper.direct numberedMessages)).trace mainStart builtRun)) =
        twentyFour := by
  decide +kernel

theorem builtRun_transmitted :
    (handlerEvents pusReader (ActionHelper.direct numberedMessages) mainStart
      ((groundPath pusReader (ActionHelper.direct numberedMessages)).trace mainStart
        builtRun)).countP (transmittedId · = some CommandId.commandSetFrameRate.toRaw) = 2 := by
  decide +kernel

/-- The set-frame-rate command left the handler twice, and was sent. -/
theorem webcam_does_what_was_sent_main :
    let path := groundPath pusReader (ActionHelper.direct numberedMessages)
    let hist := path.trace mainStart builtRun
    let set := CommandId.commandSetFrameRate
    (handlerEvents pusReader (ActionHelper.direct numberedMessages) mainStart hist).countP
        (transmittedId · = some set.toRaw) = 2 ∧
      2 ≤ 2 * (hist.filterMap sentTelecommand).countP (Telecommand.commands set) := by
  have hsent := ((webcam_does_what_was_sent (ActionHelper.direct numberedMessages) mainStart_idle
    builtRun_discipline builtRun_unprompted rfl).1 .commandSetFrameRate).2
  rw [builtRun_transmitted] at hsent
  exact ⟨builtRun_transmitted, hsent⟩

end FsfwFromZero
