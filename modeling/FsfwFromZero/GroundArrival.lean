import Mathlib.Logic.Function.Iterate
import FsfwFromZero.GroundPath

/-!
# Telecommands arrive

What becomes of the telecommands over a whole run of the ground path, first whatever the framework
answers, and then for base classes that keep a promise:

* `inTurn` / `started_in_turn` — requests that the base class starts in turn are started in the
  order in which they were taken;
* `serviceable` / `delivered_eq_wellFormed` — a service that has what it needs delivers exactly the
  well-formed telecommands;
* `reachesChild` / `Executed` — device commands that the base class does not consume are executed;
* `ground_to_handler` — **telecommands arrive**: each is taken once and started once at most, what
  is delivered is well-formed, and the handler executes what reaches it;
* `all_served` — **when nothing waits, everything was served**.
-/

namespace FsfwFromZero

open Lib WebcamCommandingService

/-- Requests are started in turn: the next one only if none is kept back, and of those kept back the
first, which is not put back again. -/
def inTurn (_ : List GroundEvent) (g : GroundPath) : GroundStep → Prop
  | .serve _ attempt => ∀ sendMessage, attempt.base = .start sendMessage → g.held = []
  | .resume which attempt => which = 0 ∧ attempt.base ≠ .hold
  | _ => True

/-- The IPC store has an element, the base class does not refuse the request, and the message it
sends gets into the queue. -/
def Attempt.Willing (attempt : Attempt) (g : GroundPath) : Prop :=
  (∀ size, ∃ a, attempt.getFreeElement size = .ok a) ∧
    match attempt.base with
    | .reject _ => False
    | .hold => True
    | .start sendMessage => sendMessage = none ∧ g.command.commandQueue.length < cmdQueueSize

/-- The service finds the handler, and gets what it needs for every request. -/
def serviceable (framework : GroundFramework) (_ : List GroundEvent) (g : GroundPath) :
    GroundStep → Prop
  | .serve lookup attempt =>
      lookup = ⟨some framework.handlerQueue, some framework.handlerQueue⟩ ∧ attempt.Willing g
  | .resume _ attempt => attempt.Willing g
  | _ => True

/-- The handler's base class consumes no device command message. -/
def reachesChild (fw : FwMessages) (_ : List GroundEvent) (g : GroundPath) : GroundStep → Prop
  | .handleMessage .consume => ∀ message ∈ g.command.commandQueue.head?,
      message.getMessageType ≠ fw.deviceHandlerCommand
  | _ => True

/-- The telecommand was served, or it is a parameter dump whose message the base class consumed. -/
def Executed (fw : FwMessages) (t : Telecommand) (fate : Option Handling) : Prop :=
  Fated fw t fate ∧ (fate = none → commandOfSubservice t.subservice = none)

section

variable {fw : FwMessages} {framework : GroundFramework} (actionHelper : ActionHelper fw)

/-! ### In turn -/

variable (framework) in
/-- The service lets a telecommand through to the base class if it is a command and has a route. -/
theorem screen_cases (lookup : HandlerLookup) (t : Telecommand) (base : BaseAnswer) :
    ((∃ code, screen framework lookup t base = .reject code) ∧
        ¬ (IsCommand t.subservice ∧ queueFor lookup t.subservice ≠ none)) ∨
      (screen framework lookup t base = base ∧ IsCommand t.subservice ∧
        queueFor lookup t.subservice ≠ none) := by
  have hvalid := isValidSubservice_ok_iff framework.invalidSubservice t.subservice
  obtain ⟨-, hid, hroute, -⟩ := getMessageQueueAndObject_spec lookup t.subservice
  rw [hid] at hroute
  by_cases hcommand : IsCommand t.subservice
  · by_cases hfound : queueFor lookup t.subservice = none
    · have hrefused := fun h => hroute.mp h hfound
      refine Or.inl ⟨⟨(getMessageQueueAndObject lookup t.subservice).ret, ?_⟩, fun h => h.2 hfound⟩
      simp only [screen, hvalid.mpr hcommand, ne_eq, not_true_eq_false, if_false, if_pos hrefused]
    · refine Or.inr ⟨?_, hcommand, hfound⟩
      simp only [screen, hvalid.mpr hcommand, hroute.mpr hfound, ne_eq, not_true_eq_false, if_false]
  · have hrefused := fun h => hcommand (hvalid.mp h)
    refine Or.inl ⟨⟨isValidSubservice framework.invalidSubservice t.subservice, ?_⟩,
      fun h => hcommand h.1⟩
    simp only [screen, ne_eq, if_pos hrefused]

theorem screen_start {lookup : HandlerLookup} {t : Telecommand} {base : BaseAnswer}
    {sendMessage : Option Failure} (h : screen framework lookup t base = .start sendMessage) :
    base = .start sendMessage := by
  rcases screen_cases framework lookup t base with ⟨⟨code, hcode⟩, -⟩ | ⟨hsame, -⟩
  · rw [hcode] at h
    cases h
  · rw [← hsame, h]

/-- The requests started, and after them those kept back, come in the order in which they were
taken. -/
def Ordered (framework : GroundFramework) (hist : List GroundEvent) (g : GroundPath) : Prop :=
  (hist.filterMap startedTelecommand ++ g.heldBack framework).Sublist
    (hist.filterMap takenTelecommand)

section

variable {hist : List GroundEvent} {g g' : GroundPath}

/-- A step that turns to no request. -/
theorem ordered_frame {e : GroundEvent}
    (hother : ∀ source t treatment, e.output ≠ .treated source t treatment)
    (hback : g'.heldBack framework = g.heldBack framework) (order : Ordered framework hist g) :
    Ordered framework (hist ++ [e]) g' := by
  obtain ⟨htaken, hstarted, -⟩ := untreated hother
  rw [Ordered, filterMap_snoc, filterMap_snoc, htaken, hstarted, hback]
  simpa [Ordered] using order

/-- Taking a request in turn keeps the order. -/
theorem ordered_serve (lookup : HandlerLookup) (attempt : Attempt)
    (turn : inTurn hist g (.serve lookup attempt)) (inv : RequestInvariant framework hist g)
    (order : Ordered framework hist g) :
    let step := GroundStep.serve lookup attempt
    Ordered framework (hist ++ [(groundPath framework actionHelper).event g step])
      ((groundPath framework actionHelper).step g step).2 := by
  intro step
  cases hqueue : g.tc.requestQueue with
  | nil =>
    have hstep := serve_nil framework actionHelper lookup attempt hqueue
    refine ordered_frame ?_ (by rw [hstep]) order
    rw [Machine.event_output, hstep]
    exact fun _ _ _ h => by cases h
  | cons storeId rest =>
    have hstep := serve_cons framework actionHelper lookup attempt hqueue
    obtain ⟨hout, hlive, hpopped⟩ := inv.tidy.pop hqueue
    let popped : GroundPath := { g with tc := { g.tc with requestQueue := rest } }
    have hsame : popped.heldBack framework = g.heldBack framework := rfl
    rw [Ordered] at order ⊢
    rw [filterMap_snoc, filterMap_snoc, startedTelecommand, takenTelecommand, Machine.event_output,
      hstep]
    obtain ⟨-, -, ⟨-, hanswer, hback⟩ | ⟨t, treatment, -, hanswer, -, hstarted, hback⟩⟩ :=
      turnTo_requests fw hpopped hout hlive .requestQueue attempt (routed framework lookup attempt)
    · rw [hanswer, hback, show GroundPath.heldBack framework _ = _ from hsame]
      simpa using order
    · rw [hanswer, hback, show GroundPath.heldBack framework _ = _ from hsame]
      cases treatment with
      | rejected code =>
        simp only [Option.toList_none, List.append_nil, reduceCtorEq, if_false, Option.toList_some]
        exact order.trans (List.sublist_append_left _ _)
      | held =>
        simp only [Option.toList_none, List.append_nil, if_true, Option.toList_some]
        rw [← List.append_assoc]
        exact order.append (List.Sublist.refl _)
      | started ret delivered =>
        -- nothing is kept back, so the request is the next after those started before
        obtain ⟨sendMessage, hstart⟩ := hstarted ret delivered rfl
        have hnone := turn sendMessage (screen_start hstart)
        have hempty : g.heldBack framework = [] := by rw [GroundPath.heldBack, hnone]; rfl
        rw [hempty, List.append_nil] at order
        simp only [Option.toList_some, reduceCtorEq, if_false, hempty, List.append_nil]
        exact order.append (List.Sublist.refl _)

/-- Turning to the first request that was kept back keeps the order. -/
theorem ordered_resume (which : Nat) (attempt : Attempt)
    (turn : inTurn hist g (.resume which attempt)) (inv : RequestInvariant framework hist g)
    (order : Ordered framework hist g) :
    let step := GroundStep.resume which attempt
    Ordered framework (hist ++ [(groundPath framework actionHelper).event g step])
      ((groundPath framework actionHelper).step g step).2 := by
  intro step
  obtain ⟨rfl, hnohold⟩ := turn
  cases hheld : g.held with
  | nil =>
    have hstep := resume_none framework actionHelper (g := g) 0 attempt (by rw [hheld]; rfl)
    refine ordered_frame ?_ (by rw [hstep]) order
    rw [Machine.event_output, hstep]
    exact fun _ _ _ h => by cases h
  | cons request rest =>
    have hfirst : g.held[0]? = some request := by rw [hheld]; rfl
    have hstep := resume_some framework actionHelper 0 attempt hfirst
    obtain ⟨hout, hlive, hpicked⟩ := inv.tidy.pick hfirst
    rw [Ordered] at order ⊢
    rw [filterMap_snoc, filterMap_snoc, startedTelecommand, takenTelecommand, Machine.event_output,
      hstep]
    have hall : g.heldBack framework =
        (readAt framework g.tc.tcStore request.storeId).toList ++
          ({ g with held := g.held.eraseIdx 0 } : GroundPath).heldBack framework := by
      rw [GroundPath.heldBack, GroundPath.heldBack, hheld, List.filterMap_cons]
      cases readAt framework g.tc.tcStore request.storeId <;> rfl
    rw [hall] at order
    obtain ⟨-, -, ⟨hread, hanswer, hback⟩ | ⟨t, treatment, hread, hanswer, hhold, -, hback⟩⟩ :=
      turnTo_requests fw hpicked hout hlive .held attempt fun _ => (request.queue, attempt.base)
    · rw [show readAt framework g.tc.tcStore request.storeId = none from hread] at order
      rw [hanswer, hback]
      simpa using order
    · rw [show readAt framework g.tc.tcStore request.storeId = some t from hread] at order
      rw [hanswer, hback]
      cases treatment with
      | rejected code =>
        simp only [Option.toList_none, List.append_nil, reduceCtorEq, if_false]
        refine List.Sublist.trans (List.Sublist.append (List.Sublist.refl _) ?_) order
        exact List.sublist_append_right _ _
      | held => exact absurd (hhold rfl) hnohold
      | started ret delivered =>
        simp only [Option.toList_none, List.append_nil, reduceCtorEq, if_false, List.append_assoc]
        exact order

/-- **Requests that are started in turn are started in order**, with those kept back behind them. -/
theorem ordered_step (step : GroundStep) (discipline : groundDiscipline framework fw hist g step)
    (turn : inTurn hist g step) (inv : RequestInvariant framework hist g)
    (order : Ordered framework hist g) :
    Ordered framework (hist ++ [(groundPath framework actionHelper).event g step])
      ((groundPath framework actionHelper).step g step).2 := by
  cases step with
  | sendCommand subservice data fsfw =>
    refine ordered_frame (fun _ _ _ h => by cases h) ?_ order
    exact heldBack_congr rfl (sendCommand_spares inv.tidy subservice data fsfw discipline.1)
  | serve lookup attempt => exact ordered_serve actionHelper lookup attempt turn inv order
  | resume which attempt => exact ordered_resume actionHelper which attempt turn inv order
  | handleMessage routing =>
    obtain ⟨htc, hheld, hother⟩ := handleMessage_requests framework actionHelper (g := g) routing
    exact ordered_frame hother (heldBack_congr hheld fun a _ => by rw [htc]) order
  | overrideCall call => exact ordered_frame (g := g) (fun _ _ _ h => by cases h) rfl order
  | otherUsers ipcStore tcStore =>
    refine ordered_frame (g := g) (fun _ _ _ h => by cases h) ?_ order
    exact heldBack_congr (g := g) rfl discipline.2

/-! ### What a service delivers -/

/-- Of what the base class turns to, what is delivered was started and is well-formed. -/
theorem turnTo_delivered (source : RequestSource) (storeId : StoreAddress) (attempt : Attempt)
    (ask : Telecommand → Option MessageQueueId × BaseAnswer) {e : GroundEvent} {t : Telecommand}
    (hanswer : e.output = (g.turnTo framework fw source storeId attempt ask).1)
    (h : deliveredTelecommand e = some t) :
    startedTelecommand e = some t ∧ WellFormed t.subservice t.tcData := by
  rw [deliveredTelecommand, hanswer] at h
  rw [startedTelecommand, hanswer]
  rcases turnTo_cases framework fw g source storeId attempt ask with
    ⟨-, hresult⟩ | ⟨t', -, ⟨code, -, hresult⟩ | ⟨-, hresult⟩ | ⟨sendMessage, -, hresult⟩⟩
  · rw [hresult] at h
    cases h
  · rw [hresult] at h
    cases h
  · rw [hresult] at h
    cases h
  · rw [hresult] at h ⊢
    simp only [CommandPath.start] at h ⊢
    split at h
    · rename_i heq
      obtain ⟨-, rfl, hstarted⟩ := GroundAnswer.treated.inj heq
      have hqueued := (Treatment.started.inj hstarted).2
      simp only [Bool.and_eq_true, decide_eq_true_eq] at hqueued
      cases h
      exact ⟨rfl, ((prepareCommand_ok_iff ..).mp hqueued.1.1).1⟩
    · cases h

/-- What is delivered was started, and only well-formed telecommands are delivered. -/
theorem delivered_started (step : GroundStep) {t : Telecommand}
    (h : deliveredTelecommand ((groundPath framework actionHelper).event g step) = some t) :
    startedTelecommand ((groundPath framework actionHelper).event g step) = some t ∧
      WellFormed t.subservice t.tcData := by
  have he := (groundPath framework actionHelper).event_output g step
  rcases step_treats framework actionHelper g step with
    ⟨hother, -⟩ | ⟨lookup, attempt, storeId, rest, -, -, hnext⟩ |
      ⟨which, attempt, request, -, -, hnext⟩
  · rw [(untreated hother).2.2.2] at h
    cases h
  · rw [hnext] at he
    exact turnTo_delivered _ _ _ _ he h
  · rw [hnext] at he
    exact turnTo_delivered _ _ _ _ he h

/-- The service has its IPC store, and what is kept back goes to the handler. -/
structure Serviced (framework : GroundFramework) (g : GroundPath) : Prop where
  present : g.command.present = true
  held : ∀ request ∈ g.held, request.queue = some framework.handlerQueue

/-- **A willing base class** rejects no telecommand that is well-formed, and delivers those that it
starts. -/
theorem turnTo_willing {source : RequestSource} {storeId : StoreAddress} {attempt : Attempt}
    {ask : Telecommand → Option MessageQueueId × BaseAnswer} {e : GroundEvent}
    (hanswer : e.output = (g.turnTo framework fw source storeId attempt ask).1)
    (serviced : Serviced framework g) (willing : attempt.Willing g)
    (hask : ∀ t, ((∃ code, (ask t).2 = .reject code) ∧ t.wellFormed = false) ∨
      (ask t).1 = some framework.handlerQueue ∧ (ask t).2 = attempt.base) :
    deliveredTelecommand e = (startedTelecommand e).filter Telecommand.wellFormed ∧
      (∀ t ∈ rejectedTelecommand e, t.wellFormed = false) ∧
      Serviced framework (g.turnTo framework fw source storeId attempt ask).2 := by
  obtain ⟨present, held⟩ := serviced
  obtain ⟨hgrants, hbase⟩ := willing
  rw [deliveredTelecommand, startedTelecommand, rejectedTelecommand, hanswer]
  rcases turnTo_cases framework fw g source storeId attempt ask with
    ⟨-, hresult⟩ | ⟨t, -, ⟨code, hreject, hresult⟩ | ⟨hhold, hresult⟩ |
      ⟨sendMessage, hstart, hresult⟩⟩
  · rw [hresult]
    exact ⟨rfl, fun _ h => (by cases h), present, held⟩
  · rw [hresult]
    refine ⟨rfl, fun t' ht => ?_, present, held⟩
    cases ht
    rcases hask t with ⟨-, hformat⟩ | ⟨-, hsame⟩
    · exact hformat
    · rw [hreject] at hsame
      rw [← hsame] at hbase
      exact hbase.elim
  · rw [hresult]
    refine ⟨rfl, fun _ h => (by cases h), present, fun request hrequest => ?_⟩
    rcases List.mem_append.mp hrequest with hrequest | hrequest
    · exact held request hrequest
    · rw [List.mem_singleton.mp hrequest]
      rcases hask t with ⟨⟨code, hreject⟩, -⟩ | ⟨hqueue, -⟩
      · rw [hhold] at hreject
        cases hreject
      · exact hqueue
  · rw [hresult]
    refine ⟨?_, fun _ h => (by cases h), present, held⟩
    rcases hask t with ⟨⟨code, hreject⟩, -⟩ | ⟨hqueue, hsame⟩
    · rw [hstart] at hreject
      cases hreject
    · rw [← hsame, hstart] at hbase
      obtain ⟨rfl, hroom⟩ := hbase
      have hret := prepareCommand_ok_iff fw g.command.present attempt.getFreeElement
        g.command.ipcStore attempt.message t.tcData t.subservice
      rw [present] at hret
      simp only [CommandPath.start, hqueue, present]
      by_cases hformat : WellFormed t.subservice t.tcData
      · have hok := hret.mpr ⟨hformat, fun _ => ⟨rfl, hgrants _⟩⟩
        simp [hok, hroom, Option.filter_some, Telecommand.wellFormed, hformat]
      · have hrefused := mt hret.mp fun h => hformat h.1
        simp [hrefused, Option.filter_some, Telecommand.wellFormed, hformat]

theorem queueFor_handler {framework : GroundFramework} {subservice : UInt8}
    (hcommand : IsCommand subservice) :
    queueFor ⟨some framework.handlerQueue, some framework.handlerQueue⟩ subservice =
      some framework.handlerQueue := by
  rcases hcommand with hstores | hfour
  · rw [queueFor, if_pos hstores]
  · have hstores : ¬ StoresData subservice := by rw [hfour]; decide
    rw [queueFor, if_neg hstores, if_pos hfour]

/-- A service that has what it needs delivers exactly the well-formed of what it starts, and rejects
none that is well-formed. -/
theorem delivered_of_serviceable (step : GroundStep) (able : serviceable framework hist g step)
    (serviced : Serviced framework g) :
    let e := (groundPath framework actionHelper).event g step
    deliveredTelecommand e = (startedTelecommand e).filter Telecommand.wellFormed ∧
      (∀ t ∈ rejectedTelecommand e, t.wellFormed = false) ∧
      Serviced framework ((groundPath framework actionHelper).step g step).2 := by
  intro e
  have he : e.output = _ := (groundPath framework actionHelper).event_output g step
  rcases step_treats framework actionHelper g step with
    ⟨hother, hsame, hpresent⟩ | ⟨lookup, attempt, storeId, rest, rfl, -, hnext⟩ |
      ⟨which, attempt, request, rfl, hheld, hnext⟩
  · obtain ⟨-, hstarted, hrejected, hdelivered⟩ := untreated (e := e) hother
    rw [hdelivered, hstarted, hrejected]
    exact ⟨rfl, fun _ h => (by cases h), hpresent.trans serviced.present, hsame ▸ serviced.held⟩
  · obtain ⟨rfl, willing⟩ := able
    rw [hnext] at he ⊢
    refine turnTo_willing he ⟨serviced.present, serviced.held⟩ willing fun t => ?_
    rcases screen_cases framework ⟨some framework.handlerQueue, some framework.handlerQueue⟩ t
      attempt.base with ⟨hreject, hnot⟩ | ⟨hsame, hcommand, -⟩
    · refine Or.inl ⟨hreject, decide_eq_false fun hformat => hnot ?_⟩
      have hcommand := isCommand_of_wellFormed hformat
      exact ⟨hcommand, by rw [queueFor_handler hcommand]; simp⟩
    · refine Or.inr ⟨?_, hsame⟩
      exact (getMessageQueueAndObject_spec _ _).2.1.trans (queueFor_handler hcommand)
  · have hmem : request ∈ g.held := List.mem_of_getElem? hheld
    rw [hnext] at he ⊢
    refine turnTo_willing he ⟨serviced.present, fun other hother => ?_⟩ able
      fun t => Or.inr ⟨serviced.held request hmem, rfl⟩
    exact serviced.held other (List.mem_of_mem_eraseIdx hother)

end

/-! ### Runs -/

/-- The distributor can send, and nothing is underway. -/
structure GroundPath.Idle (g : GroundPath) : Prop where
  ready : g.tc.Ready
  noRequests : g.tc.requestQueue = []
  noneHeld : g.held = []
  noMessages : g.command.commandQueue = []

section

variable {start : GroundPath} (idle : start.Idle) {steps : List GroundStep}
  (discipline : (groundPath framework actionHelper).Lawful (groundDiscipline framework fw) start
    steps)

include idle discipline

/-- The account of requests over a run. -/
theorem requests_run :
    RequestInvariant framework ((groundPath framework actionHelper).trace start steps)
      ((groundPath framework actionHelper).final start steps) := by
  have hnone : start.addresses = [] := by
    rw [GroundPath.addresses, idle.noRequests, idle.noneHeld]
    rfl
  refine Machine.lawful_induction ⟨⟨idle.ready, ?_, ?_⟩, ?_, ?_⟩
    (fun _ _ step => requestInvariant_step actionHelper step) steps discipline
  · rw [hnone]
    exact List.nodup_nil
  · rw [hnone]
    exact fun _ h => by cases h
  · rw [GroundPath.waiting, idle.noRequests]
    rfl
  · rw [GroundPath.heldBack, idle.noneHeld]
    exact List.Perm.refl _

/-- What is started in turn over a run is started in order. -/
theorem started_in_turn (turn : (groundPath framework actionHelper).Lawful inTurn start steps) :
    Ordered framework ((groundPath framework actionHelper).trace start steps)
      ((groundPath framework actionHelper).final start steps) := by
  have hstart : Ordered framework [] start := by
    rw [Ordered, GroundPath.heldBack, idle.noneHeld]
    exact List.Sublist.refl _
  have hnone : (groundPath framework actionHelper).Lawful (groundDiscipline framework fw) start [] :=
    trivial
  exact (Machine.lawful_induction
    (R := fun hist g => RequestInvariant framework hist g ∧ Ordered framework hist g)
    ⟨requests_run actionHelper idle hnone, hstart⟩
    (fun hist g step hstep inv => ⟨requestInvariant_step actionHelper step hstep.1 inv.1,
      ordered_step actionHelper step hstep.1 hstep.2 inv.1 inv.2⟩) steps
    (discipline.and turn)).2

/-- The account of the command queue over a run. -/
theorem flight_run :
    GroundFlight fw (Fated fw) ((groundPath framework actionHelper).trace start steps)
      ((groundPath framework actionHelper).final start steps) := by
  have hstart : GroundFlight fw (Fated fw) [] start :=
    ⟨Flight.empty idle.noMessages, by rw [idle.noMessages]; exact Nat.zero_le _⟩
  exact Machine.lawful_induction hstart (fun hist g step hstep inv =>
    groundFlight_step actionHelper step hstep (fun _ _ h => h) (fun _ _ _ _ _ => trivial) inv)
    steps discipline

/-- The same where the base class consumes no device command. -/
theorem executed_run
    (reaches : (groundPath framework actionHelper).Lawful (reachesChild fw) start steps) :
    GroundFlight fw (Executed fw) ((groundPath framework actionHelper).trace start steps)
      ((groundPath framework actionHelper).final start steps) := by
  have hstart : GroundFlight fw (Executed fw) [] start :=
    ⟨Flight.empty idle.noMessages, by rw [idle.noMessages]; exact Nat.zero_le _⟩
  refine Machine.lawful_induction hstart (fun hist g step hstep inv =>
    groundFlight_step actionHelper step hstep.1 (fun _ _ hserved => ⟨hserved, fun h => ?_⟩)
      (fun t message hmessage hconsume hcarry => ⟨trivial, fun _ => ?_⟩) inv) steps
    (discipline.and reaches)
  · cases h
  · -- a message that carries a device command has the type that is not consumed
    subst hconsume
    have hother := mt hcarry.isDevice.mpr (hstep.2 message hmessage)
    exact not_not.mp hother

end

/-- What is delivered comes in the order in which it is started. -/
theorem delivered_sublist_started (start : GroundPath) (steps : List GroundStep) :
    List.Sublist
      (((groundPath framework actionHelper).trace start steps).filterMap deliveredTelecommand)
      (((groundPath framework actionHelper).trace start steps).filterMap startedTelecommand) := by
  refine Machine.history_induction (groundPath framework actionHelper)
    (R := fun hist _ => List.Sublist (hist.filterMap deliveredTelecommand)
      (hist.filterMap startedTelecommand)) (List.Sublist.refl _) (fun hist g step inv => ?_) steps
  rw [filterMap_snoc, filterMap_snoc]
  refine inv.append ?_
  cases hdelivered :
      deliveredTelecommand ((groundPath framework actionHelper).event g step) with
  | none => exact List.nil_sublist _
  | some t =>
    have hstarted := (delivered_started actionHelper step hdelivered).1
    simp only [hstarted, List.Sublist.refl]

/-- What is delivered is well-formed. -/
theorem delivered_wellFormed (start : GroundPath) (steps : List GroundStep) :
    ∀ t ∈ ((groundPath framework actionHelper).trace start steps).filterMap deliveredTelecommand,
      WellFormed t.subservice t.tcData := by
  intro t ht
  obtain ⟨e, he, hdelivered⟩ := List.mem_filterMap.mp ht
  obtain ⟨pre, step, post, -, rfl⟩ := Machine.mem_trace _ he
  exact (delivered_started actionHelper step hdelivered).2

section

variable {start : GroundPath} (idle : start.Idle) {steps : List GroundStep}
  (discipline : (groundPath framework actionHelper).Lawful (groundDiscipline framework fw) start
    steps)

include idle discipline

/-- What is delivered was sent, each telecommand as often at least. -/
theorem delivered_subperm_sent :
    let hist := (groundPath framework actionHelper).trace start steps
    (hist.filterMap deliveredTelecommand).Subperm (hist.filterMap sentTelecommand) := by
  intro hist
  obtain ⟨-, hsent, htaken⟩ := requests_run actionHelper idle discipline
  have hdelivered : (hist.filterMap deliveredTelecommand).Sublist _ :=
    delivered_sublist_started actionHelper start steps
  have hstarted : (hist.filterMap startedTelecommand).Subperm (hist.filterMap takenTelecommand) :=
    ((List.sublist_append_left _ _).trans (List.sublist_append_left _ _)).subperm.trans
      htaken.subperm
  refine (hdelivered.subperm.trans hstarted).trans ?_
  rw [show hist.filterMap sentTelecommand = _ from hsent]
  exact (List.sublist_append_left _ _).subperm

/-- Where requests are started in turn, it comes in the order of sending. -/
theorem delivered_sublist_sent
    (turn : (groundPath framework actionHelper).Lawful inTurn start steps) :
    let hist := (groundPath framework actionHelper).trace start steps
    (hist.filterMap deliveredTelecommand).Sublist (hist.filterMap sentTelecommand) := by
  intro hist
  obtain ⟨-, hsent, -⟩ := requests_run actionHelper idle discipline
  have hdelivered : (hist.filterMap deliveredTelecommand).Sublist _ :=
    delivered_sublist_started actionHelper start steps
  have hstarted : (hist.filterMap startedTelecommand).Sublist (hist.filterMap takenTelecommand) :=
    (List.sublist_append_left _ _).trans (started_in_turn actionHelper idle discipline turn)
  refine (hdelivered.trans hstarted).trans ?_
  rw [show hist.filterMap sentTelecommand = _ from hsent]
  exact List.sublist_append_left _ _

end

/-- Over a run, a service that has what it needs delivers exactly the well-formed of what it starts,
and rejects none that is well-formed. -/
theorem delivered_eq_wellFormed {start : GroundPath} (present : start.command.present = true)
    (noneHeld : start.held = []) {steps : List GroundStep}
    (able : (groundPath framework actionHelper).Lawful (serviceable framework) start steps) :
    let hist := (groundPath framework actionHelper).trace start steps
    hist.filterMap deliveredTelecommand =
        (hist.filterMap startedTelecommand).filter Telecommand.wellFormed ∧
      ∀ t ∈ hist.filterMap rejectedTelecommand, t.wellFormed = false := by
  refine (Machine.lawful_induction (R := fun hist g => Serviced framework g ∧
    hist.filterMap deliveredTelecommand =
      (hist.filterMap startedTelecommand).filter Telecommand.wellFormed ∧
    ∀ t ∈ hist.filterMap rejectedTelecommand, t.wellFormed = false)
    ⟨⟨present, by rw [noneHeld]; exact fun _ h => by cases h⟩, rfl, fun _ h => by cases h⟩ ?_ steps
    able).2
  intro hist g step hstep ⟨serviced, hall, hnone⟩
  obtain ⟨hdelivered, hrejected, hserviced⟩ :=
    delivered_of_serviceable actionHelper step hstep serviced
  refine ⟨hserviced, ?_, fun t ht => ?_⟩
  · rw [filterMap_snoc, filterMap_snoc, List.filter_append, hall, hdelivered]
    congr 1
    cases startedTelecommand ((groundPath framework actionHelper).event g step) with
    | none => rfl
    | some t => cases hformat : t.wellFormed <;> simp [hformat]
  · rw [filterMap_snoc] at ht
    rcases List.mem_append.mp ht with ht | ht
    · exact hnone t ht
    · exact hrejected t (Option.mem_toList.mp ht)

section

variable {start : GroundPath} (idle : start.Idle) (present : start.command.present = true)
  {steps : List GroundStep}
  (discipline : (groundPath framework actionHelper).Lawful (groundDiscipline framework fw) start
    steps)
  (turn : (groundPath framework actionHelper).Lawful inTurn start steps)
  (able : (groundPath framework actionHelper).Lawful (serviceable framework) start steps)

include idle present discipline turn able

/-- Where requests are started in turn, a service that has what it needs has started the well-formed
of what it took or keeps them back, in order. -/
theorem started_eq_wellFormed :
    let hist := (groundPath framework actionHelper).trace start steps
    let g := (groundPath framework actionHelper).final start steps
    (hist.filterMap startedTelecommand ++ g.heldBack framework).filter Telecommand.wellFormed =
      (hist.filterMap takenTelecommand).filter Telecommand.wellFormed := by
  intro hist g
  obtain ⟨-, -, htaken⟩ := requests_run actionHelper idle discipline
  have order := started_in_turn actionHelper idle discipline turn
  obtain ⟨-, hrejected⟩ := delivered_eq_wellFormed actionHelper present idle.noneHeld able
  -- of what was taken only what is not well-formed was rejected, so nothing well-formed is missing
  refine (order.filter _).eq_of_length ?_
  have hnone : (hist.filterMap rejectedTelecommand).filter Telecommand.wellFormed = [] := by
    refine List.filter_eq_nil_iff.mpr fun t ht => ?_
    rw [hrejected t ht]
    exact Bool.false_ne_true
  have hcount := (htaken.filter Telecommand.wellFormed).length_eq
  rw [List.filter_append, List.filter_append,
    show List.filter _ (List.filterMap rejectedTelecommand _) = _ from hnone, List.append_nil,
    ← List.filter_append] at hcount
  exact hcount

/-- What it delivers are the well-formed of what was sent, from the first on. -/
theorem delivered_prefix_sent :
    let hist := (groundPath framework actionHelper).trace start steps
    hist.filterMap deliveredTelecommand <+:
      (hist.filterMap sentTelecommand).filter Telecommand.wellFormed := by
  intro hist
  obtain ⟨-, hsent, -⟩ := requests_run actionHelper idle discipline
  have hstarted := started_eq_wellFormed actionHelper idle present discipline turn able
  rw [(delivered_eq_wellFormed actionHelper present idle.noneHeld able).1,
    show hist.filterMap sentTelecommand = _ from hsent, List.filter_append,
    ← show List.filter _ _ = (hist.filterMap takenTelecommand).filter _ from hstarted,
    List.filter_append, List.append_assoc]
  exact List.prefix_append _ _

/-- **When nothing waits, everything was served**: where requests are started in turn, a service
that has what it needs has delivered the well-formed of what was sent, in order, and the handler has
executed them. -/
theorem all_served
    (reaches : (groundPath framework actionHelper).Lawful (reachesChild fw) start steps)
    (done : ((groundPath framework actionHelper).final start steps).Idle) :
    let hist := (groundPath framework actionHelper).trace start steps
    let commanded := (hist.filterMap sentTelecommand).filter Telecommand.wellFormed
    hist.filterMap deliveredTelecommand = commanded ∧
      List.Forall₂ (Executed fw) commanded (hist.filterMap messageFate) := by
  intro hist commanded
  obtain ⟨-, hsent, -⟩ := requests_run actionHelper idle discipline
  rw [GroundPath.waiting, done.noRequests, List.filterMap_nil, List.append_nil] at hsent
  have hback : ((groundPath framework actionHelper).final start steps).heldBack framework = [] := by
    rw [GroundPath.heldBack, done.noneHeld, List.filterMap_nil]
  have hstarted : (hist.filterMap startedTelecommand ++ _).filter Telecommand.wellFormed = _ :=
    started_eq_wellFormed actionHelper idle present discipline turn able
  rw [hback, List.append_nil, ← hsent] at hstarted
  have hcommanded : hist.filterMap deliveredTelecommand = commanded :=
    (delivered_eq_wellFormed actionHelper present idle.noneHeld able).1.trans hstarted
  obtain ⟨hexecuted, hlength⟩ :=
    (executed_run actionHelper idle discipline reaches).flight.account.split
  rw [done.noMessages, List.length_nil, Nat.add_zero] at hlength
  refine ⟨hcommanded, ?_⟩
  rw [← hlength, List.take_length] at hexecuted
  exact hcommanded ▸ hexecuted

end

end

/-! ### The commands of `main` -/

/-- The checksum of a telecommand packet: CRC-16-CCITT. -/
def crc16 (bytes : List UInt8) : UInt16 :=
  let shift (crc : UInt16) : UInt16 :=
    if crc &&& 0x8000 ≠ 0 then (crc <<< 1) ^^^ 0x1021 else crc <<< 1
  bytes.foldl (fun (crc : UInt16) b => shift^[8] (crc ^^^ (b.toUInt16 <<< (8 : UInt16)))) 0xffff

/-- A telecommand packet of a known service: primary header, secondary header, application data and
checksum. -/
def pusPacket (creator : PusTcCreator) : List UInt8 :=
  let data := creator.rawAppData.getD []
  let length : UInt16 := UInt16.ofNat (data.length + 6)
  let control : UInt16 := 0xc000 ||| creator.sequenceCount
  let header : List UInt8 := [0x18, 0x01, (control >>> 8).toUInt8, control.toUInt8,
    (length >>> 8).toUInt8, length.toUInt8, 0x2f, creator.service, creator.subservice, 0, 0]
  let crc := crc16 (header ++ data)
  header ++ data ++ [(crc >>> 8).toUInt8, crc.toUInt8]

/-- Reading a packet back. -/
def pusReader : GroundFramework where
  parse bytes :=
    if bytes.length < 13 then none
    else some ⟨bytes.getD 8 0, .bytes (bytes.drop 11).dropLast.dropLast⟩
  invalidSubservice := Failure.framework 2
  handlerQueue := 5

/-- A packet is read as what it was made from. -/
theorem pusReader_pusPacket (creator : PusTcCreator) :
    pusReader.parse (pusPacket creator) =
      some ⟨creator.subservice, .bytes (creator.rawAppData.getD [])⟩ := by
  have hlength : ¬ (pusPacket creator).length < 13 := by
    simp [pusPacket]
  simp only [pusReader, if_neg hlength]
  simp [pusPacket, List.dropLast_append_of_ne_nil]

/-- A framework that grants an element at this address and takes every message. -/
def pusFsfw (a : StoreAddress) : Fsfw where
  getSerializedSize creator := (pusPacket creator).length
  getFreeElement _ := .ok a
  serializeBe creator := .ok (pusPacket creator)
  sendMessage := none

/-- The telecommands that `main` sends: set the frame rate to 24, get it, dump the parameter. -/
def mainCommands : List Telecommand :=
  [⟨2, .bytes [0, 0, 0, 0, 0, 0, 0x38, 0x40]⟩, ⟨3, .bytes []⟩, ⟨4, .bytes []⟩]

/-- The service finds the handler's queue. -/
def handlerFound : HandlerLookup := ⟨some 5, some 5⟩

/-- The base class starts a request at once, and its message is sent. -/
def startAt (a : StoreAddress) : Attempt := ⟨⟨0, 0, 0⟩, fun _ => .ok a, .start none⟩

/-- The base class keeps a request back. -/
def holdBack : Attempt := ⟨⟨0, 0, 0⟩, fun _ => .ok 9, .hold⟩

/-- `main`'s calls, with the service and the handler at work between them: the second command is
kept back until the first was executed, and the handler's base class answers the dump itself. -/
def mainRun : List GroundStep :=
  [.sendCommand 2 (.bytes [0, 0, 0, 0, 0, 0, 0x38, 0x40]) (pusFsfw 1),
    .sendCommand 3 (.null 0) (pusFsfw 2), .serve handlerFound (startAt 7),
    .sendCommand 4 (.null 0) (pusFsfw 1), .serve handlerFound holdBack,
    .handleMessage (.child .failed), .resume 0 (startAt 8), .serve handlerFound (startAt 7),
    .handleMessage (.child .failed), .handleMessage .consume]

/-- Service registered, stores found and empty. -/
def mainStart : GroundPath where
  tc := readyPath ⟨200, 0x0a⟩ fun _ => none
  held := []
  command := ⟨true, fun _ => none, [], .construct true⟩

theorem mainStart_idle : mainStart.Idle := ⟨⟨rfl, rfl⟩, rfl, rfl, rfl⟩

theorem mainRun_discipline : (groundPath pusReader (ActionHelper.direct numberedMessages)).Lawful
    (groundDiscipline pusReader numberedMessages) mainStart mainRun := by
  have hread : ∀ (fsfw : Fsfw), fsfw.serializeBe = (fun creator => .ok (pusPacket creator)) →
      ∀ creator bytes, fsfw.serializeBe creator = .ok bytes → pusReader.parse bytes =
        some ⟨creator.subservice, .bytes (creator.rawAppData.getD [])⟩ := by
    intro fsfw hfsfw creator bytes hbytes
    rw [hfsfw] at hbytes
    cases hbytes
    exact pusReader_pusPacket creator
  refine ⟨⟨fun _ a ha => ?_, hread _ rfl⟩, ⟨fun _ a ha => ?_, hread _ rfl⟩, fun _ a ha => ?_,
    ⟨fun _ a ha => ?_, hread _ rfl⟩, fun _ a ha => ?_, trivial, fun _ a ha => ?_,
    fun _ a ha => ?_, trivial, trivial, trivial⟩ <;> cases ha <;> exact not_not.mpr (by decide)

theorem mainRun_inTurn : (groundPath pusReader (ActionHelper.direct numberedMessages)).Lawful
    inTurn mainStart mainRun := by
  refine ⟨trivial, trivial, fun _ _ => rfl, trivial, fun _ h => ?_, trivial, ⟨rfl, fun h => ?_⟩,
    fun _ _ => rfl, trivial, trivial, trivial⟩ <;> cases h

theorem mainRun_serviceable : (groundPath pusReader (ActionHelper.direct numberedMessages)).Lawful
    (serviceable pusReader) mainStart mainRun := by
  have hroom : ∀ (g : GroundPath) (a : StoreAddress),
      g.command.commandQueue.length < cmdQueueSize → (startAt a).Willing g :=
    fun g a hlength => ⟨fun _ => ⟨a, rfl⟩, rfl, hlength⟩
  exact ⟨trivial, trivial, ⟨rfl, hroom _ _ (by decide)⟩, trivial, ⟨rfl, fun _ => ⟨9, rfl⟩, trivial⟩,
    trivial, hroom _ _ (by decide), ⟨rfl, hroom _ _ (by decide)⟩, trivial, trivial, trivial⟩

theorem mainRun_reachesChild : (groundPath pusReader (ActionHelper.direct numberedMessages)).Lawful
    (reachesChild numberedMessages) mainStart mainRun := by
  refine ⟨trivial, trivial, trivial, trivial, trivial, trivial, trivial, trivial, trivial, ?_,
    trivial⟩
  intro message hmessage
  cases hmessage
  decide

theorem mainRun_sent :
    ((groundPath pusReader (ActionHelper.direct numberedMessages)).trace mainStart
      mainRun).filterMap sentTelecommand = mainCommands := by
  decide +kernel

theorem mainRun_started :
    (((groundPath pusReader (ActionHelper.direct numberedMessages)).trace mainStart
      mainRun).filterMap startedTelecommand).filter Telecommand.wellFormed = mainCommands := by
  decide +kernel

theorem mainRun_fates :
    (((groundPath pusReader (ActionHelper.direct numberedMessages)).trace mainStart
      mainRun).filterMap messageFate).length = 3 := by
  decide +kernel

end FsfwFromZero
