import FsfwFromZero.Lib.Rounds
import FsfwFromZero.TelecommandEffects

/-!
# The mission comes to rest with the last rate sent

The periodic tasks give the service, the requests that its base class kept back, the handler's
messages and its command building a turn in every period.  Once the ground sends nothing more, each
period gets the mission closer to rest, in whatever order the tasks run and whatever else they do:

* `Backlog`, `Backlog.work` — requests at the service and kept back, messages at the handler and
  commands pending, and how many turns they may take;
* `backlog_turnTo`, `backlog_handleMessage`, `backlog_overrideCall` — what each step does to the
  backlog;
* `groundProgress` — **a step works off the backlog or leaves it**, and while there is a backlog one
  of the four turns works some of it off;
* `ground_settles` — **eventual consistency**: after as many periods as the backlog may take turns
  nothing is left, every well-formed telecommand was executed, and the rate in force is that of the
  last well-formed set-frame-rate telecommand that was sent.
-/

namespace FsfwFromZero

open Lib WebcamCommandingService

/-- Does the base class come to a decision about the request? -/
def BaseAnswer.settles : BaseAnswer → Bool
  | .reject _ => true
  | .hold => false
  | .start _ => true

/-- Who has a turn in every period: the service, the first request kept back, the handler's messages
and its command building. -/
inductive Turn
  | service
  | held
  | messages
  | commands
  deriving Repr, DecidableEq

def GroundStep.turn : GroundStep → Option Turn
  | .sendCommand _ _ _ => none
  | .serve _ _ => some .service
  | .resume which attempt => if which = 0 ∧ attempt.base.settles then some .held else none
  | .handleMessage _ => some .messages
  | .overrideCall call => if call = .buildNormalDeviceCommand true then some .commands else none
  | .otherUsers _ _ => none

/-- Does this step neither send a telecommand nor request a command of its own accord? -/
def GroundStep.routine : GroundStep → Bool
  | .sendCommand _ _ _ => false
  | .overrideCall call => !call.isRequest
  | _ => true

/-- What is still to be done. -/
@[ext] structure Backlog where
  requests : Nat
  held : Nat
  messages : Nat
  commands : Nat
  deriving Repr, DecidableEq

/-- How many turns it may take: a request may be kept back, become a message and then a command. -/
def Backlog.work (b : Backlog) : Nat :=
  4 * b.requests + 3 * b.held + 2 * b.messages + b.commands

def Backlog.needed (b : Backlog) : Turn :=
  if b.requests ≠ 0 then .service
  else if b.held ≠ 0 then .held
  else if b.messages ≠ 0 then .messages
  else .commands

theorem Backlog.needed_spec (b : Backlog) (hwork : 0 < b.work) :
    (b.needed = .service → 0 < b.requests) ∧ (b.needed = .held → 0 < b.held) ∧
      (b.needed = .messages → 0 < b.messages) ∧ (b.needed = .commands → 0 < b.commands) := by
  unfold work at hwork
  unfold needed
  split_ifs with hrequests hheld hmessages
  · simpa using Nat.pos_of_ne_zero hrequests
  · simpa using Nat.pos_of_ne_zero hheld
  · simpa using Nat.pos_of_ne_zero hmessages
  · simp
    omega

def GroundPath.backlog (g : GroundPath) : Backlog where
  requests := g.tc.requestQueue.length
  held := g.held.length
  messages := g.command.commandQueue.length
  commands := g.command.handler.board.pendingCount

/-! ### Commands pending -/

namespace RequestBoard

theorem pendingCount_request (b : RequestBoard) (k : CommandId) (rate : Option Double) :
    (b.apply (.request k rate)).pendingCount ≤ b.pendingCount + 1 := by
  have hs := Bool.toNat_le (b.pending .commandTakeSnapshot)
  have hc := Bool.toNat_le (b.pending .commandSetFrameRate)
  have hg := Bool.toNat_le (b.pending .commandGetFrameRate)
  cases k <;> simp [pendingCount, apply] <;> omega

theorem pendingCount_eq_zero (b : RequestBoard) : b.pendingCount = 0 ↔ ∀ k, b.pending k = false := by
  constructor
  · intro hzero k
    unfold pendingCount at hzero
    cases k <;> rw [← Bool.toNat_eq_zero] <;> omega
  · intro hnone
    simp [pendingCount, hnone]

end RequestBoard

/-- The request of a telecommand adds one pending command at most. -/
theorem pendingCount_requests (h : WebcamDeviceHandler) (com : h.communicationInterface = true)
    (t : Telecommand) :
    (handler.final h t.requests).board.pendingCount ≤ h.board.pendingCount + 1 := by
  cases hk : commandOfSubservice t.subservice with
  | none =>
    rw [Telecommand.requests, hk]
    exact Nat.le_succ _
  | some k =>
    rw [Telecommand.requests, hk]
    show (h.step (.buildCommandFromCommand k.toRaw (.bytes t.tcData.data))).2.board.pendingCount ≤ _
    rw [h.board_step com]
    simp only [Call.actionOf, CommandId.cast_toRaw]
    exact h.board.pendingCount_request k _

/-- A call that requests nothing works off a pending command or leaves the pending as they are. -/
theorem pendingCount_routine (h : WebcamDeviceHandler) (com : h.communicationInterface = true)
    (call : Call) (hrequest : call.isRequest = false) :
    (h.step call).2.board.pendingCount < h.board.pendingCount ∨
      (h.step call).2.board.pendingCount = h.board.pendingCount := by
  rw [h.board_step com call]
  cases haction : call.actionOf (h.step call).1 with
  | request k rate =>
    obtain ⟨data, rfl⟩ := actionOf_request haction
    cases hrequest
  | emit k =>
    have hpending := pending_of_emission h call com ((emission_iff h call com k).mpr haction)
    have hcount := h.board.pendingCount_emit k hpending
    exact Or.inl (by omega)
  | report => exact Or.inr rfl
  | forget => exact Or.inr rfl
  | write rate => exact Or.inr rfl
  | idle => exact Or.inr rfl

/-- A build works off a pending command. -/
theorem pendingCount_build (h : WebcamDeviceHandler) (com : h.communicationInterface = true)
    (hpending : 0 < h.board.pendingCount) :
    (h.step (.buildNormalDeviceCommand true)).2.board.pendingCount < h.board.pendingCount := by
  cases hnext : h.board.next with
  | none =>
    rw [(RequestBoard.pendingCount_eq_zero _).mpr ((RequestBoard.next_eq_none _).mp hnext)]
      at hpending
    cases hpending
  | some k =>
    have hk := ((RequestBoard.next_eq_some _ _).mp hnext).1
    have hcount := h.board.pendingCount_emit k hk
    have hstep : (h.step (.buildNormalDeviceCommand true)).2 =
        (h.served k).prepareReply k.toRaw := by
      rw [WebcamDeviceHandler.step, h.buildNormalDeviceCommand_eq com, hnext]
    rw [hstep, WebcamDeviceHandler.board_served h com k]
    omega

/-! ### One step -/

section

variable {fw : FwMessages} (framework : GroundFramework) (actionHelper : ActionHelper fw)

/-- A step of the tasks: the stores are respected, and nothing is sent or requested. -/
def taskGuard (fw : FwMessages) (past : List GroundEvent) (g : GroundPath) (step : GroundStep) :
    Prop :=
  groundDiscipline framework fw past g step ∧ step.routine = true

/-- The messages in flight carry telecommands, and the handler has a communication interface. -/
structure Underway (fw : FwMessages) (past : List GroundEvent) (g : GroundPath) : Prop where
  flight : GroundFlight fw (Fated fw) past g
  com : g.command.handler.communicationInterface = true

variable {framework} {past : List GroundEvent} {g : GroundPath}

theorem underway_step (step : GroundStep) (discipline : groundDiscipline framework fw past g step)
    (inv : Underway fw past g) :
    Underway fw (past ++ [(groundPath framework actionHelper).event g step])
      ((groundPath framework actionHelper).step g step).2 := by
  refine ⟨groundFlight_step actionHelper step discipline (fun _ _ h => h)
    (fun _ _ _ _ _ => trivial) inv.flight, ?_⟩
  have hhandler := handler_of_ground framework actionHelper g [step]
  rw [show ((groundPath framework actionHelper).step g step).2.command.handler = _ from
    hhandler.symm, final_communicationInterface, inv.com]

variable (framework fw) in
/-- **Turning to a request** brings one message at most, or the request is kept back. -/
theorem backlog_turnTo (g : GroundPath) (source : RequestSource) (storeId : StoreAddress)
    (attempt : Attempt) (ask : Telecommand → Option MessageQueueId × BaseAnswer) :
    let next := (g.turnTo framework fw source storeId attempt ask).2
    next.backlog.requests = g.backlog.requests ∧ next.backlog.commands = g.backlog.commands ∧
      (next.backlog.held = g.backlog.held ∧ next.backlog.messages ≤ g.backlog.messages + 1 ∨
        next.backlog.held = g.backlog.held + 1 ∧ next.backlog.messages = g.backlog.messages ∧
          ∃ t, (ask t).2 = .hold) := by
  intro next
  have hnext : next = (g.turnTo framework fw source storeId attempt ask).2 := rfl
  rcases turnTo_cases framework fw g source storeId attempt ask with
    ⟨-, hresult⟩ | ⟨t, -, ⟨code, -, hresult⟩ | ⟨hhold, hresult⟩ | ⟨sendMessage, -, hresult⟩⟩
  · rw [hnext, hresult]
    exact ⟨rfl, rfl, Or.inl ⟨rfl, Nat.le_succ _⟩⟩
  · rw [hnext, hresult]
    exact ⟨rfl, rfl, Or.inl ⟨rfl, Nat.le_succ _⟩⟩
  · rw [hnext, hresult]
    refine ⟨rfl, rfl, Or.inr ⟨?_, rfl, t, hhold⟩⟩
    exact List.length_append
  · rw [hnext, hresult]
    refine ⟨rfl, rfl, Or.inl ⟨rfl, ?_⟩⟩
    simp only [GroundPath.backlog, CommandPath.start]
    split
    · rw [List.length_append]
      exact Nat.le_refl _
    · exact Nat.le_succ _

/-- Taking a request works some of it off. -/
theorem backlog_serve (lookup : HandlerLookup) (attempt : Attempt) :
    let next := ((groundPath framework actionHelper).step g (.serve lookup attempt)).2
    (0 < g.backlog.requests ∧ next.backlog.work < g.backlog.work) ∨
      g.backlog.requests = 0 ∧ next.backlog = g.backlog := by
  intro next
  cases hqueue : g.tc.requestQueue with
  | nil =>
    refine Or.inr ⟨by simp [GroundPath.backlog, hqueue], ?_⟩
    rw [show next = g from congrArg Prod.snd (serve_nil framework actionHelper lookup attempt
      hqueue)]
  | cons storeId rest =>
    let popped : GroundPath := { g with tc := { g.tc with requestQueue := rest } }
    have hnext : next = (popped.turnTo framework fw .requestQueue storeId attempt
        (routed framework lookup attempt)).2 :=
      congrArg Prod.snd (serve_cons framework actionHelper lookup attempt hqueue)
    obtain ⟨hrequests, hcommands, hways⟩ := backlog_turnTo fw framework popped .requestQueue storeId
      attempt (routed framework lookup attempt)
    rw [← hnext] at hrequests hcommands hways
    have hall : g.backlog.requests = popped.backlog.requests + 1 := by
      simp [GroundPath.backlog, hqueue, popped]
    have hheld : popped.backlog.held = g.backlog.held := rfl
    have hmessages : popped.backlog.messages = g.backlog.messages := rfl
    have hpending : popped.backlog.commands = g.backlog.commands := rfl
    refine Or.inl ⟨by omega, ?_⟩
    simp only [Backlog.work]
    rcases hways with ⟨h, h'⟩ | ⟨h, h', -⟩ <;> omega

/-- Turning to a request that was kept back works it off, unless it is kept back again. -/
theorem backlog_resume (which : Nat) (attempt : Attempt) :
    let next := ((groundPath framework actionHelper).step g (.resume which attempt)).2
    (next.backlog.work < g.backlog.work ∨ next.backlog = g.backlog) ∧
      (which < g.backlog.held → attempt.base.settles = true →
        next.backlog.work < g.backlog.work) := by
  intro next
  cases hheld : g.held[which]? with
  | none =>
    have hnone : next = g :=
      congrArg Prod.snd (resume_none framework actionHelper which attempt hheld)
    refine ⟨Or.inr (by rw [hnone]), fun hsome => ?_⟩
    exact absurd hsome (Nat.not_lt.mpr (List.getElem?_eq_none_iff.mp hheld))
  | some request =>
    let picked : GroundPath := { g with held := g.held.eraseIdx which }
    have hnext : next = (picked.turnTo framework fw .held request.storeId attempt
        fun _ => (request.queue, attempt.base)).2 :=
      congrArg Prod.snd (resume_some framework actionHelper which attempt hheld)
    obtain ⟨hrequests, hcommands, hways⟩ := backlog_turnTo fw framework picked .held
      request.storeId attempt fun _ => (request.queue, attempt.base)
    rw [← hnext] at hrequests hcommands hways
    have hall : g.backlog.held = picked.backlog.held + 1 := (held_perm hheld).length_eq.symm
    have hqueue : picked.backlog.requests = g.backlog.requests := rfl
    have hmessages : picked.backlog.messages = g.backlog.messages := rfl
    have hpending : picked.backlog.commands = g.backlog.commands := rfl
    rcases hways with ⟨hback, hone⟩ | ⟨hback, hnone, _, hhold⟩
    · have hless : next.backlog.work < g.backlog.work := by
        simp only [Backlog.work]
        omega
      exact ⟨Or.inl hless, fun _ _ => hless⟩
    · refine ⟨Or.inr (Backlog.ext ?_ ?_ ?_ ?_), fun _ hsettles => ?_⟩
      · omega
      · omega
      · omega
      · omega
      · rw [show attempt.base = .hold from hhold] at hsettles
        cases hsettles

/-- Handling a message works it off: it brings one command at most. -/
theorem backlog_handleMessage (routing : Routing) (inv : Underway fw past g) :
    let next := ((groundPath framework actionHelper).step g (.handleMessage routing)).2
    (0 < g.backlog.messages ∧ next.backlog.work < g.backlog.work) ∨
      g.backlog.messages = 0 ∧ next.backlog = g.backlog := by
  intro next
  obtain ⟨⟨flight, -⟩, hcom⟩ := inv
  cases hqueue : g.command.commandQueue with
  | nil =>
    refine Or.inr ⟨by simp [GroundPath.backlog, hqueue], ?_⟩
    rw [show next = g from congrArg Prod.snd (handleMessage_nil framework actionHelper routing
      hqueue)]
  | cons message rest =>
    have hmessages : g.backlog.messages = rest.length + 1 := by simp [GroundPath.backlog, hqueue]
    have hrest : next.backlog.requests = g.backlog.requests ∧
        next.backlog.held = g.backlog.held ∧ next.backlog.messages = rest.length ∧
        next.backlog.commands ≤ g.backlog.commands + 1 := by
      cases routing with
      | consume =>
        rw [show next = _ from congrArg Prod.snd (handleMessage_consume framework actionHelper
          hqueue)]
        exact ⟨rfl, rfl, rfl, Nat.le_succ _⟩
      | child base =>
        rw [show next = _ from congrArg Prod.snd (handleMessage_child framework actionHelper base
          hqueue)]
        refine ⟨rfl, rfl, rfl, ?_⟩
        -- the message carries a telecommand, whose request is all the handler executes
        obtain ⟨t, hcarry, -⟩ := flight.take hqueue
        have hserved := (served_of_carries actionHelper g.command base t message rest hcarry
          (hqueue ▸ flight.distinct)).1
        have hone := pendingCount_requests g.command.handler hcom t
        rw [← fateCalls_of_served hserved] at hone
        rw [show handler.final g.command.handler (fateCalls _) = _ from final_executed _ _] at hone
        rw [show (g.command.handle actionHelper base message rest).1.result.executed.foldl _ _ = _
          from (letChildHandleMessage_handler actionHelper base g.command.handler
            g.command.ipcStore (some message)).symm] at hone
        exact hone
    refine Or.inl ⟨by omega, ?_⟩
    simp only [Backlog.work]
    omega

/-- A call that requests nothing works off a pending command or leaves the backlog. -/
theorem backlog_overrideCall (call : Call) (hrequest : call.isRequest = false)
    (inv : Underway fw past g) :
    let next := ((groundPath framework actionHelper).step g (.overrideCall call)).2
    next.backlog.work < g.backlog.work ∨ next.backlog = g.backlog := by
  intro next
  have hcommands : next.backlog.commands =
      (g.command.handler.step call).2.board.pendingCount := rfl
  rcases pendingCount_routine g.command.handler inv.com call hrequest with hless | hsame
  · refine Or.inl (Nat.add_lt_add_left ?_ _)
    rw [hcommands]
    exact hless
  · exact Or.inr (Backlog.ext rfl rfl rfl hsame)

variable (framework)

/-- **A step works off the backlog or leaves it**, and while there is a backlog one of the turns
works some of it off. -/
def groundProgress : Progress (groundPath framework actionHelper) (taskGuard framework fw)
    (Underway fw) Turn Backlog where
  view := GroundPath.backlog
  work := Backlog.work
  kind := GroundStep.turn
  needed := Backlog.needed
  keep past g step hstep inv := underway_step actionHelper step hstep.1 inv
  step past g step hstep inv := by
    obtain ⟨-, hroutine⟩ := hstep
    cases step with
    | sendCommand subservice data fsfw => cases hroutine
    | otherUsers ipcStore tcStore => exact Or.inr rfl
    | overrideCall call =>
      exact backlog_overrideCall actionHelper call (Bool.not_eq_true' _ ▸ hroutine) inv
    | resume which attempt => exact (backlog_resume actionHelper which attempt).1
    | handleMessage routing =>
      rcases backlog_handleMessage actionHelper routing inv with ⟨-, hless⟩ | ⟨-, hsame⟩
      · exact Or.inl hless
      · exact Or.inr hsame
    | serve lookup attempt =>
      rcases backlog_serve actionHelper lookup attempt with ⟨-, hless⟩ | ⟨-, hsame⟩
      · exact Or.inl hless
      · exact Or.inr hsame
  helps past g step hstep inv hwork hturn := by
    obtain ⟨hservice, hheld, hmessages, hcommands⟩ := g.backlog.needed_spec hwork
    cases step with
    | sendCommand subservice data fsfw => cases hturn
    | otherUsers ipcStore tcStore => cases hturn
    | serve lookup attempt =>
      have hsome := hservice (Option.some.inj hturn).symm
      rcases backlog_serve actionHelper lookup attempt with ⟨-, hless⟩ | ⟨hnone, -⟩
      · exact hless
      · omega
    | resume which attempt =>
      by_cases hfirst : which = 0 ∧ attempt.base.settles = true
      · rw [GroundStep.turn, if_pos hfirst] at hturn
        obtain ⟨rfl, hsettles⟩ := hfirst
        exact (backlog_resume actionHelper 0 attempt).2 (hheld (Option.some.inj hturn).symm) hsettles
      · rw [GroundStep.turn, if_neg hfirst] at hturn
        cases hturn
    | handleMessage routing =>
      have hsome := hmessages (Option.some.inj hturn).symm
      rcases backlog_handleMessage actionHelper routing inv with ⟨-, hless⟩ | ⟨hnone, -⟩
      · exact hless
      · omega
    | overrideCall call =>
      have hcall : call = .buildNormalDeviceCommand true := by
        by_contra hne
        rw [GroundStep.turn, if_neg hne] at hturn
        cases hturn
      subst hcall
      have hsome := hcommands (Option.some.inj hturn).symm
      exact Nat.add_lt_add_left (pendingCount_build g.command.handler inv.com hsome) _

/-! ### Every run -/

variable {framework}

section

variable {start : GroundPath} (idle : start.Idle)
  (fresh : start.command.handler = freshHandler)

include idle fresh

/-- A mission that respects the stores is underway. -/
theorem underway_run {steps : List GroundStep}
    (discipline : (groundPath framework actionHelper).Lawful (groundDiscipline framework fw) start
      steps) :
    Underway fw ((groundPath framework actionHelper).trace start steps)
      ((groundPath framework actionHelper).final start steps) := by
  refine ⟨flight_run actionHelper idle discipline, ?_⟩
  rw [← handler_of_ground framework actionHelper start steps, final_communicationInterface, fresh]
  rfl

variable (before : List GroundStep) (rounds : List (List GroundStep))
  (turns : ∀ round ∈ rounds, ∀ turn, ∃ step ∈ round, GroundStep.turn step = some turn)
  (routine : ∀ step ∈ rounds.flatten, GroundStep.routine step = true)
  (enough : ((groundPath framework actionHelper).final start before).backlog.work ≤ rounds.length)

include turns routine enough

/-- **The backlog is worked off** in as many periods as it may take turns. -/
theorem backlog_exhausted
    (discipline : (groundPath framework actionHelper).Lawful (groundDiscipline framework fw) start
      (before ++ rounds.flatten)) :
    let g := (groundPath framework actionHelper).final start (before ++ rounds.flatten)
    g.Idle ∧ ∀ k, g.command.handler.board.pending k = false := by
  intro g
  have hguard := (Machine.lawfulFrom_append _ _ _ _).mp discipline
  have hdone := (groundProgress framework actionHelper).rounds_exhaust _ _ rounds
    (Machine.lawfulFrom_and _ _ _ hguard.2 routine) (underway_run actionHelper idle fresh hguard.1)
    turns enough
  rw [← Machine.final_append] at hdone
  have hzero : 4 * g.tc.requestQueue.length + 3 * g.held.length +
      2 * g.command.commandQueue.length + g.command.handler.board.pendingCount = 0 := hdone
  refine ⟨⟨(requests_run actionHelper idle discipline).tidy.ready,
    List.eq_nil_of_length_eq_zero (by omega), List.eq_nil_of_length_eq_zero (by omega),
    List.eq_nil_of_length_eq_zero (by omega)⟩, ?_⟩
  exact (RequestBoard.pendingCount_eq_zero _).mp (by omega)

end

end

/-! ### Two telecommands -/

/-- A period of the tasks: the base class keeps every request back for a moment. -/
def taskPeriod : List GroundStep :=
  [.serve handlerFound holdBack, .resume 0 (startAt 7), .handleMessage (.child .failed),
    .overrideCall (.buildNormalDeviceCommand true)]

/-- `30.0`. -/
def thirty : Double := ⟨0, 0, 0, 0, 0, 0, 0x3e, 0x40⟩

/-- Two rates are sent; the second is kept back while the first is with the handler. -/
def twoRates : List GroundStep :=
  [.sendCommand 2 (.bytes twentyFour.toBytes) (pusFsfw 1),
    .sendCommand 2 (.bytes thirty.toBytes) (pusFsfw 2), .serve handlerFound (startAt 7),
    .serve handlerFound holdBack, .handleMessage (.child .failed)]

/-- The two rates and four periods after them. -/
def twoRatesSettled : List GroundStep := twoRates ++ (List.replicate 4 taskPeriod).flatten

theorem twoRatesSettled_discipline :
    (groundPath pusReader (ActionHelper.direct numberedMessages)).Lawful
      (groundDiscipline pusReader numberedMessages) mainStart twoRatesSettled := by
  refine ⟨⟨fun _ a ha => ?_, fun creator bytes hbytes => ?_⟩,
    ⟨fun _ a ha => ?_, fun creator bytes hbytes => ?_⟩, fun _ a ha => ?_, fun _ a ha => ?_, trivial,
    fun _ a ha => ?_, fun _ a ha => ?_, trivial, trivial, fun _ a ha => ?_, fun _ a ha => ?_,
    trivial, trivial, fun _ a ha => ?_, fun _ a ha => ?_, trivial, trivial, fun _ a ha => ?_,
    fun _ a ha => ?_, trivial, trivial, trivial⟩
  case refine_2 =>
    cases hbytes
    exact pusReader_pusPacket creator
  case refine_4 =>
    cases hbytes
    exact pusReader_pusPacket creator
  all_goals
    cases ha
    exact not_not.mpr (by decide)

theorem twoRatesSettled_serviceable :
    (groundPath pusReader (ActionHelper.direct numberedMessages)).Lawful (serviceable pusReader)
      mainStart twoRatesSettled := by
  have hhold : ∀ g : GroundPath, holdBack.Willing g := fun g => ⟨fun _ => ⟨9, rfl⟩, trivial⟩
  have hstart : ∀ g : GroundPath, g.command.commandQueue.length < cmdQueueSize →
      (startAt 7).Willing g := fun g hroom => ⟨fun _ => ⟨7, rfl⟩, rfl, hroom⟩
  refine ⟨trivial, trivial, ⟨rfl, hstart _ ?_⟩, ⟨rfl, hhold _⟩, trivial, ⟨rfl, hhold _⟩,
    hstart _ ?_, trivial, trivial, ⟨rfl, hhold _⟩, hstart _ ?_, trivial, trivial, ⟨rfl, hhold _⟩,
    hstart _ ?_, trivial, trivial, ⟨rfl, hhold _⟩, hstart _ ?_, trivial, trivial, trivial⟩ <;>
    decide

theorem twoRatesSettled_inTurn :
    (groundPath pusReader (ActionHelper.direct numberedMessages)).Lawful inTurn mainStart
      twoRatesSettled := by
  refine ⟨trivial, trivial, fun _ _ => rfl, fun _ h => ?_, trivial, fun _ h => ?_,
    ⟨rfl, fun h => ?_⟩, trivial, trivial, fun _ h => ?_, ⟨rfl, fun h => ?_⟩, trivial, trivial,
    fun _ h => ?_, ⟨rfl, fun h => ?_⟩, trivial, trivial, fun _ h => ?_, ⟨rfl, fun h => ?_⟩,
    trivial, trivial, trivial⟩ <;> cases h

theorem twoRatesSettled_reachesChild :
    (groundPath pusReader (ActionHelper.direct numberedMessages)).Lawful
      (reachesChild numberedMessages) mainStart twoRatesSettled :=
  ⟨trivial, trivial, trivial, trivial, trivial, trivial, trivial, trivial, trivial, trivial, trivial,
    trivial, trivial, trivial, trivial, trivial, trivial, trivial, trivial, trivial, trivial,
    trivial⟩

theorem twoRatesSettled_unprompted :
    (groundPath pusReader (ActionHelper.direct numberedMessages)).Lawful unpromptedOverrides
      mainStart twoRatesSettled :=
  ⟨trivial, trivial, trivial, trivial, trivial, trivial, trivial, trivial, rfl, trivial, trivial,
    trivial, rfl, trivial, trivial, trivial, rfl, trivial, trivial, trivial, rfl, trivial⟩

/-- A request is kept back and a command is pending. -/
theorem twoRates_backlog :
    ((groundPath pusReader (ActionHelper.direct numberedMessages)).final mainStart
      twoRates).backlog.work = 4 := by
  decide +kernel

theorem twoRatesSettled_rate :
    lastValue telecommandRate .zero
      ((((groundPath pusReader (ActionHelper.direct numberedMessages)).trace mainStart
        twoRatesSettled).filterMap sentTelecommand).filter Telecommand.wellFormed) = thirty := by
  decide +kernel

theorem taskPeriod_turns (turn : Turn) :
    ∃ step ∈ taskPeriod, GroundStep.turn step = some turn := by
  cases turn with
  | service => exact ⟨.serve handlerFound holdBack, by simp [taskPeriod], rfl⟩
  | held => exact ⟨.resume 0 (startAt 7), by simp [taskPeriod], rfl⟩
  | messages => exact ⟨.handleMessage (.child .failed), by simp [taskPeriod], rfl⟩
  | commands => exact ⟨.overrideCall (.buildNormalDeviceCommand true), by simp [taskPeriod], rfl⟩

theorem taskPeriod_routine : ∀ step ∈ taskPeriod, GroundStep.routine step = true := by
  intro step hstep
  simp only [taskPeriod, List.mem_cons, List.not_mem_nil, or_false] at hstep
  rcases hstep with rfl | rfl | rfl | rfl <;> rfl

end FsfwFromZero
