import FsfwFromZero.Lib.Slot
import FsfwFromZero.Handler.PendingHistory

/-!
# The reply slot: which replies are collected

An emission fabricates a reply (`prepareReply`) into a slot that holds one reply; a later
`scanForReply` collects it and the framework hands its id to `interpretDeviceReply`.  Nothing in the
build path looks at the slot.  For runs in which the framework interprets exactly what its scans
report (`frameworkScans`):

* `signalOf` — an emission is a put, a successful scan a take, and `slot_invariant` ties the
  handler's latches to the slot these signals drive;
* `reports_are_kept_emissions` — **collected and waiting replies are the emissions that no later
  emission replaced**, in order; where every emission found the slot empty, they are all emissions;
* `reply_lost_when_replaced` — two builds in a row lose the first reply.
-/

namespace FsfwFromZero

open Lib

/-! ### What a history emitted and reported -/

/-- The id a build returned with `OK`. -/
def emittedId (e : CallEvent) : Option DeviceCommandId :=
  match e.input with
  | .buildNormalDeviceCommand _ => if e.output.ret = .ok then e.output.id.join else none
  | _ => none

/-- The id a scan stored when it returned `OK`. -/
def reportedReply (e : CallEvent) : Option ReplyId :=
  match e.input with
  | .scanForReply _ _ => if e.output.ret = .ok then e.output.id else none
  | _ => none

def emittedIds (hist : List CallEvent) : List DeviceCommandId := hist.filterMap emittedId

def reportedIds (hist : List CallEvent) : List ReplyId := hist.filterMap reportedReply

/-- The reply the last event reported. -/
def lastReport (hist : List CallEvent) : Option ReplyId := hist.getLast?.bind reportedReply

/-- The id a call interprets, if it is a call of `interpretDeviceReply`. -/
def Call.interpreted : Call → Option ReplyId
  | .interpretDeviceReply id => some id
  | _ => none

/-- Is this a scan without a place for the id it finds? -/
def Call.scansBlindly : Call → Bool
  | .scanForReply false _ => true
  | _ => false

/-- The framework scans with valid pointers, and interprets a reported reply at once and only then.
-/
def frameworkScans (hist : List CallEvent) (_ : WebcamDeviceHandler) (call : Call) : Prop :=
  (∀ id ∈ lastReport hist, call = .interpretDeviceReply id) ∧
    (lastReport hist = none → call.interpreted = none ∧ call.scansBlindly = false)

instance (hist : List CallEvent) (h : WebcamDeviceHandler) (call : Call) :
    Decidable (frameworkScans hist h call) :=
  match hlast : lastReport hist with
  | none =>
      decidable_of_iff (call.interpreted = none ∧ call.scansBlindly = false)
        (by simp [frameworkScans, hlast])
  | some id =>
      decidable_of_iff (call = .interpretDeviceReply id) (by simp [frameworkScans, hlast])

theorem frameworkScans_interpret {hist : List CallEvent} {h : WebcamDeviceHandler} {id : ReplyId}
    (scans : frameworkScans hist h (.interpretDeviceReply id)) : lastReport hist = some id := by
  cases hlast : lastReport hist with
  | none => exact absurd (scans.2 hlast).1 (by simp [Call.interpreted])
  | some id' =>
    have hid := scans.1 id' hlast
    cases hid
    rfl

theorem frameworkScans_valid {hist : List CallEvent} {h : WebcamDeviceHandler} {call : Call}
    (scans : frameworkScans hist h call) : ∀ q, call ≠ .scanForReply false q := by
  intro q hcall
  subst hcall
  cases hlast : lastReport hist with
  | none => exact absurd (scans.2 hlast).2 (by simp [Call.scansBlindly])
  | some id => exact absurd (scans.1 id hlast) (by simp)

/-- An emission is a put into the reply slot, a successful scan a take. -/
def signalOf (e : CallEvent) : Option (Signal DeviceCommandId) :=
  match e.input with
  | .buildNormalDeviceCommand _ => (emittedId e).map .put
  | .scanForReply _ _ => if e.output.ret = .ok then some .take else none
  | _ => none

def signals (hist : List CallEvent) : List (Signal DeviceCommandId) := hist.filterMap signalOf

/-- The emissions that no other emission replaced before a successful scan. -/
def keptIds (hist : List CallEvent) : List DeviceCommandId := Signal.kept (signals hist)

theorem puts_signals (hist : List CallEvent) : Signal.puts (signals hist) = emittedIds hist := by
  induction hist with
  | nil => rfl
  | cons e hist ih =>
    have hcons : Signal.puts (signals (e :: hist)) =
        (emittedId e).toList ++ Signal.puts (signals hist) := by
      cases hi : e.input with
      | buildNormalDeviceCommand p =>
        cases he : emittedId e <;> simp [signals, signalOf, hi, he, Signal.puts]
      | scanForReply p q =>
        have he : emittedId e = none := by simp [emittedId, hi]
        by_cases hr : e.output.ret = .ok <;> simp [signals, signalOf, hi, hr, he, Signal.puts]
      | _ => simp [signals, signalOf, emittedId, hi]
    rw [hcons, ih]
    cases he : emittedId e <;> simp [emittedIds, he]

theorem signals_snoc (hist : List CallEvent) (e : CallEvent) :
    signals (hist ++ [e]) = signals hist ++ (signalOf e).toList := by
  cases he : signalOf e <;> simp [signals, he]

theorem reportedIds_snoc (hist : List CallEvent) (e : CallEvent) :
    reportedIds (hist ++ [e]) = reportedIds hist ++ (reportedReply e).toList := by
  cases he : reportedReply e <;> simp [reportedIds, he]

theorem lastReport_snoc (hist : List CallEvent) (e : CallEvent) :
    lastReport (hist ++ [e]) = reportedReply e := by
  simp [lastReport]

/-- A report just made leaves the slot empty. -/
theorem content_of_lastReport {hist : List CallEvent} {id : ReplyId}
    (hlast : lastReport hist = some id) : Signal.content (signals hist) = none := by
  rcases List.eq_nil_or_concat hist with rfl | ⟨hist, e, rfl⟩
  · simp [lastReport] at hlast
  · rw [List.concat_eq_append] at hlast ⊢
    rw [lastReport_snoc] at hlast
    have he : signalOf e = some .take := by
      cases hi : e.input with
      | scanForReply p q =>
        simp only [reportedReply, hi] at hlast
        split at hlast
        · rename_i hr
          simp [signalOf, hi, hr]
        · cases hlast
      | _ => simp [reportedReply, hi] at hlast
    rw [signals_snoc, he]
    exact Signal.content_snoc _ _

/-! ### The latches are the slot -/

/-- The signal of a call is its action on the board's reply. -/
theorem signalOf_event (h : WebcamDeviceHandler) (com : h.communicationInterface = true)
    (call : Call) : signalOf (handler.event h call) =
      match call.actionOf (h.step call).1 with
      | .emit k => some (.put k.toRaw)
      | .report => some .take
      | _ => none := by
  cases call with
  | buildNormalDeviceCommand p =>
    cases p with
    | false => rfl
    | true =>
      simp only [signalOf, emittedId, Machine.event_input, Machine.event_output, handler_step,
        WebcamDeviceHandler.step, Call.actionOf,
        WebcamDeviceHandler.buildNormalDeviceCommand_answer h com]
      cases h.board.next <;> simp
  | buildCommandFromCommand c data =>
    simp only [signalOf, Machine.event_input, Call.actionOf]
    cases CommandId.cast c <;> rfl
  | scanForReply p q =>
    simp only [signalOf, Machine.event_input, Machine.event_output, handler_step, Call.actionOf]
    split <;> simp_all
  | getParameter d p w nv i base =>
    simp only [signalOf, Machine.event_input, Call.actionOf]
    cases Call.suppliedRate (.getParameter d p w nv i base) (h.step _).1 <;> rfl
  | _ => rfl

/-- A scan with a valid pointer that is answered `OK` reports the id in the latch; no other call
reports anything. -/
theorem reportedReply_event (h : WebcamDeviceHandler) (call : Call)
    (valid : ∀ q, call ≠ .scanForReply false q) : reportedReply (handler.event h call) =
      match call.actionOf (h.step call).1 with
      | .report => some h.fabricatedReplyId
      | _ => none := by
  cases call with
  | buildNormalDeviceCommand p =>
    simp only [reportedReply, Machine.event_input, Call.actionOf]
    split
    · rename_i heq
      split at heq
      · split at heq <;> cases heq
      · cases heq
    · rfl
  | buildCommandFromCommand c data =>
    simp only [reportedReply, Machine.event_input, Call.actionOf]
    cases CommandId.cast c <;> rfl
  | scanForReply p q =>
    cases p with
    | false => exact absurd rfl (valid q)
    | true =>
      cases hr : h.replyReady <;>
        simp [reportedReply, Call.actionOf, WebcamDeviceHandler.step,
          WebcamDeviceHandler.scanForReply, hr]
  | getParameter d p w nv i base =>
    simp only [reportedReply, Machine.event_input, Call.actionOf]
    cases Call.suppliedRate (.getParameter d p w nv i base) (h.step _).1 <;> rfl
  | _ => rfl

/-- Only a scan that found a reply is a report. -/
theorem replyReady_of_report {h : WebcamDeviceHandler} {call : Call}
    (hact : call.actionOf (h.step call).1 = .report) : h.replyReady = true := by
  have hcases := actionOf_cases call (h.step call).1
  simp only [hact, reduceCtorEq, and_false, exists_false, or_false, false_or, and_true] at hcases
  obtain ⟨p, q, rfl, hret⟩ := hcases
  cases hr : h.replyReady with
  | true => rfl
  | false => simp [WebcamDeviceHandler.step, WebcamDeviceHandler.scanForReply, hr] at hret

/-- A scan that reports an id found it waiting in the slot. -/
theorem reply_of_report {h : WebcamDeviceHandler} {call : Call} {id : ReplyId}
    (hreport : reportedReply (handler.event h call) = some id) :
    call.actionOf (h.step call).1 = .report ∧ h.board.reply = some id := by
  cases call with
  | scanForReply p q =>
    cases hr : h.replyReady with
    | false =>
      simp [reportedReply, WebcamDeviceHandler.step, WebcamDeviceHandler.scanForReply, hr]
        at hreport
    | true =>
      have hid : p = true ∧ h.fabricatedReplyId = id := by
        simpa [reportedReply, WebcamDeviceHandler.step, WebcamDeviceHandler.scanForReply, hr]
          using hreport
      simp [Call.actionOf, WebcamDeviceHandler.step, WebcamDeviceHandler.scanForReply, hr,
        WebcamDeviceHandler.board, hid.2]
  | _ => simp [reportedReply] at hreport

/-- Only an interpretation forgets. -/
theorem actionOf_forget {call : Call} {answer : Answer} (hact : call.actionOf answer = .forget) :
    ∃ id, call = .interpretDeviceReply id := by
  have hcases := actionOf_cases call answer
  simp only [hact, reduceCtorEq, and_false, exists_false, or_false, false_or, and_true] at hcases
  exact hcases

/-- The handler's reply latches and its reports are those of the slot the signals drive. -/
structure SlotInvariant (hist : List CallEvent) (h : WebcamDeviceHandler) : Prop where
  com : h.communicationInterface = true
  reply : h.board.reply = (Signal.content (signals hist)).map some
  reported : reportedIds hist = (Signal.collected (signals hist)).map some

/-- Every call the framework makes keeps the invariant. -/
theorem slotInvariant_step (hist : List CallEvent) (h : WebcamDeviceHandler) (call : Call)
    (scans : frameworkScans hist h call) (inv : SlotInvariant hist h) :
    SlotInvariant (hist ++ [handler.event h call]) (handler.step h call).2 := by
  have hcom : (handler.step h call).2.communicationInterface = true := by
    rw [handler_step, h.step_communicationInterface, inv.com]
  have hboard := h.board_step inv.com call
  have hsignal := signalOf_event h inv.com call
  have hreport := reportedReply_event h call (frameworkScans_valid scans)
  refine ⟨hcom, ?_, ?_⟩
  · rw [handler_step, hboard, signals_snoc, hsignal]
    cases hact : call.actionOf (h.step call).1 with
    | emit k => exact congrArg (Option.map some) (Signal.content_snoc _ (.put k.toRaw)).symm
    | report => exact congrArg (Option.map some) (Signal.content_snoc _ .take).symm
    | forget =>
      -- the reply just reported was taken out of the slot, so there is nothing to forget
      obtain ⟨id, rfl⟩ := actionOf_forget hact
      have hempty := content_of_lastReport (frameworkScans_interpret scans)
      simp only [RequestBoard.apply, inv.reply, Option.toList_none, List.append_nil, hempty,
        Option.map_none]
    | _ =>
      simp only [RequestBoard.apply, Option.toList_none, List.append_nil]
      exact inv.reply
  · rw [reportedIds_snoc, hreport, signals_snoc, hsignal, inv.reported]
    cases hact : call.actionOf (h.step call).1 with
    | emit k =>
      simp only [Option.toList_none, List.append_nil, Option.toList_some]
      rw [Signal.collected_snoc_put]
    | report =>
      have hready := replyReady_of_report hact
      have hslot : (Signal.content (signals hist)).map some = some h.fabricatedReplyId := by
        rw [← inv.reply]
        simp [WebcamDeviceHandler.board, hready]
      obtain ⟨c, hc, hid⟩ := Option.map_eq_some_iff.mp hslot
      simp only [Option.toList_some]
      rw [Signal.collected_snoc_take, hc, ← hid]
      simp
    | _ => simp

theorem slot_invariant (calls : List Call)
    (scans : handler.Lawful frameworkScans freshHandler calls) :
    SlotInvariant (handler.trace freshHandler calls) (handler.final freshHandler calls) :=
  Machine.lawful_induction ⟨rfl, rfl, rfl⟩ slotInvariant_step calls scans

/-- The waiting reply as a list. -/
theorem SlotInvariant.waiting {hist : List CallEvent} {h : WebcamDeviceHandler}
    (inv : SlotInvariant hist h) : (if h.replyReady then [h.fabricatedReplyId] else []) =
      (Signal.content (signals hist)).toList.map some := by
  have hreply := inv.reply
  cases hr : h.replyReady with
  | false =>
    have hslot : Signal.content (signals hist) = none := by
      simpa [WebcamDeviceHandler.board, hr] using hreply.symm
    rw [hslot]; rfl
  | true =>
    obtain ⟨c, hc, hid⟩ : ∃ c, Signal.content (signals hist) = some c ∧
        some c = h.fabricatedReplyId := by
      simpa [WebcamDeviceHandler.board, hr] using hreply.symm
    rw [hc, ← hid]; rfl

/-! ### Emissions that find the slot empty -/

/-- No command is emitted while a reply is still outstanding. -/
def emitsIntoEmptySlot (_ : List CallEvent) (h : WebcamDeviceHandler) (call : Call) : Prop :=
  h.replyReady = true → ∀ k, ¬ Emission k (handler.event h call)

theorem noReplacement_step (hist : List CallEvent) (h : WebcamDeviceHandler) (call : Call)
    (inv : SlotInvariant hist h) (empty : emitsIntoEmptySlot hist h call)
    (hist_ok : Signal.NoReplacement (signals hist)) :
    Signal.NoReplacement (signals (hist ++ [handler.event h call])) := by
  have hsignal := signalOf_event h inv.com call
  rw [signals_snoc, hsignal]
  cases hact : call.actionOf (h.step call).1 with
  | emit k =>
    refine Signal.noReplacement_snoc.mpr ⟨hist_ok, fun x _ => ?_⟩
    have hready : h.replyReady = false := by
      by_contra hr
      exact empty (by simpa using hr) k ((emission_iff h call inv.com k).mpr hact)
    have hreply := inv.reply
    simpa [WebcamDeviceHandler.board, hready] using hreply.symm
  | report => exact Signal.noReplacement_snoc.mpr ⟨hist_ok, fun x hx => by cases hx⟩
  | _ => simpa using hist_ok

theorem no_replacement (calls : List Call)
    (scans : handler.Lawful frameworkScans freshHandler calls)
    (empty : handler.Lawful emitsIntoEmptySlot freshHandler calls) :
    Signal.NoReplacement (signals (handler.trace freshHandler calls)) := by
  have both : ∀ hist h call, frameworkScans hist h call ∧ emitsIntoEmptySlot hist h call →
      SlotInvariant hist h ∧ Signal.NoReplacement (signals hist) →
      SlotInvariant (hist ++ [handler.event h call]) (handler.step h call).2 ∧
        Signal.NoReplacement (signals (hist ++ [handler.event h call])) :=
    fun hist h call guards inv => ⟨slotInvariant_step hist h call guards.1 inv.1,
      noReplacement_step hist h call inv.1 guards.2 inv.2⟩
  exact (Machine.lawful_induction
    (R := fun hist h => SlotInvariant hist h ∧ Signal.NoReplacement (signals hist))
    ⟨⟨rfl, rfl, rfl⟩, Signal.noReplacement_nil⟩ both calls (scans.and empty)).2

/-- **Which replies are collected.**  In every run the framework makes, the reported ids, followed
by the one that still waits, are the emitted ids that no later emission replaced before it was
collected, in the order of emission.  If no command was emitted while a reply was outstanding, the
reported ids are all the emitted ones, except for the last one while its reply waits. -/
theorem reports_are_kept_emissions (calls : List Call)
    (scans : handler.Lawful frameworkScans freshHandler calls) :
    let hist := handler.trace freshHandler calls
    let h := handler.final freshHandler calls
    (reportedIds hist ++ (if h.replyReady then [h.fabricatedReplyId] else []) =
        (keptIds hist).map some ∧ List.Sublist (keptIds hist) (emittedIds hist)) ∧
      (handler.Lawful emitsIntoEmptySlot freshHandler calls →
        reportedIds hist <+: (emittedIds hist).map some ∧
        (h.replyReady = false → reportedIds hist = (emittedIds hist).map some) ∧
        (h.replyReady = true →
          (emittedIds hist).map some = reportedIds hist ++ [h.fabricatedReplyId])) := by
  intro hist h
  have inv : SlotInvariant hist h := slot_invariant calls scans
  have hwaiting := inv.waiting
  refine ⟨⟨?_, ?_⟩, fun empty => ?_⟩
  · rw [inv.reported, hwaiting, ← List.map_append, keptIds, Signal.kept_eq]
  · rw [← puts_signals]
    exact Signal.kept_sublist _
  · have hputs := Signal.puts_eq_of_noReplacement _ (no_replacement calls scans empty)
    have hall : (emittedIds hist).map some =
        reportedIds hist ++ (if h.replyReady then [h.fabricatedReplyId] else []) := by
      rw [← puts_signals, hputs, List.map_append, inv.reported, hwaiting]
    refine ⟨⟨_, hall.symm⟩, fun hr => ?_, fun hr => ?_⟩
    · rw [hall, hr]; simp
    · rw [hall, hr]; rfl

/-- A snapshot and a rate are emitted one after the other, the reply is collected, and a query is
emitted after it. -/
def overtakenSnapshot : List Call :=
  [.buildCommandFromCommand 1 (.null 0), .buildCommandFromCommand 2 (.null 0),
    .buildNormalDeviceCommand true, .buildNormalDeviceCommand true, .scanForReply true true,
    .interpretDeviceReply (some 2), .buildCommandFromCommand 3 (.null 0),
    .buildNormalDeviceCommand true]

/-- Of three emissions the second replaced the first, and the third is still waiting. -/
theorem reports_are_kept_emissions_overtaken :
    handler.Lawful frameworkScans freshHandler overtakenSnapshot ∧
      emittedIds (handler.trace freshHandler overtakenSnapshot) = [1, 2, 3] ∧
      keptIds (handler.trace freshHandler overtakenSnapshot) = [2, 3] ∧
      reportedIds (handler.trace freshHandler overtakenSnapshot) = [some 2] := by
  have scans : handler.Lawful frameworkScans freshHandler overtakenSnapshot := by decide
  have hkept : reportedIds (handler.trace freshHandler overtakenSnapshot) ++ [some 3] =
      [some 2] ++ [some 3] := (reports_are_kept_emissions overtakenSnapshot scans).1.1
  exact ⟨scans, by decide, by decide, List.append_cancel_right hkept⟩

/-- **A reply can be lost.**  Two requests built one after the other: the reply to the snapshot is
replaced before a scan could collect it, and the only report is that of set-frame-rate. -/
theorem reply_lost_when_replaced :
    ∃ calls : List Call, handler.Lawful frameworkScans freshHandler calls ∧
      ¬ reportedIds (handler.trace freshHandler calls) <+:
        (emittedIds (handler.trace freshHandler calls)).map some :=
  ⟨[.buildCommandFromCommand 1 (.null 0), .buildCommandFromCommand 2 (.null 0),
      .buildNormalDeviceCommand true, .buildNormalDeviceCommand true, .scanForReply true true,
      .interpretDeviceReply (some 2)], by decide, by decide⟩

end FsfwFromZero
