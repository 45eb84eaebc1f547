import FsfwFromZero.Handler.ReplySlot

/-!
# The reported frame rate belongs to the command that is answered

A reply carries no data: `interpretDeviceReply` prints `currentFrameRate` as it finds it, after any
number of requests, parameter writes and failed calls since the emission.  The rate it prints is
nevertheless the rate of the emission it answers:

* `LastEmission k rate hist` — the latest emission of `hist` is one of `k`, it left `rate` in force,
  and if it set the frame rate then `rate` is what had been requested before it;
* `RateInvariant` / `rate_invariant` — **the run invariant**: a waiting reply, and a reply just
  reported, name the latest emission, whose rate is still in force;
* `reported_rate_belongs_to_emission` — every interpretation of a set- or get-frame-rate reply
  prints the rate its own emission left.
-/

namespace FsfwFromZero

open Lib

/-- `interpretDeviceReply` is only called with the id that the scan just before it reported. -/
def interpretsReported (hist : List CallEvent) (_ : WebcamDeviceHandler) (call : Call) : Prop :=
  ∀ id ∈ call.interpreted, lastReport hist = some id

instance (hist : List CallEvent) (h : WebcamDeviceHandler) (call : Call) :
    Decidable (interpretsReported hist h call) :=
  match hcall : call.interpreted with
  | none => .isTrue (by simp [interpretsReported, hcall])
  | some id =>
      decidable_of_iff (lastReport hist = some id) (by simp [interpretsReported, hcall])

/-- The frame rate an answer printed. -/
def Answer.printedRate (answer : Answer) : Option Double :=
  match answer.info with
  | some (.rate _ value _) => some value
  | _ => none

/-- The latest emission is one of `k` and left `rate` in force. -/
def LastEmission (k : CommandId) (rate : Double) (hist : List CallEvent) : Prop :=
  ∃ a em b, hist = a ++ em :: b ∧ Emission k em ∧ (∀ x ∈ b, ∀ j, ¬ Emission j x) ∧
    em.state.currentFrameRate = rate ∧ (k = .commandSetFrameRate → rate = requestedBy a)

theorem LastEmission.snoc {k : CommandId} {rate : Double} {hist : List CallEvent} {e : CallEvent}
    (last : LastEmission k rate hist) (quiet : ∀ j, ¬ Emission j e) :
    LastEmission k rate (hist ++ [e]) := by
  obtain ⟨a, em, b, rfl, hem, hb, hrate, hset⟩ := last
  refine ⟨a, em, b ++ [e], by simp, hem, fun x hx => ?_, hrate, hset⟩
  rcases List.mem_append.mp hx with hx | hx
  · exact hb x hx
  · rw [List.mem_singleton.mp hx]
    exact quiet

/-- A waiting reply and a reply just reported name the latest emission, whose rate is in force. -/
structure RateInvariant (hist : List CallEvent) (h : WebcamDeviceHandler) : Prop where
  history : HistoryInvariant hist h
  waiting : ∀ id, h.board.reply = some id →
    ∃ k : CommandId, id = some k.toRaw ∧ LastEmission k h.board.current hist
  reported : ∀ id, lastReport hist = some id → h.board.reply = none ∧
    ∃ k : CommandId, id = some k.toRaw ∧ LastEmission k h.board.current hist

/-! ### One step -/

/-- Only a report leaves a report behind. -/
theorem lastReport_event {h : WebcamDeviceHandler} {call : Call} {hist : List CallEvent}
    {id : ReplyId} (hlast : lastReport (hist ++ [handler.event h call]) = some id) :
    call.actionOf (h.step call).1 = .report ∧ h.board.reply = some id := by
  rw [lastReport_snoc] at hlast
  exact reply_of_report hlast

/-- An emission becomes the latest one, with the rate it leaves in force. -/
theorem lastEmission_event {h : WebcamDeviceHandler} {call : Call} {hist : List CallEvent}
    {k : CommandId} (inv : HistoryInvariant hist h)
    (hact : call.actionOf (h.step call).1 = .emit k) :
    LastEmission k (h.step call).2.board.current (hist ++ [handler.event h call]) := by
  refine ⟨hist, handler.event h call, [], rfl, (emission_iff h call inv.com k).mpr hact, by simp,
    rfl, fun hk => ?_⟩
  rw [h.board_step inv.com call, hact, hk]
  exact inv.requested

theorem rateInvariant_step (hist : List CallEvent) (h : WebcamDeviceHandler) (call : Call)
    (scans : interpretsReported hist h call) (inv : RateInvariant hist h) :
    RateInvariant (hist ++ [handler.event h call]) (handler.step h call).2 := by
  have com := inv.history.com
  have hboard := h.board_step com call
  have hcurrent : (∀ k, call.actionOf (h.step call).1 ≠ .emit k) →
      (h.step call).2.board.current = h.board.current := by
    intro hact
    rw [hboard, RequestBoard.apply_current, if_neg (hact _)]
  -- what was latest stays latest unless the call emits
  have hkeep : (∀ k, call.actionOf (h.step call).1 ≠ .emit k) → ∀ {k : CommandId},
      LastEmission k h.board.current hist →
      LastEmission k (h.step call).2.board.current (hist ++ [handler.event h call]) := by
    intro hact k hlast
    rw [hcurrent hact]
    exact hlast.snoc fun j hj => hact j ((emission_iff h call com j).mp hj)
  refine ⟨historyInvariant_step hist h call inv.history, ?_, ?_⟩
  · intro id hid
    rw [handler_step, hboard] at hid
    cases hact : call.actionOf (h.step call).1 with
    | emit k =>
      rw [hact] at hid
      cases hid
      exact ⟨k, rfl, lastEmission_event inv.history hact⟩
    | report =>
      rw [hact] at hid
      cases hid
    | forget =>
      -- the interpreted reply was reported just before, so no reply waits
      obtain ⟨id', rfl⟩ := actionOf_forget hact
      obtain ⟨hnone, -⟩ := inv.reported id' (scans id' rfl)
      rw [hact] at hid
      simp [RequestBoard.apply, hnone] at hid
    | _ =>
      rw [hact] at hid
      obtain ⟨k, hk, hlast⟩ := inv.waiting id hid
      exact ⟨k, hk, hkeep (by rw [hact]; simp) hlast⟩
  · intro id hid
    obtain ⟨hact, hreply⟩ := lastReport_event hid
    obtain ⟨k, hk, hlast⟩ := inv.waiting id hreply
    refine ⟨?_, k, hk, hkeep (by rw [hact]; simp) hlast⟩
    rw [handler_step, hboard, hact]
    rfl

/-! ### Every run -/

theorem rate_invariant (calls : List Call)
    (scans : handler.Lawful interpretsReported freshHandler calls) :
    RateInvariant (handler.trace freshHandler calls) (handler.final freshHandler calls) := by
  refine Machine.lawful_induction ⟨historyInvariant_fresh, ?_, ?_⟩ rateInvariant_step calls scans
  · intro id hid
    cases hid
  · intro id hid
    cases hid

/-- A set- or get-frame-rate reply is interpreted by printing the rate in force. -/
theorem printedRate_interpretDeviceReply (h : WebcamDeviceHandler) (k : CommandId)
    (hk : k = .commandSetFrameRate ∨ k = .commandGetFrameRate) :
    (h.interpretDeviceReply (some k.toRaw)).1.printedRate = some h.currentFrameRate := by
  rcases hk with rfl | rfl <;> rfl

/-- **The reported rate belongs to the command that is answered.**  In every run in which replies
are interpreted as the scans report them, an interpretation of a set- or get-frame-rate reply
answers the latest emission, and prints the rate that emission left; for set-frame-rate this is the
rate that had been requested when it was emitted. -/
theorem reported_rate_belongs_to_emission (calls : List Call)
    (scans : handler.Lawful interpretsReported freshHandler calls)
    (a b : List CallEvent) (e : CallEvent) (split : handler.trace freshHandler calls = a ++ e :: b)
    (k : CommandId) (hk : k = .commandSetFrameRate ∨ k = .commandGetFrameRate)
    (he : e.input = .interpretDeviceReply (some k.toRaw)) :
    ∃ a₁ em a₂, a = a₁ ++ em :: a₂ ∧ Emission k em ∧ (∀ x ∈ a₂, ∀ j, ¬ Emission j x) ∧
      e.output.printedRate = some em.state.currentFrameRate ∧
      (k = .commandSetFrameRate → em.state.currentFrameRate = requestedBy a₁) := by
  obtain ⟨pre, call, post, rfl, rfl, rfl, -⟩ := handler.trace_split _ _ _ _ _ split
  obtain ⟨hpre, hcall⟩ := Machine.lawful_split scans
  have inv := rate_invariant pre hpre
  rw [Machine.event_input] at he
  subst he
  obtain ⟨-, j, hj, a₁, em, a₂, hsplit, hem, hquiet, hrate, hset⟩ :=
    inv.reported (some k.toRaw) (hcall _ rfl)
  have hkj : k = j := by simpa using hj
  subst hkj
  refine ⟨a₁, em, a₂, hsplit, hem, hquiet, ?_, fun hk => by rw [hrate]; exact hset hk⟩
  rw [hrate]
  exact printedRate_interpretDeviceReply _ k hk

/-- Set-frame-rate to `24.0`, overtaken by a parameter write before its reply is scanned. -/
def overtakenSetFrameRate : List Call :=
  [.buildCommandFromCommand 2 (.bytes [0, 0, 0, 0, 0, 0, 0x38, 0x40]),
    .buildNormalDeviceCommand true,
    .getParameter 0 1 true (some ⟨.ok, ⟨0, 0, 0, 0, 0, 0, 0, 0x40⟩⟩) 0 {},
    .scanForReply true true]

/-- The reply to the overtaken command still prints `24.0`. -/
theorem reported_rate_belongs_to_emission_overtaken :
    let h := handler.final freshHandler overtakenSetFrameRate
    h.requestedFrameRate ≠ ⟨0, 0, 0, 0, 0, 0, 0x38, 0x40⟩ ∧
      ∃ a₁ em a₂, handler.trace freshHandler overtakenSetFrameRate = a₁ ++ em :: a₂ ∧
        (handler.event h (.interpretDeviceReply (some 2))).output.printedRate =
          some em.state.currentFrameRate ∧
        em.state.currentFrameRate = requestedBy a₁ := by
  intro h
  obtain ⟨a₁, em, a₂, hsplit, -, -, hprinted, hset⟩ :=
    reported_rate_belongs_to_emission
      (overtakenSetFrameRate ++ [.interpretDeviceReply (some 2)]) (by decide)
      (handler.trace freshHandler overtakenSetFrameRate) []
      (handler.event h (.interpretDeviceReply (some 2))) (handler.trace_snoc _ _ _)
      .commandSetFrameRate (Or.inl rfl) rfl
  exact ⟨by decide, a₁, em, a₂, hsplit, hprinted, hset rfl⟩

end FsfwFromZero
