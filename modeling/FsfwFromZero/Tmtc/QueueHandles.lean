import FsfwFromZero.Lib.History
import FsfwFromZero.Tmtc.TmtcSinks

/-!
# Queue handles and the order of initialisation

Clients take a sink's queue id once and keep it, and the object manager decides whether they do so
before or after the sink is initialised.  For that to be harmless all handles given out in a run
must be one real queue, the one drained.

* `HandlesAgree` — that law, for a run of either class;
* `receiver_handles_agree` — the receiver keeps it in every run: its queue is created once, where it
  is first needed;
* `SteadyUse` — the runs of the telemetry sink that come out right: handles taken after
  initialisation, with no further initialisation between the uses;
* `handles_agree_iff` — **the receiver always agrees, the telemetry sink exactly on steady runs**;
* `early_handle_is_no_queue` — a client initialised before the sink gets `NO_QUEUE`.
-/

namespace FsfwFromZero

open Lib

/-! ### The law -/

/-- Every getter call of the run returns a real id, all return the same one, and each
`performOperation` after an `initialize()` drains the queue with that id. -/
def HandlesAgree {σ : Type} (M : Machine σ SinkCall SinkAnswer) (start : σ)
    (calls : List SinkCall) : Prop :=
  ∀ pre c post, calls = pre ++ .getQueue c :: post →
    (M.step (M.final start pre) (.getQueue c)).1.handle ≠ none ∧
    (∀ pre' c' post', calls = pre' ++ .getQueue c' :: post' →
      (M.step (M.final start pre') (.getQueue c')).1.handle =
        (M.step (M.final start pre) (.getQueue c)).1.handle) ∧
    ∀ pre' post', calls = pre' ++ .performOperation :: post' → (∃ objects, .init objects ∈ pre') →
      (M.step (M.final start pre') .performOperation).1.drained =
        (M.step (M.final start pre) (.getQueue c)).1.handle

/-- Every call of `createMessageQueue` in the run returned a queue, each with an id of its own. -/
def FactoryDelivers {σ : Type} (hist : List (Event σ SinkCall SinkAnswer)) : Prop :=
  (hist.filterMap fun e => e.output.creation).Nodup ∧
    none ∉ hist.filterMap fun e => e.output.creation

/-- The queue a call of `initialize()` would create. -/
def SinkCall.created : SinkCall → Option (Option MessageQueueId)
  | .init objects => some objects.createMessageQueue
  | _ => none

/-- Whether a call of `initialize()` found the telemetry store. -/
def SinkCall.found : SinkCall → Option Bool
  | .init objects => some objects.tmStore
  | _ => none

/-- The queues offered to the calls of `initialize()`, one for each. -/
def offered (calls : List SinkCall) : List (Option MessageQueueId) :=
  calls.filterMap SinkCall.created

/-- How often `initialize()` was called. -/
def initializations (calls : List SinkCall) : Nat := (offered calls).length

/-- Every getter call comes after an `initialize()`, no `initialize()` lies between it and another
getter call or a `performOperation` that drains, and the latter found the telemetry store. -/
def SteadyUse (calls : List SinkCall) : Prop :=
  ∀ pre c post, calls = pre ++ .getQueue c :: post →
    0 < initializations pre ∧
    (∀ pre' c' post', calls = pre' ++ .getQueue c' :: post' →
      initializations pre' = initializations pre) ∧
    ∀ pre' post', calls = pre' ++ .performOperation :: post' → (∃ objects, .init objects ∈ pre') →
      initializations pre' = initializations pre ∧ lastValue SinkCall.found false pre' = true

/-! ### The verification receiver -/

section Receiver

open StubVerificationReceiver

/-- A queue once created stays. -/
theorem receiver_step_queue (r : StubVerificationReceiver) (call : SinkCall) {id : MessageQueueId}
    (hq : r.queue = some id) : (verificationReceiver.step r call).2.queue = some id := by
  cases call with
  | init objects => simp [verificationReceiver, initializeReceiver, hq]
  | performOperation => exact hq
  | getQueue c => simp [verificationReceiver, getVerificationQueue, hq]

theorem receiver_final_queue (r : StubVerificationReceiver) (calls : List SinkCall)
    {id : MessageQueueId} (hq : r.queue = some id) :
    (verificationReceiver.final r calls).queue = some id := by
  induction calls generalizing r with
  | nil => exact hq
  | cons call calls ih => exact ih _ (receiver_step_queue r call hq)

/-- A call that needs the queue leaves the receiver with one, unless the factory failed it. -/
theorem receiver_step_creates (r : StubVerificationReceiver) (call : SinkCall)
    (needs : call ≠ .performOperation)
    (delivered : (verificationReceiver.step r call).1.creation ≠ some none) :
    ∃ id, (verificationReceiver.step r call).2.queue = some id := by
  refine Option.ne_none_iff_exists'.mp fun hnone => delivered ?_
  cases hq : r.queue with
  | some id =>
    rw [receiver_step_queue r call hq] at hnone
    cases hnone
  | none =>
    cases call with
    | performOperation => exact absurd rfl needs
    | init objects =>
      have hcreated : objects.createMessageQueue = none := by
        simpa [verificationReceiver, initializeReceiver, hq] using hnone
      simp [verificationReceiver, initializeReceiver, hq, hcreated]
    | getQueue c =>
      have hcreated : c = none := by
        cases c with
        | none => rfl
        | some id => simp [verificationReceiver, getVerificationQueue, hq] at hnone
      simp [verificationReceiver, getVerificationQueue, hq, hcreated]

/-- A getter returns the queue it leaves behind. -/
theorem receiver_handle (r : StubVerificationReceiver) (c : Option MessageQueueId) :
    (verificationReceiver.step r (.getQueue c)).1.handle =
      (verificationReceiver.step r (.getQueue c)).2.queue := by
  cases hq : r.queue with
  | some id => simp [verificationReceiver, getVerificationQueue, hq]
  | none => cases c <;> simp [verificationReceiver, getVerificationQueue, hq]

/-- In a run the factory delivered, every call that needs a queue leaves the receiver with the queue
it has at the end. -/
theorem receiver_queue_of_split (calls pre post : List SinkCall) (call : SinkCall)
    (delivers : FactoryDelivers (verificationReceiver.trace construct calls))
    (hsplit : calls = pre ++ call :: post) (needs : call ≠ .performOperation) :
    ∃ id, (verificationReceiver.step (verificationReceiver.final construct pre) call).2.queue =
        some id ∧ (verificationReceiver.final construct calls).queue = some id := by
  have hdelivered : (verificationReceiver.step
      (verificationReceiver.final construct pre) call).1.creation ≠ some none := by
    intro hfailed
    refine delivers.2 (List.mem_filterMap.mpr
      ⟨verificationReceiver.event (verificationReceiver.final construct pre) call, ?_, hfailed⟩)
    rw [hsplit, Machine.trace_append, Machine.trace_cons]
    simp
  obtain ⟨id, hid⟩ := receiver_step_creates _ call needs hdelivered
  refine ⟨id, hid, ?_⟩
  rw [hsplit, Machine.final_append, Machine.final_cons]
  exact receiver_final_queue _ post hid

/-- **The receiver's handles agree** in every run. -/
theorem receiver_handles_agree (calls : List SinkCall)
    (delivers : FactoryDelivers (verificationReceiver.trace construct calls)) :
    HandlesAgree verificationReceiver construct calls := by
  have hhandle : ∀ pre c post, calls = pre ++ .getQueue c :: post →
      ∃ id, (verificationReceiver.step (verificationReceiver.final construct pre)
        (.getQueue c)).1.handle = some id ∧
        (verificationReceiver.final construct calls).queue = some id := by
    intro pre c post hsplit
    rw [receiver_handle]
    exact receiver_queue_of_split calls pre post (.getQueue c) delivers hsplit (by simp)
  intro pre c post hsplit
  obtain ⟨id, hid, hfinal⟩ := hhandle pre c post hsplit
  rw [hid]
  refine ⟨by simp, fun pre' c' post' hsplit' => ?_, fun pre' post' hsplit' ⟨objects, hinit⟩ => ?_⟩
  · obtain ⟨id', hid', hfinal'⟩ := hhandle pre' c' post' hsplit'
    rw [hid', ← hfinal', hfinal]
  · -- the queue the `initialize()` before it found or created is still the receiver's
    obtain ⟨a, b, hab⟩ := List.append_of_mem hinit
    have hsplit'' : calls = a ++ .init objects :: (b ++ .performOperation :: post') := by
      rw [hsplit', hab]
      simp
    obtain ⟨id', hid', hfinal'⟩ :=
      receiver_queue_of_split calls a _ (.init objects) delivers hsplit'' (by simp)
    have hqueue : (verificationReceiver.final construct pre').queue = some id' := by
      rw [hab, Machine.final_append, Machine.final_cons]
      exact receiver_final_queue _ b hid'
    have hsame : id' = id := by
      rw [hfinal] at hfinal'
      exact (Option.some.inj hfinal').symm
    show (verificationReceiver.final construct pre').drainedQueue = some id
    simp [drainedQueue, hqueue, hsame]

end Receiver

/-! ### The telemetry sink -/

section Sink

open StubTelemetrySink

/-- The sink's queue is the one its last `initialize()` created. -/
theorem sink_queue (calls : List SinkCall) :
    (telemetrySink.final construct calls).queue = lastValue SinkCall.created none calls := by
  induction calls using List.reverseRecOn with
  | nil => rfl
  | append_singleton calls call ih =>
    rw [Machine.final_snoc, lastValue_snoc, ← ih]
    cases call <;> rfl

/-- The sink has the store if its last `initialize()` found it. -/
theorem sink_tmStore (calls : List SinkCall) :
    (telemetrySink.final construct calls).tmStore = lastValue SinkCall.found false calls := by
  induction calls using List.reverseRecOn with
  | nil => rfl
  | append_singleton calls call ih =>
    rw [Machine.final_snoc, lastValue_snoc, ← ih]
    cases call <;> rfl

/-- Only `initialize()` creates queues. -/
theorem sink_creations (s : StubTelemetrySink) (calls : List SinkCall) :
    (telemetrySink.trace s calls).filterMap (fun e => e.output.creation) = offered calls := by
  induction calls generalizing s with
  | nil => rfl
  | cons call calls ih =>
    rw [Machine.trace_cons, offered, List.filterMap_cons, List.filterMap_cons, ih]
    cases call <;> rfl

theorem sink_handle (pre : List SinkCall) (c : Option MessageQueueId) :
    (telemetrySink.step (telemetrySink.final construct pre) (.getQueue c)).1.handle =
      lastValue SinkCall.created none pre := by
  rw [← sink_queue]
  show (telemetrySink.final construct pre).getReportReceptionQueue = _
  unfold getReportReceptionQueue
  cases (telemetrySink.final construct pre).queue <;> rfl

theorem sink_drained (pre : List SinkCall) :
    (telemetrySink.step (telemetrySink.final construct pre) .performOperation).1.drained =
      if lastValue SinkCall.found false pre = true then lastValue SinkCall.created none pre
      else none := by
  rw [← sink_queue, ← sink_tmStore]
  show (telemetrySink.final construct pre).drainedQueue = _
  unfold drainedQueue
  cases (telemetrySink.final construct pre).queue <;>
    cases (telemetrySink.final construct pre).tmStore <;> rfl

theorem initializations_append (a b : List SinkCall) :
    initializations (a ++ b) = initializations a + initializations b := by
  simp only [initializations, offered, List.filterMap_append, List.length_append]

/-- Before the first `initialize()` there is no queue. -/
theorem created_eq_none {pre : List SinkCall} (hzero : initializations pre = 0) :
    lastValue SinkCall.created none pre = none := by
  have hempty : offered pre = [] := List.eq_nil_of_length_eq_zero hzero
  rcases lastValue_cases SinkCall.created none pre with ⟨-, hnone⟩ | hmem
  · exact hnone
  · rw [← offered, hempty] at hmem
    cases hmem

/-- After an `initialize()` the queue is one of those created. -/
theorem created_mem_offered {pre : List SinkCall} (hpos : 0 < initializations pre)
    (d : Option MessageQueueId) : lastValue SinkCall.created d pre ∈ offered pre := by
  rcases lastValue_cases SinkCall.created d pre with ⟨hempty, -⟩ | hmem
  · rw [initializations, offered, hempty] at hpos
    cases hpos
  · exact hmem

/-- Further calls keep the queue exactly if none of them is an `initialize()`. -/
theorem created_append_eq_iff {a b : List SinkCall} (nodup : (offered (a ++ b)).Nodup)
    (real : none ∉ offered (a ++ b)) :
    lastValue SinkCall.created none (a ++ b) = lastValue SinkCall.created none a ↔
      initializations b = 0 := by
  have hoffered : offered (a ++ b) = offered a ++ offered b := List.filterMap_append
  rw [hoffered] at nodup real
  rw [lastValue_append]
  constructor
  · intro hsame
    by_contra hne
    have hb := created_mem_offered (Nat.pos_of_ne_zero hne) (lastValue SinkCall.created none a)
    rw [hsame] at hb
    rcases Nat.eq_zero_or_pos (initializations a) with ha | ha
    · rw [created_eq_none ha] at hb
      exact real (List.mem_append_right _ hb)
    · have hdisjoint := (List.nodup_append.mp nodup).2.2
      exact hdisjoint _ (created_mem_offered ha none) _ hb rfl
  · intro hzero
    have hempty : offered b = [] := List.eq_nil_of_length_eq_zero hzero
    rcases lastValue_cases SinkCall.created (lastValue SinkCall.created none a) b with
      ⟨-, hsame⟩ | hmem
    · exact hsame
    · rw [← offered, hempty] at hmem
      cases hmem

/-- Two points of a run see the same queue exactly if no `initialize()` lies between them. -/
theorem same_queue_iff {calls pre pre' : List SinkCall} (nodup : (offered calls).Nodup)
    (real : none ∉ offered calls) (hpre : pre <+: calls) (hpre' : pre' <+: calls) :
    lastValue SinkCall.created none pre' = lastValue SinkCall.created none pre ↔
      initializations pre' = initializations pre := by
  have hpart : ∀ {p}, p <+: calls → (offered p).Nodup ∧ none ∉ offered p := by
    intro p hp
    have hsub : (offered p).Sublist (offered calls) := hp.sublist.filterMap _
    exact ⟨nodup.sublist hsub, fun hmem => real (hsub.mem hmem)⟩
  rcases List.prefix_or_prefix_of_prefix hpre hpre' with ⟨b, hb⟩ | ⟨b, hb⟩
  · subst hb
    obtain ⟨hn, hr⟩ := hpart hpre'
    rw [created_append_eq_iff hn hr, initializations_append]
    omega
  · subst hb
    obtain ⟨hn, hr⟩ := hpart hpre
    rw [eq_comm, created_append_eq_iff hn hr, initializations_append]
    omega

/-- **The telemetry sink's handles agree** exactly on steady runs. -/
theorem sink_handles_agree_iff (calls : List SinkCall)
    (delivers : FactoryDelivers (telemetrySink.trace construct calls)) :
    HandlesAgree telemetrySink construct calls ↔ SteadyUse calls := by
  obtain ⟨nodup, real⟩ := delivers
  rw [sink_creations] at nodup real
  have hsplit : ∀ {pre post : List SinkCall} {call}, calls = pre ++ call :: post → pre <+: calls :=
    fun h => ⟨_, h.symm⟩
  have hreal : ∀ {pre}, pre <+: calls →
      (lastValue SinkCall.created none pre ≠ none ↔ 0 < initializations pre) := by
    intro pre hpre
    constructor
    · intro hne
      by_contra hzero
      exact hne (created_eq_none (by omega))
    · intro hpos hnone
      have hmem := created_mem_offered hpos none
      rw [hnone] at hmem
      have hsub : (offered pre).Sublist (offered calls) := hpre.sublist.filterMap _
      exact real (hsub.mem hmem)
  constructor
  · intro hagree pre c post hget
    obtain ⟨hne, hsame, hdrain⟩ := hagree pre c post hget
    simp only [sink_handle, sink_drained] at hne hsame hdrain
    refine ⟨(hreal (hsplit hget)).mp hne, fun pre' c' post' hget' => ?_,
      fun pre' post' hperform hinit => ?_⟩
    · exact (same_queue_iff nodup real (hsplit hget) (hsplit hget')).mp (hsame pre' c' post' hget')
    · have hdrained := hdrain pre' post' hperform hinit
      by_cases hfound : lastValue SinkCall.found false pre' = true
      · rw [if_pos hfound] at hdrained
        exact ⟨(same_queue_iff nodup real (hsplit hget) (hsplit hperform)).mp hdrained, hfound⟩
      · rw [if_neg hfound] at hdrained
        exact absurd hdrained.symm hne
  · intro hsteady pre c post hget
    obtain ⟨hpos, hsame, hdrain⟩ := hsteady pre c post hget
    simp only [sink_handle, sink_drained]
    refine ⟨(hreal (hsplit hget)).mpr hpos, fun pre' c' post' hget' => ?_,
      fun pre' post' hperform hinit => ?_⟩
    · exact (same_queue_iff nodup real (hsplit hget) (hsplit hget')).mpr (hsame pre' c' post' hget')
    · obtain ⟨hcount, hfound⟩ := hdrain pre' post' hperform hinit
      rw [if_pos hfound]
      exact (same_queue_iff nodup real (hsplit hget) (hsplit hperform)).mpr hcount

end Sink

/-! ### Both classes -/

/-- **When handles do not depend on the order of initialisation.**  In every run in which the queue
factory delivers, the receiver's handles agree, and the telemetry sink's agree if and only if its
queue is used steadily: after an `initialize()` and with none between the uses. -/
theorem handles_agree_iff (calls : List SinkCall) :
    (FactoryDelivers (verificationReceiver.trace StubVerificationReceiver.construct calls) →
        HandlesAgree verificationReceiver StubVerificationReceiver.construct calls) ∧
      (FactoryDelivers (telemetrySink.trace StubTelemetrySink.construct calls) →
        (HandlesAgree telemetrySink StubTelemetrySink.construct calls ↔ SteadyUse calls)) :=
  ⟨receiver_handles_agree calls, sink_handles_agree_iff calls⟩

/-- A client that asks for the handle once the sink is initialised. -/
def lateClient : List SinkCall :=
  [.init ⟨some 5, true, true⟩, .getQueue none, .performOperation]

theorem lateClient_steady : SteadyUse lateClient := by
  have hget : ∀ {pre c post}, lateClient = pre ++ .getQueue c :: post →
      pre = [.init ⟨some 5, true, true⟩] := by
    intro pre c post hsplit
    simp [lateClient, List.cons_eq_append_iff] at hsplit
    exact hsplit.1
  have hdrain : ∀ {pre post}, lateClient = pre ++ .performOperation :: post →
      pre = [.init ⟨some 5, true, true⟩, .getQueue none] := by
    intro pre post hsplit
    simp [lateClient, List.cons_eq_append_iff] at hsplit
    exact hsplit.1
  intro pre c post hsplit
  rw [hget hsplit]
  refine ⟨by decide, fun pre' c' post' hsplit' => ?_, fun pre' post' hsplit' _ => ?_⟩
  · rw [hget hsplit']
  · rw [hdrain hsplit']
    decide

/-- The late client gets the drained queue from both classes. -/
theorem handles_agree_late_client :
    HandlesAgree verificationReceiver StubVerificationReceiver.construct lateClient ∧
      HandlesAgree telemetrySink StubTelemetrySink.construct lateClient := by
  obtain ⟨hreceiver, hsink⟩ := handles_agree_iff lateClient
  exact ⟨hreceiver ⟨by decide, by decide⟩, (hsink ⟨by decide, by decide⟩).mpr lateClient_steady⟩

/-- A client that asks for the handle before the object manager has initialised the sink. -/
def earlyClient : List SinkCall :=
  [.getQueue (some 4), .init ⟨some 5, true, true⟩, .performOperation]

/-- **An early handle is no queue.**  The early client gets `NO_QUEUE` from the telemetry sink,
which creates its queue afterwards. -/
theorem early_handle_is_no_queue :
    FactoryDelivers (telemetrySink.trace StubTelemetrySink.construct earlyClient) ∧
      ¬ HandlesAgree telemetrySink StubTelemetrySink.construct earlyClient := by
  refine ⟨⟨by decide, by decide⟩, fun hagree => ?_⟩
  have hreal := (hagree [] (some 4) _ rfl).1
  exact absurd rfl hreal

end FsfwFromZero
