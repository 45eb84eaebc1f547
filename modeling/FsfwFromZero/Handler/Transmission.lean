import FsfwFromZero.Handler.Provenance

/-!
# Transmissions: a request leaves the handler by two hooks

The framework transmits one packet, the one `rawPacket` describes at that moment, whenever
`buildCommandFromCommand` or `buildNormalDeviceCommand` returns `OK`.  `buildNormalDeviceCommand`
prepares the packet and its reply before it returns; `buildCommandFromCommand` only marks the
request pending.

* `transmittedId` — the command a call transmitted, `Prepared` — its packet and reply are in place;
* `ExactlyOnce` — every accepted request is transmitted once, and nothing is transmitted unprepared;
* `not_prepared_of_first_request` — the first request of a run is transmitted with no reply
  prepared;
* `exactlyOnce_iff_no_request` — **only a run without requests transmits exactly once**;
* `request_transmitted_twice` — a request followed by one build leaves twice.
-/

namespace FsfwFromZero

open Lib

/-- The command a call transmitted: the request it accepted or the command it built. -/
def transmittedId (e : CallEvent) : Option DeviceCommandId := (acceptedId e).or (emittedId e)

/-- The packet for `c` and the reply to it are in place. -/
def WebcamDeviceHandler.Prepared (c : DeviceCommandId) (h : WebcamDeviceHandler) : Prop :=
  h.rawPacket ≠ .null ∧ h.replyReady = true ∧ h.fabricatedReplyId = some c

instance (c : DeviceCommandId) (h : WebcamDeviceHandler) : Decidable (h.Prepared c) :=
  inferInstanceAs (Decidable (_ ∧ _))

/-- How often `c` was transmitted from the request `e` on, up to the next accepted request for `c`;
`later` is the history after `e`. -/
def transmissions (c : DeviceCommandId) (e : CallEvent) (later : List CallEvent) : Nat :=
  (e :: later.takeWhile fun x => acceptedId x != some c).countP fun x => transmittedId x == some c

/-- Every accepted request caused one transmission of its command, and every transmission found its
packet and reply prepared. -/
def ExactlyOnce (hist : List CallEvent) : Prop :=
  (∀ a e b c, hist = a ++ e :: b → acceptedId e = some c → transmissions c e b = 1) ∧
    ∀ e ∈ hist, ∀ c, transmittedId e = some c → e.state.Prepared c

/-- The call asks for one of the three commands. -/
def Call.Requests (call : Call) : Prop :=
  ∃ (k : CommandId) (data : Payload), call = .buildCommandFromCommand k.toRaw data

/-! ### Runs without a request -/

theorem no_acceptedRequest {calls : List Call} (none_requested : ∀ call ∈ calls, ¬ call.Requests)
    (s : WebcamDeviceHandler) (k : CommandId) :
    ¬ ∃ e ∈ handler.trace s calls, AcceptedRequest k e := by
  intro ⟨e, he, data, hinput, _⟩
  obtain ⟨pre, call, post, hcalls, rfl⟩ := handler.mem_trace he
  refine none_requested call ?_ ⟨k, data, hinput⟩
  rw [hcalls]
  simp

/-- Nothing is transmitted in a run without a request. -/
theorem transmittedId_eq_none {calls : List Call}
    (none_requested : ∀ call ∈ calls, ¬ call.Requests) {e : CallEvent}
    (he : e ∈ handler.trace freshHandler calls) : transmittedId e = none := by
  have haccounted := accounted_of_quiet freshHandler rfl freshHandler_quiet calls
  obtain ⟨pre, call, post, -, heq⟩ := handler.mem_trace he
  have hcom : (handler.final freshHandler pre).communicationInterface = true :=
    final_communicationInterface freshHandler pre
  by_contra hne
  obtain ⟨c, hc⟩ := Option.ne_none_iff_exists'.mp hne
  rcases Option.or_eq_some_iff.mp hc with haccepted | ⟨-, hemitted⟩
  · rw [heq] at haccepted
    obtain ⟨k, -, hk⟩ := (acceptedId_eq_some _ call).mp haccepted
    exact no_acceptedRequest none_requested freshHandler k ⟨e, he, heq ▸ hk⟩
  · rw [heq] at hemitted
    obtain ⟨k, -, hk⟩ := (emittedId_eq_some _ call hcom).mp hemitted
    exact no_acceptedRequest none_requested freshHandler k (haccounted.emitted k ⟨e, he, heq ▸ hk⟩)

/-! ### The first request of a run -/

/-- A run that contains a request has a first one. -/
theorem exists_first_request {calls : List Call} (some_request : ∃ call ∈ calls, call.Requests) :
    ∃ pre call post, calls = pre ++ call :: post ∧ call.Requests ∧
      ∀ earlier ∈ pre, ¬ earlier.Requests := by
  induction calls with
  | nil =>
    obtain ⟨call, hcall, -⟩ := some_request
    cases hcall
  | cons call calls ih =>
    by_cases hcall : call.Requests
    · exact ⟨[], call, calls, rfl, hcall, by simp⟩
    · obtain ⟨other, hmem, hother⟩ := some_request
      have hrest : ∃ call ∈ calls, call.Requests := by
        rcases List.mem_cons.mp hmem with heq | hmem
        · rw [heq] at hother
          exact absurd hother hcall
        · exact ⟨other, hmem, hother⟩
      obtain ⟨pre, first, post, hcalls, hfirst, hpre⟩ := ih hrest
      refine ⟨call :: pre, first, post, by rw [hcalls]; rfl, hfirst, fun earlier hmem => ?_⟩
      rcases List.mem_cons.mp hmem with heq | hmem
      · rw [heq]
        exact hcall
      · exact hpre earlier hmem

/-- **The first request is transmitted unprepared**: nothing was emitted before it, so no reply
waits, and accepting a request prepares none. -/
theorem not_prepared_of_first_request {pre : List Call}
    (none_requested : ∀ call ∈ pre, ¬ call.Requests) (k : CommandId) (data : Payload) :
    ¬ ((handler.final freshHandler pre).buildCommandFromCommand k.toRaw data).2.Prepared
      k.toRaw := by
  intro ⟨_, hready, hid⟩
  have haccounted := accounted_of_quiet freshHandler rfl freshHandler_quiet pre
  have hboard := WebcamDeviceHandler.board_buildCommandFromCommand
    (handler.final freshHandler pre) k.toRaw data
  have hreply : (handler.final freshHandler pre).board.reply = some (some k.toRaw) := by
    have hafter := congrArg RequestBoard.reply hboard
    simp only [Call.actionOf, CommandId.cast_toRaw, RequestBoard.apply] at hafter
    rw [← hafter]
    simp [WebcamDeviceHandler.board, hready, hid]
  obtain ⟨j, -, hemitted⟩ := haccounted.reply _ hreply
  exact no_acceptedRequest none_requested freshHandler j (haccounted.emitted j hemitted)

/-- **When requests are transmitted exactly once.**  Both hooks transmit, and only one of them
prepares: a run transmits every accepted request exactly once, with its packet and reply prepared,
if and only if it requests nothing. -/
theorem exactlyOnce_iff_no_request (calls : List Call) :
    ExactlyOnce (handler.trace freshHandler calls) ↔ ∀ call ∈ calls, ¬ call.Requests := by
  constructor
  · intro hexact
    by_contra hsome
    push Not at hsome
    obtain ⟨pre, call, post, hcalls, ⟨k, data, hcall⟩, hpre⟩ := exists_first_request hsome
    subst hcall
    let e := handler.event (handler.final freshHandler pre) (.buildCommandFromCommand k.toRaw data)
    have hmem : e ∈ handler.trace freshHandler calls := by
      rw [hcalls, Machine.trace_append, Machine.trace_cons]
      simp [e]
    have haccepted : acceptedId e = some k.toRaw :=
      (acceptedId_eq_some _ _).mpr ⟨k, rfl, data, rfl, buildCommandFromCommand_ret _ k data⟩
    have hsent : transmittedId e = some k.toRaw := by
      rw [transmittedId, haccepted]
      rfl
    exact not_prepared_of_first_request hpre k data (hexact.2 e hmem k.toRaw hsent)
  · intro hnone
    have hsilent : ∀ e ∈ handler.trace freshHandler calls, transmittedId e = none :=
      fun e he => transmittedId_eq_none hnone he
    refine ⟨fun a e b c hsplit haccepted => ?_, fun e he c hc => ?_⟩
    · have hnothing := hsilent e (by rw [hsplit]; simp)
      rw [transmittedId, haccepted] at hnothing
      cases hnothing
    · rw [hsilent e he] at hc
      cases hc

/-- A snapshot request and the build that serves it. -/
def requestThenBuild : List Call :=
  [.buildCommandFromCommand 1 (.null 0), .buildNormalDeviceCommand true]

/-- **One request leaves twice.**  The snapshot request is transmitted when it is accepted, with a
null packet and no reply, and again when it is built. -/
theorem request_transmitted_twice :
    ¬ ExactlyOnce (handler.trace freshHandler requestThenBuild) := by
  intro hexact
  have hcount := hexact.1 [] _ _ 1 rfl rfl
  exact absurd hcount (by decide)

end FsfwFromZero
