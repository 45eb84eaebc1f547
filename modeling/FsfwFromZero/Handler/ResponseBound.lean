import Mathlib.Order.Bounds.Defs
import FsfwFromZero.Lib.Budget
import FsfwFromZero.Handler.PendingHistory

/-!
# How long a pending command waits

A build serves the first pending kind, so a pending command waits for the kinds before it: for those
that are pending already, and for those that are requested while it waits.

* `RequestBoard.ahead` — the pending kinds before a kind, `overtaking` — the later requests for such
  kinds, `builds` — the builds with a valid pointer;
* `emitted_or_waits` — **the budget**: until a pending kind is emitted, every build serves one of
  the kinds before it;
* `response_bound` — **the exact waiting time**: one build more than there are kinds ahead and
  requests that overtake is always enough, and for all but the first kind no smaller number is.
-/

namespace FsfwFromZero

open Lib

/-! ### The kinds ahead -/

/-- The kinds in the order of service. -/
def CommandId.kinds : List CommandId :=
  [.commandTakeSnapshot, .commandSetFrameRate, .commandGetFrameRate]

namespace RequestBoard

/-- The number of pending kinds that are served before `k`. -/
def ahead (b : RequestBoard) (k : CommandId) : Nat :=
  CommandId.kinds.countP fun j => decide (j.rank < k.rank) && b.pending j

/-- Serving a kind before `k` leaves one less ahead of it. -/
theorem ahead_emit (b : RequestBoard) {j k : CommandId} (hrank : j.rank < k.rank)
    (hj : b.pending j = true) : (b.apply (.emit j)).ahead k + 1 = b.ahead k := by
  cases k <;> cases j <;> simp [CommandId.rank] at hrank <;>
    simp [ahead, CommandId.kinds, apply, CommandId.rank, hj, List.countP_cons]
  all_goals omega

/-- A request puts at most its own kind ahead of `k`. -/
theorem ahead_request (b : RequestBoard) (j k : CommandId) (rate : Option Double) :
    (b.apply (.request j rate)).ahead k ≤ b.ahead k + (decide (j.rank < k.rank)).toNat := by
  cases k <;> cases j <;>
    simp [ahead, CommandId.kinds, apply, CommandId.rank, List.countP_cons]
  all_goals split <;> omega

/-- After a request for a kind before `k` there is one ahead of it. -/
theorem ahead_pos_of_request (b : RequestBoard) {j k : CommandId} (rate : Option Double)
    (hrank : j.rank < k.rank) : 0 < (b.apply (.request j rate)).ahead k := by
  have hmem : j ∈ CommandId.kinds := by cases j <;> decide
  refine List.countP_pos_iff.mpr ⟨j, hmem, ?_⟩
  simp [apply, hrank]

/-- With a kind ahead of `k` the next one served comes before `k`. -/
theorem next_of_ahead (b : RequestBoard) {k : CommandId} (hahead : 0 < b.ahead k) :
    ∃ j, b.next = some j ∧ j.rank < k.rank := by
  obtain ⟨j, -, hj⟩ := List.countP_pos_iff.mp hahead
  rw [Bool.and_eq_true, decide_eq_true_eq] at hj
  cases hnext : b.next with
  | none =>
    have hnone := (next_eq_none b).mp hnext j
    rw [hj.2] at hnone
    cases hnone
  | some i =>
    refine ⟨i, rfl, ?_⟩
    by_contra hge
    have hfirst := ((next_eq_some b i).mp hnext).2 j (by omega)
    rw [hj.2] at hfirst
    cases hfirst

end RequestBoard

theorem CommandId.rank_injective : Function.Injective CommandId.rank := by
  intro a b h
  cases a <;> cases b <;> first | rfl | cases h

/-! ### Counting calls -/

/-- A build with a valid pointer. -/
def Call.isBuild : Call → Bool
  | .buildNormalDeviceCommand deviceCommand => deviceCommand
  | .buildCommandFromCommand _ _ => false
  | .scanForReply _ _ => false
  | .interpretDeviceReply _ => false
  | .getParameter _ _ _ _ _ _ => false
  | .doStartUp => false
  | .doShutDown => false
  | .buildTransitionDeviceCommand _ => false

/-- A request for a kind that is served before `k`. -/
def Call.overtakes (k : CommandId) : Call → Bool
  | .buildCommandFromCommand deviceCommand _ =>
      match CommandId.cast deviceCommand with
      | some j => decide (j.rank < k.rank)
      | none => false
  | .buildNormalDeviceCommand _ => false
  | .scanForReply _ _ => false
  | .interpretDeviceReply _ => false
  | .getParameter _ _ _ _ _ _ => false
  | .doStartUp => false
  | .doShutDown => false
  | .buildTransitionDeviceCommand _ => false

/-- The builds among the calls. -/
def builds (calls : List Call) : Nat := calls.countP Call.isBuild

/-- The requests among the calls that overtake a pending `k`. -/
def overtaking (k : CommandId) (calls : List Call) : Nat := calls.countP (Call.overtakes k)

/-- `k` is emitted in the course of the calls. -/
def EmittedIn (k : CommandId) (h : WebcamDeviceHandler) (calls : List Call) : Prop :=
  ∃ e ∈ handler.trace h calls, Emission k e

theorem emittedIn_append (k : CommandId) (h : WebcamDeviceHandler) (calls more : List Call) :
    EmittedIn k h (calls ++ more) ↔
      EmittedIn k h calls ∨ EmittedIn k (handler.final h calls) more := by
  simp only [EmittedIn, Machine.trace_append, List.mem_append, or_and_right, exists_or]

/-! ### One call -/

/-- A build with a kind ahead of `k` serves that kind. -/
theorem build_ahead (h : WebcamDeviceHandler) (com : h.communicationInterface = true)
    {k : CommandId} (hahead : 0 < h.board.ahead k) :
    ¬ Emission k (handler.event h (.buildNormalDeviceCommand true)) ∧
      (h.step (.buildNormalDeviceCommand true)).2.board.ahead k + 1 = h.board.ahead k := by
  obtain ⟨j, hnext, hrank⟩ := h.board.next_of_ahead hahead
  have hact : Call.actionOf (.buildNormalDeviceCommand true)
      (h.step (.buildNormalDeviceCommand true)).1 = .emit j := by
    simp only [WebcamDeviceHandler.step, h.buildNormalDeviceCommand_answer com, hnext,
      Call.actionOf, CommandId.cast_toRaw]
  constructor
  · rw [emission_iff h _ com, hact]
    intro heq
    cases heq
    exact Nat.lt_irrefl _ hrank
  · rw [h.board_step com, hact]
    exact h.board.ahead_emit hrank ((RequestBoard.next_eq_some _ _).mp hnext).1

/-- Where a pending kind is not the next to be served, another one is ahead of it. -/
theorem RequestBoard.ahead_pos {b : RequestBoard} {k : CommandId} (hpending : b.pending k = true)
    (hnext : b.next ≠ some k) : 0 < b.ahead k := by
  cases hserved : b.next with
  | none =>
    rw [(next_eq_none b).mp hserved k] at hpending
    cases hpending
  | some j =>
    obtain ⟨hj, hfirst⟩ := (next_eq_some b j).mp hserved
    have hne : j ≠ k := by
      intro heq
      rw [heq] at hserved
      exact hnext hserved
    have hrank : j.rank < k.rank := by
      rcases Nat.lt_trichotomy j.rank k.rank with hlt | heq | hgt
      · exact hlt
      · exact absurd (CommandId.rank_injective heq) hne
      · rw [hfirst k hgt] at hpending
        cases hpending
    refine List.countP_pos_iff.mpr ⟨j, by cases j <;> decide, ?_⟩
    rw [decide_eq_true hrank, hj]
    rfl

/-- A call that is no build puts one kind more ahead of `k` at most, and only if it overtakes. -/
theorem other_ahead (h : WebcamDeviceHandler) (com : h.communicationInterface = true)
    (k : CommandId) {call : Call} (hother : call ≠ .buildNormalDeviceCommand true) :
    (h.step call).2.board.ahead k ≤ h.board.ahead k + (call.overtakes k).toNat := by
  rw [h.board_step com call]
  rcases actionOf_cases call (h.step call).1 with
    ⟨j, data, rate, hcall, hact⟩ | ⟨p, j, hcall, hact⟩ | ⟨p, q, hcall, -, hact⟩ |
    ⟨id, hcall, hact⟩ | ⟨d, p, w, nv, i, base, rate, hcall, hact⟩ | hact
  · rw [hact, hcall]
    have hover : (Call.overtakes k (.buildCommandFromCommand j.toRaw data)) =
        decide (j.rank < k.rank) := by
      simp only [Call.overtakes, CommandId.cast_toRaw]
    rw [hover]
    exact h.board.ahead_request j k rate
  · cases p with
    | true => exact absurd hcall hother
    | false =>
      rw [hcall] at hact
      cases hact
  -- the other calls leave the requests as they are
  · rw [hact]
    exact Nat.le_add_right _ _
  · rw [hact]
    exact Nat.le_add_right _ _
  · rw [hact]
    exact Nat.le_add_right _ _
  · rw [hact]
    exact Nat.le_add_right _ _

/-- **One call of the budget.**  While `k` is pending, a call emits it, or leaves it pending and
serves one of the kinds ahead if it is a build, and adds one at most if it is a request that
overtakes. -/
theorem call_budget (k : CommandId) (h : WebcamDeviceHandler) (call : Call)
    (waits : h.communicationInterface = true ∧ h.board.pending k = true) :
    Emission k (handler.event h call) ∨
      (((handler.step h call).2.communicationInterface = true ∧
        (handler.step h call).2.board.pending k = true) ∧
        (call.isBuild).toNat + (handler.step h call).2.board.ahead k ≤
          h.board.ahead k + (call.overtakes k).toNat) := by
  obtain ⟨com, hpending⟩ := waits
  rw [emission_iff h call com, handler_step]
  by_cases hemit : call.actionOf (h.step call).1 = .emit k
  · exact Or.inl hemit
  · refine Or.inr ⟨⟨by rw [h.step_communicationInterface, com], ?_⟩, ?_⟩
    · rw [h.board_step com call, RequestBoard.apply_pending]
      exact Or.inr ⟨hpending, hemit⟩
    · by_cases hbuild : call = .buildNormalDeviceCommand true
      · subst hbuild
        have hnext : h.board.next ≠ some k := by
          intro hnext
          refine hemit ?_
          simp only [WebcamDeviceHandler.step, h.buildNormalDeviceCommand_answer com, hnext,
            Call.actionOf, CommandId.cast_toRaw]
        have hless := (build_ahead h com (RequestBoard.ahead_pos hpending hnext)).2
        show 1 + _ ≤ h.board.ahead k + 0
        omega
      · have hnot : call.isBuild = false := by
          cases call with
          | buildNormalDeviceCommand p =>
            cases p with
            | false => rfl
            | true => exact absurd rfl hbuild
          | _ => rfl
        rw [hnot, Bool.toNat_false, Nat.zero_add]
        exact other_ahead h com k hbuild

/-! ### Every continuation -/

/-- **The budget.**  From a handler with `k` pending, any calls emit `k`, or there were no more
builds than kinds ahead of it and requests that overtook it. -/
theorem emitted_or_waits (k : CommandId) (h : WebcamDeviceHandler)
    (com : h.communicationInterface = true) (hpending : h.board.pending k = true)
    (more : List Call) :
    EmittedIn k h more ∨ builds more ≤ h.board.ahead k + overtaking k more := by
  rcases Machine.budget_run (Emission k)
    (fun h => h.communicationInterface = true ∧ h.board.pending k = true)
    (fun h => h.board.ahead k) Call.isBuild (Call.overtakes k) (call_budget k) h ⟨com, hpending⟩
    more with hemitted | ⟨-, hbudget⟩
  · exact Or.inl hemitted
  · exact Or.inr (Nat.le_trans (Nat.le_add_right _ _) hbudget)

/-- Builds that serve the kinds ahead. -/
theorem not_emitted_ahead (k : CommandId) (n : Nat) (h : WebcamDeviceHandler)
    (com : h.communicationInterface = true) (hn : n ≤ h.board.ahead k) :
    ¬ EmittedIn k h (List.replicate n (.buildNormalDeviceCommand true)) := by
  induction n generalizing h with
  | zero =>
    rintro ⟨e, he, -⟩
    exact absurd he List.not_mem_nil
  | succ n ih =>
    obtain ⟨hnot, hless⟩ := build_ahead h com (Nat.lt_of_lt_of_le (Nat.succ_pos n) hn)
    rintro ⟨e, he, hemit⟩
    rw [List.replicate_succ, Machine.trace_cons] at he
    rcases List.mem_cons.mp he with rfl | he
    · exact hnot hemit
    · refine ih _ ?_ ?_ ⟨e, he, hemit⟩
      · rw [handler_step, h.step_communicationInterface, com]
      · rw [handler_step]
        omega

/-- A snapshot requested and served, `m` times. -/
def snapshotsInBetween : Nat → List Call
  | 0 => []
  | m + 1 => .buildCommandFromCommand CommandId.commandTakeSnapshot.toRaw (.bytes []) ::
      .buildNormalDeviceCommand true :: snapshotsInBetween m

/-- A kind behind take-snapshot waits for every snapshot requested in between. -/
theorem not_emitted_overtaken (k : CommandId) (hk : k ≠ .commandTakeSnapshot) (m : Nat)
    (h : WebcamDeviceHandler) (com : h.communicationInterface = true) :
    ¬ EmittedIn k h (snapshotsInBetween m) := by
  have hrank : CommandId.commandTakeSnapshot.rank < k.rank := by
    cases k with
    | commandTakeSnapshot => exact absurd rfl hk
    | commandSetFrameRate => decide
    | commandGetFrameRate => decide
  induction m generalizing h with
  | zero =>
    rintro ⟨e, he, -⟩
    exact absurd he List.not_mem_nil
  | succ m ih =>
    let request : Call :=
      .buildCommandFromCommand CommandId.commandTakeSnapshot.toRaw (.bytes [])
    have com' : (h.step request).2.communicationInterface = true := by
      rw [h.step_communicationInterface, com]
    have hahead : 0 < (h.step request).2.board.ahead k := by
      rw [h.board_step com]
      exact h.board.ahead_pos_of_request none hrank
    obtain ⟨hnot, -⟩ := build_ahead (h.step request).2 com' hahead
    rintro ⟨e, he, hemit⟩
    rw [snapshotsInBetween, Machine.trace_cons, Machine.trace_cons] at he
    rcases List.mem_cons.mp he with rfl | he
    · rw [emission_iff h _ com] at hemit
      cases hemit
    · rcases List.mem_cons.mp he with rfl | he
      · exact hnot hemit
      · refine ih _ ?_ ⟨e, he, hemit⟩
        show ((h.step request).2.step _).2.communicationInterface = true
        rw [WebcamDeviceHandler.step_communicationInterface, com']

theorem snapshotsInBetween_counts (k : CommandId) (hk : k ≠ .commandTakeSnapshot) (m : Nat) :
    builds (snapshotsInBetween m) = m ∧ overtaking k (snapshotsInBetween m) = m := by
  have hover : Call.overtakes k
      (.buildCommandFromCommand CommandId.commandTakeSnapshot.toRaw (.bytes [])) = true := by
    cases k with
    | commandTakeSnapshot => exact absurd rfl hk
    | commandSetFrameRate => rfl
    | commandGetFrameRate => rfl
  induction m with
  | zero => exact ⟨rfl, rfl⟩
  | succ m ih =>
    simp only [builds, overtaking, snapshotsInBetween] at ih ⊢
    rw [List.countP_cons_of_neg (by simp [Call.isBuild]), List.countP_cons_of_pos rfl,
      List.countP_cons_of_pos hover, List.countP_cons_of_neg (by simp [Call.overtakes]), ih.1, ih.2]
    exact ⟨rfl, rfl⟩

theorem replicate_build_counts (k : CommandId) (n : Nat) :
    builds (List.replicate n (.buildNormalDeviceCommand true)) = n ∧
      overtaking k (List.replicate n (.buildNormalDeviceCommand true)) = 0 := by
  refine ⟨?_, ?_⟩
  · rw [builds, List.countP_replicate]
    rfl
  · rw [overtaking, List.countP_replicate]
    rfl

/-- Take-snapshot is never overtaken. -/
theorem overtaking_takeSnapshot (calls : List Call) :
    overtaking .commandTakeSnapshot calls = 0 := by
  refine List.countP_eq_zero.mpr fun call _ => ?_
  cases call with
  | buildCommandFromCommand c data =>
    simp only [Call.overtakes]
    cases CommandId.cast c with
    | none => simp
    | some j => simp [CommandId.rank]
  | _ => simp [Call.overtakes]

/-- How many builds a pending `k` may have to wait for, if it is overtaken at most `m` times. -/
def WebcamDeviceHandler.waitingTime (h : WebcamDeviceHandler) (k : CommandId) (m : Nat) : Nat :=
  h.board.ahead k + (if k = .commandTakeSnapshot then 0 else m)

/-- **The exact waiting time.**  In every reachable state and for every kind with an outstanding
request: in any continuation with at most `m` requests for kinds served before it, one build more
than there are kinds ahead and overtaking requests is sure to have emitted it; and no smaller number
of builds is, since for every `m` there is a continuation in which it waits that long. -/
theorem response_bound (calls : List Call) (k : CommandId)
    (outstanding : OutstandingRequest k (handler.trace freshHandler calls)) (m : Nat) :
    let h := handler.final freshHandler calls
    IsLeast { n | ∀ more, overtaking k more ≤ m → n ≤ builds more → EmittedIn k h more }
      (h.waitingTime k m + 1) := by
  intro h
  have inv : HistoryInvariant (handler.trace freshHandler calls) h := history_invariant calls
  have hpending : h.board.pending k = true := (inv.pending k).mpr outstanding
  constructor
  · intro more hover hbuilds
    refine (emitted_or_waits k h inv.com hpending more).resolve_right fun hwaits => ?_
    unfold WebcamDeviceHandler.waitingTime at hbuilds
    split at hbuilds
    · rename_i hk
      rw [hk, overtaking_takeSnapshot] at hwaits
      rw [hk] at hbuilds
      omega
    · omega
  · intro n hn
    by_contra hless
    -- the kinds ahead are served first, then a snapshot is requested before every build
    let first : List Call := List.replicate (h.board.ahead k) (.buildNormalDeviceCommand true)
    have hfirst : ¬ EmittedIn k h first := not_emitted_ahead k _ h inv.com (Nat.le_refl _)
    obtain ⟨hbuilds, hnone⟩ := replicate_build_counts k (h.board.ahead k)
    unfold WebcamDeviceHandler.waitingTime at hless
    split at hless
    · refine hfirst (hn first ?_ ?_)
      · rw [hnone]
        exact Nat.zero_le m
      · rw [hbuilds]
        omega
    · rename_i hk
      have hcom : (handler.final h first).communicationInterface = true := by
        have hrun : handler.final h first = handler.final freshHandler (calls ++ first) :=
          (Machine.final_append _ _ _ _).symm
        rw [hrun]
        exact (history_invariant (calls ++ first)).com
      have hlater := not_emitted_overtaken k hk m _ hcom
      obtain ⟨hbuilds', hover⟩ := snapshotsInBetween_counts k hk m
      have hemitted : EmittedIn k h (first ++ snapshotsInBetween m) := by
        refine hn _ ?_ ?_
        · rw [overtaking, List.countP_append]
          change overtaking k first + overtaking k (snapshotsInBetween m) ≤ m
          exact Nat.le_of_eq (by rw [hnone, hover, Nat.zero_add])
        · rw [builds, List.countP_append]
          change n ≤ builds first + builds (snapshotsInBetween m)
          rw [hbuilds, hbuilds']
          omega
      exact ((emittedIn_append k h _ _).mp hemitted).elim hfirst hlater

/-- A frame-rate query behind a pending snapshot that is overtaken at most once is emitted by the
third build. -/
theorem response_bound_query :
    let h := handler.final freshHandler
      [.buildCommandFromCommand 1 (.bytes []), .buildCommandFromCommand 3 (.bytes [])]
    IsLeast { n | ∀ more, overtaking .commandGetFrameRate more ≤ 1 → n ≤ builds more →
      EmittedIn .commandGetFrameRate h more } 3 := by
  let snapshot : Call := .buildCommandFromCommand 1 (.bytes [])
  let query : Call := .buildCommandFromCommand 3 (.bytes [])
  have outstanding : OutstandingRequest .commandGetFrameRate
      (handler.trace freshHandler [snapshot, query]) :=
    ⟨[handler.event freshHandler snapshot],
      handler.event (handler.step freshHandler snapshot).2 query, [], rfl, ⟨.bytes [], rfl, rfl⟩,
      fun x hx => absurd hx List.not_mem_nil⟩
  exact response_bound [snapshot, query] .commandGetFrameRate outstanding 1

end FsfwFromZero
