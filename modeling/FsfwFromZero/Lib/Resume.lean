import Mathlib.Data.List.Basic

/-!
# Sequences of attempts that can be taken up again

A procedure attempts one thing after the other; an attempt that fails ends the procedure with an
exception, and the state it leaves is the one the next call starts from.  Where every attempt passes
over what is already done, the state of such a procedure is a stage: how far the calls have come.

* `attempts` — the procedure;
* `Stages` — what each attempt does at each stage;
* `attempts_stage` — **a call goes on from its stage** to the first attempt that fails;
* `stageResult_cases` — how it ends.
-/

namespace FsfwFromZero.Lib

variable {ε σ : Type}

/-- One attempt after the other, up to the first exception. -/
def attempts : List (EStateM ε σ Unit) → EStateM ε σ Unit
  | [] => pure ()
  | a :: as => do
      a
      attempts as

/-- From stage `p₀` on, attempt `i` passes over every later stage; at its own stage it leads to the
next one, or fails with the exception and the state of `fails i`. -/
def Stages (stage : Nat → σ) (fails : Nat → Option (ε × σ)) (p₀ i : Nat) (a : EStateM ε σ Unit) :
    Prop :=
  (∀ p, i < p → a.run (stage p) = .ok () (stage p)) ∧
    (p₀ ≤ i → fails i = none → a.run (stage i) = .ok () (stage (i + 1))) ∧
    (p₀ ≤ i → ∀ e s, fails i = some (e, s) → a.run (stage i) = .error e s)

/-- How a call ends that goes from stage `p` to stage `n`. -/
def stageResult (stage : Nat → σ) (fails : Nat → Option (ε × σ)) (p n : Nat) :
    EStateM.Result ε σ Unit :=
  match (List.range' p (n - p)).findSome? fails with
  | none => .ok () (stage n)
  | some (e, s) => .error e s

theorem attempts_cons_ok (a : EStateM ε σ Unit) (as : List (EStateM ε σ Unit)) {s s' : σ}
    (h : a.run s = .ok () s') : (attempts (a :: as)).run s = (attempts as).run s' := by
  rw [attempts, EStateM.run_bind, h]

theorem attempts_cons_error (a : EStateM ε σ Unit) (as : List (EStateM ε σ Unit)) {s s' : σ} {e : ε}
    (h : a.run s = .error e s') : (attempts (a :: as)).run s = .error e s' := by
  rw [attempts, EStateM.run_bind, h]

/-- **A call goes on from its stage.**  The induction is on the attempts still to come, the first of
which is attempt `i`. -/
theorem attempts_stage {stage : Nat → σ} {fails : Nat → Option (ε × σ)} {p₀ : Nat}
    (as : List (EStateM ε σ Unit)) (i : Nat)
    (stages : ∀ j a, as[j]? = some a → Stages stage fails p₀ (i + j) a) (p : Nat) (hi : i ≤ p)
    (hp : p ≤ i + as.length) (hbase : p₀ ≤ p) :
    (attempts as).run (stage p) = stageResult stage fails p (i + as.length) := by
  induction as generalizing i p with
  | nil =>
    have hstage : p = i := Nat.le_antisymm hp hi
    rw [hstage, stageResult, List.length_nil, Nat.add_zero, Nat.sub_self]
    rfl
  | cons a as ih =>
    obtain ⟨hskip, hmake, hfail⟩ : Stages stage fails p₀ i a := stages 0 a rfl
    have hrest : ∀ j b, as[j]? = some b → Stages stage fails p₀ (i + 1 + j) b := by
      intro j b hb
      rw [Nat.add_assoc, Nat.add_comm 1 j]
      exact stages (j + 1) b hb
    have hend : i + (a :: as).length = i + 1 + as.length := by
      rw [List.length_cons]
      omega
    rw [hend] at hp ⊢
    rcases Nat.eq_or_lt_of_le hi with rfl | hlater
    · -- the attempt is the one this stage waits for
      have hrange : List.range' i (i + 1 + as.length - i) =
          i :: List.range' (i + 1) (i + 1 + as.length - (i + 1)) := by
        rw [show i + 1 + as.length - i = (i + 1 + as.length - (i + 1)) + 1 by omega,
          List.range'_succ]
      cases hfails : fails i with
      | none =>
        rw [attempts_cons_ok a as (hmake hbase hfails),
          ih (i + 1) hrest (i + 1) Nat.le.refl (by omega) (by omega),
          stageResult, stageResult, hrange, List.findSome?_cons, hfails]
      | some failure =>
        rw [attempts_cons_error a as (hfail hbase failure.1 failure.2 hfails), stageResult, hrange,
          List.findSome?_cons, hfails]
    · rw [attempts_cons_ok a as (hskip p hlater)]
      exact ih (i + 1) hrest p hlater hp hbase

/-- A call comes to the end, or to the first attempt that fails. -/
theorem stageResult_cases (stage : Nat → σ) (fails : Nat → Option (ε × σ)) (p n : Nat) :
    (stageResult stage fails p n = .ok () (stage n) ∧ ∀ i, p ≤ i → i < n → fails i = none) ∨
    ∃ i e s, p ≤ i ∧ i < n ∧ fails i = some (e, s) ∧ (∀ j, p ≤ j → j < i → fails j = none) ∧
      stageResult stage fails p n = .error e s := by
  cases hfound : (List.range' p (n - p)).findSome? fails with
  | none =>
    refine Or.inl ⟨by rw [stageResult, hfound], fun i hp hn => ?_⟩
    exact List.findSome?_eq_none_iff.mp hfound i (List.mem_range'_1.mpr ⟨hp, by omega⟩)
  | some failure =>
    obtain ⟨before, i, after, hsplit, hfails, hnone⟩ := List.findSome?_eq_some_iff.mp hfound
    obtain ⟨m, hm, hbefore, hrest⟩ := List.range'_eq_append_iff.mp hsplit
    have hi : i = p + m := by
      cases hlength : n - p - m with
      | zero =>
        rw [hlength] at hrest
        cases hrest
      | succ l =>
        rw [hlength, List.range'_succ, Nat.mul_one] at hrest
        exact (List.cons.inj hrest).1
    have hlast : i ∈ List.range' p (n - p) := by
      rw [hsplit]
      exact List.mem_append_right _ (List.mem_cons_self ..)
    obtain ⟨hp, hn⟩ := List.mem_range'_1.mp hlast
    refine Or.inr ⟨i, failure.1, failure.2, hp, by omega, hfails, fun j hpj hji => ?_, ?_⟩
    · rw [hbefore] at hnone
      exact hnone j (List.mem_range'_1.mpr ⟨hpj, by omega⟩)
    · rw [stageResult, hfound]

end FsfwFromZero.Lib
