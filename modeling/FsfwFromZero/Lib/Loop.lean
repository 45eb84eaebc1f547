import Mathlib.Tactic.Common

/-!
# Loops with a test at the head

A loop is its body: from a state, the body gives the next state, or nothing where the test fails and
the loop ends.  `loop body fuel` runs it for at most `fuel` tests.

* `loop_spec` — **the rule of total correctness**: a body that keeps an invariant and lowers a
  measure ends, within one more test than the measure allows rounds, in a state that satisfies the
  invariant and fails the test.
-/

namespace FsfwFromZero.Lib

variable {σ : Type*}

/-- Runs the body until it gives nothing; `none` if the fuel is used up before. -/
def loop (body : σ → Option σ) : Nat → σ → Option σ
  | 0, _ => none
  | fuel + 1, s =>
      match body s with
      | none => some s
      | some s' => loop body fuel s'

/-- **Total correctness.**  With an invariant that the body keeps and a measure that it lowers, the
loop ends in a state that satisfies the invariant and fails the test. -/
theorem loop_spec {body : σ → Option σ} {inv : σ → Prop} {measure : σ → Nat}
    (keep : ∀ s s', inv s → body s = some s' → inv s' ∧ measure s' < measure s)
    (fuel : Nat) (s : σ) (start : inv s) (enough : measure s < fuel) :
    ∃ r, loop body fuel s = some r ∧ inv r ∧ body r = none := by
  induction fuel generalizing s with
  | zero => exact absurd enough (Nat.not_lt_zero _)
  | succ fuel ih =>
    cases hbody : body s with
    | none => exact ⟨s, by simp only [loop, hbody], start, hbody⟩
    | some s' =>
      obtain ⟨hinv, hless⟩ := keep s s' start hbody
      obtain ⟨r, hloop, hr⟩ := ih s' hinv (by omega)
      exact ⟨r, by simpa only [loop, hbody] using hloop, hr⟩

end FsfwFromZero.Lib
