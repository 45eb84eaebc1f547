import FsfwFromZero.Lib.Machine

/-!
# Budgets along a run

Some inputs of a machine are paid for from a credit that the state holds, others raise the credit.
As long as a goal event has not happened every step stays within the budget; so a run that pays more
often than the start and the inputs allow has reached the goal.

* `budget_run` — **the budget rule**: what one step does to the credit, summed over a run.
-/

namespace FsfwFromZero.Lib

namespace Machine

variable {σ ι ο : Type*} {M : Machine σ ι ο}

/-- **The budget rule.**  If every step from a state with the invariant is a goal event, or keeps the
invariant and pays from the credit what it spends beyond what it gains, then every run has a goal
event, or keeps the invariant and pays from the credit. -/
theorem budget_run (goal : Event σ ι ο → Prop) (inv : σ → Prop) (credit : σ → Nat)
    (spends gains : ι → Bool)
    (keep : ∀ s i, inv s → goal (M.event s i) ∨ (inv (M.step s i).2 ∧
      (spends i).toNat + credit (M.step s i).2 ≤ credit s + (gains i).toNat))
    (s : σ) (start : inv s) (is : List ι) :
    (∃ e ∈ M.trace s is, goal e) ∨ (inv (M.final s is) ∧
      is.countP spends + credit (M.final s is) ≤ credit s + is.countP gains) := by
  induction is using List.reverseRecOn with
  | nil => exact Or.inr ⟨start, by simp⟩
  | append_singleton is i ih =>
    rw [trace_snoc, final_snoc, List.countP_append, List.countP_append]
    rcases ih with ⟨e, he, hgoal⟩ | ⟨hinv, hbudget⟩
    · exact Or.inl ⟨e, List.mem_append_left _ he, hgoal⟩
    · rcases keep _ i hinv with hgoal | ⟨hinv', hstep⟩
      · exact Or.inl ⟨_, List.mem_append_right _ (List.mem_singleton_self _), hgoal⟩
      · refine Or.inr ⟨hinv', ?_⟩
        have hcount : ∀ p : ι → Bool, [i].countP p = (p i).toNat := by
          intro p
          cases hp : p i <;> simp [hp]
        rw [hcount, hcount]
        omega

end Machine

end FsfwFromZero.Lib
