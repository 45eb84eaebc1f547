import FsfwFromZero.Lib.Machine

/-!
# One machine inside another

A machine may drive a smaller one: each of its steps makes the smaller machine take some inputs, and
a view of its state is the smaller machine's state.

* `Driver` — the view and the inputs each event stands for, with the fact about a single step that
  makes them fit; a `Simulation` also shows the smaller machine's outputs;
* `run_final`, `run_outputs` — **runs drive runs**: through the view, a run is the run of the
  smaller machine on the inputs its events stand for, with the outputs they show.
-/

namespace FsfwFromZero.Lib

variable {σ ι ο σ' ι' ο' : Type*}

/-- `M` drives `N`. -/
structure Driver (M : Machine σ ι ο) (N : Machine σ' ι' ο') where
  view : σ → σ'
  inputs : Event σ ι ο → List ι'
  step_final : ∀ s i, N.final (view s) (inputs (M.event s i)) = view (M.step s i).2

/-- `M` drives `N` and shows its outputs. -/
structure Simulation (M : Machine σ ι ο) (N : Machine σ' ι' ο') extends Driver M N where
  outputs : Event σ ι ο → List ο'
  step_outputs : ∀ s i,
    (N.trace (view s) (inputs (M.event s i))).map Event.output = outputs (M.event s i)

variable {M : Machine σ ι ο} {N : Machine σ' ι' ο'}

namespace Driver

variable (D : Driver M N)

/-- The inputs that a history stands for. -/
def inputsOf (hist : List (Event σ ι ο)) : List ι' := hist.flatMap D.inputs

theorem inputsOf_snoc (hist : List (Event σ ι ο)) (e : Event σ ι ο) :
    D.inputsOf (hist ++ [e]) = D.inputsOf hist ++ D.inputs e := by
  rw [inputsOf, List.flatMap_append, List.flatMap_singleton, ← inputsOf]

/-- **The smaller machine ends where the view says.** -/
theorem run_final (s : σ) (is : List ι) :
    N.final (D.view s) (D.inputsOf (M.trace s is)) = D.view (M.final s is) := by
  induction is using List.reverseRecOn with
  | nil => rfl
  | append_singleton is i ih =>
    rw [Machine.trace_snoc, inputsOf_snoc, Machine.final_append, ih, D.step_final,
      Machine.final_snoc]

/-- The history of the smaller machine, one step longer. -/
theorem trace_inputsOf_snoc (s : σ) (is : List ι) (i : ι) :
    N.trace (D.view s) (D.inputsOf (M.trace s (is ++ [i]))) =
      N.trace (D.view s) (D.inputsOf (M.trace s is)) ++
        N.trace (D.view (M.final s is)) (D.inputs (M.event (M.final s is) i)) := by
  rw [Machine.trace_snoc, inputsOf_snoc, Machine.trace_append, D.run_final]

end Driver

/-- **The smaller machine answers what the events show.** -/
theorem Simulation.run_outputs (S : Simulation M N) (s : σ) (is : List ι) :
    (N.trace (S.view s) (S.inputsOf (M.trace s is))).map Event.output =
      (M.trace s is).flatMap S.outputs := by
  induction is using List.reverseRecOn with
  | nil => rfl
  | append_singleton is i ih =>
    rw [S.trace_inputsOf_snoc, List.map_append, ih, S.step_outputs, Machine.trace_snoc,
      List.flatMap_append, List.flatMap_singleton]

end FsfwFromZero.Lib
