import Mathlib.Data.List.Induction
import Mathlib.Tactic.Common

/-!
# Deterministic machines, their runs and their histories

A `Machine` answers every input with an output and a next state.  This file is the run fabric the
rest of the development stands on, machine-independently:

* `final` / `trace` — the state after a list of inputs, and the list of events (input, output, the
  state the step left behind) the run produced, oldest first;
* `trace_append`, `trace_snoc` — how runs compose, so that a run can be taken apart from either end;
* `Lawful` — every step of a run met a guard on the history and the state before it (decidable when
  the guard is);
* `history_induction` / `lawful_induction` — the invariant rules: a relation between history and
  state that holds at the start and is kept by every (lawful) step holds after every run;
* `trace_split` — an event of a run is one step taken after an initial part of it.
-/

namespace FsfwFromZero.Lib

/-- A deterministic machine: one input gives one output and one next state. -/
structure Machine (σ ι ο : Type*) where
  step : σ → ι → ο × σ

/-- One step of a run as an observer sees it: what went in, what came out, and the state the machine
was left in. -/
structure Event (σ ι ο : Type*) where
  input : ι
  output : ο
  state : σ

namespace Machine

variable {σ ι ο : Type*} (M : Machine σ ι ο)

/-- The event that input `i` causes in state `s`. -/
def event (s : σ) (i : ι) : Event σ ι ο := ⟨i, (M.step s i).1, (M.step s i).2⟩

/-- The state after a list of inputs. -/
def final : σ → List ι → σ
  | s, [] => s
  | s, i :: is => final (M.step s i).2 is

/-- The history of a run, oldest event first. -/
def trace : σ → List ι → List (Event σ ι ο)
  | _, [] => []
  | s, i :: is => M.event s i :: trace (M.step s i).2 is

@[simp] theorem event_input (s : σ) (i : ι) : (M.event s i).input = i := rfl

@[simp] theorem event_output (s : σ) (i : ι) : (M.event s i).output = (M.step s i).1 := rfl

@[simp] theorem event_state (s : σ) (i : ι) : (M.event s i).state = (M.step s i).2 := rfl

@[simp] theorem final_nil (s : σ) : M.final s [] = s := rfl

@[simp] theorem trace_nil (s : σ) : M.trace s [] = [] := rfl

@[simp] theorem final_cons (s : σ) (i : ι) (is : List ι) :
    M.final s (i :: is) = M.final (M.step s i).2 is := rfl

@[simp] theorem trace_cons (s : σ) (i : ι) (is : List ι) :
    M.trace s (i :: is) = M.event s i :: M.trace (M.step s i).2 is := rfl

theorem final_append (s : σ) (is js : List ι) :
    M.final s (is ++ js) = M.final (M.final s is) js := by
  induction is generalizing s with
  | nil => rfl
  | cons i is ih => exact ih (M.step s i).2

theorem trace_append (s : σ) (is js : List ι) :
    M.trace s (is ++ js) = M.trace s is ++ M.trace (M.final s is) js := by
  induction is generalizing s with
  | nil => rfl
  | cons i is ih => simp only [List.cons_append, trace_cons, final_cons, ih]

theorem final_snoc (s : σ) (is : List ι) (i : ι) :
    M.final s (is ++ [i]) = (M.step (M.final s is) i).2 := by
  rw [final_append]; rfl

theorem trace_snoc (s : σ) (is : List ι) (i : ι) :
    M.trace s (is ++ [i]) = M.trace s is ++ [M.event (M.final s is) i] := by
  rw [trace_append]; rfl

/-- The inputs of a history are the inputs of the run. -/
theorem trace_inputs (s : σ) (is : List ι) : (M.trace s is).map Event.input = is := by
  induction is generalizing s with
  | nil => rfl
  | cons i is ih => rw [trace_cons, List.map_cons, ih, event_input]

/-! ### Splitting a run at one of its events -/

/-- A split of the history is a split of the inputs: the events before it are the history of the
inputs before it, and the event itself is one step from the state they led to. -/
theorem trace_split (s : σ) (is : List ι) (a b : List (Event σ ι ο)) (e : Event σ ι ο)
    (h : M.trace s is = a ++ e :: b) :
    ∃ pre i post, is = pre ++ i :: post ∧ a = M.trace s pre ∧ e = M.event (M.final s pre) i ∧
      b = M.trace (M.step (M.final s pre) i).2 post := by
  induction is generalizing s a with
  | nil => simp at h
  | cons i is ih =>
    cases a with
    | nil =>
      simp only [trace_cons, List.nil_append, List.cons.injEq] at h
      exact ⟨[], i, is, rfl, rfl, h.1.symm, h.2.symm⟩
    | cons x a =>
      simp only [trace_cons, List.cons_append, List.cons.injEq] at h
      obtain ⟨pre, j, post, his, ha, he, hb⟩ := ih (M.step s i).2 a h.2
      refine ⟨i :: pre, j, post, by rw [his]; rfl, ?_, he, hb⟩
      rw [trace_cons, ← ha, h.1]

/-- An event of a history is a step of the run. -/
theorem mem_trace {s : σ} {is : List ι} {e : Event σ ι ο} (h : e ∈ M.trace s is) :
    ∃ pre i post, is = pre ++ i :: post ∧ e = M.event (M.final s pre) i := by
  obtain ⟨a, b, hab⟩ := List.append_of_mem h
  obtain ⟨pre, i, post, his, -, he, -⟩ := M.trace_split s is a b e hab
  exact ⟨pre, i, post, his, he⟩

/-! ### The invariant rules -/

/-- **History induction.**  A relation between history and state that holds of the empty history and
that every step keeps holds after every run. -/
theorem history_induction {R : List (Event σ ι ο) → σ → Prop} {s₀ : σ} (start : R [] s₀)
    (keep : ∀ h s i, R h s → R (h ++ [M.event s i]) (M.step s i).2) (is : List ι) :
    R (M.trace s₀ is) (M.final s₀ is) := by
  induction is using List.reverseRecOn with
  | nil => exact start
  | append_singleton is i ih =>
    rw [trace_snoc, final_snoc]
    exact keep _ _ i ih

/-- Every step of the run met the guard, which reads the history and the state before the step;
`past` is the history so far. -/
def LawfulFrom (guard : List (Event σ ι ο) → σ → ι → Prop) :
    List (Event σ ι ο) → σ → List ι → Prop
  | _, _, [] => True
  | past, s, i :: is =>
      guard past s i ∧ LawfulFrom guard (past ++ [M.event s i]) (M.step s i).2 is

/-- Every step of the run from `s₀` met the guard. -/
def Lawful (guard : List (Event σ ι ο) → σ → ι → Prop) (s₀ : σ) (is : List ι) : Prop :=
  M.LawfulFrom guard [] s₀ is

instance decidableLawfulFrom (guard : List (Event σ ι ο) → σ → ι → Prop)
    [∀ past s i, Decidable (guard past s i)] :
    ∀ past s is, Decidable (M.LawfulFrom guard past s is)
  | _, _, [] => .isTrue trivial
  | past, s, i :: is =>
      have := decidableLawfulFrom guard (past ++ [M.event s i]) (M.step s i).2 is
      inferInstanceAs (Decidable (_ ∧ _))

instance (guard : List (Event σ ι ο) → σ → ι → Prop) [∀ past s i, Decidable (guard past s i)]
    (s₀ : σ) (is : List ι) : Decidable (M.Lawful guard s₀ is) :=
  decidableLawfulFrom M guard [] s₀ is

variable {M}

theorem lawfulFrom_append {guard : List (Event σ ι ο) → σ → ι → Prop} (past : List (Event σ ι ο))
    (s : σ) (is js : List ι) : M.LawfulFrom guard past s (is ++ js) ↔
      M.LawfulFrom guard past s is ∧
        M.LawfulFrom guard (past ++ M.trace s is) (M.final s is) js := by
  induction is generalizing past s with
  | nil => simp [LawfulFrom]
  | cons i is ih =>
    simp only [List.cons_append, LawfulFrom, ih, trace_cons, final_cons, List.append_assoc,
      List.cons_append, List.nil_append, and_assoc]

theorem lawful_snoc {guard : List (Event σ ι ο) → σ → ι → Prop} {s₀ : σ} {is : List ι} {i : ι} :
    M.Lawful guard s₀ (is ++ [i]) ↔
      M.Lawful guard s₀ is ∧ guard (M.trace s₀ is) (M.final s₀ is) i := by
  simp only [Lawful, lawfulFrom_append, LawfulFrom, List.nil_append, and_true]

/-- In a lawful run the guard held where an input was given, and the run up to there was lawful. -/
theorem lawful_split {guard : List (Event σ ι ο) → σ → ι → Prop} {s₀ : σ}
    {pre post : List ι} {i : ι} (lawful : M.Lawful guard s₀ (pre ++ i :: post)) :
    M.Lawful guard s₀ pre ∧ guard (M.trace s₀ pre) (M.final s₀ pre) i := by
  simp only [Lawful, lawfulFrom_append, LawfulFrom, List.nil_append] at lawful
  exact ⟨lawful.1, lawful.2.1⟩

/-- A run is lawful exactly when the guard held wherever an input was given. -/
theorem lawful_iff {guard : List (Event σ ι ο) → σ → ι → Prop} {s₀ : σ} {is : List ι} :
    M.Lawful guard s₀ is ↔
      ∀ pre i post, is = pre ++ i :: post → guard (M.trace s₀ pre) (M.final s₀ pre) i := by
  refine ⟨fun lawful pre i post his => ?_, fun hguard => ?_⟩
  · rw [his] at lawful
    exact (lawful_split lawful).2
  · induction is using List.reverseRecOn with
    | nil => trivial
    | append_singleton is i ih =>
      refine lawful_snoc.mpr ⟨ih fun pre j post his => ?_, hguard is i [] rfl⟩
      exact hguard pre j (post ++ [i]) (by rw [his, List.append_assoc]; rfl)

theorem Lawful.and {guard other : List (Event σ ι ο) → σ → ι → Prop} {s₀ : σ} {is : List ι}
    (lawful : M.Lawful guard s₀ is) (lawful' : M.Lawful other s₀ is) :
    M.Lawful (fun past s i => guard past s i ∧ other past s i) s₀ is := by
  induction is using List.reverseRecOn with
  | nil => trivial
  | append_singleton is i ih =>
    obtain ⟨his, hi⟩ := lawful_snoc.mp lawful
    obtain ⟨his', hi'⟩ := lawful_snoc.mp lawful'
    exact lawful_snoc.mpr ⟨ih his his', hi, hi'⟩

/-- **Lawful induction.**  As `history_induction`, for runs all of whose steps met a guard. -/
theorem lawful_induction {guard : List (Event σ ι ο) → σ → ι → Prop}
    {R : List (Event σ ι ο) → σ → Prop} {s₀ : σ} (start : R [] s₀)
    (keep : ∀ h s i, guard h s i → R h s → R (h ++ [M.event s i]) (M.step s i).2)
    (is : List ι) (lawful : M.Lawful guard s₀ is) : R (M.trace s₀ is) (M.final s₀ is) := by
  induction is using List.reverseRecOn with
  | nil => exact start
  | append_singleton is i ih =>
    obtain ⟨his, hi⟩ := lawful_snoc.mp lawful
    rw [trace_snoc, final_snoc]
    exact keep _ _ i hi (ih his)

end Machine

end FsfwFromZero.Lib
