import Mathlib.Logic.Function.Basic
import FsfwFromZero.Lib.Machine

/-!
# Threads around one mutex

Threads share a state and one mutex.  A thread is a program over control points: at each point it
takes the mutex, gives it back, or makes one access to the shared state, which may be observed.  A
schedule is any list of threads, and a thread that is scheduled while it waits for the mutex stays
where it is.

* `Op`, `Threads` — programs, with the control points inside the critical section marked and the
  marks checked against the programs;
* `Config`, `Threads.run : Machine` — what the threads do under a schedule, `observed` — what was
  seen of it, by thread;
* `Exclusive` / `exclusive_step` — **mutual exclusion**: at most one thread is inside, and the mutex
  is taken exactly while one is;
* `Outline` — assertions for the control points and for the shared state while the mutex is free,
  `outline_run` — **the rule of critical sections**: an outline that every single operation respects
  holds under every schedule.
-/

namespace FsfwFromZero.Lib

/-- What a thread does at a control point. -/
inductive Op (κ σ ο : Type*)
  | lock (next : κ)
  | unlock (next : κ)
  | access (run : σ → κ × σ × Option ο)

/-- The programs of threads that share a mutex.  `inside` marks the control points of the critical
section. -/
structure Threads (τ κ σ ο : Type*) where
  op : τ → κ → Op κ σ ο
  inside : κ → Bool
  lock_inside : ∀ t k next, op t k = .lock next → inside k = false ∧ inside next = true
  unlock_inside : ∀ t k next, op t k = .unlock next → inside k = true ∧ inside next = false
  access_inside : ∀ t k run s, op t k = .access run → inside (run s).1 = inside k

/-- The shared state, whether the mutex is taken, and where each thread is. -/
structure Config (τ κ σ : Type*) where
  shared : σ
  locked : Bool
  pc : τ → κ

namespace Threads

variable {τ κ σ ο : Type*} (T : Threads τ κ σ ο)

/-! ### Mutual exclusion, as a condition -/

/-- At most one thread is inside, and the mutex is taken exactly while one is. -/
structure Exclusive (c : Config τ κ σ) : Prop where
  taken : c.locked = true ↔ ∃ t, T.inside (c.pc t) = true
  unique : ∀ t u, T.inside (c.pc t) = true → T.inside (c.pc u) = true → t = u

variable {T} in
theorem Exclusive.outside {c : Config τ κ σ} (h : T.Exclusive c) (hfree : c.locked = false)
    (t : τ) : T.inside (c.pc t) = false := by
  by_contra hinside
  have htaken := h.taken.mpr ⟨t, by simpa using hinside⟩
  rw [hfree] at htaken
  cases htaken

/-! ### Schedules -/

variable [DecidableEq τ]

/-- The threads under a schedule. -/
def run : Machine (Config τ κ σ) τ (Option ο) where
  step c t :=
    match T.op t (c.pc t) with
    | .lock next =>
        if c.locked then (none, c)
        else (none, { c with locked := true, pc := Function.update c.pc t next })
    | .unlock next => (none, { c with locked := false, pc := Function.update c.pc t next })
    | .access access =>
        let (next, shared, seen) := access c.shared
        (seen, { c with shared := shared, pc := Function.update c.pc t next })

/-- What was observed, with the thread that was seen doing it. -/
def observed (hist : List (Event (Config τ κ σ) τ (Option ο))) : List (τ × ο) :=
  hist.filterMap fun e => e.output.map fun o => (e.input, o)

theorem observed_snoc (hist : List (Event (Config τ κ σ) τ (Option ο))) (c : Config τ κ σ) (t : τ) :
    observed (hist ++ [T.run.event c t]) =
      observed hist ++ ((T.run.step c t).1.map fun o => (t, o)).toList := by
  rw [observed, List.filterMap_append, ← observed]
  cases hout : (T.run.step c t).1 <;> simp [Machine.event, hout]

/-! ### What one step does -/

section Steps

variable {T} {c : Config τ κ σ} {t : τ}

theorem step_blocked {next : κ} (hop : T.op t (c.pc t) = .lock next) (hlocked : c.locked = true) :
    T.run.step c t = (none, c) := by
  simp only [run, hop, hlocked, if_true]

theorem step_lock {next : κ} (hop : T.op t (c.pc t) = .lock next) (hfree : c.locked = false) :
    T.run.step c t = (none, { c with locked := true, pc := Function.update c.pc t next }) := by
  simp only [run, hop, hfree, Bool.false_eq_true, if_false]

theorem step_unlock {next : κ} (hop : T.op t (c.pc t) = .unlock next) :
    T.run.step c t = (none, { c with locked := false, pc := Function.update c.pc t next }) := by
  simp only [run, hop]

theorem step_access {access : σ → κ × σ × Option ο} (hop : T.op t (c.pc t) = .access access) :
    T.run.step c t =
      ((access c.shared).2.2,
        { c with
          shared := (access c.shared).2.1
          pc := Function.update c.pc t (access c.shared).1 }) := by
  simp only [run, hop]

end Steps

/-! ### Mutual exclusion is kept -/

variable {T} {c : Config τ κ σ}

/-- A step that moves one thread among points of the same kind. -/
theorem Exclusive.move (h : T.Exclusive c) (t : τ) (next : κ) (shared : σ)
    (hsame : T.inside next = T.inside (c.pc t)) :
    T.Exclusive { c with shared := shared, pc := Function.update c.pc t next } := by
  have hpc : ∀ u, T.inside (Function.update c.pc t next u) = T.inside (c.pc u) := by
    intro u
    by_cases hu : u = t
    · rw [hu, Function.update_self, hsame]
    · rw [Function.update_of_ne hu]
  refine ⟨?_, fun u v => ?_⟩
  · simp only [hpc]
    exact h.taken
  · simp only [hpc]
    exact h.unique u v

theorem Exclusive.enter (h : T.Exclusive c) (hfree : c.locked = false) (t : τ) {next : κ}
    (hinside : T.inside next = true) :
    T.Exclusive { c with locked := true, pc := Function.update c.pc t next } := by
  have hother : ∀ u, T.inside (Function.update c.pc t next u) = true → u = t := by
    intro u hu
    by_contra hne
    rw [Function.update_of_ne hne, h.outside hfree u] at hu
    cases hu
  refine ⟨?_, fun u v hu hv => (hother u hu).trans (hother v hv).symm⟩
  refine iff_of_true rfl ⟨t, ?_⟩
  show T.inside (Function.update c.pc t next t) = true
  rw [Function.update_self]
  exact hinside

theorem Exclusive.leave (h : T.Exclusive c) {t : τ} {next : κ}
    (hwas : T.inside (c.pc t) = true) (houtside : T.inside next = false) :
    T.Exclusive { c with locked := false, pc := Function.update c.pc t next } := by
  have hnone : ∀ u, T.inside (Function.update c.pc t next u) = false := by
    intro u
    by_cases hu : u = t
    · rw [hu, Function.update_self, houtside]
    · rw [Function.update_of_ne hu]
      by_contra hinside
      exact hu (h.unique u t (by simpa using hinside) hwas)
  refine ⟨?_, fun u v hu => ?_⟩
  · simp only [hnone]
    simp
  · simp only [hnone] at hu
    cases hu

variable (T)

/-- **One step keeps mutual exclusion.** -/
theorem exclusive_step (c : Config τ κ σ) (t : τ) (h : T.Exclusive c) :
    T.Exclusive (T.run.step c t).2 := by
  cases hop : T.op t (c.pc t) with
  | lock next =>
    cases hlocked : c.locked with
    | true =>
      rw [step_blocked hop hlocked]
      exact h
    | false =>
      rw [step_lock hop hlocked]
      exact h.enter hlocked t (T.lock_inside t _ next hop).2
  | unlock next =>
    rw [step_unlock hop]
    obtain ⟨hwas, houtside⟩ := T.unlock_inside t _ next hop
    exact h.leave hwas houtside
  | access access =>
    rw [step_access hop]
    exact h.move t _ _ (T.access_inside t _ access c.shared hop)

/-! ### The rule of critical sections -/

/-- Assertions about what was observed and the shared state: `free` while the mutex is free, `here`
for a thread at a control point.  The other fields are what each kind of operation has to respect;
an access must also leave alone what the other threads rely on. -/
structure Outline where
  free : List (τ × ο) → σ → Prop
  here : τ → κ → List (τ × ο) → σ → Prop
  lock : ∀ t k next seen s, T.op t k = .lock next → free seen s → here t k seen s →
    here t next seen s
  unlock : ∀ t k next seen s, T.op t k = .unlock next → here t k seen s →
    free seen s ∧ here t next seen s
  access : ∀ t k run seen s, T.op t k = .access run → here t k seen s →
    here t (run s).1 (seen ++ ((run s).2.2.map fun o => (t, o)).toList) (run s).2.1
  others : ∀ t k run seen s u m, T.op t k = .access run → here t k seen s → u ≠ t →
    (T.inside k = true → T.inside m = false) → here u m seen s →
    here u m (seen ++ ((run s).2.2.map fun o => (t, o)).toList) (run s).2.1
  outside : ∀ t k run seen s, T.op t k = .access run → T.inside k = false → here t k seen s →
    free seen s → free (seen ++ ((run s).2.2.map fun o => (t, o)).toList) (run s).2.1

variable {T}

/-- A configuration meets the outline. -/
structure Outline.Meets (O : T.Outline) (seen : List (τ × ο)) (c : Config τ κ σ) : Prop where
  exclusive : T.Exclusive c
  free : c.locked = false → O.free seen c.shared
  here : ∀ t, O.here t (c.pc t) seen c.shared

/-- **One step keeps the outline.** -/
theorem Outline.meets_step (O : T.Outline) (seen : List (τ × ο)) (c : Config τ κ σ) (t : τ)
    (h : O.Meets seen c) :
    O.Meets (seen ++ ((T.run.step c t).1.map fun o => (t, o)).toList) (T.run.step c t).2 := by
  have hexclusive := T.exclusive_step c t h.exclusive
  cases hop : T.op t (c.pc t) with
  | lock next =>
    cases hlocked : c.locked with
    | true =>
      rw [step_blocked hop hlocked]
      simpa using h
    | false =>
      rw [step_lock hop hlocked] at hexclusive ⊢
      simp only [Option.map_none, Option.toList_none, List.append_nil]
      refine ⟨hexclusive, fun htaken => by simp at htaken, fun u => ?_⟩
      show O.here u (Function.update c.pc t next u) seen c.shared
      by_cases hu : u = t
      · rw [hu, Function.update_self]
        exact O.lock t _ next seen c.shared hop (h.free hlocked) (h.here t)
      · rw [Function.update_of_ne hu]
        exact h.here u
  | unlock next =>
    rw [step_unlock hop] at hexclusive ⊢
    obtain ⟨hfree, hnext⟩ := O.unlock t _ next seen c.shared hop (h.here t)
    simp only [Option.map_none, Option.toList_none, List.append_nil]
    refine ⟨hexclusive, fun _ => hfree, fun u => ?_⟩
    show O.here u (Function.update c.pc t next u) seen c.shared
    by_cases hu : u = t
    · rw [hu, Function.update_self]
      exact hnext
    · rw [Function.update_of_ne hu]
      exact h.here u
  | access access =>
    rw [step_access hop] at hexclusive ⊢
    refine ⟨hexclusive, fun hlocked => ?_, fun u => ?_⟩
    · exact O.outside t _ access seen c.shared hop (h.exclusive.outside hlocked t) (h.here t)
        (h.free hlocked)
    · show O.here u (Function.update c.pc t (access c.shared).1 u) _ (access c.shared).2.1
      by_cases hu : u = t
      · rw [hu, Function.update_self]
        exact O.access t _ access seen c.shared hop (h.here t)
      · rw [Function.update_of_ne hu]
        refine O.others t _ access seen c.shared u _ hop (h.here t) hu (fun hinside => ?_)
          (h.here u)
        -- two threads inside at once would be one thread
        by_contra hboth
        exact hu (h.exclusive.unique u t (by simpa using hboth) hinside)

/-- **The rule of critical sections**: under every schedule the outline holds. -/
theorem Outline.outline_run (O : T.Outline) (c : Config τ κ σ) (start : O.Meets [] c)
    (schedule : List τ) :
    O.Meets (observed (T.run.trace c schedule)) (T.run.final c schedule) := by
  refine T.run.history_induction (R := fun hist c => O.Meets (observed hist) c) start
    (fun hist c t h => ?_) schedule
  rw [T.observed_snoc]
  exact O.meets_step _ c t h

end Threads

end FsfwFromZero.Lib
