import FsfwFromZero.Lib.Mutex

/-!
# The shared counter of the mutex workshop

`ws-ipc/ipc-solutions/main-01.cpp`: two tasks increment and print `SHARED_COUNTER` under
`SHARED_LOCK`, `task0` with `lock()` and `unlock()`, `task1` with a `lock_guard` in a block of its
own.  An increment is a load and a store, and printing loads the counter again; the scheduler may
switch between any two of these.

* `counterTask` — the loop of a task, `task0`, `task1` — the two tasks;
* `counterOutline` — what holds at each point of the loop;
* `counter_prints_every_increment` — **no increment is lost or seen twice**: under every schedule
  the lines printed carry 1, 2, 3, ..., and a free mutex finds the counter at their number.
-/

namespace FsfwFromZero

open Lib

namespace SharedCounter

/-- The threads that `main` starts. -/
inductive Task
  | task0
  | task1
  deriving Repr, DecidableEq

/-- A line written to `cout`: a text and the counter. -/
structure Line where
  text : String
  value : UInt32
  deriving Repr, DecidableEq

/-- Where a task is in its loop. -/
inductive Point
  | lock
  | load
  | store (loaded : UInt32)
  | print
  | unlock
  deriving Repr, DecidableEq

/-- The loop of a task that prints this text. -/
def counterTask (text : String) : Point → Op Point UInt32 Line
  | .lock => .lock .load
  | .load => .access fun counter => (.store counter, counter, none)
  | .store loaded => .access fun _ => (.print, loaded + 1, none)
  | .print => .access fun counter => (.unlock, counter, some ⟨text, counter⟩)
  | .unlock => .unlock .lock

def Task.text : Task → String
  | task0 => "Task0: Shared counter after increment"
  | task1 => "Task1: Shared counter after increment"

def task0 : Point → Op Point UInt32 Line := counterTask Task.task0.text

def task1 : Point → Op Point UInt32 Line := counterTask Task.task1.text

/-- The program of a thread. -/
def program : Task → Point → Op Point UInt32 Line
  | .task0 => task0
  | .task1 => task1

theorem program_eq (t : Task) : program t = counterTask t.text := by
  cases t <;> rfl

/-- The two tasks around `SHARED_LOCK`. -/
def tasks : Threads Task Point UInt32 Line where
  op := program
  inside
    | .lock => false
    | _ => true
  lock_inside t k next hop := by
    rw [program_eq] at hop
    cases k <;> cases hop
    exact ⟨rfl, rfl⟩
  unlock_inside t k next hop := by
    rw [program_eq] at hop
    cases k <;> cases hop
    exact ⟨rfl, rfl⟩
  access_inside t k run s hop := by
    rw [program_eq] at hop
    cases k <;> cases hop <;> rfl

/-- The program as started. -/
def started : Config Task Point UInt32 := ⟨0, false, fun _ => .lock⟩

/-! ### What holds at each point -/

/-- The lines carry 1, 2, 3, ..., each under the text of its task. -/
def Numbered (seen : List (Task × Line)) : Prop :=
  seen.map (fun line => line.2.value) =
      (List.range seen.length).map (fun i => UInt32.ofNat (i + 1)) ∧
    ∀ line ∈ seen, line.2.text = line.1.text

/-- The counter counts the lines. -/
def Counted (seen : List (Task × Line)) (counter : UInt32) : Prop :=
  Numbered seen ∧ counter = UInt32.ofNat seen.length

/-- A task has the counter to itself between taking the mutex and giving it back. -/
def atPoint : Point → List (Task × Line) → UInt32 → Prop
  | .lock, _, _ => True
  | .load, seen, counter => Counted seen counter
  | .store loaded, seen, counter => Counted seen counter ∧ loaded = counter
  | .print, seen, counter => Numbered seen ∧ counter = UInt32.ofNat (seen.length + 1)
  | .unlock, seen, counter => Counted seen counter

theorem numbered_snoc {seen : List (Task × Line)} (h : Numbered seen) (t : Task) :
    Numbered (seen ++ [(t, ⟨t.text, UInt32.ofNat (seen.length + 1)⟩)]) := by
  refine ⟨?_, fun line hline => ?_⟩
  · rw [List.map_append, h.1, List.length_append, List.length_singleton, List.range_succ,
      List.map_append]
    rfl
  · rcases List.mem_append.mp hline with hold | hnew
    · exact h.2 line hold
    · rw [List.mem_singleton.mp hnew]

/-- A task inside knows the lines. -/
theorem numbered_of_inside {k : Point} {seen : List (Task × Line)} {counter : UInt32}
    (hinside : tasks.inside k = true) (h : atPoint k seen counter) : Numbered seen := by
  cases k with
  | lock => cases hinside
  | load => exact h.1
  | store loaded => exact h.1.1
  | print => exact h.1
  | unlock => exact h.1

/-- One access of a task takes it from what holds at one point to what holds at the next. -/
theorem access_atPoint (t : Task) (k : Point) (run : UInt32 → Point × UInt32 × Option Line)
    (seen : List (Task × Line)) (counter : UInt32) (hop : counterTask t.text k = .access run)
    (h : atPoint k seen counter) :
    atPoint (run counter).1 (seen ++ ((run counter).2.2.map fun o => (t, o)).toList)
      (run counter).2.1 := by
  cases k with
  | lock => cases hop
  | unlock => cases hop
  | load =>
    cases hop
    show Counted (seen ++ []) counter ∧ counter = counter
    rw [List.append_nil]
    exact ⟨h, rfl⟩
  | store loaded =>
    cases hop
    obtain ⟨⟨hseen, hcounter⟩, hloaded⟩ := h
    show Numbered (seen ++ []) ∧ loaded + 1 = UInt32.ofNat ((seen ++ []).length + 1)
    rw [List.append_nil, hloaded, hcounter, UInt32.ofNat_add]
    exact ⟨hseen, rfl⟩
  | print =>
    cases hop
    obtain ⟨hseen, hcounter⟩ := h
    show Counted (seen ++ [(t, ⟨t.text, counter⟩)]) counter
    rw [hcounter]
    refine ⟨numbered_snoc hseen t, ?_⟩
    rw [List.length_append, List.length_singleton]

/-- The outline of both tasks. -/
def counterOutline : tasks.Outline where
  free := Counted
  here _ := atPoint
  lock t k next seen counter hop hfree _ := by
    replace hop : program t k = .lock next := hop
    rw [program_eq] at hop
    cases k <;> cases hop
    exact hfree
  unlock t k next seen counter hop h := by
    replace hop : program t k = .unlock next := hop
    rw [program_eq] at hop
    cases k <;> cases hop
    exact ⟨h, trivial⟩
  access t k run seen counter hop h := by
    replace hop : program t k = .access run := hop
    rw [program_eq] at hop
    exact access_atPoint t k run seen counter hop h
  others t k run seen counter u m hop _ _ hexclusive _ := by
    -- accesses are made inside, so the other task waits at its lock
    replace hop : program t k = .access run := hop
    rw [program_eq] at hop
    have hinside : tasks.inside k = true := by cases k <;> cases hop <;> rfl
    have hm := hexclusive hinside
    cases m <;> cases hm
    trivial
  outside t k run seen counter hop hout := by
    replace hop : program t k = .access run := hop
    rw [program_eq] at hop
    cases k <;> cases hop <;> cases hout

theorem started_meets : counterOutline.Meets [] started where
  exclusive := by
    refine ⟨?_, fun t u ht => ?_⟩
    · simp [started, tasks]
    · simp [started, tasks] at ht
  free _ := ⟨⟨rfl, by simp⟩, rfl⟩
  here _ := trivial

/-- **No increment is lost or seen twice.**  However the two tasks are scheduled, they are never
both between `lock` and `unlock`; the lines printed so far carry 1, 2, 3, ... (modulo `2 ^ 32`) in
the order in which they were printed, each under the text of the task that printed it; and whenever
the mutex is free the counter is the number of lines. -/
theorem counter_prints_every_increment (schedule : List Task) :
    let c := tasks.run.final started schedule
    let seen := Threads.observed (tasks.run.trace started schedule)
    (∀ t u, tasks.inside (c.pc t) = true → tasks.inside (c.pc u) = true → t = u) ∧
      seen.map (fun line => line.2.value) =
        (List.range seen.length).map (fun i => UInt32.ofNat (i + 1)) ∧
      (∀ line ∈ seen, line.2.text = line.1.text) ∧
      (c.locked = false → c.shared = UInt32.ofNat seen.length) := by
  have hmeets := counterOutline.outline_run started started_meets schedule
  intro c seen
  have hnumbered : Numbered seen := by
    by_cases hlocked : c.locked = true
    · obtain ⟨t, ht⟩ := hmeets.exclusive.taken.mp hlocked
      exact numbered_of_inside ht (hmeets.here t)
    · exact (hmeets.free (by simpa using hlocked)).1
  exact ⟨hmeets.exclusive.unique, hnumbered.1, hnumbered.2,
    fun hlocked => (hmeets.free hlocked).2⟩

end SharedCounter

end FsfwFromZero
