import Mathlib.Data.List.Induction
import Mathlib.Tactic.Common

/-!
# Reading a history: latches, last values and sampled values

Three questions one asks of a list of events, oldest first, each with its answer for the history one
event longer.  They are the vocabulary of history-based specifications:

* `PendingSince p q h` — some `p`-event of `h` has no `q`-event after it (a request that was not
  served since);
* `lastValue f d h` — the value most recently supplied by an event, `d` if none supplied one;
* `sampledAt q g d h` — the value `g` had on the history before the last `q`-event, `d` if there was
  no `q`-event.

The `_snoc` lemmas turn every invariant proof over these notions, and over what is read off the
events one by one (`filterMap_snoc`), into a case split on the last event.
-/

namespace FsfwFromZero.Lib

variable {α β : Type*}

/-- What is read off a history is read off its last event last. -/
theorem filterMap_snoc (f : α → Option β) (h : List α) (x : α) :
    (h ++ [x]).filterMap f = h.filterMap f ++ (f x).toList := by
  rw [List.filterMap_append]
  cases hx : f x <;> simp [hx]

/-! ### Requests that are still pending -/

/-- Some `p`-event has no `q`-event after it. -/
def PendingSince (p q : α → Prop) (h : List α) : Prop :=
  ∃ a e b, h = a ++ e :: b ∧ p e ∧ ∀ x ∈ b, ¬ q x

theorem not_pendingSince_nil (p q : α → Prop) : ¬ PendingSince p q [] := by
  rintro ⟨a, e, b, h, -⟩
  simp at h

/-- A new event either is itself a request, or leaves the pending ones pending unless it serves
them. -/
theorem pendingSince_snoc (p q : α → Prop) (h : List α) (x : α) :
    PendingSince p q (h ++ [x]) ↔ p x ∨ (PendingSince p q h ∧ ¬ q x) := by
  constructor
  · rintro ⟨a, e, b, heq, hp, hq⟩
    rcases List.eq_nil_or_concat b with rfl | ⟨b', y, rfl⟩
    · obtain ⟨-, hx⟩ := List.append_inj' heq rfl
      cases hx
      exact Or.inl hp
    · rw [List.concat_eq_append] at heq hq
      rw [← List.cons_append, ← List.append_assoc] at heq
      obtain ⟨rfl, hx⟩ := List.append_inj' heq rfl
      cases hx
      exact Or.inr ⟨⟨a, e, b', rfl, hp, fun z hz => hq z (by simp [hz])⟩, hq x (by simp)⟩
  · rintro (hp | ⟨⟨a, e, b, rfl, hp, hq⟩, hx⟩)
    · exact ⟨h, x, [], rfl, hp, by simp⟩
    · refine ⟨a, e, b ++ [x], by simp, hp, fun z hz => ?_⟩
      rcases List.mem_append.mp hz with hz | hz
      · exact hq z hz
      · rw [List.mem_singleton.mp hz]
        exact hx

/-! ### The value most recently supplied -/

/-- The value the latest event supplied, `d` if no event supplied one. -/
def lastValue (f : α → Option β) (d : β) (h : List α) : β := (h.reverse.findSome? f).getD d

@[simp] theorem lastValue_nil (f : α → Option β) (d : β) : lastValue f d [] = d := rfl

theorem lastValue_snoc (f : α → Option β) (d : β) (h : List α) (x : α) :
    lastValue f d (h ++ [x]) = (f x).getD (lastValue f d h) := by
  simp only [lastValue, List.reverse_append, List.reverse_singleton, List.singleton_append,
    List.findSome?_cons]
  cases f x <;> rfl

/-- The value last supplied by a history in two parts. -/
theorem lastValue_append (f : α → Option β) (d : β) (h h' : List α) :
    lastValue f d (h ++ h') = lastValue f (lastValue f d h) h' := by
  induction h' using List.reverseRecOn with
  | nil => rw [List.append_nil, lastValue_nil]
  | append_singleton h' x ih => rw [← List.append_assoc, lastValue_snoc, lastValue_snoc, ih]

/-- Without a supplied value the last value is the default, otherwise it is one of the supplied. -/
theorem lastValue_cases (f : α → Option β) (d : β) (h : List α) :
    (h.filterMap f = [] ∧ lastValue f d h = d) ∨ lastValue f d h ∈ h.filterMap f := by
  induction h using List.reverseRecOn with
  | nil => exact Or.inl ⟨rfl, rfl⟩
  | append_singleton h x ih =>
    rw [lastValue_snoc, List.filterMap_append]
    cases hx : f x with
    | some b => exact Or.inr (by simp [hx])
    | none => simpa [hx] using ih

/-- Events that supply nothing do not matter. -/
theorem lastValue_filter (f : α → Option β) (d : β) (p : α → Bool) (h : List α)
    (hskip : ∀ x ∈ h, p x = false → f x = none) :
    lastValue f d (h.filter p) = lastValue f d h := by
  induction h using List.reverseRecOn with
  | nil => rfl
  | append_singleton h x ih =>
    have hold := ih fun y hy => hskip y (List.mem_append_left _ hy)
    rw [List.filter_append, lastValue_append, lastValue_snoc, hold]
    cases hp : p x with
    | true => simpa [hp] using lastValue_snoc f (lastValue f d h) [] x
    | false =>
      rw [hskip x (by simp) hp]
      simp [hp]

/-- The value last supplied by a history whose events stand for histories themselves. -/
theorem lastValue_flatMap {γ : Type*} (f : α → Option β) (g : γ → Option β) (k : γ → List α)
    (d : β) (h : List γ) (heach : ∀ x ∈ h, ∀ d, lastValue f d (k x) = (g x).getD d) :
    lastValue f d (h.flatMap k) = lastValue g d h := by
  induction h using List.reverseRecOn with
  | nil => rfl
  | append_singleton h x ih =>
    have hold := ih fun y hy => heach y (List.mem_append_left _ hy)
    rw [List.flatMap_append, List.flatMap_singleton, lastValue_append, hold,
      heach x (by simp), lastValue_snoc]

/-! ### The value a history function had at the last event of a kind -/

/-- What `g` said of the history before the last `q`-event, `d` if there was none. -/
def sampledAt (q : α → Prop) [DecidablePred q] (g : List α → β) (d : β) (h : List α) : β :=
  go h.reverse
where
  /-- The search, newest event first. -/
  go : List α → β
    | [] => d
    | x :: older => if q x then g older.reverse else go older

@[simp] theorem sampledAt_nil (q : α → Prop) [DecidablePred q] (g : List α → β) (d : β) :
    sampledAt q g d [] = d := rfl

theorem sampledAt_snoc (q : α → Prop) [DecidablePred q] (g : List α → β) (d : β) (h : List α)
    (x : α) : sampledAt q g d (h ++ [x]) = if q x then g h else sampledAt q g d h := by
  simp [sampledAt, sampledAt.go]

end FsfwFromZero.Lib
