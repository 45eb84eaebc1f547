import Mathlib.Data.List.Induction
import Mathlib.Tactic.Common

/-!
# A slot for one value, written and collected in any order

A producer puts values into a slot that holds one value at a time, a consumer takes what is there. A
value that is put while another still waits replaces it.  For every sequence of signals:

* `content` — what waits in the slot, `collected` — what the takes handed over, in order, and `puts`
  — everything that was ever put;
* `kept` — the puts that were not followed by another put before a take;
* `kept_eq` — **conservation**: collected values, then the waiting one, are exactly the kept puts;
* `puts_eq_of_noReplacement` — if every put found the slot empty, they are all the puts there were.
-/

namespace FsfwFromZero.Lib

/-- A value is put, or the slot is emptied. -/
inductive Signal (β : Type*)
  | put (x : β)
  | take

namespace Signal

variable {β : Type*}

/-- The slot after a signal, whatever it held before. -/
def after : Signal β → Option β
  | put x => some x
  | take => none

/-- The slot after a list of signals. -/
def contentFrom : Option β → List (Signal β) → Option β
  | slot, [] => slot
  | _, s :: rest => contentFrom s.after rest

/-- What the takes handed over, from a given slot. -/
def collectedFrom : Option β → List (Signal β) → List β
  | _, [] => []
  | _, put x :: rest => collectedFrom (some x) rest
  | slot, take :: rest => slot.toList ++ collectedFrom none rest

/-- What waits in the slot, which starts empty. -/
def content (signals : List (Signal β)) : Option β := contentFrom none signals

/-- What the takes handed over. -/
def collected (signals : List (Signal β)) : List β := collectedFrom none signals

/-- Everything that was put. -/
def puts : List (Signal β) → List β
  | [] => []
  | put x :: rest => x :: puts rest
  | take :: rest => puts rest

/-- The puts that no other put replaced. -/
def kept : List (Signal β) → List β
  | [] => []
  | take :: rest => kept rest
  | put _ :: put y :: rest => kept (put y :: rest)
  | [put x] => [x]
  | put x :: take :: rest => x :: kept rest

/-- Nothing is kept out of order. -/
theorem kept_sublist : ∀ signals : List (Signal β), List.Sublist (kept signals) (puts signals)
  | [] => .slnil
  | take :: rest => kept_sublist rest
  | put _ :: put y :: rest => (kept_sublist (put y :: rest)).cons _
  | [put x] => .refl [x]
  | put x :: take :: rest => (kept_sublist rest).cons_cons x

/-! ### One more signal -/

theorem contentFrom_snoc (slot : Option β) (signals : List (Signal β)) (s : Signal β) :
    contentFrom slot (signals ++ [s]) = s.after := by
  induction signals generalizing slot with
  | nil => rfl
  | cons t rest ih => exact ih t.after

theorem content_snoc (signals : List (Signal β)) (s : Signal β) :
    content (signals ++ [s]) = s.after := contentFrom_snoc none signals s

theorem collectedFrom_snoc (slot : Option β) (signals : List (Signal β)) (s : Signal β) :
    collectedFrom slot (signals ++ [s]) = collectedFrom slot signals ++
      match s with
      | put _ => []
      | take => (contentFrom slot signals).toList := by
  induction signals generalizing slot with
  | nil => cases s <;> simp [collectedFrom, contentFrom]
  | cons t rest ih =>
    cases t with
    | put x => exact ih (some x)
    | take =>
      show slot.toList ++ collectedFrom none (rest ++ [s]) = _
      rw [ih none]
      simp only [collectedFrom, contentFrom, after, List.append_assoc]

theorem collected_snoc_put (signals : List (Signal β)) (x : β) :
    collected (signals ++ [put x]) = collected signals := by
  rw [collected, collectedFrom_snoc, List.append_nil, collected]

theorem collected_snoc_take (signals : List (Signal β)) :
    collected (signals ++ [take]) = collected signals ++ (content signals).toList :=
  collectedFrom_snoc none signals take

theorem puts_append (xs ys : List (Signal β)) : puts (xs ++ ys) = puts xs ++ puts ys := by
  induction xs with
  | nil => rfl
  | cons t rest ih => cases t <;> simp [puts, ih]

/-! ### Conservation -/

/-- A waiting value counts as a put of its own, made just before. -/
def keptFrom : Option β → List (Signal β) → List β
  | none, signals => kept signals
  | some x, signals => kept (put x :: signals)

theorem keptFrom_eq (slot : Option β) (signals : List (Signal β)) :
    keptFrom slot signals = collectedFrom slot signals ++ (contentFrom slot signals).toList := by
  induction signals generalizing slot with
  | nil => cases slot <;> rfl
  | cons s rest ih =>
    cases s with
    | put y =>
      -- the new value replaces whatever the slot held
      have hslot : keptFrom slot (put y :: rest) = keptFrom (some y) rest := by
        cases slot <;> rfl
      rw [hslot, ih (some y)]
      rfl
    | take =>
      have hslot : keptFrom slot (take :: rest) = slot.toList ++ keptFrom none rest := by
        cases slot with
        | none => rfl
        | some x => cases rest <;> rfl
      rw [hslot, ih none, ← List.append_assoc]
      rfl

/-- **Conservation.**  What was collected, then what still waits, is what was put and not replaced.
-/
theorem kept_eq (signals : List (Signal β)) :
    kept signals = collected signals ++ (content signals).toList := keptFrom_eq none signals

/-- Every put found the slot empty. -/
def NoReplacement (signals : List (Signal β)) : Prop :=
  ∀ a x b, signals = a ++ put x :: b → content a = none

theorem noReplacement_nil : NoReplacement ([] : List (Signal β)) := by
  intro a x b heq
  simp at heq

theorem noReplacement_snoc {signals : List (Signal β)} {s : Signal β} :
    NoReplacement (signals ++ [s]) ↔
      NoReplacement signals ∧ ∀ x, s = put x → content signals = none := by
  constructor
  · intro h
    refine ⟨fun a x b heq => h a x (b ++ [s]) (by rw [heq]; simp), fun x hs => ?_⟩
    exact h signals x [] (by rw [hs])
  · intro ⟨h, hs⟩ a x b heq
    rcases List.eq_nil_or_concat b with rfl | ⟨b', y, rfl⟩
    · obtain ⟨rfl, hx⟩ := List.append_inj' heq rfl
      cases hx
      exact hs x rfl
    · rw [List.concat_eq_append, ← List.cons_append, ← List.append_assoc] at heq
      obtain ⟨rfl, -⟩ := List.append_inj' heq rfl
      exact h a x b' rfl

/-- If nothing was replaced, collected and waiting values are all that was put. -/
theorem puts_eq_of_noReplacement (signals : List (Signal β)) (h : NoReplacement signals) :
    puts signals = collected signals ++ (content signals).toList := by
  induction signals using List.reverseRecOn with
  | nil => rfl
  | append_singleton signals s ih =>
    obtain ⟨hsignals, hs⟩ := noReplacement_snoc.mp h
    have hrest := ih hsignals
    cases s with
    | put x =>
      have hempty := hs x rfl
      rw [puts_append, hrest, hempty, collected_snoc_put, content_snoc]
      simp [puts, after]
    | take =>
      rw [puts_append, hrest, collected_snoc_take, content_snoc]
      simp [puts, after]

end Signal

end FsfwFromZero.Lib
