import Mathlib.Logic.Function.Basic
import Mathlib.Data.List.Perm.Basic
import Mathlib.Data.List.Nodup
import Mathlib.Tactic.Common

/-!
# Stores: elements handed out by address

A store holds elements under addresses; an address is live while an element lies there.  Who chooses
the address of a new element is not the store's business: `put` takes it, and the rules ask that it
is not live.

* `Live`, `put`, `erase` and how they act on each address;
* `without s gone` — the store less the elements at the addresses in `gone`, however often and in
  whatever order they are listed;
* `Holds base s held` — the accounting of a party that takes elements out of a store and gives them
  back: `s` is `base` plus the addresses in `held`, each once;
* `Holds.live_iff`, `Holds.eq_nil_of_live` — what an account says about the live addresses;
* `Holds.alloc`, `Holds.free`, `Holds.perm` — **the accounting rules**: taking a fresh element adds
  its address, giving one back removes it, and the order of the account does not matter.
-/

namespace FsfwFromZero.Lib

/-- The elements of a store by address. -/
abbrev Store (α β : Type*) := α → Option β

namespace Store

/-! ### Accounts -/

section Accounts

variable {α β : Type*}

/-- Is there an element at the address? -/
def Live (s : Store α β) (a : α) : Prop := s a ≠ none

instance (s : Store α β) (a : α) : Decidable (s.Live a) :=
  decidable_of_iff ((s a).isSome = true) (by simp [Live, Option.isSome_iff_ne_none])

/-- `s` is `base` with the addresses of `held`, each once, taken in addition. -/
structure Holds (base s : Store α β) (held : List α) : Prop where
  nodup : held.Nodup
  fresh : ∀ a ∈ held, ¬ base.Live a
  live : ∀ a ∈ held, s.Live a
  rest : ∀ a, a ∉ held → s a = base a

theorem holds_nil (s : Store α β) : Holds s s [] :=
  ⟨List.nodup_nil, by simp, by simp, fun _ _ => rfl⟩

/-- An account is a matter of which addresses it lists, not of their order. -/
theorem Holds.perm {base s : Store α β} {held held' : List α} (h : Holds base s held)
    (hperm : held.Perm held') : Holds base s held' :=
  ⟨hperm.nodup_iff.mp h.nodup, fun x hx => h.fresh x (hperm.mem_iff.mpr hx),
    fun x hx => h.live x (hperm.mem_iff.mpr hx),
    fun x hx => h.rest x fun hmem => hx (hperm.mem_iff.mp hmem)⟩

/-- Live are the elements of `base` and those of the account. -/
theorem Holds.live_iff {base s : Store α β} {held : List α} (h : Holds base s held) (x : α) :
    s.Live x ↔ base.Live x ∨ x ∈ held := by
  by_cases hx : x ∈ held
  · exact ⟨fun _ => Or.inr hx, fun _ => h.live x hx⟩
  · rw [Live, h.rest x hx, or_iff_left hx]
    rfl

/-- If the live addresses are explained by a part of the account, the other part is empty. -/
theorem Holds.eq_nil_of_live {base s : Store α β} {part rest : List α}
    (h : Holds base s (part ++ rest)) (hlive : ∀ x, s.Live x → base.Live x ∨ x ∈ part) :
    rest = [] := by
  refine List.eq_nil_iff_forall_not_mem.mpr fun x hx => ?_
  have hmem : x ∈ part ++ rest := List.mem_append_right _ hx
  rcases hlive x (h.live x hmem) with hbase | hpart
  · exact h.fresh x hmem hbase
  · exact (List.nodup_append.mp h.nodup).2.2 x hpart x hx rfl

end Accounts

/-! ### Taking elements and giving them back -/

section Operations

variable {α β : Type*} [DecidableEq α]

/-- Places an element at the address. -/
def put (s : Store α β) (a : α) (b : β) : Store α β := Function.update s a (some b)

/-- Removes the element at the address, if there is one. -/
def erase (s : Store α β) (a : α) : Store α β := Function.update s a none

@[simp] theorem put_self (s : Store α β) (a : α) (b : β) : s.put a b a = some b :=
  Function.update_self ..

theorem put_of_ne (s : Store α β) {a x : α} (b : β) (h : x ≠ a) : s.put a b x = s x :=
  Function.update_of_ne h ..

@[simp] theorem erase_self (s : Store α β) (a : α) : s.erase a a = none :=
  Function.update_self ..

theorem erase_of_ne (s : Store α β) {a x : α} (h : x ≠ a) : s.erase a x = s x :=
  Function.update_of_ne h ..

/-- Writing an element twice is writing it the second time. -/
theorem put_put (s : Store α β) (a : α) (b b' : β) : (s.put a b).put a b' = s.put a b' :=
  Function.update_idem ..

/-- Taking a fresh element and giving it back leaves the store as it was. -/
theorem erase_put (s : Store α β) (a : α) (b : β) (fresh : ¬ s.Live a) :
    (s.put a b).erase a = s := by
  have hnone : s a = none := not_not.mp fresh
  rw [put, erase, Function.update_idem, ← hnone, Function.update_eq_self]

/-- Removing an element that is not there changes nothing. -/
theorem erase_of_not_live (s : Store α β) {a : α} (h : ¬ s.Live a) : s.erase a = s := by
  have hnone : s a = none := not_not.mp h
  rw [erase, ← hnone, Function.update_eq_self]

/-- The store less the elements at the given addresses. -/
def without (s : Store α β) (gone : List α) : Store α β := fun a => if a ∈ gone then none else s a

@[simp] theorem without_nil (s : Store α β) : s.without [] = s := by
  funext x
  simp [without]

/-- Removing the first address and then the others. -/
theorem without_cons (s : Store α β) (a : α) (gone : List α) :
    s.without (a :: gone) = (s.erase a).without gone := by
  funext x
  by_cases hx : x = a
  · simp [without, hx]
  · simp [without, hx, erase_of_ne]

/-- Which addresses are removed matters, not their order or number. -/
theorem without_congr (s : Store α β) {gone gone' : List α} (h : ∀ a, a ∈ gone ↔ a ∈ gone') :
    s.without gone = s.without gone' := by
  funext x
  simp only [without, h x]

/-- Removing one address more. -/
theorem without_snoc (s : Store α β) (gone : List α) (a : α) :
    s.without (gone ++ [a]) = (s.without gone).erase a := by
  funext x
  by_cases hx : x = a
  · simp [without, hx]
  · simp [without, hx, erase_of_ne]

variable {base s : Store α β} {held : List α} {a : α}

/-- Taking an element at a fresh address. -/
theorem Holds.alloc (h : Holds base s held) (fresh : ¬ s.Live a) (b : β) :
    Holds base (s.put a b) (a :: held) := by
  have hnot : a ∉ held := fun hmem => fresh (h.live a hmem)
  refine ⟨List.nodup_cons.mpr ⟨hnot, h.nodup⟩, fun x hx => ?_, fun x hx => ?_, fun x hx => ?_⟩
  · rcases List.mem_cons.mp hx with rfl | hx
    · rw [Live, ← h.rest x hnot]
      exact fresh
    · exact h.fresh x hx
  · rcases List.mem_cons.mp hx with rfl | hx
    · simp [Live]
    · have hne : x ≠ a := fun heq => hnot (heq ▸ hx)
      rw [Live, put_of_ne _ _ hne]
      exact h.live x hx
  · have hne : x ≠ a := fun heq => hx (heq ▸ List.mem_cons_self ..)
    rw [put_of_ne _ _ hne]
    exact h.rest x fun hmem => hx (List.mem_cons_of_mem _ hmem)

/-- Giving back an element of the account. -/
theorem Holds.free (h : Holds base s (a :: held)) : Holds base (s.erase a) held := by
  obtain ⟨hnot, hnodup⟩ := List.nodup_cons.mp h.nodup
  refine ⟨hnodup, fun x hx => h.fresh x (List.mem_cons_of_mem _ hx), fun x hx => ?_,
    fun x hx => ?_⟩
  · have hne : x ≠ a := fun heq => hnot (heq ▸ hx)
    rw [Live, erase_of_ne _ hne]
    exact h.live x (List.mem_cons_of_mem _ hx)
  · by_cases hxa : x = a
    · have hbase : base a = none := not_not.mp (h.fresh a (List.mem_cons_self ..))
      rw [hxa, erase_self, hbase]
    · rw [erase_of_ne _ hxa]
      refine h.rest x fun hmem => ?_
      rcases List.mem_cons.mp hmem with heq | hmem
      · exact hxa heq
      · exact hx hmem

end Operations

end Store

end FsfwFromZero.Lib
