import FsfwFromZero.Lib.Machine

/-!
# Progress by rounds

A machine that has work left gets on with it if each kind of input that may be needed is given a
turn now and then, in whatever order and with whatever other inputs in between.

* `Progress` — a view of the state that tells how much work is left and which kind of input does
  some of it; a step does some of the work or leaves the view as it is;
* `run_decreases` — a run does some of the work, or nobody who could have helped had a turn;
* `rounds_exhaust` — **as many rounds as there is work exhaust the work**, if each kind has a turn in
  each of them.
-/

namespace FsfwFromZero.Lib

variable {σ ι ο κ τ : Type*}

/-- A guard on the inputs alone joins any other. -/
theorem Machine.lawfulFrom_and {M : Machine σ ι ο} {guard : List (Event σ ι ο) → σ → ι → Prop}
    {p : ι → Prop} (past : List (Event σ ι ο)) (s : σ) (is : List ι)
    (lawful : M.LawfulFrom guard past s is) (hall : ∀ i ∈ is, p i) :
    M.LawfulFrom (fun past s i => guard past s i ∧ p i) past s is := by
  induction is generalizing past s with
  | nil => trivial
  | cons i is ih =>
    obtain ⟨hi, his⟩ := lawful
    exact ⟨⟨hi, hall i (by simp)⟩, ih _ _ his fun j hj => hall j (by simp [hj])⟩

/-- How a machine gets on with its work, in lawful steps that keep an invariant. -/
structure Progress (M : Machine σ ι ο) (guard : List (Event σ ι ο) → σ → ι → Prop)
    (inv : List (Event σ ι ο) → σ → Prop) (κ τ : Type*) where
  view : σ → τ
  /-- How much work is left. -/
  work : τ → Nat
  kind : ι → Option κ
  /-- The kind of input that does some of the work. -/
  needed : τ → κ
  keep : ∀ past s i, guard past s i → inv past s → inv (past ++ [M.event s i]) (M.step s i).2
  step : ∀ past s i, guard past s i → inv past s →
    work (view (M.step s i).2) < work (view s) ∨ view (M.step s i).2 = view s
  helps : ∀ past s i, guard past s i → inv past s → 0 < work (view s) →
    kind i = some (needed (view s)) → work (view (M.step s i).2) < work (view s)

namespace Progress

variable {M : Machine σ ι ο} {guard : List (Event σ ι ο) → σ → ι → Prop}
  {inv : List (Event σ ι ο) → σ → Prop} (P : Progress M guard inv κ τ)

/-- Every kind has a turn. -/
def Round (is : List ι) : Prop := ∀ c, ∃ i ∈ is, P.kind i = some c

include P in
theorem keep_run (past : List (Event σ ι ο)) (s : σ) (is : List ι)
    (lawful : M.LawfulFrom guard past s is) (hinv : inv past s) :
    inv (past ++ M.trace s is) (M.final s is) := by
  induction is generalizing past s with
  | nil => rwa [Machine.trace_nil, List.append_nil]
  | cons i is ih =>
    obtain ⟨hi, his⟩ := lawful
    have hrest := ih _ _ his (P.keep past s i hi hinv)
    rwa [List.append_assoc] at hrest

/-- A run does some of the work, or leaves the view and gave no turn to who could have helped. -/
theorem run_decreases (past : List (Event σ ι ο)) (s : σ) (is : List ι)
    (lawful : M.LawfulFrom guard past s is) (hinv : inv past s) :
    P.work (P.view (M.final s is)) < P.work (P.view s) ∨
      P.view (M.final s is) = P.view s ∧
        (0 < P.work (P.view s) → ∀ i ∈ is, P.kind i ≠ some (P.needed (P.view s))) := by
  induction is generalizing past s with
  | nil => exact Or.inr ⟨rfl, fun _ i hi => by cases hi⟩
  | cons i is ih =>
    obtain ⟨hi, his⟩ := lawful
    have hrest := ih _ _ his (P.keep past s i hi hinv)
    rw [Machine.final_cons]
    rcases P.step past s i hi hinv with hless | hsame
    · rcases hrest with hmore | ⟨hview, -⟩
      · exact Or.inl (Nat.lt_trans hmore hless)
      · exact Or.inl (hview ▸ hless)
    · rw [hsame] at hrest
      rcases hrest with hless | ⟨hview, hnone⟩
      · exact Or.inl hless
      · refine Or.inr ⟨hview, fun hwork j hj => ?_⟩
        rcases List.mem_cons.mp hj with rfl | hj
        · intro hneeded
          have hless := P.helps past s j hi hinv hwork hneeded
          rw [hsame] at hless
          exact Nat.lt_irrefl _ hless
        · exact hnone hwork j hj

/-- A round does some of the work. -/
theorem round_decreases (past : List (Event σ ι ο)) (s : σ) (is : List ι)
    (lawful : M.LawfulFrom guard past s is) (hinv : inv past s) (hround : P.Round is) :
    P.work (P.view (M.final s is)) ≤ P.work (P.view s) - 1 := by
  rcases P.run_decreases past s is lawful hinv with hless | ⟨hview, hnone⟩
  · omega
  · have hdone : P.work (P.view s) = 0 := by
      by_contra hwork
      obtain ⟨i, hi, hneeded⟩ := hround (P.needed (P.view s))
      exact hnone (Nat.pos_of_ne_zero hwork) i hi hneeded
    rw [hview]
    omega

/-- **As many rounds as there is work exhaust the work.** -/
theorem rounds_exhaust (past : List (Event σ ι ο)) (s : σ) (rounds : List (List ι))
    (lawful : M.LawfulFrom guard past s rounds.flatten) (hinv : inv past s)
    (hrounds : ∀ round ∈ rounds, P.Round round) (enough : P.work (P.view s) ≤ rounds.length) :
    P.work (P.view (M.final s rounds.flatten)) = 0 := by
  induction rounds generalizing past s with
  | nil => exact Nat.le_zero.mp enough
  | cons round rounds ih =>
    rw [List.flatten_cons] at lawful ⊢
    obtain ⟨hround, hrest⟩ := (Machine.lawfulFrom_append _ _ _ _).mp lawful
    have hless := P.round_decreases past s round hround hinv (hrounds round (by simp))
    rw [Machine.final_append]
    refine ih _ _ hrest (P.keep_run past s round hround hinv)
      (fun other hother => hrounds other (by simp [hother])) ?_
    rw [List.length_cons] at enough
    omega

end Progress

end FsfwFromZero.Lib
