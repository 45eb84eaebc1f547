import Mathlib.Data.List.Forall2

/-!
# What goes through a queue

The account of a queue that carries things in another shape: entries of one type go in, each stands
in the queue as a message of another type, and each gets an answer when its message comes out.

* `Fifo answered waits entered answers queue` — **the account**: the entries are those answered, in
  order and each with its own answer, followed by those whose messages wait;
* `Fifo.push`, `Fifo.pop`, `Fifo.drain`, `Fifo.congr` — how a message going in, a message coming out,
  all of them coming out, and a change of what the messages rest on keep it;
* `Fifo.split`, `Fifo.eq_map` — the account by the numbers, and where answers and messages are
  functions of the entries.
-/

namespace FsfwFromZero.Lib

variable {α β γ : Type*} {answered : α → β → Prop} {waits waits' : α → γ → Prop}
  {entered : List α} {answers : List β} {queue : List γ}

/-- The entries are those answered, in order, followed by those that wait. -/
def Fifo (answered : α → β → Prop) (waits : α → γ → Prop) (entered : List α) (answers : List β)
    (queue : List γ) : Prop :=
  ∃ done waiting, entered = done ++ waiting ∧ List.Forall₂ answered done answers ∧
    List.Forall₂ waits waiting queue

namespace Fifo

theorem empty : Fifo answered waits [] [] [] :=
  ⟨[], [], rfl, List.Forall₂.nil, List.Forall₂.nil⟩

theorem push {a : α} {c : γ} (account : Fifo answered waits entered answers queue)
    (hwaits : waits a c) : Fifo answered waits (entered ++ [a]) answers (queue ++ [c]) := by
  obtain ⟨done, waiting, hentered, hdone, hwaiting⟩ := account
  refine ⟨done, waiting ++ [a], ?_, hdone, ?_⟩
  · rw [hentered, List.append_assoc]
  · exact List.rel_append hwaiting (List.Forall₂.cons hwaits List.Forall₂.nil)

/-- The message at the front belongs to an entry, and goes with an answer to that entry. -/
theorem pop {c : γ} (account : Fifo answered waits entered answers (c :: queue)) :
    ∃ a, waits a c ∧
      ∀ b, answered a b → Fifo answered waits entered (answers ++ [b]) queue := by
  obtain ⟨done, waiting, hentered, hdone, hwaiting⟩ := account
  obtain ⟨a, waiting, hwaits, hrest, rfl⟩ := List.forall₂_cons_right_iff.mp hwaiting
  refine ⟨a, hwaits, fun b hb => ⟨done ++ [a], waiting, ?_, ?_, hrest⟩⟩
  · rw [hentered, List.append_assoc]
    rfl
  · exact List.rel_append hdone (List.Forall₂.cons hb List.Forall₂.nil)

/-- All messages come out, each with an answer to its entry. -/
theorem drain {answer : γ → β} (account : Fifo answered waits entered answers queue)
    (hanswer : ∀ a, ∀ c ∈ queue, waits a c → answered a (answer c)) :
    Fifo answered waits' entered (answers ++ queue.map answer) [] := by
  obtain ⟨done, waiting, hentered, hdone, hwaiting⟩ := account
  refine ⟨entered, [], (List.append_nil _).symm, ?_, List.Forall₂.nil⟩
  rw [hentered]
  refine List.rel_append hdone ?_
  clear hentered
  induction hwaiting with
  | nil => exact List.Forall₂.nil
  | cons hwaits _ ih =>
    exact List.Forall₂.cons (hanswer _ _ (List.mem_cons_self ..) hwaits)
      (ih fun a c hc => hanswer a c (List.mem_cons_of_mem _ hc))

/-- What the messages rest on may change, as long as those in the queue keep standing for their
entries. -/
theorem congr (account : Fifo answered waits entered answers queue)
    (hsame : ∀ a, ∀ c ∈ queue, waits a c → waits' a c) :
    Fifo answered waits' entered answers queue := by
  obtain ⟨done, waiting, hentered, hdone, hwaiting⟩ := account
  refine ⟨done, waiting, hentered, hdone, ?_⟩
  clear hentered
  induction hwaiting with
  | nil => exact List.Forall₂.nil
  | cons hwaits _ ih =>
    exact List.Forall₂.cons (hsame _ _ (List.mem_cons_self ..) hwaits)
      (ih fun a c hc => hsame a c (List.mem_cons_of_mem _ hc))

/-- As many entries were answered as there are answers, and as many wait as there are messages. -/
theorem split (account : Fifo answered waits entered answers queue) :
    List.Forall₂ answered (entered.take answers.length) answers ∧
      entered.length = answers.length + queue.length := by
  obtain ⟨done, waiting, rfl, hdone, hwaiting⟩ := account
  refine ⟨?_, ?_⟩
  · rw [← hdone.length_eq, List.take_left]
    exact hdone
  · rw [List.length_append, hdone.length_eq, hwaiting.length_eq]

/-- Where answers and messages are functions of the entries. -/
theorem eq_map {f : α → β} {g : α → γ}
    (account : Fifo (fun a b => f a = b) waits entered answers queue)
    (hwaits : ∀ a c, waits a c → g a = c) :
    ∃ done waiting, entered = done ++ waiting ∧ answers = done.map f ∧ queue = waiting.map g := by
  obtain ⟨done, waiting, hentered, hdone, hwaiting⟩ := account
  have hanswers : List.Forall₂ Eq (done.map f) answers := List.forall₂_map_left_iff.mpr hdone
  have hqueue : List.Forall₂ Eq (waiting.map g) queue :=
    List.forall₂_map_left_iff.mpr (hwaiting.imp hwaits)
  rw [List.forall₂_eq_eq_eq] at hanswers hqueue
  exact ⟨done, waiting, hentered, hanswers.symm, hqueue.symm⟩

/-- Every message in the queue stands for an entry. -/
theorem exists_of_mem (account : Fifo answered waits entered answers queue) {c : γ}
    (hc : c ∈ queue) : ∃ a, waits a c := by
  obtain ⟨-, waiting, -, -, hwaiting⟩ := account
  induction hwaiting with
  | nil => cases hc
  | cons hwaits _ ih =>
    rcases List.mem_cons.mp hc with rfl | hc
    · exact ⟨_, hwaits⟩
    · exact ih hc

end Fifo

end FsfwFromZero.Lib
