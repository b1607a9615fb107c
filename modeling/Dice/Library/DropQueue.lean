/-
**A bounded queue that drops what does not fit.**

A sender offers values and never waits. A consumer takes one value at a time out of the queue and
hands it to the world, which can fail.

* `DropQueue` — the world, the values that wait, the one that is in hand, and what became of the rest.
* `DropQueue.run_spec` — in every run the world is the one of the values that were handed over, these
  and the outstanding ones are a part of what was offered, in order, and nothing is missing but what
  was counted as lost.
-/

import Mathlib.Data.List.Induction
import Mathlib.Tactic.Common

/-- The state of a queue, with the values that were handed over and the number of lost ones. -/
structure DropQueue (W α : Type) where
  world : W
  waiting : List α
  inHand : Option α
  written : List α
  lost : ℕ

namespace DropQueue

variable {W α : Type}

inductive Step (α : Type) where
  /-- A value is offered. It is dropped when the queue is full. -/
  | offer (a : α)
  /-- The consumer takes the first value, if it has none. -/
  | take
  /-- It is done with the value, and the world has it or not. -/
  | finish (ok : Bool)

/-- The values that a run offers. -/
def offered : List (Step α) → List α
  | [] => []
  | .offer a :: steps => a :: offered steps
  | _ :: steps => offered steps

def start (world : W) : DropQueue W α := ⟨world, [], none, [], 0⟩

/-- What was not lost, oldest first. -/
def kept (q : DropQueue W α) : List α := q.written ++ q.inHand.toList ++ q.waiting

section Running

variable (capacity : ℕ) (handle : W → α → W)

def step (q : DropQueue W α) : Step α → DropQueue W α
  | .offer a =>
      if q.waiting.length < capacity then { q with waiting := q.waiting ++ [a] }
      else { q with lost := q.lost + 1 }
  | .take =>
      match q.inHand, q.waiting with
      | none, a :: rest => { q with waiting := rest, inHand := some a }
      | _, _ => q
  | .finish ok =>
      match q.inHand with
      | none => q
      | some a =>
          if ok then
            { q with world := handle q.world a, inHand := none, written := q.written ++ [a] }
          else { q with inHand := none, lost := q.lost + 1 }

def run (q : DropQueue W α) (steps : List (Step α)) : DropQueue W α :=
  steps.foldl (step capacity handle) q

/-- **What holds of a queue** that was offered these values. -/
structure Faithful (origin : W) (values : List α) (q : DropQueue W α) : Prop where
  world : q.world = q.written.foldl handle origin
  bounded : q.waiting.length ≤ capacity
  order : q.kept.Sublist values
  count : q.kept.length + q.lost = values.length

variable {capacity} {handle} {origin : W} {values : List α} {q : DropQueue W α}

theorem faithful_start : Faithful capacity handle origin ([] : List α) (start origin) :=
  ⟨rfl, Nat.zero_le _, .slnil, rfl⟩

/-- One step. -/
theorem Faithful.step (faithful : Faithful capacity handle origin values q) (s : Step α) :
    Faithful capacity handle origin (values ++ offered [s]) (q.step capacity handle s) := by
  obtain ⟨world, waiting, inHand, written, lost⟩ := q
  obtain ⟨made, bounded, order, count⟩ := faithful
  simp only [kept, List.length_append] at made bounded order count
  cases s with
  | offer a =>
    simp only [DropQueue.step, offered]
    split
    · next room =>
      refine ⟨made, ?_, ?_, ?_⟩
      · simp only [List.length_append, List.length_singleton]
        omega
      · simp only [kept, ← List.append_assoc]
        exact order.append (List.Sublist.refl [a])
      · simp only [kept, List.length_append, List.length_singleton]
        omega
    · refine ⟨made, bounded, order.trans (List.sublist_append_left values [a]), ?_⟩
      simp only [kept, List.length_append, List.length_singleton]
      omega
  | take =>
    rw [show offered [Step.take] = ([] : List α) from rfl, List.append_nil]
    cases inHand with
    | some a => exact ⟨made, bounded, order, by simp only [kept, List.length_append]; exact count⟩
    | none =>
      cases waiting with
      | nil => exact ⟨made, bounded, order, by simp only [kept, List.length_append]; exact count⟩
      | cons a rest =>
        refine ⟨made, Nat.le_of_succ_le bounded, ?_, ?_⟩
        · simpa [kept, DropQueue.step] using order
        · simp only [DropQueue.step, kept, List.length_append, Option.toList_some,
            List.length_singleton]
          simp only [Option.toList_none, List.length_nil, List.length_cons] at count
          omega
  | finish ok =>
    rw [show offered [Step.finish ok] = ([] : List α) from rfl, List.append_nil]
    cases inHand with
    | none => exact ⟨made, bounded, order, by simp only [kept, List.length_append]; exact count⟩
    | some a =>
      cases ok with
      | true =>
        refine ⟨?_, bounded, ?_, ?_⟩
        · simp only [DropQueue.step, if_true, List.foldl_append, List.foldl_cons, List.foldl_nil]
          rw [made]
        · simpa [kept, DropQueue.step] using order
        · simp only [DropQueue.step, if_true, kept, List.length_append, Option.toList_none,
            List.length_singleton, List.length_nil]
          simp only [Option.toList_some, List.length_singleton] at count
          omega
      | false =>
        refine ⟨made, bounded, ?_, ?_⟩
        · refine List.Sublist.trans ?_ order
          show (written ++ [] ++ waiting).Sublist (written ++ [a] ++ waiting)
          exact ((List.Sublist.refl written).append (List.nil_sublist _)).append
            (List.Sublist.refl waiting)
        · simp only [DropQueue.step, Bool.false_eq_true, if_false, kept, List.length_append,
            Option.toList_none, List.length_nil]
          simp only [Option.toList_some, List.length_singleton] at count
          omega

theorem offered_append (first second : List (Step α)) :
    offered (first ++ second) = offered first ++ offered second := by
  induction first with
  | nil => rfl
  | cons s first ih => cases s <;> simp [offered, ih]

/-- **Every run.** -/
theorem run_spec (origin : W) (steps : List (Step α)) :
    Faithful capacity handle origin (offered steps) ((start origin).run capacity handle steps) := by
  induction steps using List.reverseRecOn with
  | nil => exact faithful_start
  | append_singleton steps s ih =>
    unfold run at ih ⊢
    rw [List.foldl_append, offered_append]
    exact ih.step s

end Running

end DropQueue
