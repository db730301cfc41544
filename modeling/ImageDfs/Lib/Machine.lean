/-
  File:      ImageDfs/Lib/Machine.lean
  Subject:   TRANSITION SYSTEMS: invariants over runs.

  A system is a step relation on its states; a run is `Relation.ReflTransGen` of the step
  (Mathlib). Nothing here names a program:

  * `Invariant`, `Invariant.run` -- a property kept by every step holds all along a run;
  * `Invariant.mono` -- an invariant of a step relation is one of every smaller relation (a
    system whose outside world is constrained);
  * `held`, `held_update` -- what finitely many threads hold together, as a multiset, and how it
    changes when one thread moves: the bookkeeping of a conservation law; `held_update_keep`,
    `held_update_take`, `held_update_give` for the three kinds of move;
  * `exists_update_self`, `exists_update_of_not` -- which thread has a property after one moves;
  * `runCalls`, `runCalls_append`, `runCalls_sim` -- an object answering calls one at a time,
    a run cut in two, and the lockstep simulation of one such object by another.

  A machine of many threads keeps their local states in a map from thread names; a step of one
  thread is a `Function.update` of that map, and Mathlib's lemmas on it are the frame facts.
-/
import Mathlib.Logic.Relation
import Mathlib.Algebra.BigOperators.Group.Finset.Basic
import Mathlib.Data.Fintype.Basic
import Mathlib.Tactic.Abel

namespace Machine

/-! ## 1. Invariants -/

section Invariants

variable {σ : Type*}

/-- `inv` is kept by every step of `step`. -/
def Invariant (step : σ → σ → Prop) (inv : σ → Prop) : Prop :=
  ∀ s s', inv s → step s s' → inv s'

/-- **An invariant holds all along a run.** -/
theorem Invariant.run {step : σ → σ → Prop} {inv : σ → Prop} (h : Invariant step inv)
    {s s' : σ} (hs : inv s) (hr : Relation.ReflTransGen step s s') : inv s' := by
  induction hr with
  | refl => exact hs
  | tail _ hst ih => exact h _ _ ih hst

/-- An invariant of a system is one of every system with fewer steps. -/
theorem Invariant.mono {step step' : σ → σ → Prop} {inv : σ → Prop} (h : Invariant step inv)
    (hsub : ∀ s s', step' s s' → step s s') : Invariant step' inv :=
  fun s s' hs hst => h s s' hs (hsub s s' hst)

end Invariants

/-! ## 2. What threads hold -/

section Holding

variable {τ β α : Type*} [Fintype τ] [DecidableEq τ]

/-- What the threads hold together, when a thread in local state `b` holds `h b`. -/
def held (h : β → Option α) (f : τ → β) : Multiset α := ∑ t, ((h (f t)).toList : Multiset α)

/-- One thread's share and the others'. -/
theorem held_eq_add (h : β → Option α) (f : τ → β) (t : τ) :
    held h f = ((h (f t)).toList : Multiset α) +
      ∑ x ∈ Finset.univ.erase t, ((h (f x)).toList : Multiset α) :=
  (Finset.add_sum_erase _ _ (Finset.mem_univ t)).symm

theorem toList_le_held (h : β → Option α) (f : τ → β) (t : τ) :
    ((h (f t)).toList : Multiset α) ≤ held h f := by
  rw [held_eq_add h f t]
  exact Multiset.le_add_right _ _

/-- **One thread moves**: what it held leaves, what it holds now comes in. -/
theorem held_update (h : β → Option α) (f : τ → β) (t : τ) (b : β) :
    held h (Function.update f t b) + ((h (f t)).toList : Multiset α) =
      held h f + ((h b).toList : Multiset α) := by
  rw [held_eq_add h (Function.update f t b) t, held_eq_add h f t, Function.update_self]
  -- the other threads keep their states
  have hrest : ∑ x ∈ Finset.univ.erase t, ((h (Function.update f t b x)).toList : Multiset α) =
      ∑ x ∈ Finset.univ.erase t, ((h (f x)).toList : Multiset α) :=
    Finset.sum_congr rfl fun x hx => by rw [Function.update_of_ne (Finset.ne_of_mem_erase hx)]
  rw [hrest]
  abel

/-- A thread that moves and holds what it held leaves the total as it is. -/
theorem held_update_keep (h : β → Option α) (f : τ → β) (t : τ) {b : β} (hb : h b = h (f t)) :
    held h (Function.update f t b) = held h f := by
  have hu := held_update h f t b
  rw [hb] at hu
  exact add_right_cancel hu

/-- A thread that held nothing and takes `x`. -/
theorem held_update_take (h : β → Option α) (f : τ → β) (t : τ) {b : β} {x : α}
    (ht : h (f t) = none) (hb : h b = some x) :
    held h (Function.update f t b) = held h f + {x} := by
  have hu := held_update h f t b
  rw [ht, hb] at hu
  simpa using hu

/-- A thread that held `x` and gives it up. -/
theorem held_update_give (h : β → Option α) (f : τ → β) (t : τ) {b : β} {x : α}
    (ht : h (f t) = some x) (hb : h b = none) :
    held h (Function.update f t b) + {x} = held h f := by
  have hu := held_update h f t b
  rw [ht, hb] at hu
  simpa using hu

theorem card_held_pos (h : β → Option α) (f : τ → β) {t : τ} {x : α} (hx : h (f t) = some x) :
    0 < Multiset.card (held h f) := by
  have hle := Multiset.card_le_card (toList_le_held h f t)
  rw [hx] at hle
  exact Nat.lt_of_lt_of_le Nat.zero_lt_one (by simpa using hle)

/-- Two threads that hold the same `x` put it in the total twice. -/
theorem pair_le_held (h : β → Option α) (f : τ → β) {t t' : τ} (hne : t ≠ t') {x : α}
    (ht : h (f t) = some x) (ht' : h (f t') = some x) : {x} + {x} ≤ held h f := by
  have hmem : t' ∈ Finset.univ.erase t := Finset.mem_erase.mpr ⟨hne.symm, Finset.mem_univ t'⟩
  rw [held_eq_add h f t, ← Finset.add_sum_erase _ _ hmem, ht, ht', ← add_assoc]
  exact Multiset.le_add_right _ _

end Holding

section Frame

variable {τ β : Type*} [DecidableEq τ]

/-- A thread that moves into a state with property `P` has it afterwards. -/
theorem exists_update_self {P : β → Prop} (f : τ → β) (t : τ) {b : β} (hb : P b) :
    ∃ t', P (Function.update f t b t') :=
  ⟨t, by rwa [Function.update_self]⟩

/-- A thread that had not property `P` leaves the others that have it as they are. -/
theorem exists_update_of_not {P : β → Prop} {f : τ → β} {t : τ} (b : β) (ht : ¬ P (f t))
    (h : ∃ t', P (f t')) : ∃ t', P (Function.update f t b t') := by
  obtain ⟨t', ht'⟩ := h
  have hne : t' ≠ t := fun e => ht (e ▸ ht')
  exact ⟨t', by rwa [Function.update_of_ne hne]⟩

end Frame

/-! ## 3. Calls answered in lockstep -/

section Calls

variable {σ τ ι ω : Type*}

/-- Calls made one after another on an object whose every call answers and moves it, or blocks
    (`none`): the answers in order and the last state, or `none` once a call blocks. -/
def runCalls (step : σ → ι → Option (ω × σ)) : σ → List ι → Option (List ω × σ)
  | s, [] => some ([], s)
  | s, i :: is =>
    match step s i with
    | none => none
    | some (o, s') => (runCalls step s' is).map fun r => (o :: r.1, r.2)

/-- Two runs of calls, one after the other, are the run of both lists. -/
theorem runCalls_append (step : σ → ι → Option (ω × σ)) (s : σ) (is js : List ι) :
    runCalls step s (is ++ js) =
      (runCalls step s is).bind fun r => (runCalls step r.2 js).map fun r' => (r.1 ++ r'.1, r'.2) := by
  induction is generalizing s with
  | nil =>
    simp only [List.nil_append, runCalls, Option.bind_some, List.nil_append]
    cases runCalls step s js <;> rfl
  | cons i is ih =>
    simp only [List.cons_append, runCalls]
    cases step s i with
    | none => rfl
    | some r =>
      simp only [ih]
      cases runCalls step r.2 is <;> simp [Function.comp_def]

/-- **Lockstep simulation**: if from related states every call blocks on both sides or gives the
    same answer on both with related states, then so does every sequence of calls. -/
theorem runCalls_sim (R : σ → τ → Prop) {step : σ → ι → Option (ω × σ)}
    {step' : τ → ι → Option (ω × τ)}
    (h : ∀ s t i, R s t → Option.Rel (fun a b => a.1 = b.1 ∧ R a.2 b.2) (step s i) (step' t i)) :
    ∀ (is : List ι) (s : σ) (t : τ), R s t →
      Option.Rel (fun a b => a.1 = b.1 ∧ R a.2 b.2) (runCalls step s is) (runCalls step' t is)
  | [], _, _, hst => .some ⟨rfl, hst⟩
  | i :: is, s, t, hst => by
    have hi := h s t i hst
    simp only [runCalls]
    rcases hs : step s i with _ | ⟨o, s'⟩ <;> rcases ht : step' t i with _ | ⟨o', t'⟩ <;>
      rw [hs, ht] at hi
    · exact .none
    · cases hi
    · cases hi
    · obtain ⟨rfl, hR⟩ : o = o' ∧ R s' t' := by cases hi with | some hab => exact hab
      -- the rest of the calls, by the same argument
      have hrest := runCalls_sim R h is s' t' hR
      dsimp only
      generalize runCalls step s' is = x, runCalls step' t' is = y at hrest ⊢
      cases hrest with
      | none => exact .none
      | some hab => exact .some ⟨congrArg (o :: ·) hab.1, hab.2⟩

end Calls

end Machine
