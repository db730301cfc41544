/-
  File:      ImageDfs/Lib/Loop.lean
  Subject:   A LOOP RUN ON FUEL: a loop whose body either leaves with a result or goes on with a
             new state, and the rule that proves such a loop totally correct.

  A C loop that ends only by a `break` or a `return` inside its body is `run body fuel s`: at
  most `fuel` iterations, `none` when they run out first. Nothing here names a program:

  * `run_succ_of_inl`, `run_succ_of_inr` -- one iteration that leaves, or goes on;
  * `run_spec` -- an invariant that every iteration going on keeps, a variant that it lowers,
    and a postcondition that every exit from the invariant meets: with more fuel than the
    variant the loop leaves, and what it leaves with meets the postcondition.
-/
import Mathlib.Logic.Basic

namespace Loop

variable {α β : Type}

/-- `body` run from `s` for at most `fuel` iterations: `inl b` leaves the loop with `b`, `inr s'`
    starts the next iteration from `s'`; `none` when the fuel runs out first. -/
def run (body : α → β ⊕ α) : Nat → α → Option β
  | 0, _ => none
  | fuel + 1, s =>
    match body s with
    | .inl b => some b
    | .inr s' => run body fuel s'

theorem run_succ_of_inl {body : α → β ⊕ α} {s : α} {b : β} (h : body s = .inl b) (fuel : Nat) :
    run body (fuel + 1) s = some b := by
  simp only [run, h]

theorem run_succ_of_inr {body : α → β ⊕ α} {s s' : α} (h : body s = .inr s') (fuel : Nat) :
    run body (fuel + 1) s = run body fuel s' := by
  simp only [run, h]

section Spec

variable {body : α → β ⊕ α} {Inv : α → Prop} {Post : β → Prop} (V : α → Nat)

/-- **Total correctness of a loop**: from a state of the invariant whose variant is below the
    fuel, the loop leaves, with a result that meets the postcondition. -/
theorem run_spec (hexit : ∀ s b, Inv s → body s = .inl b → Post b)
    (hnext : ∀ s s', Inv s → body s = .inr s' → Inv s' ∧ V s' < V s) :
    ∀ (fuel : Nat) (s : α), Inv s → V s < fuel → ∃ b, run body fuel s = some b ∧ Post b := by
  intro fuel
  induction fuel with
  | zero => intro s _ hV; omega
  | succ fuel ih =>
    intro s hs hV
    cases hb : body s with
    | inl b => exact ⟨b, run_succ_of_inl hb fuel, hexit s b hs hb⟩
    | inr s' =>
      obtain ⟨hs', hV'⟩ := hnext s s' hs hb
      rw [run_succ_of_inr hb fuel]
      exact ih s' hs' (by omega)

end Spec

end Loop
