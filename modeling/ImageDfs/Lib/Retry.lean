/-
  File:      ImageDfs/Lib/Retry.lean
  Subject:   A LOOP THAT RETRIES UNTIL IT IS ACKNOWLEDGED: each item is tried turn after turn, every
             turn leaving a result and an acknowledgement or none, until one turn is acknowledged;
             then the next item is taken.

  The turns an item gets are given as a list; when the list runs out before an acknowledgement
  the loop is still retrying (`none`). Nothing here names a program:

  * `run`, `runAll` -- the turns of one item, and the items one after the other;
  * `run_isSome_iff` -- the turns of an item end exactly when one of them is acknowledged;
  * `run_acked` -- the last turn taken is the only one acknowledged;
  * `runAll_isSome`, `runAll_acked`, `mem_runAll` -- when every item gets an acknowledged turn
    the loop ends; the acknowledged results are then one for each item, in order, and every
    result is one of a turn of some item.
-/
import Mathlib.Data.List.Basic

namespace Retry

variable {α τ β : Type*}

/-- The turns of one item until one is acknowledged: what each turn left, in order. -/
def run (turn : τ → β × Bool) : List τ → Option (List (β × Bool))
  | [] => none
  | t :: ts => if (turn t).2 then some [turn t] else (run turn ts).map (turn t :: ·)

/-- The items in order, item `i` with the turns `tss[i]`. -/
def runAll (turn : α → τ → β × Bool) : List α → List (List τ) → Option (List (β × Bool))
  | [], _ => some []
  | _ :: _, [] => none
  | a :: as, ts :: tss => (run (turn a) ts).bind fun r => (runAll turn as tss).map (r ++ ·)

section Run

variable {turn : τ → β × Bool}

theorem run_isSome_iff (ts : List τ) : (run turn ts).isSome ↔ ∃ t ∈ ts, (turn t).2 = true := by
  induction ts with
  | nil => simp [run]
  | cons t ts ih =>
    by_cases ht : (turn t).2 = true
    · simp only [run, if_pos ht, Option.isSome_some, true_iff]
      exact ⟨t, List.mem_cons_self, ht⟩
    · rw [run, if_neg ht, Option.isSome_map, ih]
      simp only [List.mem_cons, exists_eq_or_imp, ht, Bool.false_eq_true, false_or]

/-- **Only the last turn is acknowledged**, and every result is one of a turn that was taken. -/
theorem run_acked {ts : List τ} {rs : List (β × Bool)} (h : run turn ts = some rs) :
    (∃ t ∈ ts, (turn t).2 = true ∧ rs.filter (·.2) = [turn t]) ∧ ∀ r ∈ rs, ∃ t ∈ ts, r = turn t := by
  induction ts generalizing rs with
  | nil => simp [run] at h
  | cons t ts ih =>
    by_cases ht : (turn t).2 = true
    · rw [run, if_pos ht, Option.some_inj] at h
      subst h
      refine ⟨⟨t, List.mem_cons_self, ht, by simp [ht]⟩, ?_⟩
      simp
    · rw [run, if_neg ht] at h
      obtain ⟨rs', h', rfl⟩ := Option.map_eq_some_iff.mp h
      obtain ⟨⟨t', ht', hack, hfil⟩, hmem⟩ := ih h'
      refine ⟨⟨t', List.mem_cons_of_mem _ ht', hack, by simp [ht, hfil]⟩, ?_⟩
      intro r hr
      rcases List.mem_cons.mp hr with rfl | hr
      · exact ⟨t, List.mem_cons_self, rfl⟩
      · obtain ⟨t'', ht'', rfl⟩ := hmem r hr
        exact ⟨t'', List.mem_cons_of_mem _ ht'', rfl⟩

end Run

section RunAll

variable {turn : α → τ → β × Bool}

theorem runAll_cons {a : α} {as : List α} {ts : List τ} {tss : List (List τ)} :
    runAll turn (a :: as) (ts :: tss) =
      (run (turn a) ts).bind fun r => (runAll turn as tss).map (r ++ ·) := rfl

/-- The loop ends when every item gets an acknowledged turn. -/
theorem runAll_isSome :
    ∀ (as : List α) (tss : List (List τ)), as.length ≤ tss.length →
      (∀ q ∈ as.zip tss, ∃ t ∈ q.2, (turn q.1 t).2 = true) → (runAll turn as tss).isSome
  | [], _, _, _ => rfl
  | _ :: _, [], hlen, _ => absurd hlen (by simp)
  | a :: as, ts :: tss, hlen, hack => by
    obtain ⟨r, hr⟩ := Option.isSome_iff_exists.mp
      ((run_isSome_iff ts).mpr (hack (a, ts) List.mem_cons_self))
    obtain ⟨rs, hrs⟩ := Option.isSome_iff_exists.mp
      (runAll_isSome as tss (by simpa using hlen) fun q hq => hack q (List.mem_cons_of_mem _ hq))
    rw [runAll_cons, hr, Option.bind_some, hrs]
    rfl

/-- **One acknowledged result for each item, in order**, when what an acknowledged turn leaves
    is the item's `f`. -/
theorem runAll_acked (f : α → β) (hf : ∀ a t, (turn a t).2 = true → (turn a t).1 = f a) :
    ∀ (as : List α) (tss : List (List τ)) (rs : List (β × Bool)), runAll turn as tss = some rs →
      (rs.filter (·.2)).map Prod.fst = as.map f
  | [], _, rs, h => by
    rw [runAll, Option.some_inj] at h
    subst h
    rfl
  | _ :: _, [], _, h => by simp [runAll] at h
  | a :: as, ts :: tss, rs, h => by
    rw [runAll_cons, Option.bind_eq_some_iff] at h
    obtain ⟨r, hr, h'⟩ := h
    obtain ⟨rs', hrs', rfl⟩ := Option.map_eq_some_iff.mp h'
    obtain ⟨⟨t, -, hack, hfil⟩, -⟩ := run_acked hr
    rw [List.filter_append, List.map_append, hfil, runAll_acked f hf as tss rs' hrs',
      List.map_singleton, hf a t hack, List.map_cons, List.singleton_append]

/-- Every result is one of a turn of some item. -/
theorem mem_runAll :
    ∀ (as : List α) (tss : List (List τ)) (rs : List (β × Bool)), runAll turn as tss = some rs →
      ∀ r ∈ rs, ∃ a ∈ as, ∃ t, r = turn a t
  | [], _, rs, h => by
    rw [runAll, Option.some_inj] at h
    subst h
    simp
  | _ :: _, [], _, h => by simp [runAll] at h
  | a :: as, ts :: tss, rs, h => by
    rw [runAll_cons, Option.bind_eq_some_iff] at h
    obtain ⟨r, hr, h'⟩ := h
    obtain ⟨rs', hrs', rfl⟩ := Option.map_eq_some_iff.mp h'
    intro x hx
    rcases List.mem_append.mp hx with hx | hx
    · obtain ⟨t, -, rfl⟩ := (run_acked hr).2 x hx
      exact ⟨a, List.mem_cons_self, t, rfl⟩
    · obtain ⟨a', ha', t, rfl⟩ := mem_runAll as tss rs' hrs' x hx
      exact ⟨a', List.mem_cons_of_mem _ ha', t, rfl⟩

end RunAll

end Retry
