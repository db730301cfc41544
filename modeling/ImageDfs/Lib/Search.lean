/-
  File:      ImageDfs/Lib/Search.lean
  Subject:   OCCURRENCES OF A PATTERN in a list: the first one (`std::string::find`) and the
             position arithmetic around it.

  * `firstOcc pat s` -- the index of the first occurrence of `pat` in `s`, if any (an empty
    pattern occurs at 0);
  * `findFrom s pat pos` -- the first occurrence at or after `pos`, the way
    `basic_string::find(str, pos)` answers: `none` is `npos`;
  * `firstOcc_prefix`, `firstOcc_lt` -- what `firstOcc` finds is an occurrence, and nothing
    before it is one; `findFrom_of_le` -- a search that starts at or before the first
    occurrence finds it;
  * `findBack p n` -- the last index below `n` where `p` holds, searching down from `n - 1`;
    `findBack_some`, `findBack_none` say what it answers;
  * `take_append_takeWhile_drop`, `getD_of_lt_takeWhile_drop`, `getD_takeWhile_drop` -- a scan
    from index `k` over the elements a predicate accepts: what it has passed, and where it stops.
-/
import Mathlib.Data.List.Basic
import Mathlib.Data.List.Infix
import Mathlib.Data.List.TakeWhile

namespace Search

variable {α : Type} [DecidableEq α]

/-- The index of the first occurrence of `pat` in `s`. -/
def firstOcc (pat : List α) : List α → Option Nat
  | [] => if pat.isPrefixOf [] then some 0 else none
  | c :: cs => if pat.isPrefixOf (c :: cs) then some 0 else (firstOcc pat cs).map (· + 1)

/-- `s.find(pat, pos)`: the first occurrence of `pat` at an index `≥ pos`; `none` is `npos`. -/
def findFrom (s pat : List α) (pos : Nat) : Option Nat :=
  if pos ≤ s.length then (firstOcc pat (s.drop pos)).map (· + pos) else none

/-- What `firstOcc` finds is an occurrence. -/
theorem firstOcc_prefix {pat : List α} :
    ∀ {s : List α} {i : Nat}, firstOcc pat s = some i → pat <+: s.drop i
  | [], i, h => by
    simp only [firstOcc] at h
    split at h
    · rename_i hp
      simp only [Option.some.injEq] at h
      subst h
      exact List.isPrefixOf_iff_prefix.mp hp
    · cases h
  | c :: cs, i, h => by
    simp only [firstOcc] at h
    split at h
    · rename_i hp
      simp only [Option.some.injEq] at h
      subst h
      exact List.isPrefixOf_iff_prefix.mp hp
    · obtain ⟨j, hj, rfl⟩ := Option.map_eq_some_iff.mp h
      simpa using firstOcc_prefix hj

/-- Nothing before the first occurrence is one. -/
theorem firstOcc_lt {pat : List α} :
    ∀ {s : List α} {i : Nat}, firstOcc pat s = some i → ∀ j < i, ¬ pat <+: s.drop j
  | [], i, h, j, hj => by
    simp only [firstOcc] at h
    split at h
    · simp only [Option.some.injEq] at h
      omega
    · cases h
  | c :: cs, i, h, j, hj => by
    simp only [firstOcc] at h
    split at h
    · simp only [Option.some.injEq] at h
      omega
    · rename_i hp
      obtain ⟨k, hk, rfl⟩ := Option.map_eq_some_iff.mp h
      cases j with
      | zero => simpa [List.isPrefixOf_iff_prefix] using hp
      | succ j => simpa using firstOcc_lt hk j (by omega)

/-- Where there is an occurrence, `firstOcc` finds one. -/
theorem firstOcc_isSome {pat : List α} :
    ∀ {s : List α} {i : Nat}, pat <+: s.drop i → (firstOcc pat s).isSome
  | [], i, h => by
    have hp : pat <+: [] := by simpa using h
    simp [firstOcc, List.isPrefixOf_iff_prefix.mpr hp]
  | c :: cs, i, h => by
    simp only [firstOcc]
    split
    · rfl
    · cases i with
      | zero =>
        rename_i hp
        exact absurd (List.isPrefixOf_iff_prefix.mpr (by simpa using h)) hp
      | succ i => simpa using firstOcc_isSome (s := cs) (i := i) (by simpa using h)

/-- The first occurrence lies within the list. -/
theorem firstOcc_le_length {pat : List α} :
    ∀ {s : List α} {i : Nat}, firstOcc pat s = some i → i ≤ s.length
  | [], i, h => by
    simp only [firstOcc] at h
    split at h
    · simp only [Option.some.injEq] at h
      omega
    · cases h
  | c :: cs, i, h => by
    simp only [firstOcc] at h
    split at h
    · simp only [Option.some.injEq] at h
      omega
    · obtain ⟨k, hk, rfl⟩ := Option.map_eq_some_iff.mp h
      simpa using firstOcc_le_length hk

/-- Dropping a prefix that ends at or before the first occurrence keeps it first. -/
theorem firstOcc_drop {pat : List α} :
    ∀ {s : List α} {i q : Nat}, firstOcc pat s = some i → q ≤ i →
      firstOcc pat (s.drop q) = some (i - q)
  | s, i, 0, h, _ => by simpa using h
  | [], i, q + 1, h, hq => by
    simp only [firstOcc] at h
    split at h
    · simp only [Option.some.injEq] at h
      omega
    · cases h
  | c :: cs, i, q + 1, h, hq => by
    simp only [firstOcc] at h
    split at h
    · simp only [Option.some.injEq] at h
      omega
    · obtain ⟨k, hk, rfl⟩ := Option.map_eq_some_iff.mp h
      simpa using firstOcc_drop hk (by omega)

/-- A search from `q` at or before the first occurrence finds that occurrence. -/
theorem findFrom_of_le {s pat : List α} {i q : Nat} (h : findFrom s pat 0 = some i)
    (hq : q ≤ i) : findFrom s pat q = some i := by
  unfold findFrom at h ⊢
  rw [if_pos (Nat.zero_le _), List.drop_zero] at h
  obtain ⟨k, hk, rfl⟩ := Option.map_eq_some_iff.mp h
  have hlen := firstOcc_le_length hk
  rw [if_pos (by omega), firstOcc_drop hk (by omega)]
  simp only [Option.map_some, Nat.add_zero, Option.some.injEq]
  omega

/-- An occurrence found ends within the list. -/
theorem findFrom_add_length_le {s pat : List α} {i q : Nat} (h : findFrom s pat q = some i) :
    i + pat.length ≤ s.length := by
  unfold findFrom at h
  split at h
  · obtain ⟨k, hk, rfl⟩ := Option.map_eq_some_iff.mp h
    have hpre := List.IsPrefix.length_le ( firstOcc_prefix hk)
    have hk' := firstOcc_le_length hk
    simp only [List.length_drop] at hpre hk'
    omega
  · cases h

/-- What a search from `q` finds, a search from the start finds something too. -/
theorem findFrom_zero_isSome {s pat : List α} {i q : Nat} (h : findFrom s pat q = some i) :
    (findFrom s pat 0).isSome := by
  unfold findFrom at h ⊢
  split at h
  · obtain ⟨k, hk, rfl⟩ := Option.map_eq_some_iff.mp h
    have hpre : pat <+: s.drop (q + k) := by simpa [List.drop_drop] using firstOcc_prefix hk
    simpa using firstOcc_isSome hpre
  · cases h

/-! ## The last index with a property -/

/-- The largest `k < n` with `p k`, tried from `n - 1` down. -/
def findBack (p : Nat → Bool) : Nat → Option Nat
  | 0 => none
  | n + 1 => if p n then some n else findBack p n

/-- **What `findBack` finds** holds `p`, and nothing above it below `n` does. -/
theorem findBack_some {p : Nat → Bool} {n k : Nat} (h : findBack p n = some k) :
    k < n ∧ p k = true ∧ ∀ i, k < i → i < n → p i = false := by
  induction n with
  | zero => cases h
  | succ n ih =>
    simp only [findBack] at h
    split at h
    · rename_i hn
      simp only [Option.some.injEq] at h
      subst h
      exact ⟨Nat.lt_succ_self n, hn, fun i hi hi' => by omega⟩
    · rename_i hn
      obtain ⟨hk, hp, hmax⟩ := ih h
      refine ⟨Nat.lt_succ_of_lt hk, hp, fun i hi hi' => ?_⟩
      rcases Nat.lt_succ_iff_lt_or_eq.mp hi' with hi' | rfl
      · exact hmax i hi hi'
      · simpa using hn

theorem findBack_none {p : Nat → Bool} {n : Nat} (h : findBack p n = none) :
    ∀ i < n, p i = false := by
  induction n with
  | zero => intro i hi; omega
  | succ n ih =>
    simp only [findBack] at h
    split at h
    · cases h
    · rename_i hn
      intro i hi
      rcases Nat.lt_succ_iff_lt_or_eq.mp hi with hi | rfl
      · exact ih h i hi
      · simpa using hn


/-! ## The run from an index

A scan from index `k` over the elements that `f` accepts, as a C `while` loop advances a pointer:
it stops at `k` plus the length of the run, on an element `f` refuses or at the end. -/

section Run

omit [DecidableEq α]

variable (f : α → Bool) (l : List α) (k : Nat)

/-- The elements before `k` and the run after it are the prefix up to the end of the run. -/
theorem take_append_takeWhile_drop :
    l.take k ++ (l.drop k).takeWhile f = l.take (k + ((l.drop k).takeWhile f).length) := by
  rw [List.take_add, ← List.prefix_iff_eq_take.mp (List.takeWhile_prefix f)]

theorem add_takeWhile_drop_le (hk : k ≤ l.length) :
    k + ((l.drop k).takeWhile f).length ≤ l.length := by
  have hle := (List.takeWhile_prefix f (l := l.drop k)).length_le
  rw [List.length_drop] at hle
  omega

/-- Every element of the run is accepted. -/
theorem getD_of_lt_takeWhile_drop {i : Nat} (d : α) (hki : k ≤ i)
    (hi : i < k + ((l.drop k).takeWhile f).length) : f (l.getD i d) = true := by
  set t := (l.drop k).takeWhile f
  have hsplit : l.drop k = t ++ (l.drop k).dropWhile f := List.takeWhile_append_dropWhile.symm
  have hget : l[i]? = t[i - k]? :=
    calc l[i]? = (l.drop k)[i - k]? := by rw [List.getElem?_drop, Nat.add_sub_cancel' hki]
      _ = t[i - k]? := by rw [hsplit, List.getElem?_append_left (by omega)]
  rw [List.getD_eq_getElem?_getD, hget, List.getElem?_eq_getElem (by omega)]
  exact List.mem_takeWhile_imp (List.getElem_mem _)

/-- The element that ends the run, if any, is refused. -/
theorem getD_takeWhile_drop (d : α) (h : k + ((l.drop k).takeWhile f).length < l.length) :
    f (l.getD (k + ((l.drop k).takeWhile f).length) d) = false := by
  set t := (l.drop k).takeWhile f with ht
  set r := (l.drop k).dropWhile f with hr
  have hsplit : l.drop k = t ++ r := List.takeWhile_append_dropWhile.symm
  have hget : l[k + t.length]? = r.head? := by
    rw [← List.getElem?_drop, hsplit, List.getElem?_append_right (le_refl _), Nat.sub_self,
      List.head?_eq_getElem?]
  obtain ⟨x, hx⟩ : ∃ x, r.head? = some x := by
    rw [← hget]
    exact ⟨_, List.getElem?_eq_getElem h⟩
  have hnot := List.head?_dropWhile_not f (l.drop k)
  rw [← hr, hx] at hnot
  rw [List.getD_eq_getElem?_getD, hget, hx]
  exact hnot

end Run

end Search
