/-
  File:      ImageDfs/Lib/Strcat.lean
  Subject:   `strcat` INTO A FIXED ARRAY: a `char[cap]` holding a C string, and C strings appended
             to it one after another, with no check of the room left.

  A call writes the bytes of its argument from the end of the string on, then the NUL. When the
  new string needs `cap` bytes or more, the call writes past the array, and the first byte it
  writes there is the one at index `cap`. Nothing here names a program:

  * `strcat`, `strcatAll` -- one call, and calls in sequence, `.error cap` at the first write
    past the array;
  * `strcatAll_append` -- calls in sequence split where one likes;
  * `strcatAll_eq` -- **calls in sequence stay inside the array exactly when the whole
    concatenation, with its NUL, fits**: they then leave the concatenation.
-/
import Mathlib.Data.List.Basic

namespace Strcat

variable {α : Type*}

/-- `strcat(dst, src)` where `dst` is the string held by a `char[cap]`: the new string, or the
    index of the first byte written past the array. -/
def strcat (cap : Nat) (dst src : List α) : Except Nat (List α) :=
  if dst.length + src.length < cap then .ok (dst ++ src) else .error cap

/-- `strcat` of each of `srcs` in turn. -/
def strcatAll (cap : Nat) : List α → List (List α) → Except Nat (List α)
  | dst, [] => .ok dst
  | dst, src :: srcs => (strcat cap dst src).bind fun d => strcatAll cap d srcs

@[simp] theorem strcatAll_nil (cap : Nat) (dst : List α) : strcatAll cap dst [] = .ok dst := rfl

theorem strcatAll_cons (cap : Nat) (dst src : List α) (srcs : List (List α)) :
    strcatAll cap dst (src :: srcs) = (strcat cap dst src).bind fun d => strcatAll cap d srcs :=
  rfl

theorem strcatAll_append (cap : Nat) (dst : List α) (srcs srcs' : List (List α)) :
    strcatAll cap dst (srcs ++ srcs') = (strcatAll cap dst srcs).bind fun d => strcatAll cap d srcs' := by
  induction srcs generalizing dst with
  | nil => rfl
  | cons src srcs ih =>
    rw [List.cons_append, strcatAll_cons, strcatAll_cons]
    cases strcat cap dst src with
    | error i => rfl
    | ok d => exact ih d

/-- **The calls stay inside the array exactly when the concatenation fits.** -/
theorem strcatAll_eq (cap : Nat) :
    ∀ (srcs : List (List α)) (dst : List α), dst.length < cap →
      strcatAll cap dst srcs =
        if dst.length + srcs.flatten.length < cap then .ok (dst ++ srcs.flatten)
        else .error cap := by
  intro srcs
  -- induction on the calls left; the string grows at each one
  induction srcs with
  | nil =>
    intro dst hdst
    rw [strcatAll_nil, List.flatten_nil, List.length_nil, Nat.add_zero, if_pos hdst,
      List.append_nil]
  | cons src srcs ih =>
    intro dst hdst
    rw [strcatAll_cons, strcat, List.flatten_cons, List.length_append]
    by_cases hfit : dst.length + src.length < cap
    · rw [if_pos hfit]
      dsimp only [Except.bind]
      rw [ih (dst ++ src) (by rw [List.length_append]; exact hfit), List.length_append, List.append_assoc,
        Nat.add_assoc]
    · rw [if_neg hfit, if_neg (by omega)]
      rfl

end Strcat
