/-
  File:      ImageDfs/Lib/Strtol.lean
  Subject:   THE C LIBRARY'S DECIMAL CONVERSIONS: `strtol(s, NULL, 10)` with a 64-bit `long`, and
             `atoi`, which glibc defines as `(int) strtol(s, NULL, 10)`.

  `strtol` skips the white space of the C locale, reads one sign and then the decimal digits, and
  clamps a value out of range to `LONG_MIN` or `LONG_MAX`; a C string with no digit there gives
  0. `atoi` keeps the low 32 bits of that, as GCC converts a `long` to an `int`. Nothing here
  names a program:

  * `isSpace`, `isDigit`, `readSign`, `strtol`, `atoi`;
  * `strtol_bounds` -- the result lies between `LONG_MIN` and `LONG_MAX`;
  * `strtol_toDigits`, `strtol_neg_toDigits` -- what `Nat.toDigits` prints, after a minus sign
    or not and followed by anything but a digit, reads back as the number while it fits a `long`;
  * `strtol_of_no_digit` -- a text without a digit reads as 0.
-/
import ImageDfs.Lib.Digits

namespace Strtol

/-- `isspace` in the C locale: `' '`, and `'\t'` to `'\r'`. -/
def isSpace (c : UInt8) : Bool := c.toNat = 32 || (9 ≤ c.toNat && c.toNat ≤ 13)

/-- `isdigit`: `'0'` to `'9'`. -/
def isDigit (c : UInt8) : Bool := 48 ≤ c.toNat && c.toNat ≤ 57

/-- `LONG_MIN` of a 64-bit `long`. -/
def longMin : Int := -2 ^ 63

/-- `LONG_MAX` of a 64-bit `long`. -/
def longMax : Int := 2 ^ 63 - 1

/-- The sign `strtol` reads first: whether it is `'-'`, and what follows it. -/
def readSign : List UInt8 → Bool × List UInt8
  | c :: u => if c = 0x2D then (true, u) else if c = 0x2B then (false, u) else (false, c :: u)
  | [] => (false, [])

/-- `strtol(s, NULL, 10)` on the C string `s`: white space, a sign, the digits; the value clamped
    to the range of a `long`, as `strtol` returns it with `errno` set to `ERANGE`. -/
def strtol (s : List UInt8) : Int :=
  let r := readSign (s.dropWhile isSpace)
  let n : Int := Digits.valueFrom 10 0 (r.2.takeWhile isDigit)
  max longMin (min longMax (if r.1 then -n else n))

/-- `atoi(s)`: `(int) strtol(s, NULL, 10)`, the low 32 bits of the `long`. -/
def atoi (s : List UInt8) : Int32 := Int32.ofInt (strtol s)

theorem strtol_bounds (s : List UInt8) : longMin ≤ strtol s ∧ strtol s ≤ longMax :=
  ⟨le_max_left _ _, max_le (by decide) (min_le_left _ _)⟩

section Digits

variable {c : UInt8}

theorem isSpace_of_isDigit (h : isDigit c = true) : isSpace c = false := by
  simp only [isDigit, Bool.and_eq_true, decide_eq_true_eq] at h
  simp only [isSpace, Bool.or_eq_false_iff, Bool.and_eq_false_iff, decide_eq_false_iff_not]
  omega

theorem ne_sign_of_isDigit (h : isDigit c = true) : c ≠ 0x2D ∧ c ≠ 0x2B := by
  simp only [isDigit, Bool.and_eq_true, decide_eq_true_eq] at h
  refine ⟨fun he => ?_, fun he => ?_⟩ <;> subst he <;> exact absurd h (by decide)

theorem isDigit_byte_digitChar {d : Nat} (h : d < 10) : isDigit (Digits.byte d.digitChar) = true := by
  interval_cases d <;> rfl

/-- A printed number starts with a digit. -/
theorem toDigits_bytes_cons (n : Nat) :
    ∃ c cs, (Nat.toDigits 10 n).map Digits.byte = c :: cs ∧ isDigit c = true := by
  obtain ⟨d, ds, hds⟩ := List.exists_cons_of_ne_nil (Nat.toDigits_ne_nil (n := n) (b := 10))
  obtain ⟨k, hk, hkd⟩ := Digits.mem_toDigits (by decide) (hds ▸ List.mem_cons_self)
  exact ⟨_, _, by rw [hds, List.map_cons], hkd ▸ isDigit_byte_digitChar hk⟩

/-- The scan for digits takes a printed number whole, and stops where it ends. -/
theorem takeWhile_isDigit_digits (n : Nat) {rest : List UInt8}
    (hrest : ∀ c ∈ rest.head?, isDigit c = false) :
    ((Nat.toDigits 10 n).map Digits.byte ++ rest).takeWhile isDigit =
      (Nat.toDigits 10 n).map Digits.byte := by
  have hall : ∀ x ∈ (Nat.toDigits 10 n).map Digits.byte, isDigit x = true := by
    intro x hx
    obtain ⟨ch, hch, rfl⟩ := List.mem_map.mp hx
    obtain ⟨k, hk, rfl⟩ := Digits.mem_toDigits (by decide) hch
    exact isDigit_byte_digitChar hk
  rw [List.takeWhile_append_of_pos hall]
  cases rest with
  | nil => rw [List.takeWhile_nil, List.append_nil]
  | cons c rest => rw [List.takeWhile_cons_of_neg (by simp [hrest c rfl]), List.append_nil]

end Digits

section Printed

variable {rest : List UInt8}

/-- **A printed number reads back** while it is at most `LONG_MAX`. -/
theorem strtol_toDigits (n : Nat) (hrest : ∀ c ∈ rest.head?, isDigit c = false)
    (hn : (n : Int) ≤ longMax) :
    strtol ((Nat.toDigits 10 n).map Digits.byte ++ rest) = n := by
  obtain ⟨c, cs, hcs, hc⟩ := toDigits_bytes_cons n
  -- the first byte is a digit: no white space to skip and no sign
  have hskip : ((Nat.toDigits 10 n).map Digits.byte ++ rest).dropWhile isSpace =
      (Nat.toDigits 10 n).map Digits.byte ++ rest := by
    rw [hcs, List.cons_append, List.dropWhile_cons_of_neg (by simp [isSpace_of_isDigit hc])]
  have hsign : readSign ((Nat.toDigits 10 n).map Digits.byte ++ rest) =
      (false, (Nat.toDigits 10 n).map Digits.byte ++ rest) := by
    rw [hcs, List.cons_append, readSign, if_neg (ne_sign_of_isDigit hc).1,
      if_neg (ne_sign_of_isDigit hc).2]
  have hlo : longMin ≤ (n : Int) := le_trans (by decide) (Int.natCast_nonneg n)
  simp only [strtol, hskip, hsign, takeWhile_isDigit_digits n hrest,
    Digits.valueFrom_toDigits (by decide : 1 < 10) (by decide : 10 ≤ 16), Bool.false_eq_true,
    if_false, min_eq_right hn, max_eq_right hlo]

/-- **A printed negative number reads back** while it is at least `LONG_MIN`. -/
theorem strtol_neg_toDigits (n : Nat) (hrest : ∀ c ∈ rest.head?, isDigit c = false)
    (hn : longMin ≤ -(n : Int)) :
    strtol (0x2D :: ((Nat.toDigits 10 n).map Digits.byte ++ rest)) = -n := by
  have hskip : (0x2D :: ((Nat.toDigits 10 n).map Digits.byte ++ rest)).dropWhile isSpace =
      0x2D :: ((Nat.toDigits 10 n).map Digits.byte ++ rest) :=
    List.dropWhile_cons_of_neg (by decide)
  have hsign : readSign (0x2D :: ((Nat.toDigits 10 n).map Digits.byte ++ rest)) =
      (true, (Nat.toDigits 10 n).map Digits.byte ++ rest) := by
    rw [readSign, if_pos rfl]
  have hhi : -(n : Int) ≤ longMax := le_trans (by omega) (by decide : (0 : Int) ≤ longMax)
  simp only [strtol, hskip, hsign, takeWhile_isDigit_digits n hrest,
    Digits.valueFrom_toDigits (by decide : 1 < 10) (by decide : 10 ≤ 16), if_true,
    min_eq_right hhi, max_eq_right hn]

/-- What follows the sign is the end of the text. -/
theorem readSign_suffix (l : List UInt8) : (readSign l).2 <:+ l := by
  cases l with
  | nil => exact List.suffix_refl _
  | cons c u =>
    simp only [readSign]
    split_ifs
    · exact List.suffix_cons _ _
    · exact List.suffix_cons _ _
    · exact List.suffix_refl _

/-- **A C string without a digit reads as 0**, with no sign of an error. -/
theorem strtol_of_no_digit {s : List UInt8} (h : ∀ c ∈ s, isDigit c = false) : strtol s = 0 := by
  have hsub : (readSign (s.dropWhile isSpace)).2 ⊆ s :=
    ((readSign_suffix _).trans (List.dropWhile_suffix _)).subset
  have hnone : (readSign (s.dropWhile isSpace)).2.takeWhile isDigit = [] := by
    cases hr : (readSign (s.dropWhile isSpace)).2 with
    | nil => rfl
    | cons c u =>
      rw [hr] at hsub
      exact List.takeWhile_cons_of_neg (by simp [h c (hsub List.mem_cons_self)])
  simp [strtol, hnone, Digits.valueFrom, longMin, longMax]

end Printed

end Strtol
