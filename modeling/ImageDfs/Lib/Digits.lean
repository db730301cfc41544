/-
  File:      ImageDfs/Lib/Digits.lean
  Subject:   THE DIGITS OF A NUMBER AS BYTES: reading back what `Nat.toDigits` prints, in any
             base up to 16.

  `Nat.toDigits b n` (core) prints `n` in base `b` with the characters of `Nat.digitChar`:
  `'0'`-`'9'`, then `'a'`-`'f'`. A C program holds them as bytes (`byte`). Core reads decimal
  digits back (`Nat.ofDigitChars_toDigits`, bases up to 10); this module reads the bytes back in
  every base up to 16:

  * `digitValue`, `valueFrom` -- the value of a digit byte, and of a list of them;
  * `valueFrom_toDigits` -- the round trip, by `Nat.base_induction` as core proves its own;
    `valueFrom_zeros` -- padding zeros in front change nothing;
  * `toDigits_bytes_inj` -- so the printed bytes determine the number;
  * `mem_toDigits_bytes` -- a printed byte is a digit: `'0'`-`'9'` or `'a'`-`'f'`.
-/
import Mathlib.Data.Nat.Digits.Defs
import Mathlib.Tactic.IntervalCases

namespace Digits

/-- The byte of a character: its code modulo 256, as a C `char` holds it. -/
def byte (c : Char) : UInt8 := UInt8.ofNat c.toNat

/-- The value of a digit byte: `'0'`-`'9'` are 0-9, `'a'`-`'f'` are 10-15. -/
def digitValue (x : UInt8) : Nat := if x.toNat < 97 then x.toNat - 48 else x.toNat - 87

/-- The number the digit bytes `l` denote in base `b`, after the digits `acc` already read. -/
def valueFrom (b : Nat) : Nat → List UInt8 → Nat
  | acc, [] => acc
  | acc, x :: l => valueFrom b (b * acc + digitValue x) l

theorem valueFrom_append (b acc : Nat) (l m : List UInt8) :
    valueFrom b acc (l ++ m) = valueFrom b (valueFrom b acc l) m := by
  induction l generalizing acc with
  | nil => rfl
  | cons x l ih => exact ih _

/-- Leading zeros read as nothing. -/
theorem valueFrom_zeros (b k : Nat) (l : List UInt8) :
    valueFrom b 0 (List.replicate k (byte '0') ++ l) = valueFrom b 0 l := by
  induction k with
  | zero => rfl
  | succ k ih =>
    rw [List.replicate_succ, List.cons_append, valueFrom]
    exact ih

theorem digitValue_digitChar {d : Nat} (h : d < 16) : digitValue (byte d.digitChar) = d := by
  interval_cases d <;> rfl

/-- **What `Nat.toDigits` prints reads back** as the number, in every base from 2 to 16. -/
theorem valueFrom_toDigits {b : Nat} (hb : 1 < b) (hb16 : b ≤ 16) (n : Nat) :
    valueFrom b 0 ((Nat.toDigits b n).map byte) = n := by
  induction n using Nat.base_induction b hb with
  | single m hm =>
    rw [Nat.toDigits_of_lt_base hm]
    simp [valueFrom, digitValue_digitChar (Nat.lt_of_lt_of_le hm hb16)]
  | digit m k hk hm ih =>
    -- the digits of `b * m + k` are those of `m`, then the one of `k`
    rw [← Nat.toDigits_append_toDigits hb hm hk, List.map_append, valueFrom_append, ih,
      Nat.toDigits_of_lt_base hk]
    simp [valueFrom, digitValue_digitChar (Nat.lt_of_lt_of_le hk hb16)]

/-- The printed bytes determine the number. -/
theorem toDigits_bytes_inj {b : Nat} (hb : 1 < b) (hb16 : b ≤ 16) {n m : Nat}
    (h : (Nat.toDigits b n).map byte = (Nat.toDigits b m).map byte) : n = m := by
  calc n = valueFrom b 0 ((Nat.toDigits b n).map byte) := (valueFrom_toDigits hb hb16 n).symm
    _ = valueFrom b 0 ((Nat.toDigits b m).map byte) := by rw [h]
    _ = m := valueFrom_toDigits hb hb16 m

theorem mem_toDigits {b : Nat} (hb : 1 < b) {n : Nat} {c : Char} (h : c ∈ Nat.toDigits b n) :
    ∃ d, d < b ∧ c = d.digitChar := by
  induction n using Nat.base_induction b hb with
  | single m hm =>
    rw [Nat.toDigits_of_lt_base hm, List.mem_singleton] at h
    exact ⟨m, hm, h⟩
  | digit m k hk hm ih =>
    rw [← Nat.toDigits_append_toDigits hb hm hk, List.mem_append, Nat.toDigits_of_lt_base hk,
      List.mem_singleton] at h
    rcases h with h | h
    · exact ih h
    · exact ⟨k, hk, h⟩

theorem byte_digitChar {d : Nat} (h : d < 16) :
    (48 ≤ (byte d.digitChar).toNat ∧ (byte d.digitChar).toNat ≤ 57) ∨
      (97 ≤ (byte d.digitChar).toNat ∧ (byte d.digitChar).toNat ≤ 102) := by
  interval_cases d <;> decide

/-- **A printed byte is a digit**: `'0'`-`'9'` or `'a'`-`'f'`. -/
theorem mem_toDigits_bytes {b : Nat} (hb : 1 < b) (hb16 : b ≤ 16) {n : Nat} {x : UInt8}
    (h : x ∈ (Nat.toDigits b n).map byte) :
    (48 ≤ x.toNat ∧ x.toNat ≤ 57) ∨ (97 ≤ x.toNat ∧ x.toNat ≤ 102) := by
  obtain ⟨c, hc, rfl⟩ := List.mem_map.mp h
  obtain ⟨d, hd, rfl⟩ := mem_toDigits hb hc
  exact byte_digitChar (Nat.lt_of_lt_of_le hd hb16)

end Digits
