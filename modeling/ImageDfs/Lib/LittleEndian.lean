/-
  File:      ImageDfs/Lib/LittleEndian.lean
  Subject:   LITTLE-ENDIAN BYTE CODECS for fixed-width integers, and slices of byte lists.

  A packed C struct on a little-endian machine is its fields' bytes, least significant byte
  first, one field after the other. This file is the general part of that reading; nothing in
  it names a program:

  * `leBytes n v` -- the `n` low bytes of `v`; `leValue bs` -- the number the bytes spell;
    `leValue_leBytes` and `leBytes_leValue` are the two round trips;
  * `u16`, `u32`, `u64`, `i32` and their readers `getU16`, `getU32`, `getU64`, `getI32` --
    the codecs of `uint16_t`, `uint32_t`, `uint64_t` and `int32_t`, each a bijection on its
    width (`getI32_i32`, …) and exact on a list of the field's length;
  * `slice bs off n` -- the `n` bytes at offset `off` (a field of a struct in a buffer), with
    the lemmas that read a field out of a concatenation;
  * `writeAt bs off v` -- a field stored into a buffer, and `slice_writeAt_self`,
    `slice_writeAt_of_le`, `slice_writeAt_of_ge`, `take_writeAt`: reading it back, and
    reading around it;
  * `memRead bs beyond off n` -- a read that may run past the end of a block, where the bytes
    after it are whatever memory holds (`beyond`); inside the block it is `slice`.
-/
import Mathlib.Data.List.Basic
import Mathlib.Algebra.Order.Group.Nat
import Mathlib.Tactic.Ring

namespace LittleEndian

/-! ## 1. Unsigned numbers -/

/-- The `n` low bytes of `v`, least significant first. -/
def leBytes : Nat → Nat → List UInt8
  | 0, _ => []
  | n + 1, v => UInt8.ofNat (v % 256) :: leBytes n (v / 256)

/-- The number whose little-endian bytes are `bs`. -/
def leValue : List UInt8 → Nat
  | [] => 0
  | b :: bs => b.toNat + 256 * leValue bs

@[simp] theorem leBytes_length (n v : Nat) : (leBytes n v).length = n := by
  induction n generalizing v with
  | zero => rfl
  | succ n ih => simp [leBytes, ih]

@[simp] theorem leValue_nil : leValue [] = 0 := rfl

@[simp] theorem leValue_cons (b : UInt8) (bs : List UInt8) :
    leValue (b :: bs) = b.toNat + 256 * leValue bs := rfl

theorem leValue_lt (bs : List UInt8) : leValue bs < 256 ^ bs.length := by
  induction bs with
  | nil => simp
  | cons b bs ih =>
    have hb : b.toNat < 256 := b.toNat_lt
    simp only [leValue_cons, List.length_cons, Nat.pow_succ]
    omega

/-- **Reading back what was written**: the bytes spell the number modulo the width. -/
@[simp] theorem leValue_leBytes (n v : Nat) : leValue (leBytes n v) = v % 256 ^ n := by
  induction n generalizing v with
  | zero => simp [leBytes, Nat.mod_one]
  | succ n ih =>
    have hb : (UInt8.ofNat (v % 256)).toNat = v % 256 := by simp
    rw [leBytes, leValue_cons, hb, ih, Nat.pow_succ, Nat.mul_comm (256 ^ n) 256, Nat.mod_mul]

/-- **Writing back what was read**: a byte list is the encoding of its value. -/
theorem leBytes_leValue (bs : List UInt8) : leBytes bs.length (leValue bs) = bs := by
  induction bs with
  | nil => rfl
  | cons b bs ih =>
    have hb : b.toNat < 256 := b.toNat_lt
    have h1 : (b.toNat + 256 * leValue bs) % 256 = b.toNat := by omega
    have h2 : (b.toNat + 256 * leValue bs) / 256 = leValue bs := by omega
    simp only [List.length_cons, leBytes, leValue_cons, h1, h2, ih, UInt8.ofNat_toNat]

/-! ## 2. The C integer types -/

/-- The bytes of a `uint16_t`. -/
def u16 (x : UInt16) : List UInt8 := leBytes 2 x.toNat

/-- The bytes of a `uint32_t`. -/
def u32 (x : UInt32) : List UInt8 := leBytes 4 x.toNat

/-- The bytes of a `uint64_t`. -/
def u64 (x : UInt64) : List UInt8 := leBytes 8 x.toNat

/-- The bytes of an `int32_t` (two's complement). -/
def i32 (x : Int32) : List UInt8 := leBytes 4 x.toBitVec.toNat

/-- A `uint16_t` read from bytes. -/
def getU16 (bs : List UInt8) : UInt16 := UInt16.ofNat (leValue bs)

/-- A `uint32_t` read from bytes. -/
def getU32 (bs : List UInt8) : UInt32 := UInt32.ofNat (leValue bs)

/-- A `uint64_t` read from bytes. -/
def getU64 (bs : List UInt8) : UInt64 := UInt64.ofNat (leValue bs)

/-- An `int32_t` read from bytes. -/
def getI32 (bs : List UInt8) : Int32 := Int32.ofBitVec (BitVec.ofNat 32 (leValue bs))

@[simp] theorem u16_length (x : UInt16) : (u16 x).length = 2 := leBytes_length _ _
@[simp] theorem u32_length (x : UInt32) : (u32 x).length = 4 := leBytes_length _ _
@[simp] theorem u64_length (x : UInt64) : (u64 x).length = 8 := leBytes_length _ _
@[simp] theorem i32_length (x : Int32) : (i32 x).length = 4 := leBytes_length _ _

@[simp] theorem getU16_u16 (x : UInt16) : getU16 (u16 x) = x := by
  simp [getU16, u16]

@[simp] theorem getU32_u32 (x : UInt32) : getU32 (u32 x) = x := by
  simp [getU32, u32]

@[simp] theorem getU64_u64 (x : UInt64) : getU64 (u64 x) = x := by
  simp [getU64, u64]

@[simp] theorem getI32_i32 (x : Int32) : getI32 (i32 x) = x := by
  have h : x.toBitVec.toNat < 256 ^ 4 := x.toBitVec.isLt
  rw [getI32, i32, leValue_leBytes, Nat.mod_eq_of_lt h, BitVec.ofNat_toNat, BitVec.setWidth_eq,
    Int32.ofBitVec_toBitVec]

/-- A four-byte list is the encoding of the `int32_t` it spells. -/
theorem i32_getI32 {bs : List UInt8} (h : bs.length = 4) : i32 (getI32 bs) = bs := by
  have hlt : leValue bs < 2 ^ 32 := by
    have := leValue_lt bs
    rw [h] at this
    simpa using this
  have e : (getI32 bs).toBitVec.toNat = leValue bs := by
    simp only [getI32, Int32.toBitVec_ofBitVec, BitVec.toNat_ofNat]
    exact Nat.mod_eq_of_lt hlt
  rw [i32, e, ← h, leBytes_leValue]

/-- A four-byte list is the encoding of the `uint32_t` it spells. -/
theorem u32_getU32 {bs : List UInt8} (h : bs.length = 4) : u32 (getU32 bs) = bs := by
  have hlt : leValue bs < 2 ^ 32 := by
    have := leValue_lt bs
    rw [h] at this
    simpa using this
  have e : (getU32 bs).toNat = leValue bs := by
    simp only [getU32, UInt32.toNat_ofNat']
    exact Nat.mod_eq_of_lt hlt
  rw [u32, e, ← h, leBytes_leValue]

/-- An eight-byte list is the encoding of the `uint64_t` it spells. -/
theorem u64_getU64 {bs : List UInt8} (h : bs.length = 8) : u64 (getU64 bs) = bs := by
  have hlt : leValue bs < 2 ^ 64 := by
    have := leValue_lt bs
    rw [h] at this
    simpa using this
  have e : (getU64 bs).toNat = leValue bs := by
    simp only [getU64, UInt64.toNat_ofNat']
    exact Nat.mod_eq_of_lt hlt
  rw [u64, e, ← h, leBytes_leValue]

/-- Storing an `int32_t` through a `uint32_t*` writes the same four bytes. -/
theorem u32_toUInt32 (x : Int32) : u32 x.toUInt32 = i32 x := rfl

/-- An `int32_t` stored and read back through a `uint32_t*` and converted back to `int32_t`. -/
theorem getU32_i32_toInt32 (x : Int32) : (getU32 (i32 x)).toInt32 = x := by
  have h : x.toBitVec.toNat < 256 ^ 4 := x.toBitVec.isLt
  rw [getU32, i32, leValue_leBytes, Nat.mod_eq_of_lt h, ← Int32.toBitVec_inj]
  show (UInt32.ofNat x.toBitVec.toNat).toBitVec = x.toBitVec
  simp

/-! ## 3. Fields of a buffer -/

/-- The `n` bytes at offset `off` of a buffer: a field of a packed struct. -/
def slice (bs : List UInt8) (off n : Nat) : List UInt8 := (bs.drop off).take n

@[simp] theorem slice_length (bs : List UInt8) (off n : Nat) :
    (slice bs off n).length = min n (bs.length - off) := by
  simp [slice]

theorem slice_zero (bs : List UInt8) (n : Nat) : slice bs 0 n = bs.take n := by
  simp [slice]

/-- A prefix of a buffer is a shorter prefix followed by the field after it. -/
theorem take_add_slice (bs : List UInt8) (m n : Nat) :
    bs.take (m + n) = bs.take m ++ slice bs m n :=
  List.take_add ..

/-- The field that starts a buffer is the buffer's first bytes. -/
theorem slice_append_left (a b : List UInt8) {n : Nat} (h : n = a.length) :
    slice (a ++ b) 0 n = a := by
  subst h
  simp [slice]

/-- A field past the first part is a field of the rest. -/
theorem slice_append_right (a b : List UInt8) (off n : Nat) :
    slice (a ++ b) (a.length + off) n = slice b off n := by
  simp only [slice, List.drop_append, Nat.add_sub_cancel_left]
  rw [List.drop_eq_nil_of_le (by omega), List.nil_append]

theorem slice_append_of_le (a b : List UInt8) {off : Nat} (n : Nat) (h : a.length ≤ off) :
    slice (a ++ b) off n = slice b (off - a.length) n := by
  have := slice_append_right a b (off - a.length) n
  rwa [Nat.add_sub_cancel' h] at this

/-- A field that lies inside the first part is a field of the first part. -/
theorem slice_append_inside (a b : List UInt8) {off n : Nat} (h : off + n ≤ a.length) :
    slice (a ++ b) off n = slice a off n := by
  simp only [slice, List.drop_append]
  rw [List.take_append_of_le_length (by simp; omega)]

/-- A field of a field is a field of the buffer. -/
theorem slice_slice (bs : List UInt8) (off m : Nat) {i n : Nat} (h : i + n ≤ m) :
    slice (slice bs off m) i n = slice bs (off + i) n := by
  simp only [slice, List.drop_take, List.drop_drop, List.take_take]
  rw [Nat.min_eq_left (by omega), Nat.add_comm]

/-- A field of a prefix that lies inside the prefix. -/
theorem slice_take (bs : List UInt8) {m off n : Nat} (h : off + n ≤ m) :
    slice (bs.take m) off n = slice bs off n := by
  simp only [slice, List.drop_take, List.take_take]
  rw [Nat.min_eq_left (by omega)]

/-- Two lists with the same first `m` elements have the same slices below `m`. -/
theorem slice_eq_of_take_eq {a b : List UInt8} {m off n : Nat} (hab : a.take m = b.take m)
    (h : off + n ≤ m) : slice a off n = slice b off n := by
  rw [← slice_take a h, hab, slice_take b h]

/-- A field stored at offset `off` of a buffer that is long enough for it. -/
def writeAt (bs : List UInt8) (off : Nat) (v : List UInt8) : List UInt8 :=
  bs.take off ++ v ++ bs.drop (off + v.length)

@[simp] theorem writeAt_length {bs v : List UInt8} {off : Nat} (h : off + v.length ≤ bs.length) :
    (writeAt bs off v).length = bs.length := by
  simp [writeAt]; omega

/-- A store at offset 0 that covers the first part replaces it. -/
theorem writeAt_zero_append {a b v : List UInt8} (h : v.length = a.length) :
    writeAt (a ++ b) 0 v = v ++ b := by
  simp [writeAt, h]

/-- The field just stored reads back. -/
theorem slice_writeAt_self {bs v : List UInt8} {off : Nat} (h : off ≤ bs.length) :
    slice (writeAt bs off v) off v.length = v := by
  have hl : (bs.take off).length = off := by simp; omega
  have := slice_append_right (bs.take off) (v ++ bs.drop (off + v.length)) 0 v.length
  rw [hl, Nat.add_zero] at this
  rw [writeAt, List.append_assoc, this, slice_append_left _ _ rfl]

/-- A field that ends before the stored one is untouched. -/
theorem slice_writeAt_of_le {bs v : List UInt8} {off off' n : Nat} (h : off' + n ≤ off)
    (hb : off ≤ bs.length) : slice (writeAt bs off v) off' n = slice bs off' n := by
  rw [writeAt, List.append_assoc, slice_append_inside _ _ (by simp; omega)]
  simp only [slice, List.drop_take, List.take_take]
  rw [Nat.min_eq_left (by omega)]

/-- A field that starts after the stored one is untouched. -/
theorem slice_writeAt_of_ge {bs v : List UInt8} {off off' n : Nat} (h : off + v.length ≤ off')
    (hb : off ≤ bs.length) : slice (writeAt bs off v) off' n = slice bs off' n := by
  have hl : (bs.take off ++ v).length = off + v.length := by simp; omega
  have := slice_append_right (bs.take off ++ v) (bs.drop (off + v.length)) (off' - (off + v.length)) n
  rw [hl, Nat.add_sub_cancel' h] at this
  rw [writeAt, this]
  simp only [slice, List.drop_drop]
  rw [Nat.add_sub_cancel' h]

/-- A buffer up to the end of a field just stored: what stood before it, then the field. -/
theorem take_writeAt {bs v : List UInt8} {off : Nat} (hb : off ≤ bs.length) :
    (writeAt bs off v).take (off + v.length) = bs.take off ++ v := by
  have hl : (bs.take off ++ v).length = off + v.length := by simp; omega
  rw [writeAt, ← hl, List.take_left]

/-- `n` bytes read at offset `off` of a block `bs`; past its end memory holds `beyond`. -/
def memRead (bs : List UInt8) (beyond : Nat → UInt8) (off n : Nat) : List UInt8 :=
  (List.range n).map (fun i => bs.getD (off + i) (beyond (off + i)))

/-- A read inside the block is a `slice`. -/
theorem memRead_of_le {bs : List UInt8} {off n : Nat} (beyond : Nat → UInt8)
    (h : off + n ≤ bs.length) : memRead bs beyond off n = slice bs off n := by
  apply List.ext_getElem
  · simp [memRead, slice]; omega
  · intro i h1 h2
    simp only [memRead, List.getElem_map, List.getElem_range, slice, List.getElem_take,
      List.getElem_drop]
    have hi : off + i < bs.length := by simp [memRead] at h1; omega
    rw [List.getD_eq_getElem?_getD, List.getElem?_eq_getElem hi, Option.getD_some]

end LittleEndian
