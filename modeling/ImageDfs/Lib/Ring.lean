/-
  File:      ImageDfs/Lib/Ring.lean
  Subject:   RING BUFFERS THAT KEEP ONE SLOT FREE, and the queue they hold.

  A buffer of `cap` slots whose elements run from `front` up to, not including, `rear`. One slot
  stays free, so `front = rear` means empty and `rear + 1 = front` (mod `cap`) means full: at most
  `cap - 1` elements. Nothing here names a program:

  * `Buffer`, `push`, `pop`, `head`, `full`, `empty` -- the buffer and its operations, indices
    kept below `cap` by the structure;
  * `count`, `toList` -- the queue it holds, read from `front` (`elems`, one wrap at most);
  * `toList_push`, `toList_pop` -- **the buffer refines a FIFO queue**: a push that finds it not
    full appends, a pop that finds it not empty removes the head;
  * `full_iff`, `empty_iff` -- full is `cap - 1` elements, empty is none.
-/
import Mathlib.Logic.Function.Basic
import Mathlib.Tactic.SplitIfs

namespace Ring

variable {α : Type*}

/-- The slot `k` places after slot `i` of `cap`, for `i < cap` and `k ≤ cap`. -/
def wrap (cap i k : Nat) : Nat := if i + k < cap then i + k else i + k - cap

/-- A ring buffer of `cap` slots. -/
structure Buffer (α : Type*) where
  cap : Nat
  slots : Nat → α
  front : Nat
  rear : Nat
  front_lt : front < cap
  rear_lt : rear < cap

namespace Buffer

/-- An empty buffer of `cap` slots, whatever they hold. -/
def init (cap : Nat) (h : 0 < cap) (slots : Nat → α) : Buffer α := ⟨cap, slots, 0, 0, h, h⟩

/-- Full: `(rear + 1) % cap = front`. -/
def full (q : Buffer α) : Bool := (q.rear + 1) % q.cap == q.front

/-- Empty: `front = rear`. -/
def empty (q : Buffer α) : Bool := q.front == q.rear

/-- The element at `front`. -/
def head (q : Buffer α) : α := q.slots q.front

/-- Store at `rear`, then advance it. -/
def push (q : Buffer α) (x : α) : Buffer α where
  cap := q.cap
  slots := Function.update q.slots q.rear x
  front := q.front
  rear := (q.rear + 1) % q.cap
  front_lt := q.front_lt
  rear_lt := Nat.mod_lt _ (Nat.lt_of_le_of_lt (Nat.zero_le _) q.rear_lt)

/-- Advance `front`. -/
def pop (q : Buffer α) : Buffer α where
  cap := q.cap
  slots := q.slots
  front := (q.front + 1) % q.cap
  rear := q.rear
  front_lt := Nat.mod_lt _ (Nat.lt_of_le_of_lt (Nat.zero_le _) q.front_lt)
  rear_lt := q.rear_lt

/-- How many slots lie from `front` to `rear`. -/
def count (q : Buffer α) : Nat :=
  if q.front ≤ q.rear then q.rear - q.front else q.rear + q.cap - q.front

/-- The `n` elements from slot `front` on. -/
def elems (slots : Nat → α) (cap front : Nat) : Nat → List α
  | 0 => []
  | n + 1 => elems slots cap front n ++ [slots (wrap cap front n)]

/-- **The queue the buffer holds**, the next to be popped first. -/
def toList (q : Buffer α) : List α := elems q.slots q.cap q.front q.count

/-! ## 1. Counting -/

theorem count_lt (q : Buffer α) : q.count < q.cap := by
  have := q.front_lt
  have := q.rear_lt
  unfold count
  split <;> omega

theorem elems_length (slots : Nat → α) (cap front n : Nat) :
    (elems slots cap front n).length = n := by
  induction n with
  | zero => rfl
  | succ n ih => simp [elems, ih]

@[simp] theorem toList_length (q : Buffer α) : q.toList.length = q.count :=
  elems_length _ _ _ _

theorem full_iff (q : Buffer α) : q.full = true ↔ q.count = q.cap - 1 := by
  have := q.front_lt
  have := q.rear_lt
  unfold full count
  rw [beq_iff_eq]
  -- `rear + 1` wraps exactly when `rear` is the last slot
  by_cases hw : q.rear + 1 < q.cap
  · rw [Nat.mod_eq_of_lt hw]
    split <;> omega
  · have : q.rear + 1 = q.cap := by omega
    rw [this, Nat.mod_self]
    split <;> omega

theorem full_eq_false_of_count_lt {q : Buffer α} (h : q.count + 1 < q.cap) : q.full = false := by
  cases hf : q.full with
  | false => rfl
  | true => rw [full_iff] at hf; omega

theorem empty_iff (q : Buffer α) : q.empty = true ↔ q.count = 0 := by
  have := q.front_lt
  have := q.rear_lt
  unfold empty count
  rw [beq_iff_eq]
  split <;> omega

theorem toList_eq_nil_iff (q : Buffer α) : q.toList = [] ↔ q.empty = true := by
  rw [← List.length_eq_zero_iff, toList_length, empty_iff]

@[simp] theorem init_toList (cap : Nat) (h : 0 < cap) (slots : Nat → α) :
    (init cap h slots).toList = [] := by
  simp [init, toList, count, elems]

/-! ## 2. Push appends -/

/-- Slots other than those of the first `n` elements can change. -/
theorem elems_update {slots : Nat → α} {cap front n r : Nat} (x : α)
    (h : ∀ i < n, wrap cap front i ≠ r) :
    elems (Function.update slots r x) cap front n = elems slots cap front n := by
  induction n with
  | zero => rfl
  | succ n ih =>
    simp only [elems]
    rw [ih (fun i hi => h i (Nat.lt_succ_of_lt hi)),
      Function.update_of_ne (h n (Nat.lt_succ_self n))]

/-- `rear` is the slot after the last element, and no element is there. -/
theorem wrap_count (q : Buffer α) : wrap q.cap q.front q.count = q.rear := by
  have := q.front_lt
  have := q.rear_lt
  unfold wrap count
  split <;> split <;> omega

theorem wrap_ne_rear (q : Buffer α) {i : Nat} (hi : i < q.count) : wrap q.cap q.front i ≠ q.rear := by
  have := q.front_lt
  have := q.rear_lt
  have := count_lt q
  unfold wrap
  unfold count at hi
  split <;> split at hi <;> omega

theorem count_push {q : Buffer α} (h : q.full = false) (x : α) : (q.push x).count = q.count + 1 := by
  have hne : q.count ≠ q.cap - 1 := fun e => by rw [← full_iff] at e; simp [e] at h
  have := q.front_lt
  have := q.rear_lt
  have hc : (q.push x).cap = q.cap := rfl
  have hf : (q.push x).front = q.front := rfl
  have hr : (q.push x).rear = (q.rear + 1) % q.cap := rfl
  unfold count at hne ⊢
  by_cases hw : q.rear + 1 < q.cap
  · rw [Nat.mod_eq_of_lt hw] at hr
    split_ifs at hne ⊢ <;> omega
  · rw [show q.rear + 1 = q.cap by omega, Nat.mod_self] at hr
    split_ifs at hne ⊢ <;> omega

/-- **A push that finds the buffer not full appends.** -/
theorem toList_push {q : Buffer α} (h : q.full = false) (x : α) :
    (q.push x).toList = q.toList ++ [x] := by
  unfold toList
  rw [count_push h]
  simp only [elems, push]
  rw [elems_update x (fun i hi => wrap_ne_rear q hi), wrap_count, Function.update_self]

/-! ## 3. Pop removes the head -/

/-- The elements from `front` are the one at `front`, then those from the next slot. -/
theorem elems_succ {slots : Nat → α} {cap front : Nat} (hf : front < cap) :
    ∀ n, n + 1 < cap →
      elems slots cap front (n + 1) = slots front :: elems slots cap (wrap cap front 1) n := by
  intro n
  induction n with
  | zero =>
    intro _
    simp [elems, wrap, hf]
  | succ n ih =>
    intro hn
    rw [elems, ih (by omega), elems, List.cons_append]
    -- the slot `n + 1` after `front` is the slot `n` after the next one
    have : wrap cap front (n + 1) = wrap cap (wrap cap front 1) n := by
      unfold wrap
      split <;> split <;> split <;> omega
    rw [this]

theorem count_pop {q : Buffer α} (h : q.empty = false) : q.pop.count = q.count - 1 := by
  have hne : q.count ≠ 0 := fun e => by rw [← empty_iff] at e; simp [e] at h
  have := q.front_lt
  have := q.rear_lt
  have hc : q.pop.cap = q.cap := rfl
  have hf : q.pop.front = (q.front + 1) % q.cap := rfl
  have hr : q.pop.rear = q.rear := rfl
  unfold count at hne ⊢
  by_cases hw : q.front + 1 < q.cap
  · rw [Nat.mod_eq_of_lt hw] at hf
    split_ifs at hne ⊢ <;> omega
  · rw [show q.front + 1 = q.cap by omega, Nat.mod_self] at hf
    split_ifs at hne ⊢ <;> omega

/-- **A pop that finds the buffer not empty removes the head.** -/
theorem toList_pop {q : Buffer α} (h : q.empty = false) : q.toList = q.head :: q.pop.toList := by
  have hne : q.count ≠ 0 := fun e => by rw [← empty_iff] at e; simp [e] at h
  have hlt := count_lt q
  unfold toList
  rw [count_pop h]
  obtain ⟨n, hn⟩ : ∃ n, q.count = n + 1 := ⟨q.count - 1, by omega⟩
  rw [hn, elems_succ q.front_lt n (by omega), Nat.add_sub_cancel]
  have : (q.front + 1) % q.cap = wrap q.cap q.front 1 := by
    have := q.front_lt
    unfold wrap
    split
    · exact Nat.mod_eq_of_lt ‹_›
    · have : q.front + 1 = q.cap := by omega
      rw [this, Nat.mod_self]
      omega
  simp only [head, pop, this]

end Buffer

end Ring
