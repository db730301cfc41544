/-
  File:      ImageDfs/Common/Queue.lean
  Subject:   `QQueue<T>` (qqueue.h): the ring queue with `int32_t` indices that hands the
             `clientInfo`s around, against the bounded FIFO it stands for.

  The queue keeps `max_size_` slots and the indices `front_` and `rear_`; one slot stays free, so
  it holds at most `max_size_ - 1` elements. The blocking `push` and `pop` wait until the call can
  go on (`QueueCall`, answered by `QQueue.call`, which blocks with `none`):

  * `QQueue`, `QQueue.init`, `QQueue.size`, `QQueue.full`, `QQueue.empty`, `QQueue.put`,
    `QQueue.take`, `QQueue.pushNonBlocking`, `QQueue.popNonBlocking` -- the methods, on `Int32`
    as the code computes them;
  * `fifoCall` -- what the queue is for: a list of at most `cap` elements, pushed at the back and
    popped at the front;
  * `QQueue.Valid`, `QQueue.buffer` -- indices in `[0, max_size_)`, and the `Ring.Buffer` such a
    queue is (`Lib/Ring.lean`, which the connection pool of `Server/Pool.lean` uses);
  * `qqueue_refines_fifo` -- **for `1 ≤ max_size ≤ 2^30`, every sequence of calls after `init`
    answers as the FIFO of capacity `max_size - 1` does**, with the indices in range all along;
  * `qqueue_size_wraps_after_pushes` -- above `2^30` the sum `rear_-front_+max_size_` of
    `size()` leaves `int32_t`: after enough pushes `size()` answers 0 or less (with
    `max_size = 2^31 - 1`, one push and `size()` answers -1).
-/
import ImageDfs.Lib.Ring
import ImageDfs.Lib.Machine
import ImageDfs.Lib.CInt

namespace ImageDfs

open Machine

/-! ## 1. The queue -/

/-- The fields of a `QQueue<T>`: the slots of `queue_`, `max_size_`, `front_` and `rear_`. -/
structure QQueue (α : Type) where
  queue : Nat → α
  maxSize : Int32
  front : Int32
  rear : Int32

namespace QQueue

variable {α : Type}

/-- `QQueue()`: no array yet (its slots are whatever `slots` says), and every index 0. -/
def new (slots : Nat → α) : QQueue α := ⟨slots, 0, 0, 0⟩

/-- `init(size)`: -1 for a size that is not positive; otherwise `max_size_` is set, and
    `q_new_array` gives the slots (`some`) or fails (-2, `max_size_` already set). -/
def init (q : QQueue α) (size : Int32) (alloc : Option (Nat → α)) : Int32 × QQueue α :=
  if size ≤ 0 then (-1, q)
  else match alloc with
    | none => (-2, { q with maxSize := size })
    | some slots => (0, ⟨slots, size, 0, 0⟩)

def clear (q : QQueue α) : QQueue α := { q with front := 0, rear := 0 }

/-- `size()`: `(rear_-front_+max_size_)%max_size_`, in `int32_t`. -/
def size (q : QQueue α) : Int32 := (q.rear - q.front + q.maxSize) % q.maxSize

def full (q : QQueue α) : Bool := (q.rear + 1) % q.maxSize == q.front

def empty (q : QQueue α) : Bool := q.front == q.rear

/-- What `push` does once `full()` is false: store at `rear_` and advance it. -/
def put (q : QQueue α) (item : α) : QQueue α :=
  { q with queue := Function.update q.queue q.rear.toNatClampNeg item,
           rear := (q.rear + 1) % q.maxSize }

/-- What `pop` does once `empty()` is false: read at `front_` and advance it. -/
def take (q : QQueue α) : α × QQueue α :=
  (q.queue q.front.toNatClampNeg, { q with front := (q.front + 1) % q.maxSize })

def pushNonBlocking (q : QQueue α) (item : α) : Int32 × QQueue α :=
  if q.full then (-1, q) else (0, q.put item)

/-- `pop_non_blocking(item)`: the code, and the caller's `item` after the call. -/
def popNonBlocking (q : QQueue α) (item : α) : Int32 × α × QQueue α :=
  if q.empty then (-1, item, q) else (0, q.take.1, q.take.2)

end QQueue

/-- The calls a user of the queue makes; `popNonBlocking` carries the caller's `item`. -/
inductive QueueCall (α : Type) where
  | push (item : α)
  | pop
  | pushNonBlocking (item : α)
  | popNonBlocking (item : α)
  | clear
  | size
  | full
  | empty

/-- What a call answers: nothing, the popped item, a code, a code and the caller's `item`, the
    size, or a flag. -/
inductive QueueAnswer (α : Type) where
  | done
  | item (x : α)
  | code (c : Int32)
  | got (c : Int32) (x : α)
  | size (n : Int32)
  | flag (b : Bool)
  deriving DecidableEq

/-- **One call of the queue**; a blocking call that cannot go on answers `none`. -/
def QQueue.call {α : Type} (q : QQueue α) : QueueCall α → Option (QueueAnswer α × QQueue α)
  | .push x => if q.full then none else some (.done, q.put x)
  | .pop => if q.empty then none else some (.item q.take.1, q.take.2)
  | .pushNonBlocking x => some (.code (q.pushNonBlocking x).1, (q.pushNonBlocking x).2)
  | .popNonBlocking x =>
    some (.got (q.popNonBlocking x).1 (q.popNonBlocking x).2.1, (q.popNonBlocking x).2.2)
  | .clear => some (.done, q.clear)
  | .size => some (.size q.size, q)
  | .full => some (.flag q.full, q)
  | .empty => some (.flag q.empty, q)

/-! ## 2. What the queue is for -/

/-- **A FIFO of at most `cap` elements**: pushed at the back, popped at the front; a blocking call
    waits (`none`) and a non-blocking one that cannot go on answers -1 and changes nothing. -/
def fifoCall {α : Type} (cap : Nat) : List α → QueueCall α → Option (QueueAnswer α × List α)
  | l, .push x => if l.length < cap then some (.done, l ++ [x]) else none
  | [], .pop => none
  | x :: l, .pop => some (.item x, l)
  | l, .pushNonBlocking x => if l.length < cap then some (.code 0, l ++ [x]) else some (.code (-1), l)
  | [], .popNonBlocking y => some (.got (-1) y, [])
  | x :: l, .popNonBlocking _ => some (.got 0 x, l)
  | _, .clear => some (.done, [])
  | l, .size => some (.size (Int32.ofNat l.length), l)
  | l, .full => some (.flag (decide (l.length = cap)), l)
  | l, .empty => some (.flag l.isEmpty, l)

/-! ## 3. Indices in range -/

namespace QQueue

variable {α : Type}

/-- `max_size_` is positive and both indices lie in `[0, max_size_)`. -/
structure Valid (q : QQueue α) : Prop where
  maxSize_pos : 0 < q.maxSize.toInt
  front_nonneg : 0 ≤ q.front.toInt
  front_lt : q.front.toInt < q.maxSize.toInt
  rear_nonneg : 0 ≤ q.rear.toInt
  rear_lt : q.rear.toInt < q.maxSize.toInt

/-- A positive size and the slots: `init` returns 0, with both indices at 0. -/
theorem init_of_pos (q : QQueue α) {size : Int32} (h : 0 < size.toInt) (slots : Nat → α) :
    q.init size (some slots) = (0, ⟨slots, size, 0, 0⟩) := by
  have hpos : ¬ size ≤ 0 := by
    rw [Int32.le_iff_toInt_le]
    simp only [Int32.toInt_zero]
    omega
  simp only [init, hpos, if_false]

/-- **The ring buffer a valid queue is.** -/
def buffer (q : QQueue α) (h : q.Valid) : Ring.Buffer α where
  cap := q.maxSize.toNatClampNeg
  slots := q.queue
  front := q.front.toNatClampNeg
  rear := q.rear.toNatClampNeg
  front_lt := by
    rw [CInt.toNatClampNeg_eq, CInt.toNatClampNeg_eq]
    have := h.front_lt
    have := h.front_nonneg
    omega
  rear_lt := by
    rw [CInt.toNatClampNeg_eq, CInt.toNatClampNeg_eq]
    have := h.rear_lt
    have := h.rear_nonneg
    omega

/-- An index moved one place on: `(i+1)%max_size_` never overflows, and is the ring's wrap. -/
theorem toInt_succ_mod {i m : Int32} (hi : 0 ≤ i.toInt) (him : i.toInt < m.toInt) :
    ((i + 1) % m).toInt = (i.toInt + 1) % m.toInt := by
  have hm := Int32.toInt_lt m
  have h1 : (i + 1).toInt = i.toInt + 1 := CInt.toInt_add_of_range i 1 (by simp; omega) (by simp; omega)
  rw [CInt.toInt_mod_of_nonneg _ _ (by omega), h1]

theorem toNatClampNeg_succ_mod {i m : Int32} (hi : 0 ≤ i.toInt) (him : i.toInt < m.toInt) :
    ((i + 1) % m).toNatClampNeg = (i.toNatClampNeg + 1) % m.toNatClampNeg := by
  rw [CInt.toNatClampNeg_eq, CInt.toNatClampNeg_eq, CInt.toNatClampNeg_eq, toInt_succ_mod hi him,
    Int.toNat_emod (by omega) (by omega)]
  congr 1
  omega

theorem succ_mod_bounds {i m : Int32} (hi : 0 ≤ i.toInt) (him : i.toInt < m.toInt) :
    0 ≤ ((i + 1) % m).toInt ∧ ((i + 1) % m).toInt < m.toInt := by
  rw [toInt_succ_mod hi him]
  exact ⟨Int.emod_nonneg _ (by omega), Int.emod_lt_of_pos _ (by omega)⟩

theorem valid_put {q : QQueue α} (h : q.Valid) (x : α) : (q.put x).Valid :=
  ⟨h.maxSize_pos, h.front_nonneg, h.front_lt, (succ_mod_bounds h.rear_nonneg h.rear_lt).1,
    (succ_mod_bounds h.rear_nonneg h.rear_lt).2⟩

theorem valid_take {q : QQueue α} (h : q.Valid) : q.take.2.Valid :=
  ⟨h.maxSize_pos, (succ_mod_bounds h.front_nonneg h.front_lt).1,
    (succ_mod_bounds h.front_nonneg h.front_lt).2, h.rear_nonneg, h.rear_lt⟩

theorem valid_clear {q : QQueue α} (h : q.Valid) : q.clear.Valid :=
  ⟨h.maxSize_pos, by simp [clear], by simpa [clear] using h.maxSize_pos, by simp [clear],
    by simpa [clear] using h.maxSize_pos⟩

/-! ## 4. Each method is the ring buffer's -/

theorem buffer_put {q : QQueue α} (h : q.Valid) (x : α) :
    (q.put x).buffer (valid_put h x) = (q.buffer h).push x := by
  simp only [buffer, put, Ring.Buffer.push, Ring.Buffer.mk.injEq, true_and]
  exact toNatClampNeg_succ_mod h.rear_nonneg h.rear_lt

theorem buffer_take {q : QQueue α} (h : q.Valid) :
    q.take.2.buffer (valid_take h) = (q.buffer h).pop := by
  simp only [buffer, take, Ring.Buffer.pop, Ring.Buffer.mk.injEq, true_and, and_true]
  exact toNatClampNeg_succ_mod h.front_nonneg h.front_lt

/-- Two indices in range are equal as `int32_t`s exactly when they are as numbers. -/
theorem eq_iff_toNatClampNeg {a b : Int32} (ha : 0 ≤ a.toInt) (hb : 0 ≤ b.toInt) :
    a = b ↔ a.toNatClampNeg = b.toNatClampNeg := by
  rw [← Int32.toInt_inj, CInt.toNatClampNeg_eq, CInt.toNatClampNeg_eq]
  omega

theorem full_buffer {q : QQueue α} (h : q.Valid) : q.full = (q.buffer h).full := by
  have hb := succ_mod_bounds h.rear_nonneg h.rear_lt
  simp only [full, Ring.Buffer.full, buffer]
  rw [Bool.eq_iff_iff, beq_iff_eq, beq_iff_eq, eq_iff_toNatClampNeg hb.1 h.front_nonneg,
    toNatClampNeg_succ_mod h.rear_nonneg h.rear_lt]

theorem empty_buffer {q : QQueue α} (h : q.Valid) : q.empty = (q.buffer h).empty := by
  simp only [empty, Ring.Buffer.empty, buffer]
  rw [Bool.eq_iff_iff, beq_iff_eq, beq_iff_eq, eq_iff_toNatClampNeg h.front_nonneg h.rear_nonneg]

/-- **`size()` counts the elements while `rear_-front_+max_size_` fits an `int32_t`.** -/
theorem size_buffer {q : QQueue α} (h : q.Valid) (hm : q.maxSize.toInt ≤ 2 ^ 30) :
    q.size = Int32.ofNat (q.buffer h).count := by
  have hf := h.front_lt
  have hr := h.rear_lt
  have h0 := h.front_nonneg
  have h1 := h.rear_nonneg
  have hsub : (q.rear - q.front).toInt = q.rear.toInt - q.front.toInt :=
    CInt.toInt_sub_of_range _ _ (by omega) (by omega)
  have hadd : (q.rear - q.front + q.maxSize).toInt = q.rear.toInt - q.front.toInt + q.maxSize.toInt :=
    by rw [CInt.toInt_add_of_range (q.rear - q.front) q.maxSize (by omega) (by omega), hsub]
  have hcount : ((q.buffer h).count : Int) =
      (q.rear.toInt - q.front.toInt + q.maxSize.toInt) % q.maxSize.toInt := by
    simp only [Ring.Buffer.count, buffer, CInt.toNatClampNeg_eq]
    split
    · rw [Int.add_emod_right, Int.emod_eq_of_lt (by omega) (by omega)]
      omega
    · rw [Int.emod_eq_of_lt (by omega) (by omega)]
      omega
  have hlt : (q.buffer h).count < 2 ^ 31 := by
    have hc := (q.buffer h).count_lt
    have hcap : (q.buffer h).cap = q.maxSize.toInt.toNat := CInt.toNatClampNeg_eq _
    omega
  apply Int32.toInt_inj.mp
  rw [size, CInt.toInt_mod_of_nonneg (q.rear - q.front + q.maxSize) q.maxSize (by omega), hadd,
    ← hcount, Int32.toInt_ofNat_of_lt hlt]

end QQueue

/-! ## 5. The refinement -/

/-- The queue stands for the list `l`, with `max_size_` equal to `m`. -/
def QueueRep {α : Type} (m : Int32) (q : QQueue α) (l : List α) : Prop :=
  q.maxSize = m ∧ ∃ h : q.Valid, (q.buffer h).toList = l

section Refinement

variable {α : Type}

theorem queueRep_clear {m : Int32} {q : QQueue α} {l : List α} (h : QueueRep m q l) :
    QueueRep m q.clear [] := by
  obtain ⟨hm, hv, -⟩ := h
  refine ⟨hm, QQueue.valid_clear hv, ?_⟩
  rw [Ring.Buffer.toList_eq_nil_iff]
  simp [Ring.Buffer.empty, QQueue.buffer, QQueue.clear]

/-- **One call, on both sides**: from a queue that stands for `l`, every call blocks on both or
    answers the same on both, and the queue after it stands for the list after it. -/
theorem queue_call_sim {m : Int32} (hm : m.toInt ≤ 2 ^ 30) {q : QQueue α} {l : List α}
    (h : QueueRep m q l) (c : QueueCall α) :
    Option.Rel (fun a b => a.1 = b.1 ∧ QueueRep m a.2 b.2) (q.call c)
      (fifoCall (m.toNatClampNeg - 1) l c) := by
  obtain ⟨rfl, hv, rfl⟩ := h
  have hcap : (q.buffer hv).cap = q.maxSize.toNatClampNeg := rfl
  -- a push finds room exactly when the list is shorter than `max_size_ - 1`
  have hroom : (q.buffer hv).full = false ↔ (q.buffer hv).toList.length < q.maxSize.toNatClampNeg - 1 := by
    rw [Ring.Buffer.toList_length, ← hcap]
    have := (q.buffer hv).count_lt
    cases hfull : (q.buffer hv).full
    · rw [← Bool.not_eq_true, Ring.Buffer.full_iff] at hfull
      simp only [true_iff]
      omega
    · rw [Ring.Buffer.full_iff] at hfull
      simp only [Bool.true_eq_false, false_iff]
      omega
  have hput : ∀ x, (q.buffer hv).full = false →
      QueueRep q.maxSize (q.put x) ((q.buffer hv).toList ++ [x]) := fun x hnf =>
    ⟨rfl, QQueue.valid_put hv x, by rw [QQueue.buffer_put hv x, Ring.Buffer.toList_push hnf]⟩
  cases c with
  | push x =>
    simp only [QQueue.call, fifoCall, QQueue.full_buffer hv]
    by_cases hnf : (q.buffer hv).full = false
    · rw [if_neg (by simp [hnf]), if_pos (hroom.mp hnf)]
      exact .some ⟨rfl, hput x hnf⟩
    · rw [if_pos (by simpa using hnf), if_neg (fun h => hnf (hroom.mpr h))]
      exact .none
  | pop =>
    simp only [QQueue.call, QQueue.empty_buffer hv]
    cases hne : (q.buffer hv).empty
    · simp only [Bool.false_eq_true, if_false]
      rw [Ring.Buffer.toList_pop hne]
      exact .some ⟨rfl, rfl, QQueue.valid_take hv, by rw [QQueue.buffer_take hv]⟩
    · simp only [if_true]
      rw [(Ring.Buffer.toList_eq_nil_iff _).mpr hne]
      exact .none
  | pushNonBlocking x =>
    simp only [QQueue.call, QQueue.pushNonBlocking, fifoCall, QQueue.full_buffer hv]
    by_cases hnf : (q.buffer hv).full = false
    · rw [if_neg (by simp [hnf]), if_pos (hroom.mp hnf)]
      exact .some ⟨rfl, hput x hnf⟩
    · rw [if_pos (by simpa using hnf), if_neg (fun h => hnf (hroom.mpr h))]
      exact .some ⟨rfl, rfl, hv, rfl⟩
  | popNonBlocking y =>
    simp only [QQueue.call, QQueue.popNonBlocking, QQueue.empty_buffer hv]
    cases hne : (q.buffer hv).empty
    · simp only [Bool.false_eq_true, if_false]
      rw [Ring.Buffer.toList_pop hne]
      exact .some ⟨rfl, rfl, QQueue.valid_take hv, by rw [QQueue.buffer_take hv]⟩
    · simp only [if_true]
      rw [(Ring.Buffer.toList_eq_nil_iff _).mpr hne]
      exact .some ⟨rfl, rfl, hv, (Ring.Buffer.toList_eq_nil_iff _).mpr hne⟩
  | clear => exact .some ⟨rfl, queueRep_clear ⟨rfl, hv, rfl⟩⟩
  | size =>
    simp only [QQueue.call, fifoCall, Ring.Buffer.toList_length, QQueue.size_buffer hv hm]
    exact .some ⟨rfl, rfl, hv, rfl⟩
  | full =>
    simp only [QQueue.call, fifoCall, Ring.Buffer.toList_length, QQueue.full_buffer hv]
    have hf := Ring.Buffer.full_iff (q.buffer hv)
    rw [hcap] at hf
    refine .some ⟨congrArg QueueAnswer.flag ?_, rfl, hv, rfl⟩
    rw [Bool.eq_iff_iff, hf, decide_eq_true_iff]
  | empty =>
    simp only [QQueue.call, fifoCall, QQueue.empty_buffer hv]
    refine .some ⟨congrArg QueueAnswer.flag ?_, rfl, hv, rfl⟩
    rw [Bool.eq_iff_iff, ← Ring.Buffer.toList_eq_nil_iff, List.isEmpty_iff]

/-- **`QQueue` is a FIFO of capacity `max_size - 1`**: after an `init` with `1 ≤ max_size ≤ 2^30`
    (which returns 0), every sequence of calls answers as the FIFO does -- pops in push order,
    `size()` the length, `full()` and `empty()` at `max_size - 1` and 0 elements, failed
    non-blocking calls -1 with nothing changed -- and `front_` and `rear_` stay in
    `[0, max_size)`. -/
theorem qqueue_refines_fifo (q0 : QQueue α) {size : Int32} (h1 : 0 < size.toInt)
    (h2 : size.toInt ≤ 2 ^ 30) (slots : Nat → α) (cs : List (QueueCall α)) :
    (q0.init size (some slots)).1 = 0 ∧
    Option.Rel (fun a b => a.1 = b.1 ∧ QueueRep size a.2 b.2)
      (runCalls QQueue.call (q0.init size (some slots)).2 cs)
      (runCalls (fifoCall (size.toNatClampNeg - 1)) [] cs) := by
  rw [QQueue.init_of_pos q0 h1 slots]
  refine ⟨rfl, runCalls_sim (QueueRep size) (fun q l c h => queue_call_sim h2 h c) cs _ _ ?_⟩
  refine ⟨rfl, ⟨h1, by simp, by simpa using h1, by simp, by simpa using h1⟩, ?_⟩
  rw [Ring.Buffer.toList_eq_nil_iff]
  simp [Ring.Buffer.empty, QQueue.buffer]

end Refinement

theorem qqueue_refines_fifo_three :
    (0 : Int) < (3 : Int32).toInt ∧ (3 : Int32).toInt ≤ 2 ^ 30 ∧
    ((QQueue.new (fun _ => 0)).init 3 (some (fun _ => 0))).1 = 0 ∧
    Option.Rel (fun a b => a.1 = b.1 ∧ QueueRep 3 a.2 b.2)
      (runCalls QQueue.call ((QQueue.new (fun _ => 0)).init 3 (some (fun _ => 0))).2
        [.push 7, .push 8, .full, .pop, .size])
      (runCalls (fifoCall ((3 : Int32).toNatClampNeg - 1)) [] [.push 7, .push 8, .full, .pop, .size]) :=
  ⟨by decide, by decide, qqueue_refines_fifo (QQueue.new (fun _ => 0)) (by decide) (by decide)
    (fun _ => 0) [.push 7, .push 8, .full, .pop, .size]⟩

/-! ## 6. Above `2^30` -/

namespace QQueue

variable {α : Type}

/-- A push onto a queue whose `front_` is 0 finds room while `rear_ + 1` stays below
    `max_size_`, and moves `rear_` on by one, with no wrap. -/
theorem call_push_of_front_zero {q : QQueue α} (hf : q.front = 0) (hr : 0 ≤ q.rear.toInt)
    (hroom : q.rear.toInt + 1 < q.maxSize.toInt) (x : α) :
    q.call (.push x) = some (.done, q.put x) ∧ (q.put x).rear.toInt = q.rear.toInt + 1 := by
  have hsucc : ((q.rear + 1) % q.maxSize).toInt = q.rear.toInt + 1 := by
    rw [toInt_succ_mod hr (by omega), Int.emod_eq_of_lt (by omega) (by omega)]
  have hnf : q.full = false := by
    rw [full, hf, beq_eq_false_iff_ne]
    intro h
    have := congrArg Int32.toInt h
    rw [hsucc, Int32.toInt_zero] at this
    omega
  exact ⟨by simp only [call, hnf, Bool.false_eq_true, if_false], hsucc⟩

/-- **Pushes from `front_` at 0**: while `rear_` stays short of `max_size_ - 1` every push goes
    through, and `rear_` counts them. -/
theorem runCalls_pushes {q : QQueue α} (hf : q.front = 0) (hr : 0 ≤ q.rear.toInt) (xs : List α)
    (hroom : q.rear.toInt + xs.length + 1 < q.maxSize.toInt) :
    ∃ q', runCalls call q (xs.map .push) = some (xs.map fun _ => .done, q') ∧
      q'.maxSize = q.maxSize ∧ q'.front = 0 ∧ q'.rear.toInt = q.rear.toInt + xs.length := by
  induction xs generalizing q with
  | nil => exact ⟨q, rfl, rfl, hf, by simp⟩
  | cons x xs ih =>
    simp only [List.length_cons, Nat.cast_add, Nat.cast_one] at hroom
    obtain ⟨hcall, hrear⟩ := call_push_of_front_zero hf hr (by omega) x
    -- the rest of the pushes, from the queue after the first
    have hm : (q.put x).maxSize = q.maxSize := rfl
    obtain ⟨q', hrun, hm', hf', hr'⟩ := ih (q := q.put x) hf (by omega) (by rw [hrear, hm]; omega)
    refine ⟨q', ?_, hm'.trans hm, hf', ?_⟩
    · simp only [List.map_cons, runCalls, hcall, hrun, Option.map_some]
    · rw [hr', hrear, List.length_cons, Nat.cast_add, Nat.cast_one]
      omega

/-- **`size()` past `int32_t`**: with `front_` at 0 and `rear_ + max_size_` at `2^31` or more,
    the sum wraps to a negative value, and C's `%` keeps its sign: `size()` is 0 or less. -/
theorem size_nonpos_of_wrap {q : QQueue α} (hf : q.front = 0) (hr : 0 ≤ q.rear.toInt)
    (hwrap : 2 ^ 31 ≤ q.rear.toInt + q.maxSize.toInt) : q.size.toInt ≤ 0 := by
  have hsub : (q.rear - q.front).toInt = q.rear.toInt := by
    rw [hf, Int32.sub_zero]
  have hsum : (q.rear - q.front + q.maxSize).toInt = q.rear.toInt + q.maxSize.toInt - 2 ^ 32 := by
    rw [CInt.toInt_add_of_overflow _ _ (by rw [hsub]; exact hwrap), hsub]
  have hr' := Int32.toInt_lt q.rear
  have hm' := Int32.toInt_lt q.maxSize
  exact CInt.toInt_mod_nonpos _ _ (by omega)

end QQueue

/-- The FIFO takes pushes while it has room, and keeps them in order. -/
theorem runCalls_fifo_pushes {α : Type} {cap : Nat} (l xs : List α)
    (hroom : l.length + xs.length ≤ cap) :
    runCalls (fifoCall cap) l (xs.map .push) = some (xs.map fun _ => .done, l ++ xs) := by
  induction xs generalizing l with
  | nil => simp [runCalls]
  | cons x xs ih =>
    simp only [List.length_cons] at hroom
    have hstep : fifoCall cap l (.push x) = some (.done, l ++ [x]) := by
      simp only [fifoCall, if_pos (show l.length < cap by omega)]
    rw [List.map_cons, runCalls, hstep]
    dsimp only
    rw [ih (l ++ [x]) (by simp; omega)]
    simp

/-- **`size()` miscounts above `2^30`**: after `init` with any `max_size_`, pushes that leave
    room, and whose count `k` makes `k + max_size_` reach `2^31`, `size()` answers 0 or less where
    the FIFO the queue stands for answers `k`, which is at least 1. -/
theorem qqueue_size_wraps_after_pushes {α : Type} (q0 : QQueue α) {size : Int32}
    (slots : Nat → α) (xs : List α) (hwrap : 2 ^ 31 ≤ xs.length + size.toInt)
    (hroom : xs.length + 1 < size.toInt) :
    ∃ n : Int32, n.toInt ≤ 0 ∧
      (runCalls QQueue.call (q0.init size (some slots)).2 (xs.map .push ++ [.size])).map
        Prod.fst = some (xs.map (fun _ => .done) ++ [.size n]) ∧
      (runCalls (fifoCall (size.toNatClampNeg - 1)) [] (xs.map .push ++ [.size])).map
        Prod.fst = some (xs.map (fun _ => .done) ++ [.size (Int32.ofNat xs.length)]) ∧
      0 < (Int32.ofNat xs.length).toInt := by
  have hsize := Int32.toInt_lt size
  have hk : xs.length < 2 ^ 31 := by omega
  rw [QQueue.init_of_pos q0 (by omega) slots]
  obtain ⟨q', hrun, hm, hf, hr⟩ :=
    QQueue.runCalls_pushes (q := ⟨slots, size, 0, 0⟩) rfl (by simp) xs (by simp; omega)
  simp only [Int32.toInt_zero, zero_add] at hr
  have hneg : q'.size.toInt ≤ 0 :=
    QQueue.size_nonpos_of_wrap hf (by omega) (by rw [hr, hm]; exact hwrap)
  have hcap : xs.length ≤ size.toNatClampNeg - 1 := by
    rw [CInt.toNatClampNeg_eq]
    omega
  refine ⟨q'.size, hneg, ?_, ?_, ?_⟩
  · rw [runCalls_append, hrun]
    simp [runCalls, QQueue.call]
  · rw [runCalls_append, runCalls_fifo_pushes [] xs (by simpa using hcap)]
    simp [runCalls, fifoCall]
  · rw [Int32.toInt_ofNat_of_lt hk]
    omega

/-- `max_size = 2^31 - 1` and one push. -/
theorem qqueue_size_wraps_max :
    ∃ n : Int32, n.toInt ≤ 0 ∧
      (runCalls QQueue.call ((QQueue.new (fun _ => 0)).init 2147483647 (some (fun _ => 0))).2
        ([7].map .push ++ [.size])).map Prod.fst = some ([7].map (fun _ => .done) ++ [.size n]) ∧
      (runCalls (fifoCall ((2147483647 : Int32).toNatClampNeg - 1)) [] ([7].map .push ++ [.size])).map
        Prod.fst = some ([7].map (fun _ => .done) ++ [.size (Int32.ofNat [7].length)]) ∧
      0 < (Int32.ofNat [7].length).toInt :=
  qqueue_size_wraps_after_pushes (QQueue.new fun _ => 0) (fun _ => 0) [7] (by decide) (by decide)

/-- There the sum is `2^31`, which wraps to `-2^31`, and `size()` answers -1. -/
example : (runCalls QQueue.call ((QQueue.new (fun _ => 0)).init 2147483647 (some (fun _ => 0))).2
    [.push 7, .size]).map Prod.fst = some [.done, .size (-1)] := by
  decide

end ImageDfs
