/-
  File:      ImageDfs/Server/Startup.lean
  Subject:   WHAT QTcpServer::init BUILDS (qtcpsocket.cc) once the configuration is loaded: the
             two `QQueue`s of `clientInfo`s, and `thread_info_`, an array of
             `thread_max_ = comm_thread_max_ + work_thread_max_ + send_thread_max_` `threadInfo`s
             filled by three loops `for(int32_t i=0; i!=n; ++i)`, one for each kind of thread.

  `chunk_queue_` and `client_queue_` get `queue_size_+1` slots each, and `init` pushes
  `queue_size_` new `clientInfo`s into the first with the blocking `push`, before any thread that
  could pop runs. Each thread loop fills `ptr_trd[i]` (its kind's `timeout` and `buf_size`),
  allocates the buffer, creates the thread and waits for the thread's `flag`; the next loop goes
  on after `ptr_trd+=n`. A thread sets `flag=1` before anything else, so the wait always ends and
  the test `flag==-1` after it never holds. The counts come from the configuration as
  `getFieldInt32` read them, negative ones included, and the loops compare with `!=`:

  * `chunkFill`, `startQueues` -- the queue part of `init`, on the `QQueue` model of
    `Common/Queue.lean`, a push that would wait forever kept as the result `blocked`;
  * `startQueues_builds_pool` -- **the code builds the pool's first state**: the ring buffers of
    the two queues are those of `Pool.init`, from which `Server/Pool.lean` proves its invariants;
  * `startQueues_never_blocks` -- whatever the size and the allocations, no push of `init` waits;
  * `startQueues_rejects_queueSize` -- a negative `queue-size`, or `2^31 - 1`, whose `+1` wraps,
    makes `init` fail;
  * `threadLoop`, `startThreads` -- the thread loops, a write past the end of `thread_info_` kept
    as the result `overrun`;
  * `threadLoop_run` -- a loop ends at its count when the count is not negative and its slots
    fit, and otherwise runs on to the first slot past the array;
  * `startThreads_fills_every_slot` -- with counts that are not negative, each slot is written
    once, by the loop of its kind, with that kind's timeout and buffer size;
  * `startThreads_overruns` -- with one count negative and a total that is not, `init` writes
    `thread_info_[thread_max_]`, one past the end of the array.
-/
import ImageDfs.Server.LoadConfig
import ImageDfs.Server.Pool
import ImageDfs.Common.Queue

namespace ImageDfs

/-! ## 1. The queues -/

/-- What the allocations of the queue part of `init` give: the slots of `chunk_queue_` and of
    `client_queue_` (`none` when `q_new_array` fails in `init`), and the `clientInfo`s that
    `q_new<clientInfo>` or `q_new_array` of one of their two buffers fails to create. -/
structure QueueEnv where
  chunkSlots : Option (Nat → Nat)
  clientSlots : Option (Nat → Nat)
  infoFails : Nat → Bool

/-- How the loop that fills `chunk_queue_` ends. -/
inductive FillEnd where
  | filled (chunk : QQueue Nat)
  | err
  /-- a `push` that finds the queue full: nothing pops while `init` runs, so it waits forever -/
  | blocked

/-- How the queue part of `init` ends. -/
inductive QueueStart where
  | ok (chunk client : QQueue Nat)
  | err
  | blocked

/-- The loop `for(int32_t i=0; i<queue_size_; ++i)` that creates `clientInfo` number `i` and
    pushes it into `chunk_queue_`. -/
def chunkFill (infoFails : Nat → Bool) : List Nat → QQueue Nat → FillEnd
  | [], q => .filled q
  | i :: is, q =>
    if infoFails i then .err
    else match q.call (.push i) with
      | some (_, q') => chunkFill infoFails is q'
      | none => .blocked

/-- `init` from `/* queue */` to `/* client queue */`: both queues get `queue_size_+1` slots. -/
def startQueues (env : QueueEnv) (queueSize : Int32) : QueueStart :=
  let c := (QQueue.new fun _ => 0).init (queueSize + 1) env.chunkSlots
  if c.1 < 0 then .err
  else match chunkFill env.infoFails (List.range queueSize.toNatClampNeg) c.2 with
    | .filled chunk =>
      let d := (QQueue.new fun _ => 0).init (queueSize + 1) env.clientSlots
      if d.1 < 0 then .err else .ok chunk d.2
    | .err => .err
    | .blocked => .blocked

section Queues

open Ring

/-- A queue whose `init` did not fail has a positive size and the slots it was given. -/
theorem QQueue.init_of_nonneg {α : Type} {q : QQueue α} {size : Int32} {alloc : Option (Nat → α)}
    (h : ¬(q.init size alloc).1 < 0) :
    0 < size.toInt ∧ ∃ slots, alloc = some slots ∧ (q.init size alloc).2 = ⟨slots, size, 0, 0⟩ := by
  unfold QQueue.init at h ⊢
  by_cases hs : size ≤ 0
  · rw [if_pos hs] at h
    exact absurd (show (-1 : Int32) < 0 by decide) h
  · rw [if_neg hs]
    rw [if_neg hs] at h
    refine ⟨by rw [Int32.le_iff_toInt_le] at hs; simpa using hs, ?_⟩
    cases alloc with
    | none => exact absurd (show (-2 : Int32) < 0 by decide) h
    | some slots => exact ⟨slots, rfl, rfl⟩

theorem QQueue.init_valid {α : Type} {slots : Nat → α} {size : Int32} (h : 0 < size.toInt) :
    (⟨slots, size, 0, 0⟩ : QQueue α).Valid :=
  ⟨h, by simp, by simpa using h, by simp, by simpa using h⟩

/-- A fresh queue of `size` slots is the empty ring buffer of as many. -/
theorem QQueue.buffer_init {α : Type} {slots : Nat → α} {size : Int32} {N : Nat}
    (h : 0 < size.toInt) (hN : size.toNatClampNeg = N + 1) :
    (⟨slots, size, 0, 0⟩ : QQueue α).buffer (QQueue.init_valid h) =
      Buffer.init (N + 1) (Nat.succ_pos N) slots := by
  simp only [QQueue.buffer, Buffer.init, Buffer.mk.injEq, hN, true_and]
  decide

/-- One turn of the loop, for a `clientInfo` that is created and a queue that is not full. -/
theorem chunkFill_push {infoFails : Nat → Bool} {q : QQueue Nat} (hv : q.Valid) {i : Nat}
    {is : List Nat} (hi : infoFails i = false) (hnf : (q.buffer hv).full = false) :
    chunkFill infoFails (i :: is) q = chunkFill infoFails is (q.put i) := by
  rw [chunkFill, hi, if_neg (by decide), QQueue.call, QQueue.full_buffer hv, hnf, if_neg (by decide)]

/-- **The loop of `init`, from the `k`-th `clientInfo`**: it never waits, and when every
    `clientInfo` is created it leaves the queue holding the ring buffer `fillChunk` builds. -/
theorem chunkFill_range' {infoFails : Nat → Bool} {N : Nat} {b0 : Buffer Nat} (hcap : b0.cap = N + 1)
    (hb0 : b0.toList = []) :
    ∀ (m k : Nat) (q : QQueue Nat) (hv : q.Valid), q.buffer hv = fillChunk k b0 → k + m ≤ N →
      chunkFill infoFails (List.range' k m) q ≠ .blocked ∧
      ((∀ i, infoFails i = false) →
        ∃ q' : QQueue Nat, ∃ hv' : q'.Valid, chunkFill infoFails (List.range' k m) q = .filled q' ∧
          q'.buffer hv' = fillChunk (k + m) b0) := by
  intro m
  -- induction on the `clientInfo`s left to create
  induction m with
  | zero =>
    intro k q hv hb _
    exact ⟨by simp [chunkFill], fun _ => ⟨q, hv, rfl, hb⟩⟩
  | succ m ih =>
    intro k q hv hb hk
    have hnf : (q.buffer hv).full = false := by
      rw [hb]
      exact (fillChunk_toList hcap hb0 k (by omega)).2 (by omega)
    have hput : (q.put k).buffer (QQueue.valid_put hv k) = fillChunk (k + 1) b0 := by
      rw [QQueue.buffer_put hv k, hb, fillChunk]
    obtain ⟨hblock, hfill⟩ := ih (k + 1) (q.put k) (QQueue.valid_put hv k) hput (by omega)
    rw [List.range'_succ]
    cases hi : infoFails k with
    | true => exact ⟨by simp [chunkFill, hi], fun hall => absurd (hall k) (by simp [hi])⟩
    | false =>
      rw [chunkFill_push hv hi hnf, show k + (m + 1) = k + 1 + m by omega]
      exact ⟨hblock, hfill⟩

/-- A size whose `+1` is positive is not negative, and is not `2^31 - 1`, where `+1` wraps. -/
theorem queueSize_of_succ_pos {queueSize : Int32} (h : 0 < (queueSize + 1).toInt) :
    0 ≤ queueSize.toInt ∧ queueSize.toInt < 2 ^ 31 - 1 := by
  have hlo := Int32.le_toInt queueSize
  have hhi := Int32.toInt_lt queueSize
  by_cases hmax : queueSize.toInt = 2 ^ 31 - 1
  · rw [CInt.toInt_add_of_overflow queueSize 1 (by simp; omega)] at h
    simp at h
    omega
  · rw [CInt.toInt_add_of_range queueSize 1 (by simp; omega) (by simp; omega)] at h
    simp at h
    omega

section Fill

variable {queueSize : Int32} (h0 : 0 ≤ queueSize.toInt) (h1 : queueSize.toInt < 2 ^ 31 - 1)
include h0 h1

theorem toInt_queueSize_succ : (queueSize + 1).toInt = queueSize.toInt + 1 :=
  CInt.toInt_add_of_range _ _ (by simp; omega) (by simp; omega)

theorem toNatClampNeg_queueSize_succ :
    (queueSize + 1).toNatClampNeg = queueSize.toNatClampNeg + 1 := by
  rw [CInt.toNatClampNeg_eq, CInt.toNatClampNeg_eq, toInt_queueSize_succ h0 h1]
  omega

/-- **The loop of `init` on the queue it has just made**: no push waits, and with every
    `clientInfo` created the queue is `Pool.init`'s `chunk_queue_`. -/
theorem chunkFill_init (infoFails : Nat → Bool) (slots : Nat → Nat) :
    chunkFill infoFails (List.range queueSize.toNatClampNeg) ⟨slots, queueSize + 1, 0, 0⟩ ≠
        .blocked ∧
      ((∀ i, infoFails i = false) →
        ∃ chunk : QQueue Nat, ∃ hc : chunk.Valid,
          chunkFill infoFails (List.range queueSize.toNatClampNeg) ⟨slots, queueSize + 1, 0, 0⟩ =
            .filled chunk ∧
          chunk.buffer hc = fillChunk queueSize.toNatClampNeg
            (Buffer.init (queueSize.toNatClampNeg + 1) (Nat.succ_pos _) slots)) := by
  have hpos : 0 < (queueSize + 1).toInt := by rw [toInt_queueSize_succ h0 h1]; omega
  have h := @chunkFill_range' infoFails _ _ rfl (Buffer.init_toList _ _ _)
    queueSize.toNatClampNeg 0 ⟨slots, queueSize + 1, 0, 0⟩ (QQueue.init_valid hpos)
    (by rw [QQueue.buffer_init hpos (toNatClampNeg_queueSize_succ h0 h1)]; rfl) (by omega)
  rw [← List.range_eq_range', Nat.zero_add] at h
  exact h

end Fill

end Queues

/-! ## 2. The queues build the pool -/

/-- **`init` builds the pool's first state.** For a `queue-size` that is not negative and below
    `2^31 - 1`, with every allocation succeeding, the queue part of `init` ends with
    `chunk_queue_` holding the `clientInfo`s it created, in order, and `client_queue_` empty:
    as ring buffers, exactly the queues of `Pool.init`, the state from which every run of the
    comm and work threads in `Server/Pool.lean` starts. -/
theorem startQueues_builds_pool (env : QueueEnv) (queueSize : Int32) (nc nw : Nat)
    (slots slots' : Nat → Nat) (h0 : 0 ≤ queueSize.toInt) (h1 : queueSize.toInt < 2 ^ 31 - 1)
    (hchunk : env.chunkSlots = some slots) (hclient : env.clientSlots = some slots')
    (hinfo : ∀ i, env.infoFails i = false) :
    ∃ (chunk client : QQueue Nat) (hc : chunk.Valid) (hl : client.Valid),
      startQueues env queueSize = .ok chunk client ∧
      chunk.buffer hc = (Pool.init queueSize.toNatClampNeg nc nw slots slots').chunk ∧
      client.buffer hl = (Pool.init queueSize.toNatClampNeg nc nw slots slots').client := by
  have hpos : 0 < (queueSize + 1).toInt := by rw [toInt_queueSize_succ h0 h1]; omega
  have hnle : ¬queueSize + 1 ≤ 0 := by
    rw [Int32.le_iff_toInt_le, Int32.toInt_zero]
    omega
  have hinit : ∀ s, (QQueue.new fun _ => 0).init (queueSize + 1) (some s) =
      (0, ⟨s, queueSize + 1, 0, 0⟩) := fun s => by
    rw [QQueue.init, if_neg hnle]
  obtain ⟨chunk, hc, hrun, hbuf⟩ := (chunkFill_init h0 h1 env.infoFails slots).2 hinfo
  refine ⟨chunk, ⟨slots', queueSize + 1, 0, 0⟩, hc, QQueue.init_valid hpos, ?_, hbuf,
    QQueue.buffer_init hpos (toNatClampNeg_queueSize_succ h0 h1)⟩
  dsimp only [startQueues]
  rw [hchunk, hinit, if_neg Int32.lt_irrefl, hrun]
  dsimp only
  rw [hclient, hinit, if_neg Int32.lt_irrefl]

/-- The `queue-size` of `conf/init.cnf`. -/
theorem startQueues_builds_pool_initCnf :
    ∃ (chunk client : QQueue Nat) (hc : chunk.Valid) (hl : client.Valid),
      startQueues ⟨some fun _ => 0, some fun _ => 0, fun _ => false⟩ initCnfServerConfig.queueSize =
        .ok chunk client ∧
      chunk.buffer hc = (Pool.init initCnfServerConfig.queueSize.toNatClampNeg 1 18
        (fun _ => 0) (fun _ => 0)).chunk ∧
      client.buffer hl = (Pool.init initCnfServerConfig.queueSize.toNatClampNeg 1 18
        (fun _ => 0) (fun _ => 0)).client :=
  startQueues_builds_pool _ _ 1 18 _ _ (by decide) (by decide) rfl rfl (fun _ => rfl)

/-- **No push of `init` waits**, whatever `queue-size` and whichever allocations fail: the
    loop that fills `chunk_queue_` runs only on a queue of `queue_size_+1` slots, where its
    `queue_size_` pushes all find room. -/
theorem startQueues_never_blocks (env : QueueEnv) (queueSize : Int32) :
    startQueues env queueSize ≠ .blocked := by
  dsimp only [startQueues]
  by_cases hc : ((QQueue.new fun _ => 0).init (queueSize + 1) env.chunkSlots).1 < 0
  · rw [if_pos hc]
    exact nofun
  · obtain ⟨hpos, slots, -, hq⟩ := QQueue.init_of_nonneg hc
    obtain ⟨h0, h1⟩ := queueSize_of_succ_pos hpos
    rw [if_neg hc, hq]
    -- only the loop could wait, and it does not
    have hblock := (chunkFill_init h0 h1 env.infoFails slots).1
    cases hf : chunkFill env.infoFails (List.range queueSize.toNatClampNeg)
        ⟨slots, queueSize + 1, 0, 0⟩ with
    | filled chunk =>
      dsimp only
      split <;> exact nofun
    | err => exact nofun
    | blocked => exact absurd hf hblock

/-- **A `queue-size` out of range makes `init` fail**, whatever the allocations: a negative one
    gives `chunk_queue_->init` a size that is not positive, and so does `2^31 - 1`, whose `+1`
    wraps to `-2^31`. -/
theorem startQueues_rejects_queueSize (env : QueueEnv) (queueSize : Int32)
    (h : queueSize.toInt < 0 ∨ queueSize.toInt = 2 ^ 31 - 1) :
    startQueues env queueSize = .err := by
  have hc : ((QQueue.new fun _ => 0).init (queueSize + 1) env.chunkSlots).1 < 0 :=
    Classical.byContradiction fun hc => by
      have := queueSize_of_succ_pos (QQueue.init_of_nonneg hc).1
      omega
  dsimp only [startQueues]
  rw [if_pos hc]

/-- `queue-size = 2147483647`. -/
example :
    startQueues ⟨some fun _ => 0, some fun _ => 0, fun _ => false⟩ 2147483647 = .err :=
  startQueues_rejects_queueSize _ _ (.inr (by decide))

/-! ## 3. The thread loops -/

/-- The three kinds of thread, by the function `q_create_thread` starts. -/
inductive ThreadKind where
  | comm
  | work
  | send
  deriving DecidableEq, Repr

/-- What `init` writes into one `threadInfo`: the kind of thread it starts there, `id`,
    `timeout` and `buf_size`. -/
structure ThreadSlot where
  kind : ThreadKind
  id : UInt32
  timeout : Int32
  bufSize : Int32
  deriving DecidableEq, Repr

/-- How the thread loops of `init` end. -/
inductive StartResult where
  /-- every loop ended; the slots written, in order -/
  | ok (slots : List ThreadSlot)
  /-- `return TCP_ERR` -/
  | err
  /-- a write to `thread_info_[index]`, past the end of the array -/
  | overrun (index : Nat)
  /-- `++i` past `INT_MAX` -/
  | overflow
  deriving DecidableEq, Repr

/-- The outside world of the loops: which `q_new_array` of `threadInfo`s and of buffer bytes
    fail, by the `uint32_t` size they get, and which `q_create_thread` fail (for a work thread,
    with `server_init`, which returns `TCP_OK`), by the slot. -/
structure ThreadEnv where
  arrFails : UInt32 → Bool
  bufFails : UInt32 → Bool
  createFails : ThreadKind → Nat → Bool

/-- One loop `for(int32_t i=0; i!=n; ++i)` over the slots after `offset` of an array of `arrLen`:
    `fuel` counts the values `i` can take before `++i` passes `INT_MAX`, `acc` the slots written. -/
def threadLoop (env : ThreadEnv) (kind : ThreadKind) (n timeout bufSize : Int32)
    (arrLen offset : Nat) : Nat → Nat → List ThreadSlot → StartResult
  | 0, _, _ => .overflow
  | fuel + 1, i, acc =>
    if Int32.ofNat i = n then .ok acc
    else if arrLen ≤ offset + i then .overrun (offset + i)
    -- `ptr_buf=q_new_array<char>(buf_size)`, then `q_create_thread`
    else if env.bufFails bufSize.toUInt32 || env.createFails kind (offset + i) then .err
    else
      threadLoop env kind n timeout bufSize arrLen offset fuel (i + 1)
        (acc ++ [⟨kind, UInt32.ofNat i, timeout, bufSize⟩])

/-- The end of `QTcpServer::init` from `/* threads */` on, for the members `c` it loaded. -/
def startThreads (env : ThreadEnv) (c : ServerConfig) : StartResult :=
  let threadMax := c.commThreadMax + c.workThreadMax + c.sendThreadMax
  if env.arrFails threadMax.toUInt32 then .err
  else
    let len := threadMax.toUInt32.toNat
    match threadLoop env .comm c.commThreadMax c.commThreadTimeout c.commBufferSize len 0 (2 ^ 31)
        0 [] with
    | .ok s1 =>
      -- `ptr_trd+=comm_thread_max_`
      match threadLoop env .work c.workThreadMax c.workThreadTimeout c.workBufferSize len
          c.commThreadMax.toNatClampNeg (2 ^ 31) 0 [] with
      | .ok s2 =>
        match threadLoop env .send c.sendThreadMax c.sendThreadTimeout c.sendBufferSize len
            (c.commThreadMax.toNatClampNeg + c.workThreadMax.toNatClampNeg) (2 ^ 31) 0 [] with
        | .ok s3 => .ok (s1 ++ s2 ++ s3)
        | r => r
      | r => r
    | r => r

/-! ## 4. One thread loop -/

/-- The slots a loop writes for `i = start, ..., start + k - 1`. -/
def loopSlots (kind : ThreadKind) (timeout bufSize : Int32) (start k : Nat) : List ThreadSlot :=
  (List.range' start k).map fun j => ⟨kind, UInt32.ofNat j, timeout, bufSize⟩

section Loop

variable {env : ThreadEnv} {kind : ThreadKind} {n timeout bufSize : Int32} {arrLen offset : Nat}

theorem threadLoop_of_eq {fuel i : Nat} {acc : List ThreadSlot} (h : Int32.ofNat i = n) :
    threadLoop env kind n timeout bufSize arrLen offset (fuel + 1) i acc = .ok acc := by
  rw [threadLoop, if_pos h]

theorem threadLoop_of_end {fuel i : Nat} {acc : List ThreadSlot} (h : Int32.ofNat i ≠ n)
    (hend : arrLen ≤ offset + i) :
    threadLoop env kind n timeout bufSize arrLen offset (fuel + 1) i acc = .overrun (offset + i) := by
  rw [threadLoop, if_neg h, if_pos hend]

theorem threadLoop_of_lt {fuel i : Nat} {acc : List ThreadSlot}
    (hbuf : env.bufFails bufSize.toUInt32 = false) (hcreate : ∀ j, env.createFails kind j = false)
    (h : Int32.ofNat i ≠ n) (hlt : offset + i < arrLen) :
    threadLoop env kind n timeout bufSize arrLen offset (fuel + 1) i acc =
      threadLoop env kind n timeout bufSize arrLen offset fuel (i + 1)
        (acc ++ [⟨kind, UInt32.ofNat i, timeout, bufSize⟩]) := by
  rw [threadLoop, if_neg h, if_neg (by omega), hbuf, hcreate, Bool.or_false, if_neg (by decide)]

/-- Below `2^31` the counter meets `n` exactly when `n` is its value. -/
theorem ofNat_eq_iff {i : Nat} (hi : i < 2 ^ 31) : Int32.ofNat i = n ↔ n.toInt = i := by
  rw [← Int32.toInt_inj, Int32.toInt_ofNat_of_lt hi, eq_comm]

theorem loopSlots_succ (start k : Nat) :
    [(⟨kind, UInt32.ofNat start, timeout, bufSize⟩ : ThreadSlot)] ++
      loopSlots kind timeout bufSize (start + 1) k = loopSlots kind timeout bufSize start (k + 1) := by
  simp [loopSlots, List.range'_succ]

/-- A loop that meets its count stops there, with every slot before it written. -/
theorem threadLoop_at_count {fuel i : Nat} {acc : List ThreadSlot} (heq : Int32.ofNat i = n)
    (hi : i < 2 ^ 31) (hfit : offset + i ≤ arrLen) :
    threadLoop env kind n timeout bufSize arrLen offset (fuel + 1) i acc =
      if 0 ≤ n.toInt ∧ i ≤ n.toInt ∧ offset + n.toInt ≤ arrLen then
        .ok (acc ++ loopSlots kind timeout bufSize i (n.toInt.toNat - i))
      else .overrun arrLen := by
  have hn := (ofNat_eq_iff hi).mp heq
  rw [threadLoop_of_eq heq, if_pos (by omega), show n.toInt.toNat - i = 0 by omega, loopSlots,
    List.range'_zero, List.map_nil, List.append_nil]

/-- **What one loop does**, with every buffer and thread created: from `i`, it ends at `n` when
    `n` is not negative, not below `i`, and its slots fit the array; otherwise it runs on to the
    first slot past the end. -/
theorem threadLoop_run (hbuf : env.bufFails bufSize.toUInt32 = false)
    (hcreate : ∀ j, env.createFails kind j = false) (hlen : arrLen < 2 ^ 31) :
    ∀ (k i fuel : Nat) (acc : List ThreadSlot), offset + i + k = arrLen → k < fuel →
      threadLoop env kind n timeout bufSize arrLen offset fuel i acc =
        if 0 ≤ n.toInt ∧ i ≤ n.toInt ∧ offset + n.toInt ≤ arrLen then
          .ok (acc ++ loopSlots kind timeout bufSize i (n.toInt.toNat - i))
        else .overrun arrLen := by
  intro k
  -- induction on the slots left before the end of the array
  induction k with
  | zero =>
    intro i fuel acc hk hfuel
    obtain ⟨fuel, rfl⟩ : ∃ f, fuel = f + 1 := ⟨fuel - 1, by omega⟩
    by_cases heq : Int32.ofNat i = n
    · exact threadLoop_at_count heq (by omega) (by omega)
    · have hn := mt (ofNat_eq_iff (n := n) (by omega)).mpr heq
      rw [threadLoop_of_end heq (by omega), if_neg (by omega), show offset + i = arrLen by omega]
  | succ k ih =>
    intro i fuel acc hk hfuel
    obtain ⟨fuel, rfl⟩ : ∃ f, fuel = f + 1 := ⟨fuel - 1, by omega⟩
    by_cases heq : Int32.ofNat i = n
    · exact threadLoop_at_count heq (by omega) (by omega)
    · have hn := mt (ofNat_eq_iff (n := n) (by omega)).mpr heq
      rw [threadLoop_of_lt hbuf hcreate heq (by omega), ih (i + 1) fuel _ (by omega) (by omega)]
      -- the test at `i + 1` is the one at `i`, since `n` is not `i`
      by_cases hcond : 0 ≤ n.toInt ∧ i ≤ n.toInt ∧ offset + n.toInt ≤ arrLen
      · rw [if_pos (by omega), if_pos hcond, List.append_assoc, loopSlots_succ,
          show n.toInt.toNat - (i + 1) + 1 = n.toInt.toNat - i by omega]
      · rw [if_neg (by omega), if_neg hcond]

/-- A loop from `i = 0` over the slots after `offset`: it writes all its `n` slots when they fit,
    and runs past the array otherwise, a negative `n` included. -/
theorem threadLoop_from_start (hbuf : env.bufFails bufSize.toUInt32 = false)
    (hcreate : ∀ j, env.createFails kind j = false) (hlen : arrLen < 2 ^ 31)
    (hoff : offset ≤ arrLen) :
    threadLoop env kind n timeout bufSize arrLen offset (2 ^ 31) 0 [] =
      if 0 ≤ n.toInt ∧ offset + n.toInt ≤ arrLen then
        .ok (loopSlots kind timeout bufSize 0 n.toNatClampNeg)
      else .overrun arrLen := by
  rw [threadLoop_run hbuf hcreate hlen (arrLen - offset) 0 _ [] (by omega) (by omega)]
  simp only [CInt.toNatClampNeg_eq, Nat.cast_zero, and_self_left, Nat.sub_zero, List.nil_append]

section FromStart

variable (hbuf : env.bufFails bufSize.toUInt32 = false)
  (hcreate : ∀ j, env.createFails kind j = false) (hlen : arrLen < 2 ^ 31)
  (hoff : offset ≤ arrLen)
include hbuf hcreate hlen hoff

theorem threadLoop_start_ok (hn : 0 ≤ n.toInt) (hfit : offset + n.toInt ≤ arrLen) :
    threadLoop env kind n timeout bufSize arrLen offset (2 ^ 31) 0 [] =
      .ok (loopSlots kind timeout bufSize 0 n.toNatClampNeg) := by
  rw [threadLoop_from_start hbuf hcreate hlen hoff, if_pos ⟨hn, hfit⟩]

theorem threadLoop_start_overrun (h : ¬(0 ≤ n.toInt ∧ offset + n.toInt ≤ arrLen)) :
    threadLoop env kind n timeout bufSize arrLen offset (2 ^ 31) 0 [] = .overrun arrLen := by
  rw [threadLoop_from_start hbuf hcreate hlen hoff, if_neg h]

end FromStart

end Loop

/-! ## 5. The three thread loops -/

/-- The slots `init` means to fill: `comm_thread_max_` for the communication threads, then
    `work_thread_max_` for the workers, then `send_thread_max_` for the senders, each numbered
    from 0 within its kind. -/
def plannedSlots (c : ServerConfig) : List ThreadSlot :=
  loopSlots .comm c.commThreadTimeout c.commBufferSize 0 c.commThreadMax.toNatClampNeg ++
    loopSlots .work c.workThreadTimeout c.workBufferSize 0 c.workThreadMax.toNatClampNeg ++
    loopSlots .send c.sendThreadTimeout c.sendBufferSize 0 c.sendThreadMax.toNatClampNeg

/-- The integer total of the three counts, before `int32_t` addition wraps it. -/
def threadTotal (c : ServerConfig) : Int :=
  c.commThreadMax.toInt + c.workThreadMax.toInt + c.sendThreadMax.toInt

section Start

variable {env : ThreadEnv} {c : ServerConfig}

/-- With a total in range, `thread_max_` is the total, and so is the array's length. -/
theorem threadMax_toNat (h0 : 0 ≤ threadTotal c) (h1 : threadTotal c < 2 ^ 31) :
    (c.commThreadMax + c.workThreadMax + c.sendThreadMax).toUInt32.toNat = (threadTotal c).toNat := by
  have hmax : (c.commThreadMax + c.workThreadMax + c.sendThreadMax).toInt = threadTotal c :=
    CInt.toInt_add_add_of_range _ _ _ (by unfold threadTotal at h0; omega) h1
  rw [CInt.toNat_toUInt32_of_nonneg (by omega), hmax]

/-- **`startThreads` as three loops over one array**, each from where the one before ended,
    once `thread_info_` is allocated and every buffer and thread is created. -/
theorem startThreads_eq (harr : env.arrFails (c.commThreadMax + c.workThreadMax +
      c.sendThreadMax).toUInt32 = false)
    (hbuf : ∀ b, env.bufFails b = false) (hcreate : ∀ k j, env.createFails k j = false)
    (h0 : 0 ≤ threadTotal c) (h1 : threadTotal c < 2 ^ 31) :
    startThreads env c =
      if 0 ≤ c.commThreadMax.toInt ∧ 0 ≤ c.workThreadMax.toInt ∧ 0 ≤ c.sendThreadMax.toInt then
        .ok (plannedSlots c)
      else .overrun (threadTotal c).toNat := by
  have hlen := threadMax_toNat h0 h1
  have hl : (threadTotal c).toNat < 2 ^ 31 := by omega
  have hcomm := CInt.toNatClampNeg_eq c.commThreadMax
  have hwork := CInt.toNatClampNeg_eq c.workThreadMax
  unfold threadTotal at h0 h1 hlen hl ⊢
  dsimp only [startThreads]
  rw [if_neg (by rw [harr]; decide), hlen]
  -- each loop either ends at its count, and the next starts there, or runs past the array
  by_cases hc : 0 ≤ c.commThreadMax.toInt ∧
      c.commThreadMax.toInt ≤ c.commThreadMax.toInt + c.workThreadMax.toInt + c.sendThreadMax.toInt
  · rw [threadLoop_start_ok (hbuf _) (hcreate _) hl (Nat.zero_le _) hc.1 (by omega)]
    by_cases hw : 0 ≤ c.workThreadMax.toInt ∧ 0 ≤ c.sendThreadMax.toInt
    · rw [threadLoop_start_ok (hbuf _) (hcreate _) hl (by omega) hw.1 (by omega),
        threadLoop_start_ok (hbuf _) (hcreate _) hl (by omega) hw.2 (by omega),
        if_pos ⟨hc.1, hw⟩]
      rfl
    · by_cases hw' : 0 ≤ c.workThreadMax.toInt ∧ c.commThreadMax.toNatClampNeg +
          c.workThreadMax.toInt ≤ (c.commThreadMax.toInt + c.workThreadMax.toInt +
            c.sendThreadMax.toInt).toNat
      · -- the send count is the negative one
        rw [threadLoop_start_ok (hbuf _) (hcreate _) hl (by omega) hw'.1 hw'.2,
          threadLoop_start_overrun (hbuf _) (hcreate _) hl (by omega) (by omega), if_neg (by omega)]
      · rw [threadLoop_start_overrun (hbuf _) (hcreate _) hl (by omega) hw', if_neg (by omega)]
  · rw [threadLoop_start_overrun (hbuf _) (hcreate _) hl (Nat.zero_le _) (by omega),
      if_neg (by omega)]

theorem plannedSlots_length (c : ServerConfig) :
    (plannedSlots c).length = c.commThreadMax.toNatClampNeg + c.workThreadMax.toNatClampNeg +
      c.sendThreadMax.toNatClampNeg := by
  simp only [plannedSlots, loopSlots, List.length_append, List.length_map, List.length_range']

end Start

/-- The thread counts of `conf/init.cnf` start one communication thread and 18 workers. -/
example : (plannedSlots initCnfServerConfig).map ThreadSlot.kind =
    .comm :: List.replicate 18 .work := by decide

/-- **Every slot of `thread_info_` is filled, once.** With counts that are not negative and a
    total below `2^31`, and every allocation and thread start succeeding, `init` writes exactly
    the `thread_max_` slots of the array: first the communication threads', then the workers',
    then the senders', each with its kind's timeout and buffer size. -/
theorem startThreads_fills_every_slot (env : ThreadEnv) (c : ServerConfig)
    (harr : env.arrFails (c.commThreadMax + c.workThreadMax + c.sendThreadMax).toUInt32 = false)
    (hbuf : ∀ b, env.bufFails b = false) (hcreate : ∀ k j, env.createFails k j = false)
    (hcomm : 0 ≤ c.commThreadMax.toInt) (hwork : 0 ≤ c.workThreadMax.toInt)
    (hsend : 0 ≤ c.sendThreadMax.toInt) (hsum : threadTotal c < 2 ^ 31) :
    startThreads env c = .ok (plannedSlots c) ∧
      (plannedSlots c).length =
        (c.commThreadMax + c.workThreadMax + c.sendThreadMax).toUInt32.toNat := by
  have h0 : 0 ≤ threadTotal c := by unfold threadTotal; omega
  refine ⟨?_, ?_⟩
  · rw [startThreads_eq harr hbuf hcreate h0 hsum, if_pos ⟨hcomm, hwork, hsend⟩]
  · rw [threadMax_toNat h0 hsum, plannedSlots_length, CInt.toNatClampNeg_eq,
      CInt.toNatClampNeg_eq, CInt.toNatClampNeg_eq]
    unfold threadTotal
    omega

/-- The thread counts of `conf/init.cnf`. -/
theorem startThreads_fills_every_slot_initCnf :
    startThreads ⟨fun _ => false, fun _ => false, fun _ _ => false⟩ initCnfServerConfig =
        .ok (plannedSlots initCnfServerConfig) ∧
      (plannedSlots initCnfServerConfig).length = 19 :=
  startThreads_fills_every_slot _ _ rfl (fun _ => rfl) (fun _ _ => rfl) (by decide) (by decide)
    (by decide) (by decide)

/-- **A negative thread count writes past the array.** `getFieldInt32` takes a negative count
    from the configuration as it is, and the loops compare `i!=n`: when one count is negative
    and the total is not, the array has `thread_max_` entries and `init`, every allocation and
    thread start succeeding, writes `thread_info_[thread_max_]`, one past its end. -/
theorem startThreads_overruns (env : ThreadEnv) (c : ServerConfig)
    (harr : env.arrFails (c.commThreadMax + c.workThreadMax + c.sendThreadMax).toUInt32 = false)
    (hbuf : ∀ b, env.bufFails b = false) (hcreate : ∀ k j, env.createFails k j = false)
    (hneg : c.commThreadMax.toInt < 0 ∨ c.workThreadMax.toInt < 0 ∨ c.sendThreadMax.toInt < 0)
    (h0 : 0 ≤ threadTotal c) (h1 : threadTotal c < 2 ^ 31) :
    startThreads env c =
      .overrun (c.commThreadMax + c.workThreadMax + c.sendThreadMax).toUInt32.toNat := by
  rw [startThreads_eq harr hbuf hcreate h0 h1, if_neg (by omega), threadMax_toNat h0 h1]

/-- `comm-thread-max = -1` in `conf/init.cnf`: 17 slots, and a write to the 18th. -/
theorem startThreads_overruns_commMinusOne :
    startThreads ⟨fun _ => false, fun _ => false, fun _ _ => false⟩
        { initCnfServerConfig with commThreadMax := -1 } = .overrun 17 :=
  startThreads_overruns _ _ rfl (fun _ => rfl) (fun _ _ => rfl) (.inl (by decide)) (by decide)
    (by decide)

end ImageDfs
