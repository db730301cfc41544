/-
  File:      ImageDfs/Server/Pool.lean
  Subject:   THE CONNECTION POOL OF QTcpServer: the `clientInfo`s `init` creates, the two `QQueue`s
             that hand them around, `client_trigger_`, and the comm and work threads, over every
             interleaving of their steps.

  `init` creates `queue_size_` `clientInfo`s (numbered here in the order it creates them) and
  pushes them into `chunk_queue_`, a `QQueue` of `queue_size_ + 1` slots. A comm thread pops one,
  accepts a connection into it and pushes it into `client_queue_`, of as many slots, then signals
  `client_trigger_`; when `q_accept_socket` or `q_set_overtime` throws, it pushes the `clientInfo`
  back into `chunk_queue_`. A work thread waits on the trigger, then pops `client_queue_` until it
  is empty, serving each connection and pushing its `clientInfo` back. With `__multi_thread` (the
  build's flags) each `QQueue` operation runs under the queue's mutex and each `QTrigger`
  operation under the trigger's, so each is one step of `PoolStep`; a blocking `push` or `pop`
  is a step that waits for its guard.

  * `fillChunk`, `fillChunk_toList` -- the loop of `init`: every push finds `chunk_queue_` not
    full, and the queue ends up holding every `clientInfo`, in order;
  * `Pool.places`, `PoolInv`, `poolInv_step` -- **each `clientInfo` is in exactly one place**: the
    two queues and what the threads hold add up to the `clientInfo`s `init` created;
  * `PoolInv.comm_not_full`, `PoolInv.work_not_full` -- so a comm or work thread that holds a
    `clientInfo` finds both queues not full when it pushes;
  * `Pool.Awake`, `awake_step` -- **no lost wake-up**: while `client_queue_` is not empty, the
    trigger is set, or a work thread is past its `wait`, or a comm thread is about to signal.
-/
import ImageDfs.Lib.Ring
import ImageDfs.Lib.Machine
import Mathlib.Data.Multiset.Range

namespace ImageDfs

open Machine Ring

/-! ## 1. The pool -/

/-- The loop of `QTcpServer::init` that fills `chunk_queue_`: `clientInfo` number `i` is pushed,
    for `i < n`. -/
def fillChunk : Nat → Buffer Nat → Buffer Nat
  | 0, q => q
  | n + 1, q => (fillChunk n q).push n

/-- Where a comm thread is in the loop of `comm_thread`, with the `clientInfo` it holds. -/
inductive CommPc where
  | popping                 -- at `chunk_queue_->pop()`
  | accepting (ci : Nat)    -- at `q_accept_socket`
  | timing (ci : Nat)       -- at `q_set_overtime`
  | queueing (ci : Nat)     -- at `client_queue_->push(client_info)`
  | signaling               -- at `client_trigger_->signal()`
  | returning (ci : Nat)    -- in the `catch`, at `chunk_queue_->push(client_info)`
  deriving DecidableEq

/-- Where a work thread is in the loop of `work_thread`, with the `clientInfo` it holds. -/
inductive WorkPc where
  | waiting                 -- at `client_trigger_->wait()`
  | draining                -- at `client_queue_->pop_non_blocking(client_info)`
  | serving (ci : Nat)      -- in the `try` block or its `catch`
  | returning (ci : Nat)    -- at `chunk_queue_->push(client_info)`
  deriving DecidableEq

/-- The `clientInfo` a comm thread holds. After its push into `client_queue_` the thread still
    has the pointer, but no longer uses it. -/
def CommPc.held : CommPc → Option Nat
  | .accepting ci | .timing ci | .queueing ci | .returning ci => some ci
  | .popping | .signaling => none

def WorkPc.held : WorkPc → Option Nat
  | .serving ci | .returning ci => some ci
  | .waiting | .draining => none

/-- The shared state of the pool, and the comm and work threads. `trigger` is `m_state` of
    `client_trigger_`. -/
structure Pool (nc nw : Nat) where
  chunk : Buffer Nat
  client : Buffer Nat
  trigger : Bool
  comm : Fin nc → CommPc
  work : Fin nw → WorkPc

/-- The pool when `init` has succeeded and the threads start: `chunk_queue_` filled, `client_queue_`
    empty, the trigger as `QTrigger()` makes it (auto-reset, off), every comm thread at its `pop`
    and every work thread at its `wait`. The slots of a new queue hold what `new[]` left there. -/
def Pool.init (N nc nw : Nat) (slots slots' : Nat → Nat) : Pool nc nw where
  chunk := fillChunk N (Buffer.init (N + 1) (Nat.succ_pos N) slots)
  client := Buffer.init (N + 1) (Nat.succ_pos N) slots'
  trigger := false
  comm := fun _ => .popping
  work := fun _ => .waiting

/-- **One step of the pool.** A thread that leaves the loop when `exit_flag_` is set does so at
    the top of the loop, holding nothing: it stays where it is. -/
inductive PoolStep {nc nw : Nat} : Pool nc nw → Pool nc nw → Prop where
  -- `pop()` spins until `chunk_queue_` is not empty
  | commPop (p : Pool nc nw) (t : Fin nc) (hs : p.comm t = .popping)
      (hne : p.chunk.empty = false) :
      PoolStep p { p with chunk := p.chunk.pop,
                          comm := Function.update p.comm t (.accepting p.chunk.head) }
  -- `q_accept_socket` succeeds, or fails and `throw`s
  | commAccept (p : Pool nc nw) (t : Fin nc) (ci : Nat) (ok : Bool)
      (hs : p.comm t = .accepting ci) :
      PoolStep p { p with comm := Function.update p.comm t
                                    (if ok then .timing ci else .returning ci) }
  | commTimeout (p : Pool nc nw) (t : Fin nc) (ci : Nat) (ok : Bool)
      (hs : p.comm t = .timing ci) :
      PoolStep p { p with comm := Function.update p.comm t
                                    (if ok then .queueing ci else .returning ci) }
  -- `push` spins until `client_queue_` is not full
  | commQueue (p : Pool nc nw) (t : Fin nc) (ci : Nat) (hs : p.comm t = .queueing ci)
      (hnf : p.client.full = false) :
      PoolStep p { p with client := p.client.push ci,
                          comm := Function.update p.comm t .signaling }
  | commSignal (p : Pool nc nw) (t : Fin nc) (hs : p.comm t = .signaling) :
      PoolStep p { p with trigger := true, comm := Function.update p.comm t .popping }
  | commReturn (p : Pool nc nw) (t : Fin nc) (ci : Nat) (hs : p.comm t = .returning ci)
      (hnf : p.chunk.full = false) :
      PoolStep p { p with chunk := p.chunk.push ci, comm := Function.update p.comm t .popping }
  -- `wait()` returns once `m_state` is set, and resets it
  | workWait (p : Pool nc nw) (w : Fin nw) (hs : p.work w = .waiting) (ht : p.trigger = true) :
      PoolStep p { p with trigger := false, work := Function.update p.work w .draining }
  | workPop (p : Pool nc nw) (w : Fin nw) (hs : p.work w = .draining)
      (hne : p.client.empty = false) :
      PoolStep p { p with client := p.client.pop,
                          work := Function.update p.work w (.serving p.client.head) }
  | workEmpty (p : Pool nc nw) (w : Fin nw) (hs : p.work w = .draining)
      (he : p.client.empty = true) :
      PoolStep p { p with work := Function.update p.work w .waiting }
  -- the request is served: every exit of the `try`, and the `catch` of any `int32_t`
  | workServe (p : Pool nc nw) (w : Fin nw) (ci : Nat) (hs : p.work w = .serving ci) :
      PoolStep p { p with work := Function.update p.work w (.returning ci) }
  | workReturn (p : Pool nc nw) (w : Fin nw) (ci : Nat) (hs : p.work w = .returning ci)
      (hnf : p.chunk.full = false) :
      PoolStep p { p with chunk := p.chunk.push ci, work := Function.update p.work w .draining }

/-! ## 2. The loop of `init` -/

theorem fillChunk_cap (n : Nat) (q : Buffer Nat) : (fillChunk n q).cap = q.cap := by
  induction n with
  | zero => rfl
  | succ n ih => exact ih

/-- **The loop of `init`**: from an empty queue of `N + 1` slots, each of the `N` pushes finds
    the queue not full, and the queue then holds `0`, ..., `n - 1`. -/
theorem fillChunk_toList {N : Nat} {q : Buffer Nat} (hcap : q.cap = N + 1) (hq : q.toList = []) :
    ∀ n ≤ N, (fillChunk n q).toList = List.range n ∧ (n < N → (fillChunk n q).full = false) := by
  intro n
  induction n with
  | zero =>
    intro _
    refine ⟨hq, fun hN => Buffer.full_eq_false_of_count_lt ?_⟩
    show q.count + 1 < q.cap
    rw [← Buffer.toList_length, hq, hcap]
    simpa using hN
  | succ n ih =>
    intro hn
    obtain ⟨hl, hf⟩ := ih (Nat.le_of_succ_le hn)
    have hnf := hf (Nat.lt_of_succ_le hn)
    have hl' : (fillChunk (n + 1) q).toList = List.range (n + 1) := by
      rw [fillChunk, Buffer.toList_push hnf, hl, List.range_succ]
    refine ⟨hl', fun hlt => Buffer.full_eq_false_of_count_lt ?_⟩
    rw [← Buffer.toList_length, hl', List.length_range, fillChunk_cap, hcap]
    omega

/-! ## 3. Each `clientInfo` in one place -/

variable {nc nw : Nat}

/-- The `clientInfo`s in `chunk_queue_`, in `client_queue_`, and held by the threads. -/
def Pool.places (p : Pool nc nw) : Multiset Nat :=
  (p.chunk.toList : Multiset Nat) + (p.client.toList : Multiset Nat) +
    held CommPc.held p.comm + held WorkPc.held p.work

/-- The pool's invariant: the two queues keep their `N + 1` slots, and the `clientInfo`s
    `0`, ..., `N - 1` are each in exactly one place. -/
structure PoolInv (N : Nat) (p : Pool nc nw) : Prop where
  chunk_cap : p.chunk.cap = N + 1
  client_cap : p.client.cap = N + 1
  places : p.places = Multiset.range N

theorem poolInv_init (N : Nat) (slots slots' : Nat → Nat) :
    PoolInv N (Pool.init N nc nw slots slots') where
  chunk_cap := fillChunk_cap _ _
  client_cap := rfl
  places := by
    have hl := (fillChunk_toList (rfl : (Buffer.init (N + 1) (Nat.succ_pos N) slots).cap = N + 1)
      (Buffer.init_toList _ _ _) N le_rfl).1
    simp only [Pool.places, Pool.init, hl, Buffer.init_toList]
    have hc : held CommPc.held (fun _ : Fin nc => CommPc.popping) = 0 := by simp [held, CommPc.held]
    have hw : held WorkPc.held (fun _ : Fin nw => WorkPc.waiting) = 0 := by simp [held, WorkPc.held]
    rw [hc, hw]
    simp [Multiset.range]

/-- What the queues hold and what the threads hold together number `N`. -/
theorem PoolInv.card {N : Nat} {p : Pool nc nw} (hi : PoolInv N p) :
    p.chunk.count + p.client.count + Multiset.card (held CommPc.held p.comm) +
      Multiset.card (held WorkPc.held p.work) = N := by
  have h := congrArg Multiset.card hi.places
  simpa [Pool.places] using h

/-- A queue of `N + 1` slots is not full while a thread holds a `clientInfo`. -/
theorem PoolInv.not_full {N : Nat} {p : Pool nc nw} (hi : PoolInv N p)
    (hheld : 0 < Multiset.card (held CommPc.held p.comm) + Multiset.card (held WorkPc.held p.work)) :
    p.chunk.full = false ∧ p.client.full = false := by
  have hc := hi.card
  constructor
  · apply Buffer.full_eq_false_of_count_lt
    rw [hi.chunk_cap]
    omega
  · apply Buffer.full_eq_false_of_count_lt
    rw [hi.client_cap]
    omega

theorem PoolInv.comm_not_full {N : Nat} {p : Pool nc nw} (hi : PoolInv N p) {t : Fin nc} {ci : Nat}
    (ht : (p.comm t).held = some ci) : p.chunk.full = false ∧ p.client.full = false :=
  hi.not_full (Nat.lt_of_lt_of_le (card_held_pos CommPc.held p.comm ht) (Nat.le_add_right _ _))

theorem PoolInv.work_not_full {N : Nat} {p : Pool nc nw} (hi : PoolInv N p) {w : Fin nw} {ci : Nat}
    (hw : (p.work w).held = some ci) : p.chunk.full = false ∧ p.client.full = false :=
  hi.not_full (Nat.lt_of_lt_of_le (card_held_pos WorkPc.held p.work hw) (Nat.le_add_left _ _))

theorem coe_toList_push {q : Buffer Nat} (h : q.full = false) (x : Nat) :
    ((q.push x).toList : Multiset Nat) = (q.toList : Multiset Nat) + {x} := by
  rw [Buffer.toList_push h, ← Multiset.coe_add, Multiset.coe_singleton]

theorem coe_toList_pop {q : Buffer Nat} (h : q.empty = false) :
    (q.toList : Multiset Nat) = {q.head} + (q.pop.toList : Multiset Nat) := by
  rw [Buffer.toList_pop h, ← Multiset.cons_coe, Multiset.singleton_add]

/-- **Every step keeps each `clientInfo` in exactly one place.** Each step moves at most one
    `clientInfo`, between a queue and a thread, and the move takes it out of one and puts it in
    the other. -/
theorem poolInv_step (N : Nat) : Invariant (@PoolStep nc nw) (PoolInv N) := by
  intro p p' hi hstep
  cases hstep with
  | commPop t hs hne =>
    have hh := held_update_take CommPc.held p.comm t (b := .accepting p.chunk.head)
      (by rw [hs]; rfl) rfl
    refine ⟨hi.chunk_cap, hi.client_cap, ?_⟩
    rw [← hi.places]
    simp only [Pool.places, hh, coe_toList_pop hne]
    abel
  | commAccept t ci ok hs =>
    have hh := held_update_keep CommPc.held p.comm t (b := if ok then .timing ci else .returning ci)
      (by rw [hs]; cases ok <;> rfl)
    refine ⟨hi.chunk_cap, hi.client_cap, ?_⟩
    rw [← hi.places]
    simp only [Pool.places, hh]
  | commTimeout t ci ok hs =>
    have hh := held_update_keep CommPc.held p.comm t (b := if ok then .queueing ci else .returning ci)
      (by rw [hs]; cases ok <;> rfl)
    refine ⟨hi.chunk_cap, hi.client_cap, ?_⟩
    rw [← hi.places]
    simp only [Pool.places, hh]
  | commQueue t ci hs hnf =>
    have hh := held_update_give CommPc.held p.comm t (b := .signaling) (by rw [hs]; rfl) rfl
    refine ⟨hi.chunk_cap, hi.client_cap, ?_⟩
    rw [← hi.places]
    simp only [Pool.places, ← hh, coe_toList_push hnf]
    abel
  | commSignal t hs =>
    have hh := held_update_keep CommPc.held p.comm t (b := .popping) (by rw [hs]; rfl)
    refine ⟨hi.chunk_cap, hi.client_cap, ?_⟩
    rw [← hi.places]
    simp only [Pool.places, hh]
  | commReturn t ci hs hnf =>
    have hh := held_update_give CommPc.held p.comm t (b := .popping) (by rw [hs]; rfl) rfl
    refine ⟨hi.chunk_cap, hi.client_cap, ?_⟩
    rw [← hi.places]
    simp only [Pool.places, ← hh, coe_toList_push hnf]
    abel
  | workWait w hs ht =>
    have hh := held_update_keep WorkPc.held p.work w (b := .draining) (by rw [hs]; rfl)
    refine ⟨hi.chunk_cap, hi.client_cap, ?_⟩
    rw [← hi.places]
    simp only [Pool.places, hh]
  | workPop w hs hne =>
    have hh := held_update_take WorkPc.held p.work w (b := .serving p.client.head)
      (by rw [hs]; rfl) rfl
    refine ⟨hi.chunk_cap, hi.client_cap, ?_⟩
    rw [← hi.places]
    simp only [Pool.places, hh, coe_toList_pop hne]
    abel
  | workEmpty w hs he =>
    have hh := held_update_keep WorkPc.held p.work w (b := .waiting) (by rw [hs]; rfl)
    refine ⟨hi.chunk_cap, hi.client_cap, ?_⟩
    rw [← hi.places]
    simp only [Pool.places, hh]
  | workServe w ci hs =>
    have hh := held_update_keep WorkPc.held p.work w (b := .returning ci) (by rw [hs]; rfl)
    refine ⟨hi.chunk_cap, hi.client_cap, ?_⟩
    rw [← hi.places]
    simp only [Pool.places, hh]
  | workReturn w ci hs hnf =>
    have hh := held_update_give WorkPc.held p.work w (b := .draining) (by rw [hs]; rfl) rfl
    refine ⟨hi.chunk_cap, hi.client_cap, ?_⟩
    rw [← hi.places]
    simp only [Pool.places, ← hh, coe_toList_push hnf]
    abel

/-- **Each `clientInfo` in one place, and no push waits on a full queue.** In every run of the
    pool from what `init` leaves, each of the `N` `clientInfo`s is in `chunk_queue_`, in
    `client_queue_` or held by one thread, exactly once; the `N` pushes of `init` find
    `chunk_queue_` not full, and so does every push of a thread. -/
theorem pool_clientInfo_conserved (N nc nw : Nat) (slots slots' : Nat → Nat) :
    (∀ i < N, (fillChunk i (Buffer.init (N + 1) (Nat.succ_pos N) slots)).full = false) ∧
    ∀ p, Relation.ReflTransGen PoolStep (Pool.init N nc nw slots slots') p →
      p.places = Multiset.range N ∧
      (∀ t ci, p.comm t = .queueing ci → p.client.full = false) ∧
      (∀ t ci, p.comm t = .returning ci → p.chunk.full = false) ∧
      ∀ w ci, p.work w = .returning ci → p.chunk.full = false := by
  refine ⟨fun i hi => (fillChunk_toList rfl (Buffer.init_toList _ _ _) i hi.le).2 hi, ?_⟩
  intro p hrun
  have hi : PoolInv N p := (poolInv_step N).run (poolInv_init N slots slots') hrun
  refine ⟨hi.places, ?_, ?_, ?_⟩
  · intro t ci hs
    exact (hi.comm_not_full (by rw [hs]; rfl)).2
  · intro t ci hs
    exact (hi.comm_not_full (by rw [hs]; rfl)).1
  · intro w ci hs
    exact (hi.work_not_full (by rw [hs]; rfl)).1

theorem PoolInv.no_pair {N : Nat} {p : Pool nc nw} (hi : PoolInv N p) {ci : Nat}
    (h : {ci} + {ci} ≤ p.places) : False := by
  have hnd : p.places.Nodup := by
    rw [hi.places]
    exact Multiset.nodup_range N
  exact Multiset.not_nodup_pair ci (Multiset.nodup_of_le (by simpa using h) hnd)

theorem held_le_places (p : Pool nc nw) :
    held CommPc.held p.comm + held WorkPc.held p.work ≤ p.places :=
  Multiset.le_iff_exists_add.mpr ⟨p.chunk.toList + p.client.toList, by unfold Pool.places; abel⟩

theorem held_comm_le_places (p : Pool nc nw) : held CommPc.held p.comm ≤ p.places :=
  (Multiset.le_add_right _ _).trans (held_le_places p)

theorem held_work_le_places (p : Pool nc nw) : held WorkPc.held p.work ≤ p.places :=
  (Multiset.le_add_left _ _).trans (held_le_places p)

/-- **No two threads share a `clientInfo`**, so none uses another's request and reply buffers:
    two comm threads, two work threads, or a comm and a work thread that hold the same one are
    the same thread. -/
theorem pool_threads_share_no_clientInfo (N nc nw : Nat) (slots slots' : Nat → Nat)
    (p : Pool nc nw) (hrun : Relation.ReflTransGen PoolStep (Pool.init N nc nw slots slots') p) :
    (∀ t t' ci, (p.comm t).held = some ci → (p.comm t').held = some ci → t = t') ∧
    (∀ w w' ci, (p.work w).held = some ci → (p.work w').held = some ci → w = w') ∧
    ∀ t w ci, (p.comm t).held = some ci → (p.work w).held ≠ some ci := by
  have hi : PoolInv N p := (poolInv_step N).run (poolInv_init N slots slots') hrun
  refine ⟨?_, ?_, ?_⟩
  · intro t t' ci ht ht'
    by_contra hne
    exact hi.no_pair ((pair_le_held CommPc.held p.comm hne ht ht').trans (held_comm_le_places p))
  · intro w w' ci hw hw'
    by_contra hne
    exact hi.no_pair ((pair_le_held WorkPc.held p.work hne hw hw').trans (held_work_le_places p))
  · intro t w ci ht hw
    have hc : {ci} ≤ held CommPc.held p.comm := by
      simpa [ht] using toList_le_held CommPc.held p.comm t
    have hw' : {ci} ≤ held WorkPc.held p.work := by
      simpa [hw] using toList_le_held WorkPc.held p.work w
    exact hi.no_pair ((add_le_add hc hw').trans (held_le_places p))

/-- Two comm threads past their `pop`: each holds its own `clientInfo`. -/
theorem pool_threads_share_no_clientInfo_two :
    ∃ p : Pool 2 0, Relation.ReflTransGen PoolStep (Pool.init 2 2 0 (fun _ => 0) (fun _ => 0)) p ∧
      (p.comm 0).held = some 0 ∧ (p.comm 1).held = some 1 ∧
      ∀ t t' ci, (p.comm t).held = some ci → (p.comm t').held = some ci → t = t' := by
  have hrun : Relation.ReflTransGen PoolStep (Pool.init 2 2 0 (fun _ => 0) (fun _ => 0)) _ :=
    .tail (.single (.commPop _ 0 rfl (by decide))) (.commPop _ 1 rfl (by decide))
  exact ⟨_, hrun, by decide, by decide,
    (pool_threads_share_no_clientInfo 2 2 0 _ _ _ hrun).1⟩

/-! ## 4. No lost wake-up -/

/-- While `client_queue_` is not empty, `m_state` is set, or a work thread is past its `wait`,
    or a comm thread is between its `push` and its `signal`. -/
def Pool.Awake (p : Pool nc nw) : Prop :=
  p.client.empty = false →
    p.trigger = true ∨ (∃ w, p.work w ≠ .waiting) ∨ ∃ t, p.comm t = .signaling

theorem awake_init (N : Nat) (slots slots' : Nat → Nat) : (Pool.init N nc nw slots slots').Awake := by
  intro hne
  have he : (Buffer.init (N + 1) (Nat.succ_pos N) slots').empty = true := by
    rw [Buffer.empty_iff, ← Buffer.toList_length, Buffer.init_toList, List.length_nil]
  exact absurd he (by simpa [Pool.init] using hne)

/-- A comm thread that was not about to signal moves, and nothing the invariant reads changes. -/
theorem awake_comm_move {p p' : Pool nc nw} (hi : p.Awake) {t : Fin nc} {c : CommPc}
    (hs : p.comm t ≠ .signaling) (hclient : p'.client = p.client) (htrig : p'.trigger = p.trigger)
    (hwork : p'.work = p.work) (hcomm : p'.comm = Function.update p.comm t c) : p'.Awake := by
  intro hne
  rw [hclient] at hne
  rw [htrig, hwork, hcomm]
  rcases hi hne with h | h | h
  · exact .inl h
  · exact .inr (.inl h)
  · exact .inr (.inr (exists_update_of_not (P := fun c => c = .signaling) c hs h))

/-- **Every step keeps a non-empty `client_queue_` awake.** A push is followed by the pushing
    thread's signal; a `wait` that resets `m_state` leaves its thread draining; only a drain that
    finds the queue empty goes back to `wait`. -/
theorem awake_step : Invariant (@PoolStep nc nw) Pool.Awake := by
  intro p p' hi hstep
  cases hstep with
  | commPop t hs hne => exact awake_comm_move hi (by simp [hs]) rfl rfl rfl rfl
  | commAccept t ci ok hs => exact awake_comm_move hi (by simp [hs]) rfl rfl rfl rfl
  | commTimeout t ci ok hs => exact awake_comm_move hi (by simp [hs]) rfl rfl rfl rfl
  | commQueue t ci hs hnf =>
    intro _
    exact .inr (.inr (exists_update_self (P := fun c => c = .signaling) p.comm t rfl))
  | commSignal t hs =>
    intro _
    exact .inl rfl
  | commReturn t ci hs hnf => exact awake_comm_move hi (by simp [hs]) rfl rfl rfl rfl
  | workWait w hs ht =>
    intro _
    exact .inr (.inl (exists_update_self (P := fun c => c ≠ .waiting) p.work w (by simp)))
  | workPop w hs hne =>
    intro _
    exact .inr (.inl (exists_update_self (P := fun c => c ≠ .waiting) p.work w (by simp)))
  | workEmpty w hs he =>
    -- the queue is empty: nothing to keep awake
    intro hne
    exact absurd he (by simpa using hne)
  | workServe w ci hs =>
    intro _
    exact .inr (.inl (exists_update_self (P := fun c => c ≠ .waiting) p.work w (by simp)))
  | workReturn w ci hs hnf =>
    intro _
    exact .inr (.inl (exists_update_self (P := fun c => c ≠ .waiting) p.work w (by simp)))

/-- **No lost wake-up.** No run of the pool from what `init` leaves reaches a state where
    `client_queue_` holds a connection while every work thread waits on `client_trigger_`, its
    `m_state` is off, and no comm thread is about to signal. -/
theorem pool_no_lost_wakeup (N nc nw : Nat) (slots slots' : Nat → Nat) (p : Pool nc nw)
    (hrun : Relation.ReflTransGen PoolStep (Pool.init N nc nw slots slots') p) :
    ¬ (p.client.empty = false ∧ (∀ w, p.work w = .waiting) ∧ p.trigger = false ∧
        ∀ t, p.comm t ≠ .signaling) := by
  rintro ⟨hne, hwait, htrig, hsig⟩
  have hi : p.Awake := awake_step.run (awake_init N slots slots') hrun
  rcases hi hne with h | ⟨w, hw⟩ | ⟨t, ht⟩
  · rw [htrig] at h
    exact Bool.false_ne_true h
  · exact hw (hwait w)
  · exact hsig t ht

/-- A connection queued and not yet signalled: one comm thread has popped, accepted, set the
    timeout and pushed, and is about to signal. -/
theorem pool_no_lost_wakeup_queued :
    ∃ p : Pool 1 1, Relation.ReflTransGen PoolStep (Pool.init 1 1 1 (fun _ => 0) (fun _ => 0)) p ∧
      p.client.empty = false ∧
      ¬ (p.client.empty = false ∧ (∀ w, p.work w = .waiting) ∧ p.trigger = false ∧
        ∀ t, p.comm t ≠ .signaling) := by
  have hrun : Relation.ReflTransGen PoolStep (Pool.init 1 1 1 (fun _ => 0) (fun _ => 0)) _ :=
    .tail (.tail (.tail (.single (.commPop _ 0 rfl (by decide))) (.commAccept _ 0 0 true rfl))
      (.commTimeout _ 0 0 true rfl)) (.commQueue _ 0 0 rfl (by decide))
  exact ⟨_, hrun, by decide, pool_no_lost_wakeup 1 1 1 _ _ _ hrun⟩

end ImageDfs
