/-
  File:      ImageDfs/Server/Monitor.lean
  Subject:   THE MONITOR PORT: `QRemoteMonitor::thread_monitor` (qremotemonitor.cc) answers a
             `"PING"` with a packed `serverInfo`, whose error type says whether
             `QTcpServer::get_thread_state` (qtcpsocket.cc), the monitor's `fun_state_`, found a
             busy thread that has run longer than its timeout.

  A thread marks its `threadInfo` busy (`status=1`) and calls `sw.start()` when it takes up a
  request or a file; `get_thread_state` calls `sw.stop()` on every busy slot and counts those
  whose `elapsed_ms()` exceeds the slot's `timeout`. `elapsed_ms` computes the time between the
  two calls in milliseconds as a `long` and casts it to `int32_t`. When the threads set `status`
  and call `start()` is theirs to decide: the model takes the slots as they are at each ping,
  and the time of each `gettimeofday` as a number of microseconds. The system calls of a reply
  (load, processors, disk, memory) are outcomes:

  * `Stopwatch`, `ThreadInfo.overdue`, `getThreadState` -- the stopwatch, the test of one slot
    and the loop over `thread_info_`;
  * `elapsedMs_stop` -- `elapsed_ms` before the cast is within one millisecond of the time since
    `start()`;
  * `getThreadState_eq_zero_iff` -- the count is 0 exactly when no slot is overdue;
  * `ServerInfo`, `monitorServe`, `threadMonitor` -- the reply, one accepted connection, and
    the loop of the monitor thread, which closes every connection it accepts;
  * `MonitorVisit.serve_reports_thread_state` -- **a `"PING"` gets one 53-byte `serverInfo`,
    whose error type and level are `TYPE_OK` and `LEVEL_OK` exactly when no busy thread is past
    its timeout**, and `TYPE_SERVICE` and `LEVEL_A` otherwise;
  * `overdue_bands` -- a busy thread counts when it has run more than its timeout, to the
    millisecond, and stops counting once it has run `2^31` ms, where `elapsed_ms` wraps.
-/
import ImageDfs.Protocol.Socket
import ImageDfs.Lib.CInt

namespace ImageDfs

open LittleEndian

/-! ## 1. The stopwatch -/

/-- `struct timeval`: seconds and microseconds. -/
structure Timeval where
  sec : Int
  usec : Int
  deriving DecidableEq, Repr

/-- What `gettimeofday` fills in `t` microseconds after the epoch. -/
def Timeval.ofMicros (t : Nat) : Timeval := ⟨(t / 1000000 : Nat), (t % 1000000 : Nat)⟩

/-- `QStopwatch` off Windows: the times of its last `start()` and of its last `stop()`. -/
structure Stopwatch where
  tv1 : Timeval
  tv2 : Timeval
  deriving DecidableEq, Repr

/-- `QStopwatch::start()` at `t`. -/
def Stopwatch.start (sw : Stopwatch) (t : Nat) : Stopwatch := { sw with tv1 := .ofMicros t }

/-- `QStopwatch::stop()` at `t`. -/
def Stopwatch.stop (sw : Stopwatch) (t : Nat) : Stopwatch := { sw with tv2 := .ofMicros t }

/-- `QStopwatch::elapsed_ms()`:
    `(int32_t)((tv_2.tv_sec-tv_1.tv_sec)*1000+(tv_2.tv_usec-tv_1.tv_usec)/1000)`, whose `/`
    truncates toward zero. -/
def Stopwatch.elapsedMs (sw : Stopwatch) : Int32 :=
  Int32.ofInt ((sw.tv2.sec - sw.tv1.sec) * 1000 + (sw.tv2.usec - sw.tv1.usec).tdiv 1000)

/-- **`elapsed_ms` measures the time since `start()`**: after a `stop()` at `t2`, the value it
    casts to `int32_t` is within one millisecond of the `t2 - t1` microseconds since a `start()`
    at `t1`, either way, as the microseconds of the two times compare. -/
theorem elapsedMs_stop {sw : Stopwatch} {t1 : Nat} (hsw : sw.tv1 = .ofMicros t1) (t2 : Nat) :
    ∃ e : Int, (sw.stop t2).elapsedMs = Int32.ofInt e ∧
      (t2 : Int) - t1 - 1000 < 1000 * e ∧ 1000 * e < (t2 : Int) - t1 + 1000 := by
  refine ⟨_, rfl, ?_⟩
  have hnear := CInt.mul_tdiv_near (((t2 % 1000000 : Nat) : Int) - (t1 % 1000000 : Nat)) 1000
    (by decide)
  simp only [Stopwatch.stop, hsw, Timeval.ofMicros] at hnear ⊢
  omega

/-! ## 2. `get_thread_state` -/

/-- The members of a `threadInfo` that `get_thread_state` reads: `status` (1 while the thread
    serves), `timeout` and `sw`. -/
structure ThreadInfo where
  status : Int8
  timeout : Int32
  sw : Stopwatch

/-- The test of one slot of `get_thread_state`, its `sw.stop()` made at `now`. -/
def ThreadInfo.overdue (now : Nat) (t : ThreadInfo) : Bool :=
  t.status == 1 && decide (t.timeout < (t.sw.stop now).elapsedMs)

/-- The loop `for(int32_t i=0; i<thread_max_; ++i)` of `get_thread_state` from slot `i`, with
    `timeout_num` at `n`; slot `i` is looked at at `clock i`. -/
def threadStateLoop (clock : Nat → Nat) : Nat → List ThreadInfo → Int32 → Int32
  | _, [], n => n
  | i, t :: ts, n => threadStateLoop clock (i + 1) ts (if t.overdue (clock i) then n + 1 else n)

/-- `QTcpServer::get_thread_state` over `thread_info_`. -/
def getThreadState (clock : Nat → Nat) (threads : List ThreadInfo) : Int32 :=
  threadStateLoop clock 0 threads 0

/-- The number of overdue slots among `ts`, numbered from `i`. -/
def overdueCount (clock : Nat → Nat) (ts : List ThreadInfo) (i : Nat) : Nat :=
  (ts.zipIdx i).countP fun p => p.1.overdue (clock p.2)

section ThreadState

variable {clock : Nat → Nat}

theorem overdueCount_cons (t : ThreadInfo) (ts : List ThreadInfo) (i : Nat) :
    overdueCount clock (t :: ts) i =
      overdueCount clock ts (i + 1) + if t.overdue (clock i) then 1 else 0 := by
  rw [overdueCount, List.zipIdx_cons, List.countP_cons, ← overdueCount]

theorem threadStateLoop_eq :
    ∀ (ts : List ThreadInfo) (i : Nat) (n : Int32),
      threadStateLoop clock i ts n = n + Int32.ofNat (overdueCount clock ts i) := by
  intro ts
  -- induction on the slots left; `timeout_num` carries the count of those before
  induction ts with
  | nil => intro i n; simp [threadStateLoop, overdueCount]
  | cons t ts ih =>
    intro i n
    rw [threadStateLoop, ih, overdueCount_cons]
    by_cases h : t.overdue (clock i)
    · rw [if_pos h, if_pos h, Int32.ofNat_add, Int32.add_assoc, Int32.add_comm 1]
      rfl
    · rw [if_neg h, if_neg h]
      rfl

theorem overdueCount_le (ts : List ThreadInfo) (i : Nat) : overdueCount clock ts i ≤ ts.length :=
  (List.countP_le_length).trans (List.length_zipIdx).le

/-- **`get_thread_state` finds nothing exactly when no slot is overdue**, for an array of fewer
    than `2^31` slots, where `timeout_num` cannot wrap. -/
theorem getThreadState_eq_zero_iff {threads : List ThreadInfo} (hlen : threads.length < 2 ^ 31) :
    getThreadState clock threads = 0 ↔
      ∀ (i : Nat) (hi : i < threads.length), threads[i].overdue (clock i) = false := by
  have hcount := @overdueCount_le clock threads 0
  rw [getThreadState, threadStateLoop_eq, Int32.zero_add, ← Int32.toInt_inj,
    Int32.toInt_ofNat_of_lt (by omega), Int32.toInt_zero, Nat.cast_eq_zero, overdueCount,
    List.countP_eq_zero]
  constructor
  · intro h i hi
    have hmem : (threads[i], i) ∈ threads.zipIdx := List.mem_zipIdx_iff_getElem?.mpr (by simp [hi])
    simpa using h _ hmem
  · rintro h ⟨t, i⟩ hmem
    obtain ⟨hi, hget⟩ := List.getElem?_eq_some_iff.mp (List.mem_zipIdx_iff_getElem?.mp hmem)
    dsimp only at hi hget ⊢
    rw [← hget, h i hi]
    exact Bool.false_ne_true

end ThreadState

/-- **When a busy slot counts.** For a thread that called `sw.start()` at `t1` and a timeout
    that is not negative, `get_thread_state` looking at `now`: does not count it while it has
    run at most `timeout` ms; counts it once it has run `timeout + 1` ms, up to `2^31` ms; and
    from there, where `elapsed_ms` wraps to a negative value, does not count it again until
    `2^32` ms. A thread stuck for 25 days passes for one at work. -/
theorem overdue_bands (t : ThreadInfo) (t1 now : Nat) (hbusy : t.status = 1)
    (hsw : t.sw.tv1 = .ofMicros t1) (hle : t1 ≤ now) (htimeout : 0 ≤ t.timeout.toInt) :
    ((now : Int) - t1 ≤ 1000 * t.timeout.toInt → t.overdue now = false) ∧
    (1000 * (t.timeout.toInt + 1) ≤ (now : Int) - t1 → (now : Int) - t1 + 1000 ≤ 1000 * 2 ^ 31 →
      t.overdue now = true) ∧
    (1000 * 2 ^ 31 + 1000 ≤ (now : Int) - t1 → (now : Int) - t1 + 1000 ≤ 1000 * 2 ^ 32 →
      t.overdue now = false) := by
  obtain ⟨e, he, hlo, hhi⟩ := elapsedMs_stop hsw now
  have htop := Int32.toInt_lt t.timeout
  -- the test, on the integer `e` that `elapsed_ms` casts
  have htest : t.overdue now = decide (t.timeout.toInt < e.bmod (2 ^ 32)) := by
    simp only [ThreadInfo.overdue, hbusy, he, beq_self_eq_true, Bool.true_and,
      Int32.lt_iff_toInt_lt, Int32.toInt_ofInt]
    rfl
  refine ⟨fun hrun => ?_, fun hrun hbound => ?_, fun hrun hbound => ?_⟩
  · rw [htest, CInt.bmod_of_range (by omega) (by omega), if_pos (by omega)]
    exact decide_eq_false (by omega)
  · rw [htest, CInt.bmod_of_range (by omega) (by omega), if_pos (by omega)]
    exact decide_eq_true (by omega)
  · rw [htest, CInt.bmod_of_range (by omega) (by omega), if_neg (by omega)]
    exact decide_eq_false (by omega)

/-- A communication thread with the `comm-thread-timeout` 8000 of `conf/init.cnf`, started at 0
    and looked at after 2 s, 9 s and 25 days. -/
theorem overdue_bands_initCnf :
    (⟨1, 8000, ⟨.ofMicros 0, .ofMicros 0⟩⟩ : ThreadInfo).status = 1 ∧
      (⟨1, 8000, ⟨.ofMicros 0, .ofMicros 0⟩⟩ : ThreadInfo).sw.tv1 = .ofMicros 0 ∧
      (0 : Int) ≤ (8000 : Int32).toInt ∧
      (⟨1, 8000, ⟨.ofMicros 0, .ofMicros 0⟩⟩ : ThreadInfo).overdue 2000000 = false ∧
      (⟨1, 8000, ⟨.ofMicros 0, .ofMicros 0⟩⟩ : ThreadInfo).overdue 9000000 = true ∧
      (⟨1, 8000, ⟨.ofMicros 0, .ofMicros 0⟩⟩ : ThreadInfo).overdue 2160000000000 = false :=
  ⟨rfl, rfl, by decide,
    (overdue_bands _ 0 2000000 rfl rfl (Nat.zero_le _) (by decide)).1 (by decide),
    (overdue_bands _ 0 9000000 rfl rfl (Nat.zero_le _) (by decide)).2.1 (by decide) (by decide),
    (overdue_bands _ 0 2160000000000 rfl rfl (Nat.zero_le _) (by decide)).2.2 (by decide)
      (by decide)⟩

/-! ## 3. The reply -/

/-- `enum errorType`. -/
inductive ErrorType where
  | ok
  | monitor
  | network
  | service
  | other
  deriving DecidableEq, Repr

def ErrorType.toInt32 : ErrorType → Int32
  | .ok => 0
  | .monitor => 1
  | .network => 2
  | .service => 3
  | .other => 4

/-- `enum errorLevel`. -/
inductive ErrorLevel where
  | ok
  | a
  | b
  | c
  | d
  deriving DecidableEq, Repr

def ErrorLevel.toInt32 : ErrorLevel → Int32
  | .ok => 0
  | .a => 1
  | .b => 2
  | .c => 3
  | .d => 4

/-- `QRemoteMonitor::serverInfo`. -/
structure ServerInfo where
  magicMark : UInt32
  length : Int32
  errorType : Int32
  errorLevel : Int32
  loadAverage : UInt32
  processorNum : UInt8
  usedDiskBytes : UInt64
  totalDiskBytes : UInt64
  usedMemBytes : UInt64
  totalMemBytes : UInt64
  deriving DecidableEq, Repr

/-- The bytes of a `serverInfo` under `#pragma pack(1)`, its members in order. -/
def ServerInfo.bytes (s : ServerInfo) : Bytes :=
  u32 s.magicMark ++ i32 s.length ++ i32 s.errorType ++ i32 s.errorLevel ++ u32 s.loadAverage ++
    [s.processorNum] ++ u64 s.usedDiskBytes ++ u64 s.totalDiskBytes ++ u64 s.usedMemBytes ++
    u64 s.totalMemBytes

/-- `sizeof(serverInfo)`. -/
def sizeofServerInfo : Nat := 53

@[simp] theorem ServerInfo.bytes_length (s : ServerInfo) : s.bytes.length = sizeofServerInfo := by
  simp [ServerInfo.bytes, sizeofServerInfo]

/-- `*(uint32_t*)"PING"` and `*(uint32_t*)"PONG"`. -/
def pingMark : UInt32 := getU32 (ascii "PING")
def pongMark : UInt32 := getU32 (ascii "PONG")

/-- What the system calls of a reply give: `q_get_load_avg()`, `q_get_cpu_processors()`, and
    the used and total bytes of `q_get_disk_usage("./", …)` and of `q_get_mem_usage`, `none`
    when the call fails. -/
structure SysReport where
  loadAvg : Int32
  processors : Int32
  disk : Option (UInt64 × UInt64)
  mem : Option (UInt64 × UInt64)

/-- The `serverInfo` of a reply, for the value `state` of `fun_state_`. -/
def serverInfo (state : Int32) (sys : SysReport) (disk mem : UInt64 × UInt64) : ServerInfo where
  magicMark := pongMark
  -- `sizeof(serverInfo)-sizeof(int32_t)`: the length counts itself, not the magic mark
  length := Int32.ofNat (sizeofServerInfo - 4)
  errorType := if state = 0 then ErrorType.ok.toInt32 else ErrorType.service.toInt32
  errorLevel := if state = 0 then ErrorLevel.ok.toInt32 else ErrorLevel.a.toInt32
  loadAverage := sys.loadAvg.toUInt32
  processorNum := UInt8.ofInt sys.processors.toInt
  usedDiskBytes := disk.1
  totalDiskBytes := disk.2
  usedMemBytes := mem.1
  totalMemBytes := mem.2

/-- One turn of the `for(;;)` of `thread_monitor` once `q_accept_socket` gave the connection `c`,
    `q_set_overtime` failing or not: the connection as the turn leaves it. Every `throw` and the
    end of the `try` close it. -/
def monitorServe (overtimeFails : Bool) (state : Int32) (sys : SysReport) (c : Conn) : Conn :=
  if overtimeFails then qCloseSocket c
  else
    -- `cmd` keeps the bytes of an earlier turn, which a read that succeeds overwrites
    let (r, c, cmd) := qRecvbuf c (u32 0) 4
    if r ≠ 0 ∨ getU32 cmd ≠ pingMark then qCloseSocket c
    else match sys.disk, sys.mem with
      | some disk, some mem =>
        qCloseSocket (qSendbuf c (serverInfo state sys disk mem).bytes sizeofServerInfo).2
      | _, _ => qCloseSocket c

/-- What one `q_accept_socket` of the monitor thread gives: the connection, whether
    `q_set_overtime` fails on it, the slots of `thread_info_` as `get_thread_state` finds them
    and the time it looks at each, and the system calls' report. -/
structure MonitorVisit where
  conn : Conn
  overtimeFails : Bool
  clock : Nat → Nat
  threads : List ThreadInfo
  sys : SysReport

/-- The turn of `QTcpServer`'s monitor, whose `fun_state_` is `get_thread_state`. -/
def MonitorVisit.serve (v : MonitorVisit) : Conn :=
  monitorServe v.overtimeFails (getThreadState v.clock v.threads) v.sys v.conn

/-- `QRemoteMonitor::thread_monitor` of `QTcpServer`'s monitor: the connections it accepted, as it
    leaves them; `none` is an `accept` that failed. -/
def threadMonitor : List (Option MonitorVisit) → List Conn
  | [] => []
  | none :: vs => threadMonitor vs
  | some v :: vs => v.serve :: threadMonitor vs

section Serve

variable {state : Int32} {sys : SysReport} {c : Conn}

/-- The `uint32_t` read into `cmd` is `"PING"` exactly when its four bytes are. -/
theorem getU32_eq_pingMark {cmd : Bytes} (hlen : cmd.length = 4) :
    getU32 cmd = pingMark ↔ cmd = ascii "PING" := by
  constructor
  · intro h
    rw [← u32_getU32 hlen, h, pingMark, u32_getU32 (by decide)]
  · rintro rfl
    rfl

/-- **A turn whose overtime is set**, once its four bytes of `cmd` are read: a reply when they
    are `"PING"` and the disk and memory are known, nothing otherwise; closed either way. -/
theorem monitorServe_false :
    monitorServe false state sys c =
      if c.inbox.take 4 = ascii "PING" then
        match sys.disk, sys.mem with
        | some disk, some mem =>
          qCloseSocket { c with
            inbox := c.inbox.drop 4
            outbox := c.outbox ++ (serverInfo state sys disk mem).bytes }
        | _, _ => qCloseSocket { c with inbox := c.inbox.drop 4 }
      else qCloseSocket { c with inbox := c.inbox.drop 4 } := by
  by_cases hlen : 4 ≤ c.inbox.length
  · have hcmd : overwrite (u32 0) (c.inbox.take 4) = c.inbox.take 4 := by
      rw [overwrite, List.length_take, Nat.min_eq_left hlen, List.drop_eq_nil_of_le (by simp),
        List.append_nil]
    rw [monitorServe, if_neg Bool.false_ne_true, qRecvbuf_of_le _ hlen]
    dsimp only
    rw [hcmd]
    by_cases hping : c.inbox.take 4 = ascii "PING"
    · -- the read succeeded on `"PING"`: the system calls decide
      rw [if_pos hping, if_neg (by simp [hping, pingMark])]
      obtain ⟨loadAvg, processors, _ | disk, _ | mem⟩ := sys
      · rfl
      · rfl
      · rfl
      · dsimp only
        rw [qSendbuf_of_le (by simp), List.take_of_length_le (by simp)]
    · have hne := mt (getU32_eq_pingMark (by rw [List.length_take]; omega)).mp hping
      rw [if_neg hping, if_pos (.inr hne)]
  · -- fewer than four bytes came: `q_recvbuf` fails having read them all
    have hshort : c.inbox.take 4 ≠ ascii "PING" := fun h => by
      have := congrArg List.length h
      rw [List.length_take] at this
      exact hlen (by simp [ascii] at this; omega)
    rw [monitorServe, if_neg Bool.false_ne_true, qRecvbuf_of_lt _ (by omega)]
    dsimp only
    rw [if_pos (.inl (by decide)), if_neg hshort, List.drop_eq_nil_of_le (by omega)]

/-- A turn on a connection that sent `"PING"`, with the disk and memory known. -/
theorem monitorServe_ping {disk mem : UInt64 × UInt64} (hin : c.inbox.take 4 = ascii "PING")
    (hdisk : sys.disk = some disk) (hmem : sys.mem = some mem) :
    monitorServe false state sys c =
      qCloseSocket { c with
        inbox := c.inbox.drop 4
        outbox := c.outbox ++ (serverInfo state sys disk mem).bytes } := by
  rw [monitorServe_false, if_pos hin, hdisk, hmem]

/-- **What one turn can do**: close the connection having sent nothing, or, after a `"PING"`,
    with the overtime set and the disk and memory known, send the `serverInfo` and close it. -/
theorem monitorServe_cases (overtimeFails : Bool) :
    (∃ c', monitorServe overtimeFails state sys c = qCloseSocket c' ∧ c'.outbox = c.outbox) ∨
    (overtimeFails = false ∧ c.inbox.take 4 = ascii "PING" ∧ ∃ disk mem,
      sys.disk = some disk ∧ sys.mem = some mem ∧
      monitorServe overtimeFails state sys c =
        qCloseSocket { c with
          inbox := c.inbox.drop 4
          outbox := c.outbox ++ (serverInfo state sys disk mem).bytes }) := by
  cases overtimeFails with
  | true => exact .inl ⟨c, rfl, rfl⟩
  | false =>
    -- the turn that sends nothing leaves the connection with its first four bytes read
    have hnone : monitorServe false state sys c = qCloseSocket { c with inbox := c.inbox.drop 4 } →
        ∃ c', monitorServe false state sys c = qCloseSocket c' ∧ c'.outbox = c.outbox :=
      fun h => ⟨_, h, rfl⟩
    by_cases hping : c.inbox.take 4 = ascii "PING"
    · cases hdisk : sys.disk with
      | some disk =>
        cases hmem : sys.mem with
        | some mem => exact .inr ⟨rfl, hping, disk, mem, rfl, rfl, monitorServe_ping hping hdisk hmem⟩
        | none => exact .inl (hnone (by rw [monitorServe_false, if_pos hping, hdisk, hmem]))
      | none => exact .inl (hnone (by rw [monitorServe_false, if_pos hping, hdisk]))
    · exact .inl (hnone (by rw [monitorServe_false, if_neg hping]))

end Serve

section Run

theorem monitorServe_closed (overtimeFails : Bool) (state : Int32) (sys : SysReport) (c : Conn) :
    (monitorServe overtimeFails state sys c).closed = true := by
  rcases @monitorServe_cases state sys c overtimeFails with
    ⟨c', h, -⟩ | ⟨-, -, disk, mem, -, -, h⟩ <;> rw [h] <;> rfl

/-- **The monitor closes every connection it accepts**, whatever it received. -/
theorem threadMonitor_closed : ∀ (vs : List (Option MonitorVisit)),
    (threadMonitor vs).length = (vs.filterMap id).length ∧ ∀ c ∈ threadMonitor vs, c.closed = true
  | [] => ⟨rfl, nofun⟩
  | none :: vs => threadMonitor_closed vs
  | some v :: vs => by
    obtain ⟨hlen, hclosed⟩ := threadMonitor_closed vs
    refine ⟨by simp [threadMonitor, hlen], fun c hc => ?_⟩
    rcases List.mem_cons.mp hc with rfl | hc
    · exact monitorServe_closed _ _ _ _
    · exact hclosed c hc

/-- **The answer to a `"PING"`.** On a connection that sends `"PING"`, with `q_set_overtime`
    and the disk and memory calls succeeding and fewer than `2^31` threads, the monitor sends
    one `serverInfo` of 53 bytes and closes the connection. The reply carries `"PONG"`, the
    length 49, the load and the processors as `uint32_t` and `uint8_t`, and the disk and memory
    figures; its error type and level are `TYPE_OK` and `LEVEL_OK` exactly when no busy thread
    is past its timeout, and `TYPE_SERVICE` and `LEVEL_A` otherwise. -/
theorem MonitorVisit.serve_reports_thread_state (v : MonitorVisit) (rest : Bytes)
    (disk mem : UInt64 × UInt64) (hover : v.overtimeFails = false)
    (hin : v.conn.inbox = ascii "PING" ++ rest) (hdisk : v.sys.disk = some disk)
    (hmem : v.sys.mem = some mem) (hlen : v.threads.length < 2 ^ 31) :
    ∃ info : ServerInfo,
      v.serve = { v.conn with inbox := rest, outbox := v.conn.outbox ++ info.bytes, closed := true } ∧
      info.bytes.length = sizeofServerInfo ∧ info.magicMark = pongMark ∧ info.length = 49 ∧
      ((info.errorType, info.errorLevel) = (ErrorType.ok.toInt32, ErrorLevel.ok.toInt32) ↔
        ∀ (i : Nat) (hi : i < v.threads.length), v.threads[i].overdue (v.clock i) = false) ∧
      ((info.errorType, info.errorLevel) = (ErrorType.ok.toInt32, ErrorLevel.ok.toInt32) ∨
        (info.errorType, info.errorLevel) = (ErrorType.service.toInt32, ErrorLevel.a.toInt32)) ∧
      info.loadAverage = v.sys.loadAvg.toUInt32 ∧
      info.processorNum = UInt8.ofInt v.sys.processors.toInt ∧
      (info.usedDiskBytes, info.totalDiskBytes) = disk ∧ (info.usedMemBytes, info.totalMemBytes) = mem := by
  have hping : v.conn.inbox.take 4 = ascii "PING" := by
    rw [hin, List.take_append_of_le_length (by decide), List.take_of_length_le (by decide)]
  have hrest : v.conn.inbox.drop 4 = rest := by
    rw [hin, List.drop_append_of_le_length (by decide), List.drop_of_length_le (by decide),
      List.nil_append]
  -- the pair is the one of `TYPE_OK` exactly when `get_thread_state` returned 0
  have hpair : ((serverInfo (getThreadState v.clock v.threads) v.sys disk mem).errorType,
      (serverInfo (getThreadState v.clock v.threads) v.sys disk mem).errorLevel) =
      if getThreadState v.clock v.threads = 0 then (ErrorType.ok.toInt32, ErrorLevel.ok.toInt32)
      else (ErrorType.service.toInt32, ErrorLevel.a.toInt32) := by
    simp only [serverInfo]
    split <;> rfl
  refine ⟨serverInfo (getThreadState v.clock v.threads) v.sys disk mem, ?_,
    ServerInfo.bytes_length _, rfl, rfl, ?_, ?_, rfl, rfl, rfl, rfl⟩
  · rw [MonitorVisit.serve, hover, monitorServe_ping hping hdisk hmem, hrest]
    rfl
  · rw [hpair, ← getThreadState_eq_zero_iff hlen]
    split
    · exact iff_of_true rfl ‹_›
    · exact iff_of_false (by decide) ‹_›
  · rw [hpair]
    split
    · exact .inl rfl
    · exact .inr rfl

/-- A `"PING"` while the one thread of the table has been busy 4 s against a timeout of 3 s. -/
theorem MonitorVisit.serve_reports_thread_state_busy :
    ∃ info : ServerInfo,
      (MonitorVisit.mk ⟨ascii "PING", [], fun _ _ => 4, fun _ _ => 53, false⟩ false
          (fun _ => 4000000) [⟨1, 3000, ⟨.ofMicros 0, .ofMicros 0⟩⟩] ⟨100, 4, some (1, 2), some (3, 4)⟩).serve =
        { inbox := [], outbox := info.bytes, recvGrant := fun _ _ => 4, sendGrant := fun _ _ => 53,
          closed := true } ∧
      info.bytes.length = sizeofServerInfo ∧ info.magicMark = pongMark ∧ info.length = 49 ∧
      ((info.errorType, info.errorLevel) = (ErrorType.ok.toInt32, ErrorLevel.ok.toInt32) ↔
        ∀ (i : Nat) (hi : i < 1),
          ([⟨1, 3000, ⟨.ofMicros 0, .ofMicros 0⟩⟩] : List ThreadInfo)[i].overdue 4000000 = false) ∧
      ((info.errorType, info.errorLevel) = (ErrorType.ok.toInt32, ErrorLevel.ok.toInt32) ∨
        (info.errorType, info.errorLevel) = (ErrorType.service.toInt32, ErrorLevel.a.toInt32)) ∧
      info.loadAverage = 100 ∧ info.processorNum = 4 ∧
      (info.usedDiskBytes, info.totalDiskBytes) = (1, 2) ∧ (info.usedMemBytes, info.totalMemBytes) = (3, 4) :=
  MonitorVisit.serve_reports_thread_state _ [] (1, 2) (3, 4) rfl rfl rfl rfl (by decide)

end Run

end ImageDfs
