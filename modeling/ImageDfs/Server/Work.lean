/-
  File:      ImageDfs/Server/Work.lean
  Subject:   ONE CONNECTION IN `QTcpServer::work_thread` (qtcpsocket.cc): from the header read
             to the reply frame or the error frame, with the IDFS handlers plugged in.

  The inner loop body of `work_thread` serves one `clientInfo`: it reads `header_size_` bytes,
  asks `server_header` for the length, checks it against the request buffer, reads the body,
  calls `server_process` on a reply region 12 bytes into the reply buffer, writes the
  `baseHeader` and sends the frame, and closes the socket. Every `throw` lands in the `catch`,
  which sends a `replyHeader` with the error code as status and closes the socket.

  * `Handlers` -- the two virtual methods the loop calls, and `idfsHandlers`, IDFSServer's;
  * `recvRequest`, `replyRequest`, `workTry`, `workServe` -- the two halves of the `try` block,
    the block, and the whole body of one iteration; a `Q_ASSERT` anywhere below aborts the
    process (the `Except String` error);
  * `errorFrame` -- the `replyHeader` of the `catch`, its reserved bytes being the stack's.
-/
import ImageDfs.Protocol.Socket
import ImageDfs.Server.Main
import ImageDfs.Server.Process

namespace ImageDfs

open LittleEndian

/-! ## 1. The loop body -/

/-- The two methods `work_thread` calls through `ptr_this`. -/
structure Handlers (σ : Type) where
  serverHeader : Bytes → Int32 → Except String Int32
  serverProcess : Bytes → Int32 → Bytes → Int32 → σ → Except String (Int32 × Bytes × σ)

/-- What one iteration works on: the connection and the two buffers of the `clientInfo`, and the
    world the handlers change. -/
structure Slot (σ : Type) where
  conn : Conn
  requestBuffer : Bytes
  replyBuffer : Bytes
  world : σ

/-- The first half of the `try` block: the header, `server_header`, the two length checks and
    the body. `.error e` is a thrown code, `.ok recvLen` the length of the body now at the start
    of the request buffer. `headerSize` and `requestBufferSize` are `header_size_` and the
    `clientInfo`'s `request_buffer_size`. -/
def recvRequest {σ} (hd : Handlers σ) (headerSize requestBufferSize : Int32) (s : Slot σ) :
    Except String (Except Int32 Int32 × Slot σ) := do
  let (r, c, rb) := qRecvbuf s.conn s.requestBuffer headerSize.toNatClampNeg
  let s := { s with conn := c, requestBuffer := rb }
  if r ≠ 0 then return (.error tcpErrSocketRecv, s)
  let recvLen ← hd.serverHeader s.requestBuffer headerSize
  if recvLen < 0 then return (.error tcpErrPacketHeader, s)
  if 0 < recvLen ∧ requestBufferSize < recvLen then return (.error tcpErrPacketLength, s)
  let (r, c, rb) := qRecvbuf s.conn s.requestBuffer recvLen.toNatClampNeg
  let s := { s with conn := c, requestBuffer := rb }
  if r ≠ 0 then return (.error tcpErrSocketRecv, s)
  return (.ok recvLen, s)

/-- The second half of the `try` block: `server_process` on the region 12 bytes into the reply
    buffer, the `baseHeader`, the send of `send_len + 12` bytes (only for `send_len > 0`) and the
    close. `(none, s)` when it ends normally, `(some e, s)` when it throws `e`. -/
def replyRequest {σ} (hd : Handlers σ) (replyBufferSize recvLen : Int32) (s : Slot σ) :
    Except String (Option Int32 × Slot σ) := do
  let (sendLen, region, w) ←
    hd.serverProcess s.requestBuffer recvLen (s.replyBuffer.drop 12) (replyBufferSize - 12) s.world
  let s := { s with replyBuffer := s.replyBuffer.take 12 ++ region, world := w }
  if sendLen < 0 then return (some sendLen, s)
  let s := { s with
    replyBuffer := writeAt s.replyBuffer 0 (BaseHeader.mk tcpHeaderVersion sendLen).bytes }
  if 0 < sendLen then
    let (r, c) := qSendbuf s.conn s.replyBuffer (sendLen.toNatClampNeg + 12)
    let s := { s with conn := c }
    if r ≠ 0 then return (some tcpErrSocketSend, s)
    return (none, { s with conn := qCloseSocket s.conn })
  return (none, { s with conn := qCloseSocket s.conn })

/-- The `try` block of `work_thread` for one `clientInfo`, its two halves in sequence. -/
def workTry {σ} (hd : Handlers σ) (headerSize requestBufferSize replyBufferSize : Int32)
    (s : Slot σ) : Except String (Option Int32 × Slot σ) := do
  let (r, s) ← recvRequest hd headerSize requestBufferSize s
  match r with
  | .error e => pure (some e, s)
  | .ok recvLen => replyRequest hd replyBufferSize recvLen s

/-- The `replyHeader` the `catch` block sends: length 20, command type 1, the error as status;
    its reserved bytes are whatever the stack held. -/
def errorFrame (errcode : Int32) (stack : Fin 14 → UInt8) : ReplyHeader where
  version := tcpHeaderVersion
  length := 20
  reserved := List.ofFn stack
  reserved_length := List.length_ofFn
  commandType := tcpDefaultCommandType
  status := errcode

/-- **One iteration of the inner loop of `work_thread`**: the `try` block, and for a thrown
    code the error frame, sent and the socket closed. -/
def workServe {σ} (hd : Handlers σ) (headerSize requestBufferSize replyBufferSize : Int32)
    (stack : Fin 14 → UInt8) (s : Slot σ) : Except String (Slot σ) := do
  let (err, s) ← workTry hd headerSize requestBufferSize replyBufferSize s
  match err with
  | none => pure s
  | some e =>
    let (_, c) := qSendbuf s.conn (errorFrame e stack).bytes sizeofReplyHeader
    pure { s with conn := qCloseSocket c }

/-! ## 2. What one iteration does, for any handlers -/

section Iteration

variable {σ : Type} (hd : Handlers σ) (headerSize requestBufferSize replyBufferSize : Int32)
  (stack : Fin 14 → UInt8)

/-- A header that does not come in whole is `TCP_ERR_SOCKET_RECV`. -/
theorem recvRequest_short {s : Slot σ} (h : s.conn.inbox.length < headerSize.toNatClampNeg) :
    recvRequest hd headerSize requestBufferSize s =
      .ok (.error tcpErrSocketRecv,
        { s with
          conn := { s.conn with inbox := [] }
          requestBuffer := overwrite s.requestBuffer s.conn.inbox }) := by
  simp [recvRequest, qRecvbuf_of_lt _ h]

/-- A body length that reaches `server_process` is not negative, and is what `server_header`
    answered on the header bytes. -/
theorem recvRequest_ok_ok {recvLen : Int32} {s s1 : Slot σ}
    (h : recvRequest hd headerSize requestBufferSize s = .ok (.ok recvLen, s1)) :
    headerSize.toNatClampNeg ≤ s.conn.inbox.length ∧
      hd.serverHeader (overwrite s.requestBuffer (s.conn.inbox.take headerSize.toNatClampNeg))
        headerSize = .ok recvLen ∧ 0 ≤ recvLen := by
  by_cases hle : headerSize.toNatClampNeg ≤ s.conn.inbox.length
  · refine ⟨hle, ?_⟩
    simp only [recvRequest, qRecvbuf_of_le _ hle] at h
    simp only [ne_eq, not_true_eq_false, if_false, except_pure] at h
    obtain ⟨r, hr, h⟩ := except_bind_eq_ok.mp h
    split at h
    · simp at h
    · rename_i hneg
      split at h
      · simp at h
      · -- the body read either fails (a thrown code) or returns the length
        split at h
        · simp at h
        · simp only [Except.ok.injEq, Prod.mk.injEq] at h
          obtain ⟨rfl, -⟩ := h
          exact ⟨hr, Int32.not_lt.mp hneg⟩
  · simp [recvRequest_short hd headerSize requestBufferSize (Nat.lt_of_not_le hle)] at h

/-- The first half never aborts when `server_header` does not. -/
theorem recvRequest_ne_error (hhd : ∀ b, ∃ r, hd.serverHeader b headerSize = .ok r) (s : Slot σ)
    (m : String) : recvRequest hd headerSize requestBufferSize s ≠ .error m := by
  intro h
  by_cases hle : headerSize.toNatClampNeg ≤ s.conn.inbox.length
  · obtain ⟨r, hr⟩ := hhd (overwrite s.requestBuffer (s.conn.inbox.take headerSize.toNatClampNeg))
    simp only [recvRequest, qRecvbuf_of_le _ hle, ne_eq, not_true_eq_false, if_false, except_pure,
      hr, except_ok_bind] at h
    split at h
    · simp at h
    · split at h
      · simp at h
      · split at h <;> simp at h
  · simp [recvRequest_short hd headerSize requestBufferSize (Nat.lt_of_not_le hle)] at h

/-- The second half aborts only inside `server_process`. -/
theorem replyRequest_error {recvLen : Int32} {s : Slot σ} {m : String}
    (h : replyRequest hd replyBufferSize recvLen s = .error m) :
    hd.serverProcess s.requestBuffer recvLen (s.replyBuffer.drop 12) (replyBufferSize - 12)
      s.world = .error m := by
  rcases except_bind_eq_error.mp h with h | ⟨⟨sendLen, region, w⟩, -, h⟩
  · exact h
  · simp only at h
    split at h
    · simp at h
    · split at h
      · split at h <;> simp at h
      · simp at h

/-- When the second half ends normally, the socket is closed. -/
theorem replyRequest_none_closed {recvLen : Int32} {s s' : Slot σ}
    (h : replyRequest hd replyBufferSize recvLen s = .ok (none, s')) : s'.conn.closed = true := by
  obtain ⟨⟨sendLen, region, w⟩, -, h⟩ := except_bind_eq_ok.mp h
  simp only at h
  split at h
  · simp at h
  · -- with and without the send of the frame
    split at h
    · split at h <;> simp only [except_pure, Except.ok.injEq, Prod.mk.injEq, reduceCtorEq,
        false_and] at h
      obtain ⟨-, rfl⟩ := h
      rfl
    · simp only [except_pure, Except.ok.injEq, Prod.mk.injEq] at h
      obtain ⟨-, rfl⟩ := h
      rfl

/-- **A positive result is sent as one frame**: the `baseHeader` with the result as length,
    then that many bytes of the reply body; the socket is then closed. -/
theorem replyRequest_sent {recvLen sendLen : Int32} {s : Slot σ} {region : Bytes} {w : σ}
    (hp : hd.serverProcess s.requestBuffer recvLen (s.replyBuffer.drop 12) (replyBufferSize - 12)
      s.world = .ok (sendLen, region, w))
    (hpos : 0 < sendLen) (hfit : sendLen.toNatClampNeg ≤ region.length)
    (h12 : 12 ≤ s.replyBuffer.length) :
    ∃ s', replyRequest hd replyBufferSize recvLen s = .ok (none, s') ∧ s'.world = w ∧
      s'.conn = qCloseSocket { s.conn with outbox := s.conn.outbox ++
        (BaseHeader.mk tcpHeaderVersion sendLen).bytes ++ region.take sendLen.toNatClampNeg } := by
  have hnn : ¬ sendLen < 0 := Int32.not_lt.mpr (Int32.le_of_lt hpos)
  -- the `baseHeader` replaces the first twelve bytes, in front of the body
  have hbuf : writeAt (s.replyBuffer.take 12 ++ region) 0
      (BaseHeader.mk tcpHeaderVersion sendLen).bytes =
      (BaseHeader.mk tcpHeaderVersion sendLen).bytes ++ region :=
    writeAt_zero_append (by simp [sizeofBaseHeader]; omega)
  have hlen : sendLen.toNatClampNeg + 12 ≤
      ((BaseHeader.mk tcpHeaderVersion sendLen).bytes ++ region).length := by
    simp [sizeofBaseHeader]; omega
  have htake : ((BaseHeader.mk tcpHeaderVersion sendLen).bytes ++ region).take
      (sendLen.toNatClampNeg + 12) =
      (BaseHeader.mk tcpHeaderVersion sendLen).bytes ++ region.take sendLen.toNatClampNeg := by
    rw [Nat.add_comm, show 12 = (BaseHeader.mk tcpHeaderVersion sendLen).bytes.length by
      simp [sizeofBaseHeader], List.take_length_add_append]
  simp only [replyRequest, hp, except_ok_bind, hnn, if_false, hbuf, hpos, if_true,
    qSendbuf_of_le hlen, htake]
  exact ⟨_, rfl, rfl, by simp [qCloseSocket]⟩

/-- An abort of the `try` block is an abort of one of its halves. -/
theorem workTry_error {s : Slot σ} {m : String}
    (h : workTry hd headerSize requestBufferSize replyBufferSize s = .error m) :
    recvRequest hd headerSize requestBufferSize s = .error m ∨
      ∃ recvLen s1, recvRequest hd headerSize requestBufferSize s = .ok (.ok recvLen, s1) ∧
        replyRequest hd replyBufferSize recvLen s1 = .error m := by
  rcases except_bind_eq_error.mp h with h | ⟨⟨r, s1⟩, hr, h⟩
  · exact .inl h
  · cases r with
    | error e => simp at h
    | ok recvLen => exact .inr ⟨recvLen, s1, hr, h⟩

theorem workTry_none_closed {s s' : Slot σ}
    (h : workTry hd headerSize requestBufferSize replyBufferSize s = .ok (none, s')) :
    s'.conn.closed = true := by
  obtain ⟨⟨r, s1⟩, -, h⟩ := except_bind_eq_ok.mp h
  cases r with
  | error e => simp at h
  | ok recvLen => exact replyRequest_none_closed hd replyBufferSize h

/-- The `catch` block does not abort: an abort of an iteration is one of its `try` block. -/
theorem workServe_error {s : Slot σ} {m : String}
    (h : workServe hd headerSize requestBufferSize replyBufferSize stack s = .error m) :
    workTry hd headerSize requestBufferSize replyBufferSize s = .error m := by
  rcases except_bind_eq_error.mp h with h | ⟨⟨err, s1⟩, -, h⟩
  · exact h
  · cases err <;> simp at h

/-- **Every iteration that does not abort closes the socket**, on the normal path and after
    the error frame. -/
theorem workServe_closed {s s' : Slot σ}
    (h : workServe hd headerSize requestBufferSize replyBufferSize stack s = .ok s') :
    s'.conn.closed = true := by
  obtain ⟨⟨err, s1⟩, htry, h⟩ := except_bind_eq_ok.mp h
  cases err with
  | none =>
    simp only [except_pure, Except.ok.injEq] at h
    subst h
    exact workTry_none_closed hd headerSize requestBufferSize replyBufferSize htry
  | some e =>
    simp only [except_pure, Except.ok.injEq] at h
    subst h
    rfl

end Iteration

/-! ## 3. The IDFS handlers -/

/-- `IDFSServer::server_main` as the `main` that `server_process` calls. -/
def idfsMain (env : Env) (cfg : IdfsConfig) (o : Outcomes) :
    UInt16 → Bytes → Int32 → Int32 → Store → Except String (Int32 × Bytes × Store) :=
  fun type data dataLen outSize st =>
    (serverMain env cfg o type data dataLen outSize st).map (fun r => (r.ret, r.out, r.store))

/-- The handlers of an `IDFSServer`. -/
def idfsHandlers (env : Env) (cfg : IdfsConfig) (o : Outcomes) : Handlers Store where
  serverHeader := serverHeader
  serverProcess := serverProcess (idfsMain env cfg o)

/-- With a positive data length and output size, `server_main`'s one abort is the allocation
    of the download buffer. -/
theorem idfsMain_error (env : Env) (cfg : IdfsConfig) (o : Outcomes) (type : UInt16) (data : Bytes)
    {dataLen outSize : Int32} (st : Store) (hd : 0 < dataLen) (ho : 0 < outSize) {m : String}
    (h : idfsMain env cfg o type data dataLen outSize st = .error m) :
    o.imgAllocFails = true ∧ m = "ptr_img!=NULL" := by
  cases hs : serverMain env cfg o type data dataLen outSize st with
  | error e =>
    simp only [idfsMain, hs, Except.map, Except.error.injEq] at h
    subst h
    exact serverMain_error env cfg o type data st hd ho hs
  | ok r => simp only [idfsMain, hs, Except.map, reduceCtorEq] at h

/-- `server_main` reads `data_len` bytes of its data and no more. -/
theorem idfsMain_data (env : Env) (cfg : IdfsConfig) (o : Outcomes) (type : UInt16) {d d' : Bytes}
    {dataLen : Int32} (outSize : Int32) (st : Store)
    (h : d.take dataLen.toNatClampNeg = d'.take dataLen.toNatClampNeg) :
    idfsMain env cfg o type d dataLen outSize st = idfsMain env cfg o type d' dataLen outSize st := by
  simp only [idfsMain, serverMain, h]

/-- **A whole frame is received**: a `baseHeader` with the version and a length the two checks
    accept, followed by that many bytes, puts the body at the start of the request buffer. -/
theorem recvRequest_frame (env : Env) (cfg : IdfsConfig) (o : Outcomes) (requestBufferSize : Int32)
    (s : Slot Store) {len : Int32} {body rest : Bytes}
    (hin : s.conn.inbox = (BaseHeader.mk tcpHeaderVersion len).bytes ++ body ++ rest)
    (hlen : body.length = len.toNatClampNeg) (hnn : 0 ≤ len)
    (hfit : ¬ (0 < len ∧ requestBufferSize < len)) :
    recvRequest (idfsHandlers env cfg o) tcpDefaultHeaderSize requestBufferSize s =
      .ok (.ok len,
        { s with
          conn := { s.conn with inbox := rest }
          requestBuffer :=
            overwrite (overwrite s.requestBuffer (BaseHeader.mk tcpHeaderVersion len).bytes) body }) := by
  have h12 : tcpDefaultHeaderSize.toNatClampNeg = (BaseHeader.mk tcpHeaderVersion len).bytes.length :=
    by simp [sizeofBaseHeader]; decide
  have hle : tcpDefaultHeaderSize.toNatClampNeg ≤ s.conn.inbox.length := by
    rw [hin, h12, List.length_append, List.length_append]; omega
  have htake : s.conn.inbox.take tcpDefaultHeaderSize.toNatClampNeg =
      (BaseHeader.mk tcpHeaderVersion len).bytes := by
    rw [hin, h12, List.append_assoc]; exact List.take_left
  have hdrop : s.conn.inbox.drop tcpDefaultHeaderSize.toNatClampNeg = body ++ rest := by
    rw [hin, h12, List.append_assoc]; exact List.drop_left
  -- `server_header` answers the length field
  have hhd : serverHeader (overwrite s.requestBuffer (BaseHeader.mk tcpHeaderVersion len).bytes)
      tcpDefaultHeaderSize = .ok len := by
    rw [overwrite, show tcpDefaultHeaderSize = 12 from rfl, serverHeader_eq, BaseHeader.read_bytes]
    simp
  -- the body comes in whole
  have hle2 : len.toNatClampNeg ≤ ({ s.conn with inbox := body ++ rest } : Conn).inbox.length := by
    simp [hlen]
  have htake2 : (body ++ rest).take len.toNatClampNeg = body := by rw [← hlen]; exact List.take_left
  have hdrop2 : (body ++ rest).drop len.toNatClampNeg = rest := by rw [← hlen]; exact List.drop_left
  simp only [recvRequest, qRecvbuf_of_le _ hle, htake, hdrop, idfsHandlers, hhd, except_ok_bind,
    ne_eq, not_true_eq_false, if_false, Int32.not_lt.mpr hnn, hfit, qRecvbuf_of_le _ hle2, htake2,
    hdrop2, except_pure]

/-! ## 4. A zero-length frame -/

/-- **A frame whose `baseHeader` carries the version and length 0 aborts the server**: the
    empty body is "received", and `server_process`'s `Q_ASSERT(request_len>0)` fails. -/
theorem workServe_zeroLength_aborts (env : Env) (cfg : IdfsConfig) (o : Outcomes)
    (requestBufferSize replyBufferSize : Int32) (stack : Fin 14 → UInt8) (s : Slot Store)
    (rest : Bytes) :
    workServe (idfsHandlers env cfg o) tcpDefaultHeaderSize requestBufferSize replyBufferSize stack
        { s with conn := { s.conn with inbox := (BaseHeader.mk tcpHeaderVersion 0).bytes ++ rest } } =
      .error "request_len must be larger than 0!" := by
  have hrecv := recvRequest_frame env cfg o requestBufferSize
    { s with conn := { s.conn with inbox := (BaseHeader.mk tcpHeaderVersion 0).bytes ++ rest } }
    (show _ = (BaseHeader.mk tcpHeaderVersion 0).bytes ++ [] ++ rest by simp) rfl (by decide)
    (fun h => absurd h.1 (by decide))
  rw [workServe, workTry, hrecv]
  simp only [except_ok_bind, replyRequest, idfsHandlers,
    serverProcess_abort _ _ _ _ _ (show ¬ (0 : Int32) < 0 by decide), except_error_bind]

/-- **The zero-length frame and a missing download buffer are the only aborts**: on every
    input, an iteration of the IDFS server either ends normally with the socket closed; or the
    first twelve bytes were the version and a zero length and `Q_ASSERT(request_len>0)`
    aborted; or `q_new_array` found no download buffer and `assert(ptr_img!=NULL)` aborted. -/
theorem workServe_closed_or_zeroLength (env : Env) (cfg : IdfsConfig) (o : Outcomes)
    (stack : Fin 14 → UInt8) (s : Slot Store) :
    (∃ s', workServe (idfsHandlers env cfg o) tcpDefaultHeaderSize tcpDefaultRequestSize
        tcpDefaultReplySize stack s = .ok s' ∧ s'.conn.closed = true) ∨
      (s.conn.inbox.take sizeofBaseHeader = (BaseHeader.mk tcpHeaderVersion 0).bytes ∧
        workServe (idfsHandlers env cfg o) tcpDefaultHeaderSize tcpDefaultRequestSize
          tcpDefaultReplySize stack s = .error "request_len must be larger than 0!") ∨
      (o.imgAllocFails = true ∧
        workServe (idfsHandlers env cfg o) tcpDefaultHeaderSize tcpDefaultRequestSize
          tcpDefaultReplySize stack s = .error "ptr_img!=NULL") := by
  generalize hw : workServe (idfsHandlers env cfg o) tcpDefaultHeaderSize tcpDefaultRequestSize
    tcpDefaultReplySize stack s = res
  cases res with
  | ok s' => exact .inl ⟨s', rfl, workServe_closed _ _ _ _ _ hw⟩
  | error m =>
    right
    rcases workTry_error _ _ _ _ (workServe_error _ _ _ _ _ hw) with hr | ⟨recvLen, s1, hr, hrep⟩
    · -- `server_header` never aborts on `header_size_` = 12
      exact absurd hr (recvRequest_ne_error _ _ _ (fun b => ⟨_, serverHeader_eq b⟩) s m)
    · obtain ⟨hle, hhdr, hnn⟩ := recvRequest_ok_ok _ _ _ hr
      have hproc := replyRequest_error _ _ hrep
      simp only [idfsHandlers] at hproc
      rcases Int32.lt_or_eq_of_le hnn with hpos | h0
      · -- a positive length gets through `server_process` to `server_main`'s allocation
        obtain ⟨t, d, dl, hdl, he⟩ := serverProcess_error _ _ _ _ _ hpos (by decide) hproc
        obtain ⟨halloc, hm⟩ := idfsMain_error env cfg o t d s1.world hdl (by decide) he
        subst hm
        exact .inr ⟨halloc, rfl⟩
      · subst h0
        have h12 : tcpDefaultHeaderSize.toNatClampNeg = sizeofBaseHeader := by decide
        rw [h12] at hle hhdr
        have hm : m = "request_len must be larger than 0!" := by
          rw [serverProcess_abort _ _ _ _ _ (by decide)] at hproc
          cases hproc
          rfl
        subst hm
        exact .inl ⟨serverHeader_eq_zero (by simp [hle]) hhdr, rfl⟩

/-! ## 5. What the request's bytes decide -/

/-- **From 20 bytes on, `IDFSServer::server_process` decides on the request alone**: two request
    buffers that agree on their first `request_len` bytes, whatever an earlier connection left
    after them, get the same answer, the same call of `server_main` and the same store. -/
theorem idfsProcess_request_decides (env : Env) (cfg : IdfsConfig) (o : Outcomes) {a b : Bytes}
    {requestLen : Int32} (h20 : 20 ≤ requestLen.toInt)
    (hab : a.take requestLen.toNatClampNeg = b.take requestLen.toNatClampNeg)
    (replyBuffer : Bytes) (replySize : Int32) (st : Store) :
    serverProcess (idfsMain env cfg o) a requestLen replyBuffer replySize st =
      serverProcess (idfsMain env cfg o) b requestLen replyBuffer replySize st :=
  serverProcess_prefix (idfsMain env cfg o)
    (fun type _ _ _ outSize st h => idfsMain_data env cfg o type outSize st h) h20 hab
    replyBuffer replySize st

theorem idfsProcess_request_decides_stale :
    (20 : Int) ≤ (27 : Int32).toInt ∧
    serverProcess (idfsMain ⟨fun _ => 0, fun _ => [], fun _ => none⟩ ⟨[], []⟩ ⟨false, false, false,
        false, none, none, 0, false, fun _ => 0, fun _ _ _ => ⟨none, [], false, none⟩, fun _ _ => 0⟩)
        ([1, 0, 1, 0] ++ List.replicate 14 0 ++ [1, 0, 0, 0, 1, 0, 0, 0, 7, 5]) 27 [] 100
        ⟨fun _ => none, []⟩ =
      serverProcess (idfsMain ⟨fun _ => 0, fun _ => [], fun _ => none⟩ ⟨[], []⟩ ⟨false, false,
        false, false, none, none, 0, false, fun _ => 0, fun _ _ _ => ⟨none, [], false, none⟩,
        fun _ _ => 0⟩)
        ([1, 0, 1, 0] ++ List.replicate 14 0 ++ [1, 0, 0, 0, 1, 0, 0, 0, 7, 9, 9, 9]) 27 []
        100 ⟨fun _ => none, []⟩ :=
  ⟨by decide, idfsProcess_request_decides _ _ _ (by decide) (by decide) [] 100 _⟩

end ImageDfs
