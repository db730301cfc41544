/-
  File:      ImageDfs/Server/Process.lean
  Subject:   `IDFSServer::server_header` and `IDFSServer::server_process` (idfsserver.cc): the
             frame header check and the request-body decoder that calls `server_main`.

  `server_process` calls the virtual `server_main`; the model takes it as an argument `main`
  (any world `σ` it changes), so what is proved here holds for every `server_main` and the
  IDFS one is plugged in by the work thread (`Server/Work.lean`).

  * `serverHeader` -- 12 bytes in, `TCP_ERR_SOCKET_VERSION` or the frame's length;
  * `serverProcess` -- the asserts, the three type checks, the data-length check
    `data_len>0 && ptr_temp+4+data_len==ptr_end`, the call, and the reply body
    (`replyParam`, the result length, the result);
  * `serverProcess_call` -- **on a well-formed body, `server_process` is one call of `main` with
    the operate type, the bytes after the 26-byte prefix and `data_len`**, followed by the reply
    assembly `processReply`;
  * `serverProcess_error`, `serverProcess_ok` -- on a positive length and a positive reply size
    it aborts only where `main` does.
-/
import ImageDfs.Protocol.Frame
import ImageDfs.Protocol.Socket
import Mathlib.Tactic.Set
import Mathlib.Tactic.IntervalCases

namespace ImageDfs

open LittleEndian

/-- **`IDFSServer::server_header`**: the `baseHeader` of the frame; the version must be
    `TCP_HEADER_VERSION`, and the result is the length field as it stands. -/
def serverHeader (headerBuffer : Bytes) (headerLen : Int32) : Except String Int32 := do
  qAssert (headerLen == 12) "header_len must be equal to sizeof(baseHeader)!"
  let baseHeader := BaseHeader.read headerBuffer
  if baseHeader.version ≠ tcpHeaderVersion then pure tcpErrSocketVersion
  else pure baseHeader.length

/-- The reply body after `main` returned `(ret, out)`: `out` at offset 24 (where `main`
    wrote), and for `ret ≥ 0` the length `ret` at offset 20 and the result `24 + ret`. -/
def processReply {σ} (replyBuffer : Bytes) (r : Int32 × Bytes × σ) : Int32 × Bytes × σ :=
  let (ret, out, w') := r
  if ret < 0 then (ret, writeAt replyBuffer 24 out, w')
  else (24 + ret, writeAt (writeAt replyBuffer 24 out) 20 (i32 ret), w')

/-- **`IDFSServer::server_process(request_buffer, request_len, reply_buffer, reply_size)`**.
    The result is `reply_len` or an error code, the reply buffer, and `main`'s world. -/
def serverProcess {σ} (main : UInt16 → Bytes → Int32 → Int32 → σ → Except String (Int32 × Bytes × σ))
    (requestBuffer : Bytes) (requestLen : Int32) (replyBuffer : Bytes) (replySize : Int32) (w : σ) :
    Except String (Int32 × Bytes × σ) := do
  qAssert (decide (0 < requestLen)) "request_len must be larger than 0!"
  qAssert (decide (0 < replySize)) "reply_size must be larger than 0!"
  let commandType := RequestParam.commandTypeOf requestBuffer
  if RequestParam.protocolTypeOf requestBuffer ≠ tcpDefaultProtocolType then
    pure (tcpErrProtocolType, replyBuffer, w)
  -- the source type is compared with TCP_DEFAULT_COMMAND_TYPE, as the source does
  else if RequestParam.sourceTypeOf requestBuffer ≠ tcpDefaultCommandType then
    pure (tcpErrSourceType, replyBuffer, w)
  else if commandType = tcpDefaultOperateType then
    let operateType := getU16 (slice requestBuffer 20 2)
    let dataLen := getI32 (slice requestBuffer 22 4)
    if 0 < dataLen ∧ 26 + dataLen.toInt = requestLen.toInt then
      -- reply_param->status=0; reply_param->command_type=request_param->command_type
      let replyBuffer1 := writeAt (writeAt replyBuffer 16 (i32 0)) 14 (u16 commandType)
      let r ← main operateType (requestBuffer.drop 26) dataLen (replySize - 24) w
      pure (processReply replyBuffer1 r)
    else pure (tcpErrDataLength, replyBuffer, w)
  else pure (tcpErrCommandType, replyBuffer, w)

/-! ## The header -/

/-- `server_header` with `header_len` = 12 returns: the version error, or the length field. -/
theorem serverHeader_eq (buf : Bytes) :
    serverHeader buf 12 =
      .ok (if (BaseHeader.read buf).version ≠ tcpHeaderVersion then tcpErrSocketVersion
        else (BaseHeader.read buf).length) := by
  by_cases hv : (BaseHeader.read buf).version = tcpHeaderVersion <;> simp [serverHeader, hv]

/-- The only twelve header bytes on which `server_header` answers 0: the version and a zero
    length. -/
theorem serverHeader_eq_zero {buf t : Bytes} (ht : t.length = sizeofBaseHeader)
    (h : serverHeader (overwrite buf t) 12 = .ok 0) :
    t = (BaseHeader.mk tcpHeaderVersion 0).bytes := by
  rw [overwrite, serverHeader_eq, BaseHeader.read_append _ ht.ge] at h
  split at h
  · simp [tcpErrSocketVersion] at h
  · rename_i hv
    simp only [ne_eq, Decidable.not_not] at hv
    simp only [Except.ok.injEq] at h
    rw [← BaseHeader.bytes_read ht, ← hv, ← h]

section Process

variable {σ : Type} (main : UInt16 → Bytes → Int32 → Int32 → σ → Except String (Int32 × Bytes × σ))

/-- The conditions under which `server_process` gets to its call of `main`. -/
structure WellFormedBody (requestBuffer : Bytes) (requestLen : Int32) : Prop where
  protocol : RequestParam.protocolTypeOf requestBuffer = tcpDefaultProtocolType
  source : RequestParam.sourceTypeOf requestBuffer = tcpDefaultCommandType
  command : RequestParam.commandTypeOf requestBuffer = tcpDefaultOperateType
  dataLen_pos : 0 < getI32 (slice requestBuffer 22 4)
  dataLen_eq : 26 + (getI32 (slice requestBuffer 22 4)).toInt = requestLen.toInt

theorem WellFormedBody.requestLen_pos {requestBuffer : Bytes} {requestLen : Int32}
    (h : WellFormedBody requestBuffer requestLen) : 0 < requestLen := by
  have h1 := h.dataLen_eq
  have h2 := Int32.lt_iff_toInt_lt.mp h.dataLen_pos
  rw [Int32.lt_iff_toInt_lt]
  simp only [Int32.toInt_zero] at h2 ⊢
  omega

/-- **`server_process` on a well-formed body is one call of `main`**: with the operate type at
    offset 20, the bytes from offset 26 on, `data_len`, and `reply_size - 24`; its result is
    assembled into the reply by `processReply`. -/
theorem serverProcess_call {requestBuffer : Bytes} {requestLen : Int32} (replyBuffer : Bytes)
    {replySize : Int32} (w : σ) (h : WellFormedBody requestBuffer requestLen)
    (hr : 0 < replySize) :
    serverProcess main requestBuffer requestLen replyBuffer replySize w =
      (main (getU16 (slice requestBuffer 20 2)) (requestBuffer.drop 26)
          (getI32 (slice requestBuffer 22 4)) (replySize - 24) w).map
        (processReply (writeAt (writeAt replyBuffer 16 (i32 0)) 14 (u16 tcpDefaultOperateType))) := by
  have hl : decide (0 < requestLen) = true := decide_eq_true h.requestLen_pos
  have hs : decide (0 < replySize) = true := decide_eq_true hr
  simp only [serverProcess, hl, hs, qAssert_true, h.protocol, h.source, h.command,
    h.dataLen_pos, h.dataLen_eq, ne_eq, not_true_eq_false, if_false, if_true, and_self]
  cases main (getU16 (slice requestBuffer 20 2)) (requestBuffer.drop 26)
    (getI32 (slice requestBuffer 22 4)) (replySize - 24) w <;> rfl

/-- **The reply body `server_process` leaves** after `main` wrote `out`: the reserved bytes as
    they were, the command type, status 0, the result length, the result. -/
theorem replyRegion_take {replyBuffer out : Bytes} (c : UInt16) (ret : Int32)
    (hlen : 24 + out.length ≤ replyBuffer.length) :
    (writeAt (writeAt (writeAt (writeAt replyBuffer 16 (i32 0)) 14 (u16 c)) 24 out) 20
        (i32 ret)).take (24 + out.length) =
      replyBuffer.take 14 ++ u16 c ++ i32 0 ++ i32 ret ++ out := by
  -- the four stores, in the order `server_process` and `main` make them; each keeps the length
  set b1 := writeAt replyBuffer 16 (i32 0) with hb1
  set b2 := writeAt b1 14 (u16 c) with hb2
  set b3 := writeAt b2 24 out with hb3
  have l1 : b1.length = replyBuffer.length := writeAt_length (by simp; omega)
  have l2 : b2.length = replyBuffer.length := by rw [hb2, writeAt_length (by simp; omega), l1]
  have l3 : b3.length = replyBuffer.length := by rw [hb3, writeAt_length (by rw [l2]; omega), l2]
  -- the prefix, field by field
  rw [show 24 + out.length = 14 + 2 + 4 + 4 + out.length by omega, take_add_slice, take_add_slice,
    take_add_slice, take_add_slice, ← slice_zero]
  have s0 : slice (writeAt b3 20 (i32 ret)) 0 14 = replyBuffer.take 14 := by
    rw [slice_writeAt_of_le (by omega) (by omega), hb3, slice_writeAt_of_le (by omega) (by omega),
      hb2, slice_writeAt_of_le (by omega) (by omega), hb1,
      slice_writeAt_of_le (by omega) (by omega), slice_zero]
  have s1 : slice (writeAt b3 20 (i32 ret)) 14 2 = u16 c := by
    rw [slice_writeAt_of_le (by omega) (by omega), hb3, slice_writeAt_of_le (by omega) (by omega)]
    exact slice_writeAt_self (by omega)
  have s2 : slice (writeAt b3 20 (i32 ret)) 16 4 = i32 0 := by
    rw [slice_writeAt_of_le (by omega) (by omega), hb3, slice_writeAt_of_le (by omega) (by omega),
      hb2, slice_writeAt_of_ge (by simp) (by omega)]
    exact slice_writeAt_self (by omega)
  have s3 : slice (writeAt b3 20 (i32 ret)) 20 4 = i32 ret := slice_writeAt_self (by omega)
  have s4 : slice (writeAt b3 20 (i32 ret)) 24 out.length = out := by
    rw [slice_writeAt_of_ge (by simp) (by omega), hb3]
    exact slice_writeAt_self (by omega)
  rw [s0, s1, s2, s3, s4]

theorem replyRegion_length {replyBuffer out : Bytes} (c : UInt16) (ret : Int32)
    (hlen : 24 + out.length ≤ replyBuffer.length) :
    (writeAt (writeAt (writeAt (writeAt replyBuffer 16 (i32 0)) 14 (u16 c)) 24 out) 20
      (i32 ret)).length = replyBuffer.length := by
  have l1 : (writeAt replyBuffer 16 (i32 0)).length = replyBuffer.length :=
    writeAt_length (by simp; omega)
  have l2 : (writeAt (writeAt replyBuffer 16 (i32 0)) 14 (u16 c)).length = replyBuffer.length := by
    rw [writeAt_length (by simp; omega), l1]
  have l3 : (writeAt (writeAt (writeAt replyBuffer 16 (i32 0)) 14 (u16 c)) 24 out).length =
      replyBuffer.length := by
    rw [writeAt_length (by rw [l2]; omega), l2]
  rw [writeAt_length (by rw [l3]; simp; omega), l3]

/-- A request length that is not positive fails the first assert. -/
theorem serverProcess_abort (requestBuffer : Bytes) {requestLen : Int32} (replyBuffer : Bytes)
    (replySize : Int32) (w : σ) (h : ¬ 0 < requestLen) :
    serverProcess main requestBuffer requestLen replyBuffer replySize w =
      .error "request_len must be larger than 0!" := by
  simp [serverProcess, h]

/-- **`server_process` aborts only through its asserts or `main`'s**: with a positive request
    length and reply size, an abort is one of `main` on a positive data length. -/
theorem serverProcess_error (requestBuffer : Bytes) {requestLen : Int32} (replyBuffer : Bytes)
    (replySize : Int32) (w : σ) {m : String} (hl : 0 < requestLen) (hr : 0 < replySize)
    (h : serverProcess main requestBuffer requestLen replyBuffer replySize w = .error m) :
    ∃ t d dl, 0 < dl ∧ main t d dl (replySize - 24) w = .error m := by
  simp only [serverProcess, decide_eq_true hl, decide_eq_true hr, qAssert_true, pure_bind] at h
  split at h
  · cases h
  · split at h
    · cases h
    · split at h
      · split at h
        · -- the call: `data_len > 0` is part of the check that led here
          rename_i hdl
          cases hm : main (getU16 (slice requestBuffer 20 2)) (requestBuffer.drop 26)
              (getI32 (slice requestBuffer 22 4)) (replySize - 24) w with
          | error e =>
            rw [hm, except_error_bind] at h
            cases h
            exact ⟨_, _, _, hdl.1, hm⟩
          | ok r =>
            rw [hm, except_ok_bind] at h
            cases h
        · cases h
      · cases h

/-- **`server_process` aborts only through its asserts**: with a positive request length and
    reply size, it returns whenever `main` returns on a positive data length. -/
theorem serverProcess_ok (requestBuffer : Bytes) {requestLen : Int32} (replyBuffer : Bytes)
    (replySize : Int32) (w : σ)
    (hmain : ∀ t d dl, 0 < dl → ∃ r, main t d dl (replySize - 24) w = .ok r)
    (hl : 0 < requestLen) (hr : 0 < replySize) :
    ∃ r, serverProcess main requestBuffer requestLen replyBuffer replySize w = .ok r := by
  cases h : serverProcess main requestBuffer requestLen replyBuffer replySize w with
  | ok r => exact ⟨r, rfl⟩
  | error m =>
    obtain ⟨t, d, dl, hdl, he⟩ := serverProcess_error main requestBuffer replyBuffer replySize w hl hr h
    obtain ⟨r, hok⟩ := hmain t d dl hdl
    rw [hok] at he
    cases he

/-! ## What decides the answer -/

/-- **A body shorter than the 26-byte prefix never reaches `main`**: the answer is the first type
    check that fails, or `TCP_ERR_DATA_LENGTH`; the fields are read at their offsets whatever
    `request_len` is. -/
theorem serverProcess_short (requestBuffer : Bytes) {requestLen : Int32} (replyBuffer : Bytes)
    {replySize : Int32} (w : σ) (hl : 0 < requestLen) (hshort : requestLen.toInt < 26)
    (hr : 0 < replySize) :
    serverProcess main requestBuffer requestLen replyBuffer replySize w =
      .ok ((if RequestParam.protocolTypeOf requestBuffer ≠ tcpDefaultProtocolType then
          tcpErrProtocolType
        else if RequestParam.sourceTypeOf requestBuffer ≠ tcpDefaultCommandType then
          tcpErrSourceType
        else if RequestParam.commandTypeOf requestBuffer = tcpDefaultOperateType then
          tcpErrDataLength
        else tcpErrCommandType), replyBuffer, w) := by
  have hno : ¬ (0 < getI32 (slice requestBuffer 22 4) ∧
      26 + (getI32 (slice requestBuffer 22 4)).toInt = requestLen.toInt) := by
    rintro ⟨hpos, heq⟩
    have := Int32.lt_iff_toInt_lt.mp hpos
    simp only [Int32.toInt_zero] at this
    omega
  simp only [serverProcess, decide_eq_true hl, decide_eq_true hr, qAssert_true, hno, if_false,
    except_pure]
  split_ifs <;> rfl

/-- **Below 20 bytes the answer depends on bytes past the request**: for every such length there
    are two buffers that agree on the request's bytes and get different error codes. -/
theorem serverProcess_reads_past_request (n : Nat) (hn : 0 < n) (h20 : n < 20)
    (replyBuffer : Bytes) {replySize : Int32} (hr : 0 < replySize) (w : σ) :
    ∃ a b : Bytes, a.take n = b.take n ∧
      (serverProcess main a (Int32.ofNat n) replyBuffer replySize w).map Prod.fst ≠
        (serverProcess main b (Int32.ofNat n) replyBuffer replySize w).map Prod.fst := by
  -- a body whose three type fields are right, and the same body cut at `n` with `0xff` after
  obtain ⟨a, ha⟩ : ∃ a : Bytes, a = [1, 0, 1, 0] ++ List.replicate 14 0 ++ [1, 0, 1, 0, 0, 0, 0, 0] :=
    ⟨_, rfl⟩
  have hlen : (a.take n).length = n := by rw [List.length_take, ha]; simp; omega
  refine ⟨a, a.take n ++ List.replicate (26 - n) 255, (List.take_left' hlen).symm, ?_⟩
  have hint : (Int32.ofNat n).toInt = n := Int32.toInt_ofNat_of_lt (by omega)
  have hpos : 0 < Int32.ofNat n := by
    rw [Int32.lt_iff_toInt_lt, hint]
    simp only [Int32.toInt_zero]
    omega
  rw [serverProcess_short main _ _ w hpos (by omega) hr,
    serverProcess_short main _ _ w hpos (by omega) hr]
  simp only [Except.map, ne_eq, Except.ok.injEq]
  subst ha
  interval_cases n <;> decide

theorem serverProcess_reads_past_request_four :
    ∃ a b : Bytes, a.take 4 = b.take 4 ∧
      (serverProcess (fun (_ : UInt16) (_ : Bytes) (_ : Int32) (_ : Int32) (w : Unit) =>
          Except.ok (0, [], w)) a (Int32.ofNat 4) [] 1 ()).map Prod.fst ≠
        (serverProcess (fun (_ : UInt16) (_ : Bytes) (_ : Int32) (_ : Int32) (w : Unit) =>
          Except.ok (0, [], w)) b (Int32.ofNat 4) [] 1 ()).map Prod.fst :=
  serverProcess_reads_past_request _ 4 (by decide) (by decide) [] (by decide) ()

/-- **From 20 bytes on the request's bytes decide**: for a `main` that reads only `data_len`
    bytes of its data, two buffers that agree on their first `request_len` bytes get the same
    answer -- the same error, or the same call with the same result. -/
theorem serverProcess_prefix
    (hmain : ∀ t d d' dl rs w, d.take dl.toNatClampNeg = d'.take dl.toNatClampNeg →
      main t d dl rs w = main t d' dl rs w)
    {a b : Bytes} {requestLen : Int32} (h20 : 20 ≤ requestLen.toInt)
    (hab : a.take requestLen.toNatClampNeg = b.take requestLen.toNatClampNeg)
    (replyBuffer : Bytes) (replySize : Int32) (w : σ) :
    serverProcess main a requestLen replyBuffer replySize w =
      serverProcess main b requestLen replyBuffer replySize w := by
  have hm := Int32.toNat_toInt requestLen
  have field : ∀ {off k}, off + k ≤ 20 → slice a off k = slice b off k :=
    fun hk => slice_eq_of_take_eq hab (by omega)
  have hp : RequestParam.protocolTypeOf a = RequestParam.protocolTypeOf b :=
    congrArg getU16 (field (by omega))
  have hs : RequestParam.sourceTypeOf a = RequestParam.sourceTypeOf b :=
    congrArg getU16 (field (by omega))
  have hc : RequestParam.commandTypeOf a = RequestParam.commandTypeOf b :=
    congrArg getU16 (field (by omega))
  by_cases hlong : 26 ≤ requestLen.toInt
  · -- the operate type and `data_len` lie inside the request, and so do the data
    have hop : slice a 20 2 = slice b 20 2 := slice_eq_of_take_eq hab (by omega)
    have hdl : slice a 22 4 = slice b 22 4 := slice_eq_of_take_eq hab (by omega)
    simp only [serverProcess, hp, hs, hc, hop, hdl]
    split_ifs with h1 h2 h3 h4 <;> try rfl
    rw [hmain _ (a.drop 26) (b.drop 26) _ _ _ (slice_eq_of_take_eq hab (by
      have := Int32.toNat_toInt (getI32 (slice b 22 4))
      omega))]
  · -- the data-length check fails on both buffers
    have hno : ∀ buf : Bytes, ¬ (0 < getI32 (slice buf 22 4) ∧
        26 + (getI32 (slice buf 22 4)).toInt = requestLen.toInt) := by
      rintro buf ⟨hpos, heq⟩
      have := Int32.lt_iff_toInt_lt.mp hpos
      simp only [Int32.toInt_zero] at this
      omega
    simp only [serverProcess, hp, hs, hc, hno, if_false]

end Process

end ImageDfs
