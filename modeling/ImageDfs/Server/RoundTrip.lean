/-
  File:      ImageDfs/Server/RoundTrip.lean
  Subject:   THE WIRE PROTOCOL END TO END: a request laid out by `QTcpClient::sendRequest` and
             received by the work thread, and a reply assembled by `server_process` and the work
             thread and read by `QTcpClient::getReply`.

  The two sides lay the same bytes out through different structs: the client writes one
  `requestHeader` (32 bytes), the server reads a `baseHeader` and then a `requestParam`; the server
  writes a `replyParam` 12 bytes into its reply buffer, the length after it and the result after
  that, and the client reads them back at 16, 20 and 24 of the body. The lemmas here line the
  offsets up, for every operate type and payload and every result of `server_main`.

  * `requestPacket_plain`, `sendRequest_plain` -- the packet without extension, and that it is
    sent whole;
  * `recvRequest_request`, `requestBody_wellFormed` -- the work thread receives it, and
    `server_process` accepts its body;
  * `replyRequest_reply` -- a non-negative result of `server_main` goes out as one frame;
  * `getReply_reply`, `getReply_errorFrame` -- and the client reads the frame, or the error
    frame, back.
-/
import ImageDfs.Protocol.Client
import ImageDfs.Server.Work

namespace ImageDfs

open LittleEndian

/-! ## 1. The request -/

/-- `packet_len` without extension. -/
theorem packetLen_plain (n : Nat) : packetLen (Int32.ofNat n) false 0 = Int32.ofNat (n + 38) := by
  rw [packetLen, if_neg Bool.false_ne_true, Int32.ofNat_add]
  grind

/-- The reserved bytes `sendRequest` leaves in its `requestHeader`. -/
def freshReserved (fresh : Nat → UInt8) : Bytes := (List.range 14).map (fun i => fresh (16 + i))

theorem freshReserved_length (fresh : Nat → UInt8) : (freshReserved fresh).length = 14 := by
  simp [freshReserved]

/-- The body of a request as the server reads it: the `requestParam` the client's
    `requestHeader` ends with, the operate type, the data length and the data. -/
def requestBody (fresh : Nat → UInt8) (op : UInt16) (payload : Bytes) : Bytes :=
  (RequestParam.mk tcpDefaultProtocolType tcpDefaultSourceType (freshReserved fresh)
      (freshReserved_length fresh) tcpDefaultCommandType).bytes ++
    u16 op ++ i32 (Int32.ofNat payload.length) ++ payload

theorem requestBody_length (fresh : Nat → UInt8) (op : UInt16) (payload : Bytes) :
    (requestBody fresh op payload).length = payload.length + 26 := by
  simp [requestBody, sizeofRequestParam]
  omega

/-- **The packet without extension** is a `baseHeader` with length `n+26`, then the body. -/
theorem requestPacket_plain (op : UInt16) (fresh : Nat → UInt8) {payload : Bytes}
    (hn : payload.length < 2 ^ 31) :
    requestPacket (Client.new.setOperateType op) fresh payload (Int32.ofNat payload.length) none 0 =
      (BaseHeader.mk tcpHeaderVersion (Int32.ofNat (payload.length + 26))).bytes ++
        requestBody fresh op payload := by
  have hlen : packetLen (Int32.ofNat payload.length) false 0 - 12 =
      Int32.ofNat (payload.length + 26) := by
    rw [packetLen_plain, Int32.ofNat_add, Int32.ofNat_add]
    grind
  simp only [requestPacket, Client.setOperateType, Client.new, Option.isSome_none, Bool.false_and,
    hlen, u32_toUInt32, Int32.toNatClampNeg_ofNat_of_lt hn, List.take_length,
    RequestHeader.bytes_split, requestBody, freshReserved, List.append_assoc]

theorem requestPacket_length (op : UInt16) (fresh : Nat → UInt8) {payload : Bytes}
    (hn : payload.length < 2 ^ 31) :
    (requestPacket (Client.new.setOperateType op) fresh payload (Int32.ofNat payload.length) none
      0).length = payload.length + 38 := by
  rw [requestPacket_plain op fresh hn, List.length_append, requestBody_length]
  simp [sizeofBaseHeader]
  omega

/-- **`sendRequest` sends the whole packet** and returns `TCP_OK`, when the socket calls succeed. -/
theorem sendRequest_plain (op : UInt16) (fresh : Nat → UInt8) {payload : Bytes} (c : Conn)
    (hn : payload.length + 38 < 2 ^ 31) :
    sendRequest (Client.new.setOperateType op) fresh none payload (Int32.ofNat payload.length)
        none 0 c =
      (tcpOk,
        { c with
          outbox := c.outbox ++ requestPacket (Client.new.setOperateType op) fresh payload
            (Int32.ofNat payload.length) none 0 }) := by
  have hlen := requestPacket_length op fresh (show payload.length < 2 ^ 31 by omega)
  have hnn : ¬ Int32.ofNat payload.length < 0 := by
    rw [Int32.lt_iff_toInt_lt, Int32.toInt_ofNat_of_lt (by omega)]
    simp
  have hsend : (packetLen (Int32.ofNat payload.length) false 0).toNatClampNeg ≤
      (requestPacket (Client.new.setOperateType op) fresh payload (Int32.ofNat payload.length)
        none 0).length := by
    rw [packetLen_plain, Int32.toNatClampNeg_ofNat_of_lt hn, hlen]
  have htake : (requestPacket (Client.new.setOperateType op) fresh payload
      (Int32.ofNat payload.length) none 0).take
        (packetLen (Int32.ofNat payload.length) false 0).toNatClampNeg =
      requestPacket (Client.new.setOperateType op) fresh payload (Int32.ofNat payload.length)
        none 0 := by
    rw [packetLen_plain, Int32.toNatClampNeg_ofNat_of_lt hn, ← hlen, List.take_length]
  have h00 : ¬ ((0 : Int32) < 0) := by decide
  simp only [sendRequest, hnn, if_false, Option.isSome_none, Bool.false_and,
    qSendbuf_of_le hsend, htake, h00]

/-- **The work thread receives the packet**: `server_header` answers `n+26`, the size check
    passes, and the body lands at the start of the request buffer. -/
theorem recvRequest_request (env : Env) (cfg : IdfsConfig) (o : Outcomes) (fresh : Nat → UInt8)
    (op : UInt16) {payload : Bytes} (s : Slot Store) {rest : Bytes}
    (hn : payload.length + 26 ≤ tcpDefaultRequestSize.toNatClampNeg)
    (hin : s.conn.inbox = requestPacket (Client.new.setOperateType op) fresh payload
      (Int32.ofNat payload.length) none 0 ++ rest) :
    recvRequest (idfsHandlers env cfg o) tcpDefaultHeaderSize tcpDefaultRequestSize s =
      .ok (.ok (Int32.ofNat (payload.length + 26)),
        { s with
          conn := { s.conn with inbox := rest }
          requestBuffer := overwrite (overwrite s.requestBuffer
            (BaseHeader.mk tcpHeaderVersion (Int32.ofNat (payload.length + 26))).bytes)
            (requestBody fresh op payload) }) := by
  have hmax : tcpDefaultRequestSize.toNatClampNeg = 3 * 2 ^ 20 := by decide
  have hsmall : payload.length + 26 < 2 ^ 31 := by omega
  have hto : (Int32.ofNat (payload.length + 26)).toInt = payload.length + 26 :=
    Int32.toInt_ofNat_of_lt hsmall
  refine recvRequest_frame env cfg o _ s ?_ ?_ ?_ ?_
  · rw [hin, requestPacket_plain op fresh (by omega)]
  · rw [requestBody_length, Int32.toNatClampNeg_ofNat_of_lt hsmall]
  · rw [Int32.le_iff_toInt_le, hto]
    simp only [Int32.toInt_zero]
    omega
  · rintro ⟨-, hgt⟩
    rw [Int32.lt_iff_toInt_lt, hto] at hgt
    have : tcpDefaultRequestSize.toInt = 3 * 2 ^ 20 := by decide
    omega

/-- **`server_process` accepts the body** whatever follows it in the buffer, and reads back the
    operate type, the data length and the data. -/
theorem requestBody_wellFormed (fresh : Nat → UInt8) (op : UInt16) {payload : Bytes}
    (junk : Bytes) (hpos : 1 ≤ payload.length) (hn : payload.length + 26 < 2 ^ 31) :
    WellFormedBody (requestBody fresh op payload ++ junk) (Int32.ofNat (payload.length + 26)) ∧
      getU16 (slice (requestBody fresh op payload ++ junk) 20 2) = op ∧
      getI32 (slice (requestBody fresh op payload ++ junk) 22 4) = Int32.ofNat payload.length ∧
      (requestBody fresh op payload ++ junk).drop 26 = payload ++ junk := by
  -- the body is the `requestParam`, then the operate type, the length and the data
  have e20 : (RequestParam.mk tcpDefaultProtocolType tcpDefaultSourceType (freshReserved fresh)
      (freshReserved_length fresh) tcpDefaultCommandType).bytes.length = 20 := by
    simp [sizeofRequestParam]
  have hbody : requestBody fresh op payload ++ junk =
      (RequestParam.mk tcpDefaultProtocolType tcpDefaultSourceType (freshReserved fresh)
        (freshReserved_length fresh) tcpDefaultCommandType).bytes ++
        (u16 op ++ (i32 (Int32.ofNat payload.length) ++ (payload ++ junk))) := by
    simp [requestBody, List.append_assoc]
  have hop : slice (requestBody fresh op payload ++ junk) 20 2 = u16 op := by
    rw [hbody, slice_append_of_le _ _ _ e20.le, e20, Nat.sub_self,
      slice_append_left _ _ (by simp)]
  have hlen : slice (requestBody fresh op payload ++ junk) 22 4 =
      i32 (Int32.ofNat payload.length) := by
    rw [hbody, slice_append_of_le _ _ _ (by omega), e20, slice_append_of_le _ _ _ (by simp),
      u16_length, Nat.sub_self, slice_append_left _ _ (by simp)]
  have hdata : (requestBody fresh op payload ++ junk).drop 26 = payload ++ junk := by
    rw [hbody, ← List.append_assoc, ← List.append_assoc]
    exact List.drop_left' (by simp [sizeofRequestParam])
  have hto : (Int32.ofNat payload.length).toInt = payload.length :=
    Int32.toInt_ofNat_of_lt (by omega)
  refine ⟨⟨?_, ?_, ?_, ?_, ?_⟩, by rw [hop, getU16_u16], by rw [hlen, getI32_i32], hdata⟩
  · rw [hbody, RequestParam.protocolTypeOf_bytes]
  · -- `source_type` is compared with `TCP_DEFAULT_COMMAND_TYPE`; both are 1
    rw [hbody, RequestParam.sourceTypeOf_bytes]
    rfl
  · rw [hbody, RequestParam.commandTypeOf_bytes]
    rfl
  · rw [hlen, getI32_i32, Int32.lt_iff_toInt_lt, hto]
    simp only [Int32.toInt_zero]
    omega
  · rw [hlen, getI32_i32, hto, Int32.toInt_ofNat_of_lt hn]
    push_cast
    omega

/-! ## 2. The reply -/

/-- The frame the work thread sends for a result `ret` with the bytes `out`: the `baseHeader`
    with length `24+ret`, the `replyParam` (the reply buffer's reserved bytes as they were, the
    command type, status 0), the length `ret`, and `out`. -/
def replyFrame (reserved : Bytes) (ret : Int32) (out : Bytes) : Bytes :=
  (BaseHeader.mk tcpHeaderVersion (24 + ret)).bytes ++ reserved ++ u16 tcpDefaultOperateType ++
    i32 0 ++ i32 ret ++ out

/-- `24 + ret` computed in `int32_t`, for a length well below 2^31. -/
theorem toInt_add_24 {ret : Int32} {m : Nat} (h : ret.toInt = m) (hm : m < 2 ^ 20) :
    (24 + ret).toInt = 24 + m := by
  rw [Int32.toInt_add, h, show (24 : Int32).toInt = 24 by decide]
  apply Int.bmod_eq_of_le <;> omega

theorem replyFrame_length (reserved : Bytes) (ret : Int32) (out : Bytes)
    (hres : reserved.length = 14) : (replyFrame reserved ret out).length = 36 + out.length := by
  simp [replyFrame, hres, sizeofBaseHeader]
  omega

/-- **A non-negative result of `server_main` goes out as one frame**: on a well-formed body and a
    reply buffer of `TCP_DEFAULT_REPLY_SIZE` bytes, the work thread sends `replyFrame` and closes
    the socket. -/
theorem replyRequest_reply (env : Env) (cfg : IdfsConfig) (o : Outcomes) {recvLen : Int32}
    {s : Slot Store} {r : MainResult} (hwf : WellFormedBody s.requestBuffer recvLen)
    (hbuf : s.replyBuffer.length = tcpDefaultReplySize.toNatClampNeg)
    (hmain : serverMain env cfg o (getU16 (slice s.requestBuffer 20 2)) (s.requestBuffer.drop 26)
      (getI32 (slice s.requestBuffer 22 4)) (tcpDefaultReplySize - 12 - 24) s.world = .ok r)
    (hr : 0 ≤ r.ret) :
    ∃ s', replyRequest (idfsHandlers env cfg o) tcpDefaultReplySize recvLen s = .ok (none, s') ∧
      s'.world = r.store ∧
      s'.conn = qCloseSocket { s.conn with
        outbox := s.conn.outbox ++ replyFrame ((s.replyBuffer.drop 12).take 14) r.ret r.out } := by
  obtain ⟨hret, hlt⟩ := serverMain_ret hmain hr
  have hsize : (tcpDefaultReplySize - 12 - 24).toNatClampNeg = 2 ^ 20 - 36 := by decide
  have hbuf' : tcpDefaultReplySize.toNatClampNeg = 2 ^ 20 := by decide
  rw [hsize] at hlt
  rw [hbuf'] at hbuf
  -- `server_process` calls `server_main` and assembles the body
  have hnn : ¬ r.ret < 0 := Int32.not_lt.mpr hr
  have hcall := serverProcess_call (idfsMain env cfg o) (s.replyBuffer.drop 12) s.world hwf
    (show (0 : Int32) < tcpDefaultReplySize - 12 by decide)
  have hmain' : idfsMain env cfg o (getU16 (slice s.requestBuffer 20 2)) (s.requestBuffer.drop 26)
      (getI32 (slice s.requestBuffer 22 4)) (tcpDefaultReplySize - 12 - 24) s.world =
      .ok (r.ret, r.out, r.store) := by
    rw [idfsMain, hmain]
    rfl
  rw [hmain'] at hcall
  simp only [Except.map, processReply, hnn, if_false] at hcall
  -- the frame length `24 + ret`, in `int32_t` and as a count
  have h24 := toInt_add_24 hret (by omega)
  have hpos : (0 : Int32) < 24 + r.ret := by
    rw [Int32.lt_iff_toInt_lt, h24]
    simp only [Int32.toInt_zero]
    omega
  have hcount : (24 + r.ret).toNatClampNeg = 24 + r.out.length := by
    rw [← Int32.toNat_toInt, h24]
    omega
  have hroom : 24 + r.out.length ≤ (s.replyBuffer.drop 12).length := by simp; omega
  have hregion := replyRegion_length tcpDefaultOperateType r.ret hroom
  obtain ⟨s', hs', hw, hc⟩ := replyRequest_sent (idfsHandlers env cfg o) tcpDefaultReplySize hcall
    hpos (by rw [hcount, hregion]; exact hroom) (by omega)
  refine ⟨s', hs', hw, ?_⟩
  rw [hc, hcount, replyRegion_take _ _ hroom]
  simp only [replyFrame, List.append_assoc]

/-- **`getReply` reads the frame back**: status 0, the length `ret`, and the `ret` bytes. -/
theorem getReply_reply {c : Conn} {reserved out rest : Bytes} {ret : Int32}
    (fresh beyond : Nat → UInt8) (reply : NetworkReply) (hres : reserved.length = 14)
    (hret : ret.toInt = out.length) (hmax : 36 + out.length ≤ 2 ^ 20)
    (hin : c.inbox = replyFrame reserved ret out ++ rest) :
    getReply c false fresh beyond reply =
      (tcpOk, { c with inbox := rest }, { status := 0, data := out, length := ret }) := by
  have h24 := toInt_add_24 hret (by omega)
  have hin' : c.inbox = (BaseHeader.mk tcpHeaderVersion (24 + ret)).bytes ++
      (reserved ++ u16 tcpDefaultOperateType ++ i32 0 ++ i32 ret ++ out) ++ rest := by
    rw [hin, replyFrame]
    simp only [List.append_assoc]
  have hlen : (reserved ++ u16 tcpDefaultOperateType ++ i32 0 ++ i32 ret ++ out).length =
      (24 + ret).toNatClampNeg := by
    rw [← Int32.toNat_toInt, h24]
    simp [hres]
    omega
  have hpos : (0 : Int32) < 24 + ret := by
    rw [Int32.lt_iff_toInt_lt, h24]
    simp only [Int32.toInt_zero]
    omega
  rw [getReply_frame fresh beyond reply hin' hlen hpos (by rw [h24]; omega),
    decodeBody_reply beyond reply hres]

/-- **The error frame reads back as its status, with no data**, whatever the status. -/
theorem getReply_errorFrame {c : Conn} {rest : Bytes} (e : Int32) (stack : Fin 14 → UInt8)
    (fresh beyond : Nat → UInt8) (reply : NetworkReply)
    (hin : c.inbox = (errorFrame e stack).bytes ++ rest) :
    getReply c false fresh beyond reply = (tcpOk, { c with inbox := rest }, { reply with status := e }) := by
  rw [ReplyHeader.bytes_split] at hin
  rw [getReply_frame fresh beyond reply (by rw [hin]; rfl) (by simp; rfl)
    (show (0 : Int32) < 20 by decide) (show (20 : Int32).toInt + 12 ≤ 2 ^ 20 by decide),
    decodeBody_param]
  rfl

/-! ## 3. Both directions -/

/-- `server_header` on a request packet answers `n+26`. -/
theorem serverHeader_request (op : UInt16) (fresh : Nat → UInt8) {payload : Bytes}
    (hn : payload.length < 2 ^ 31) :
    serverHeader (requestPacket (Client.new.setOperateType op) fresh payload
      (Int32.ofNat payload.length) none 0) 12 = .ok (Int32.ofNat (payload.length + 26)) := by
  rw [requestPacket_plain op fresh hn, serverHeader_eq, BaseHeader.read_bytes]
  simp

/-- **The encoders and decoders of the two sides agree.** (a) For every operate type and every
    payload of `1 … client_request_size_-26` bytes, `sendRequest` sends its packet whole,
    `server_header` answers `n+26`, the work thread receives it, and `server_process` calls its
    `main` with that operate type, the payload (followed by what the buffer held after it) and
    `n`. (b) Every non-negative result of `server_main` is below `out_size` and is the length of
    what it wrote; on a well-formed request the work thread sends it as one frame of at most
    1 MiB, which `getReply` decodes to status 0, that length and those bytes; and the error frame
    of every nonzero code decodes to that status and no data. -/
theorem wire_protocol_agrees :
    (∀ (env : Env) (cfg : IdfsConfig) (o : Outcomes) (op : UInt16) (payload : Bytes)
        (fresh : Nat → UInt8) (c : Conn) (s : Slot Store) (rest : Bytes),
      1 ≤ payload.length → payload.length + 26 ≤ tcpDefaultRequestSize.toNatClampNeg →
      sendRequest (Client.new.setOperateType op) fresh none payload (Int32.ofNat payload.length)
          none 0 c =
        (tcpOk,
          { c with
            outbox := c.outbox ++ requestPacket (Client.new.setOperateType op) fresh payload
              (Int32.ofNat payload.length) none 0 }) ∧
      serverHeader (requestPacket (Client.new.setOperateType op) fresh payload
        (Int32.ofNat payload.length) none 0) 12 = .ok (Int32.ofNat (payload.length + 26)) ∧
      (s.conn.inbox = requestPacket (Client.new.setOperateType op) fresh payload
          (Int32.ofNat payload.length) none 0 ++ rest →
        ∃ s1 junk, recvRequest (idfsHandlers env cfg o) tcpDefaultHeaderSize tcpDefaultRequestSize
            s = .ok (.ok (Int32.ofNat (payload.length + 26)), s1) ∧
          ∀ (σ : Type) (main : UInt16 → Bytes → Int32 → Int32 → σ →
              Except String (Int32 × Bytes × σ)) (rb : Bytes) (rs : Int32) (w : σ), 0 < rs →
            serverProcess main s1.requestBuffer (Int32.ofNat (payload.length + 26)) rb rs w =
              (main op (payload ++ junk) (Int32.ofNat payload.length) (rs - 24) w).map
                (processReply (writeAt (writeAt rb 16 (i32 0)) 14 (u16 tcpDefaultOperateType))))) ∧
    (∀ (env : Env) (cfg : IdfsConfig) (o : Outcomes) (type : UInt16) (data : Bytes)
        (dataLen outSize : Int32) (st : Store) (r : MainResult),
      serverMain env cfg o type data dataLen outSize st = .ok r → 0 ≤ r.ret →
        r.ret < outSize ∧ r.out.length = r.ret.toNatClampNeg) ∧
    (∀ (env : Env) (cfg : IdfsConfig) (o : Outcomes) (s : Slot Store) (recvLen : Int32)
        (r : MainResult) (fresh beyond : Nat → UInt8) (reply : NetworkReply) (c : Conn)
        (rest : Bytes),
      WellFormedBody s.requestBuffer recvLen →
      s.replyBuffer.length = tcpDefaultReplySize.toNatClampNeg →
      serverMain env cfg o (getU16 (slice s.requestBuffer 20 2)) (s.requestBuffer.drop 26)
        (getI32 (slice s.requestBuffer 22 4)) (tcpDefaultReplySize - 12 - 24) s.world = .ok r →
      0 ≤ r.ret →
      ∃ s' frame, replyRequest (idfsHandlers env cfg o) tcpDefaultReplySize recvLen s =
          .ok (none, s') ∧
        s'.conn = qCloseSocket { s.conn with outbox := s.conn.outbox ++ frame } ∧
        frame.length ≤ 2 ^ 20 ∧
        (c.inbox = frame ++ rest →
          getReply c false fresh beyond reply =
            (tcpOk, { c with inbox := rest }, { status := 0, data := r.out, length := r.ret }))) ∧
    (∀ (e : Int32) (stack : Fin 14 → UInt8) (fresh beyond : Nat → UInt8) (reply : NetworkReply)
        (c : Conn) (rest : Bytes),
      e ≠ 0 → c.inbox = (errorFrame e stack).bytes ++ rest →
        getReply c false fresh beyond reply =
          (tcpOk, { c with inbox := rest }, { reply with status := e })) := by
  refine ⟨?request, ?result, ?reply, ?error⟩
  case request =>
    intro env cfg o op payload fresh c s rest hpos hn
    have hmax : tcpDefaultRequestSize.toNatClampNeg = 3 * 2 ^ 20 := by decide
    refine ⟨sendRequest_plain op fresh c (by omega), serverHeader_request op fresh (by omega),
      fun hin => ?_⟩
    have hrecv := recvRequest_request env cfg o fresh op s hn hin
    -- the request buffer is the body, then what the buffer held past it
    have hbuf : ∀ b, overwrite b (requestBody fresh op payload) =
        requestBody fresh op payload ++ b.drop (requestBody fresh op payload).length :=
      fun _ => rfl
    rw [hbuf] at hrecv
    obtain ⟨hwf, hop, hdl, hdata⟩ := requestBody_wellFormed fresh op
      ((overwrite s.requestBuffer (BaseHeader.mk tcpHeaderVersion
        (Int32.ofNat (payload.length + 26))).bytes).drop (requestBody fresh op payload).length)
      hpos (by omega)
    refine ⟨_, (overwrite s.requestBuffer (BaseHeader.mk tcpHeaderVersion
      (Int32.ofNat (payload.length + 26))).bytes).drop (requestBody fresh op payload).length, hrecv,
      fun σ main rb rs w hrs => ?_⟩
    rw [serverProcess_call main rb w hwf hrs, hop, hdl, hdata]
  case result =>
    intro env cfg o type data dataLen outSize st r h hr
    obtain ⟨hret, hlt⟩ := serverMain_ret h hr
    have hout := (serverMain_cases h).2.1
    refine ⟨?_, ?_⟩
    · rw [Int32.lt_iff_toInt_lt, hret]
      have := Int32.toNat_toInt outSize
      have : 0 ≤ outSize.toInt := by
        rw [Int32.lt_iff_toInt_lt] at hout
        simp only [Int32.toInt_zero] at hout
        omega
      omega
    · rw [← Int32.toNat_toInt, hret]
      simp
  case reply =>
    intro env cfg o s recvLen r fresh beyond reply c rest hwf hbuf hmain hr
    obtain ⟨s', hs', -, hc⟩ := replyRequest_reply env cfg o hwf hbuf hmain hr
    obtain ⟨hret, hlt⟩ := serverMain_ret hmain hr
    have hsize : (tcpDefaultReplySize - 12 - 24).toNatClampNeg = 2 ^ 20 - 36 := by decide
    have hres : ((s.replyBuffer.drop 12).take 14).length = 14 := by
      have : tcpDefaultReplySize.toNatClampNeg = 2 ^ 20 := by decide
      simp
      omega
    refine ⟨s', _, hs', hc, by rw [replyFrame_length _ _ _ hres]; omega, fun hin => ?_⟩
    exact getReply_reply fresh beyond reply hres hret (by omega) hin
  case error =>
    intro e stack fresh beyond reply c rest _ hin
    exact getReply_errorFrame e stack fresh beyond reply hin

/-- A one-byte upload of operate type 1 is accepted with length 27, and the error frame of -1
    reads back as -1. -/
theorem wire_protocol_agrees_one :
    1 ≤ [7].length ∧ [7].length + 26 ≤ tcpDefaultRequestSize.toNatClampNeg ∧
      serverHeader (requestPacket (Client.new.setOperateType 1) (fun _ => 0) [7]
        (Int32.ofNat [7].length) none 0) 12 = .ok (Int32.ofNat ([7].length + 26)) ∧
      (-1 : Int32) ≠ 0 ∧
      getReply ⟨(errorFrame (-1) (fun _ => 0)).bytes, [], fun _ _ => 1, fun _ _ => 1, false⟩ false
          (fun _ => 0) (fun _ => 0) ⟨0, [], 0⟩ =
        (tcpOk, ⟨[], [], fun _ _ => 1, fun _ _ => 1, false⟩, ⟨-1, [], 0⟩) :=
  ⟨by decide, by decide,
    (wire_protocol_agrees.1 ⟨fun _ => 0, fun _ => [], fun _ => none⟩ ⟨[], []⟩
      ⟨false, false, false, false, none, none, 0, false, fun _ => 0,
        fun _ _ _ => ⟨none, [], false, some 200⟩, fun _ _ => 0⟩ 1 [7]
      (fun _ => 0) ⟨[], [], fun _ _ => 1, fun _ _ => 1, false⟩
      ⟨⟨[], [], fun _ _ => 1, fun _ _ => 1, false⟩, [], [], ⟨fun _ => none, []⟩⟩ []
      (by decide) (by decide)).2.1,
    by decide,
    wire_protocol_agrees.2.2.2 (-1) (fun _ => 0) (fun _ => 0) (fun _ => 0) ⟨0, [], 0⟩
      ⟨(errorFrame (-1) (fun _ => 0)).bytes, [], fun _ _ => 1, fun _ _ => 1, false⟩ []
      (by decide) (by simp)⟩

end ImageDfs
