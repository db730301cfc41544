/-
  File:      ImageDfs/Protocol/Client.lean
  Subject:   THE CLIENT SIDE of the wire protocol: `QTcpClient::sendRequest` and
             `QTcpClient::getReply` (qtcpsocket.cc).

  `sendRequest` lays a packet out in a fresh `request_buffer_` (`requestPacket`) and sends
  `packet_len` bytes of it; `getReply` reads a `baseHeader`, checks it, reads the body into a
  fresh `reply_buffer_` and reads `replyParam`'s status and, for a successful reply with data, the
  length and the data pointer. What `new char[]` returns is arbitrary (`fresh`), and a read past
  the end of the reply buffer sees arbitrary memory (`beyond`).

  * `Client`, `Client.new`, `Client.setOperateType` -- the fields `sendRequest` reads, as the
    constructor sets them;
  * `requestPacket` -- the bytes of the packet, with and without the extension;
  * `getReply` -- the decoder, with its error exits;
  * `getReply_frame` -- **a frame of a version-correct `baseHeader` and a body of 20..2^20-12
    bytes decodes to the body's status, and, for status 0 and a longer body, its length field and
    the bytes after it**;
  * `sendRequest_packetLen_wraps` -- `packet_len` is the frame's size modulo `2^32`: past `2^31`
    it wraps, and a negative extension length shrinks it below what the code writes.
-/
import ImageDfs.Protocol.Frame
import ImageDfs.Protocol.Socket
import ImageDfs.Lib.CInt

namespace ImageDfs

open LittleEndian

/-! ## 1. The request -/

/-- The fields of a `QTcpClient` that `sendRequest` reads. -/
structure Client where
  protocolType : UInt16
  sourceType : UInt16
  commandType : UInt16
  operateType : UInt16

/-- `QTcpClient::QTcpClient()`: every type is its `TCP_DEFAULT_…` value. -/
def Client.new : Client where
  protocolType := tcpDefaultProtocolType
  sourceType := tcpDefaultSourceType
  commandType := tcpDefaultCommandType
  operateType := tcpDefaultOperateType

def Client.setOperateType (cl : Client) (operateType : UInt16) : Client :=
  { cl with operateType := operateType }

/-- `packet_len`: the `requestHeader`, the operate type, and either the data length and the data,
    or the total, the data length, the data, the extension length and the extension. -/
def packetLen (dataLen : Int32) (withExtend : Bool) (extendLen : Int32) : Int32 :=
  if withExtend then 34 + 12 + dataLen + extendLen else 34 + 4 + dataLen

/-- The `packet_len` bytes `sendRequest` writes into `request_buffer_`. The reserved bytes of the
    `requestHeader` are never written: they are what the new array held (`fresh`). `extend` is
    `ptr_extend` (`none` for `NULL`). -/
def requestPacket (cl : Client) (fresh : Nat → UInt8) (data : Bytes) (dataLen : Int32)
    (extend : Option Bytes) (extendLen : Int32) : Bytes :=
  let withExtend := extend.isSome && extendLen != 0
  let header : RequestHeader :=
    { version := tcpHeaderVersion
      length := packetLen dataLen withExtend extendLen - 12
      protocolType := cl.protocolType
      sourceType := cl.sourceType
      reserved := (List.range 14).map (fun i => fresh (16 + i))
      reserved_length := by simp
      commandType := cl.commandType }
  let body :=
    match extend with
    | some ext =>
      if extendLen != 0 then
        i32 (dataLen + extendLen + 8) ++ i32 dataLen ++ data.take dataLen.toNatClampNeg ++
          i32 extendLen ++ ext.take extendLen.toNatClampNeg
      else u32 dataLen.toUInt32 ++ data.take dataLen.toNatClampNeg
    | none => u32 dataLen.toUInt32 ++ data.take dataLen.toNatClampNeg
  header.bytes ++ u16 cl.operateType ++ body

/-- Which of the calls before the send fails first: the allocation, `q_init_socket`,
    `q_connect_socket` or `q_set_overtime`. -/
inductive SetupFailure where
  | heapAlloc
  | socketInit
  | connection
  | timeout
  deriving DecidableEq

def SetupFailure.code : SetupFailure → Int32
  | .heapAlloc => tcpErrHeapAlloc
  | .socketInit => tcpErrSocketInit
  | .connection => tcpErrSocketConnection
  | .timeout => tcpErrSocketTimeout

/-- **`QTcpClient::sendRequest(ptr_data, data_len, ptr_extend, extend_len)`** on the connection
    `c` (seen from the client: `outbox` is what reaches the server). -/
def sendRequest (cl : Client) (fresh : Nat → UInt8) (setup : Option SetupFailure) (data : Bytes)
    (dataLen : Int32) (extend : Option Bytes) (extendLen : Int32) (c : Conn) : Int32 × Conn :=
  if dataLen < 0 then (tcpErr, c)
  else match setup with
    | some f => (f.code, c)
    | none =>
      let withExtend := extend.isSome && extendLen != 0
      let (r, c) := qSendbuf c (requestPacket cl fresh data dataLen extend extendLen)
        (packetLen dataLen withExtend extendLen).toNatClampNeg
      if r < 0 then (tcpErrSocketSend, c) else (tcpOk, c)

/-! ## 2. The reply -/

/-- `struct networkReply`. The `data` pointer is modelled by the bytes from it to the end of the
    reply buffer. -/
structure NetworkReply where
  status : Int32
  data : Bytes
  length : Int32

/-- **`QTcpClient::getReply(reply)`**. The `baseHeader` on the stack is overwritten by a read that
    succeeds and not read after one that fails, so its first contents do not matter (zeros
    here); the reply buffer is a fresh array of `length` bytes. The status is read at offset 16
    and the length field at offset 20 whatever the body's length (`memRead`). -/
def getReply (c : Conn) (allocFails : Bool) (fresh beyond : Nat → UInt8) (reply : NetworkReply) :
    Int32 × Conn × NetworkReply :=
  let (r, c, hb) := qRecvbuf c (List.replicate sizeofBaseHeader 0) sizeofBaseHeader
  if r < 0 then (tcpErrSocketRecv, c, reply)
  else
    let baseHeader := BaseHeader.read hb
    if baseHeader.version ≠ tcpHeaderVersion then (tcpErrSocketVersion, c, reply)
    else if baseHeader.length ≤ 0 ∨ 2 ^ 20 < baseHeader.length.toInt + 12 then
      (tcpErrPacketLength, c, reply)
    else if allocFails then (tcpErrHeapAlloc, c, reply)
    else
      let len := baseHeader.length.toNatClampNeg
      let (r, c, buf) := qRecvbuf c ((List.range len).map fresh) len
      if r ≠ 0 then (tcpErrSocketRecv, c, reply)
      else
        let reply := { reply with status := getI32 (memRead buf beyond 16 4) }
        if reply.status = 0 ∧ len ≠ sizeofReplyParam then
          (tcpOk, c, { reply with
            length := (getU32 (memRead buf beyond 20 4)).toInt32
            data := buf.drop 24 })
        else (tcpOk, c, reply)


/-! ## 3. Decoding a frame -/

/-- What `getReply` makes of a body it has read: the status, and for status 0 and a body longer
    than a `replyParam` the length field and the bytes after it. -/
def decodeBody (beyond : Nat → UInt8) (reply : NetworkReply) (body : Bytes) : NetworkReply :=
  let reply := { reply with status := getI32 (memRead body beyond 16 4) }
  if reply.status = 0 ∧ body.length ≠ sizeofReplyParam then
    { reply with length := (getU32 (memRead body beyond 20 4)).toInt32, data := body.drop 24 }
  else reply

/-- In a body of a whole `replyParam` the status is read inside it. -/
theorem status_memRead {body : Bytes} (beyond : Nat → UInt8) (h : sizeofReplyParam ≤ body.length) :
    getI32 (memRead body beyond 16 4) = ReplyParam.statusOf body := by
  rw [memRead_of_le beyond (by simp only [sizeofReplyParam] at h; omega)]
  rfl

/-- **A successful reply body** (a `replyParam` with status 0, the length, the result) decodes
    to status 0, the length field and the result. -/
theorem decodeBody_reply (beyond : Nat → UInt8) (reply : NetworkReply) {reserved : Bytes}
    (hres : reserved.length = 14) (c : UInt16) (ret : Int32) (out : Bytes) :
    decodeBody beyond reply (reserved ++ u16 c ++ i32 0 ++ i32 ret ++ out) =
      { status := 0, data := out, length := ret } := by
  have hp : reserved ++ u16 c ++ i32 0 = (ReplyParam.mk reserved hres c 0).bytes := rfl
  have h20 : (reserved ++ u16 c ++ i32 0).length = 20 := by simp [hres]
  have hstatus : getI32 (memRead (reserved ++ u16 c ++ i32 0 ++ i32 ret ++ out) beyond 16 4) = 0 := by
    rw [status_memRead beyond (by simp [hres, sizeofReplyParam]; omega), List.append_assoc, hp,
      ReplyParam.statusOf_bytes]
  have hlen : (reserved ++ u16 c ++ i32 0 ++ i32 ret ++ out).length ≠ sizeofReplyParam := by
    simp only [List.length_append, hres, u16_length, i32_length, sizeofReplyParam]
    omega
  have hfield : memRead (reserved ++ u16 c ++ i32 0 ++ i32 ret ++ out) beyond 20 4 = i32 ret := by
    rw [memRead_of_le _ (by simp [hres]; omega), List.append_assoc, ← h20, ← Nat.add_zero
      (reserved ++ u16 c ++ i32 0).length, slice_append_right, slice_append_left _ _ (by simp)]
  have hdata : (reserved ++ u16 c ++ i32 0 ++ i32 ret ++ out).drop 24 = out := by
    exact List.drop_left' (by simp [hres])
  simp only [decodeBody, hstatus, hlen, hfield, getU32_i32_toInt32, hdata, ne_eq,
    not_false_eq_true, and_self, if_true]

/-- **An error frame's body** (a `replyParam` alone) decodes to its status and no data. -/
theorem decodeBody_param (beyond : Nat → UInt8) (reply : NetworkReply) (p : ReplyParam) :
    decodeBody beyond reply p.bytes = { reply with status := p.status } := by
  have hs : getI32 (memRead p.bytes beyond 16 4) = p.status := by
    rw [status_memRead beyond (by simp)]
    simpa using ReplyParam.statusOf_bytes p []
  simp [decodeBody, hs]

/-- A buffer as long as what is read into it holds exactly that. -/
theorem overwrite_of_length {buf got : Bytes} (h : buf.length = got.length) :
    overwrite buf got = got := by
  simp [overwrite, h]

/-- **`getReply` on a whole frame**: a `baseHeader` with the version and a length in
    `1 … 2^20-12`, and that many body bytes, decode to what the body says. -/
theorem getReply_frame {c : Conn} {len : Int32} {body rest : Bytes} (fresh beyond : Nat → UInt8)
    (reply : NetworkReply) (hin : c.inbox = (BaseHeader.mk tcpHeaderVersion len).bytes ++ body ++ rest)
    (hlen : body.length = len.toNatClampNeg) (hpos : 0 < len) (hmax : len.toInt + 12 ≤ 2 ^ 20) :
    getReply c false fresh beyond reply =
      (tcpOk, { c with inbox := rest }, decodeBody beyond reply body) := by
  have hhd : (BaseHeader.mk tcpHeaderVersion len).bytes.length = sizeofBaseHeader := by simp
  have h1 : sizeofBaseHeader ≤ c.inbox.length := by simp [hin]
  have htake1 : c.inbox.take sizeofBaseHeader = (BaseHeader.mk tcpHeaderVersion len).bytes := by
    rw [hin, List.append_assoc, ← hhd, List.take_left]
  have hdrop1 : c.inbox.drop sizeofBaseHeader = body ++ rest := by
    rw [hin, List.append_assoc, ← hhd, List.drop_left]
  have hover1 : overwrite (List.replicate sizeofBaseHeader 0)
      (BaseHeader.mk tcpHeaderVersion len).bytes = (BaseHeader.mk tcpHeaderVersion len).bytes :=
    overwrite_of_length (by simp)
  have hread : BaseHeader.read (BaseHeader.mk tcpHeaderVersion len).bytes =
      BaseHeader.mk tcpHeaderVersion len := by
    simpa using BaseHeader.read_bytes (BaseHeader.mk tcpHeaderVersion len) []
  have hcheck : ¬ (len ≤ 0 ∨ 2 ^ 20 < len.toInt + 12) := by
    rw [not_or, Int32.not_le]
    exact ⟨hpos, by omega⟩
  have h2 : len.toNatClampNeg ≤ ({ c with inbox := body ++ rest } : Conn).inbox.length := by
    simp [hlen]
  have htake2 : (body ++ rest).take len.toNatClampNeg = body := by rw [← hlen, List.take_left]
  have hdrop2 : (body ++ rest).drop len.toNatClampNeg = rest := by rw [← hlen, List.drop_left]
  have hover2 : overwrite ((List.range len.toNatClampNeg).map fresh) body = body :=
    overwrite_of_length (by simp [hlen])
  simp only [getReply, qRecvbuf_of_le _ h1, htake1, hover1, hread, hdrop1, ne_eq,
    not_true_eq_false, if_false, hcheck, Bool.false_eq_true, qRecvbuf_of_le _ h2, htake2, hdrop2,
    hover2]
  have h00 : ¬ ((0 : Int32) < 0) := by decide
  simp only [decodeBody, hlen, h00, if_false]
  split <;> rfl

/-! ## 4. What the decoder trusts -/

/-- Whatever branch `getReply` takes, the status is the word at offset 16. -/
theorem decodeBody_status (beyond : Nat → UInt8) (reply : NetworkReply) (body : Bytes) :
    (decodeBody beyond reply body).status = getI32 (memRead body beyond 16 4) := by
  simp only [decodeBody]
  split <;> rfl

/-- **`getReply` checks neither length against the structures**: a frame of 1 to 19 bytes is
    accepted with a status read partly past the frame, so two contents of the memory after the
    reply buffer give two statuses; and a successful frame of at least 24 bytes is accepted with
    the length field it carries, even one that runs past the frame. -/
theorem getReply_trusts_lengths {c : Conn} {len : Int32} {body rest : Bytes}
    (fresh : Nat → UInt8) (reply : NetworkReply)
    (hin : c.inbox = (BaseHeader.mk tcpHeaderVersion len).bytes ++ body ++ rest)
    (hlen : body.length = len.toNatClampNeg) (hpos : 0 < len) (hmax : len.toInt + 12 ≤ 2 ^ 20) :
    (len.toInt < 20 → ∃ beyond beyond' : Nat → UInt8,
      (getReply c false fresh beyond reply).1 = tcpOk ∧
      (getReply c false fresh beyond' reply).1 = tcpOk ∧
      (getReply c false fresh beyond reply).2.2.status ≠
        (getReply c false fresh beyond' reply).2.2.status) ∧
    (∀ beyond : Nat → UInt8, 24 ≤ len.toInt → ReplyParam.statusOf body = 0 →
      len.toInt < 24 + (getU32 (slice body 20 4)).toInt32.toInt →
      (getReply c false fresh beyond reply).1 = tcpOk ∧
      len.toInt < 24 + (getReply c false fresh beyond reply).2.2.length.toInt) := by
  have hbody := Int32.toNat_toInt len
  have hframe : ∀ beyond, getReply c false fresh beyond reply =
      (tcpOk, { c with inbox := rest }, decodeBody beyond reply body) :=
    fun beyond => getReply_frame fresh beyond reply hin hlen hpos hmax
  constructor
  · -- the last byte of the status lies past a body of at most 19 bytes
    intro hshort
    refine ⟨fun _ => 0, fun _ => 1, by rw [hframe], by rw [hframe], ?_⟩
    rw [hframe, hframe, decodeBody_status, decodeBody_status]
    have h19 : body.length ≤ 16 + 3 := by omega
    have hlast : ∀ beyond : Nat → UInt8, (memRead body beyond 16 4)[3]? = some (beyond 19) := by
      intro beyond
      simp [memRead, List.getElem?_eq_none (show body.length ≤ 16 + 3 by omega)]
    intro heq
    have hbytes := congrArg (fun x => (i32 x)[3]?) heq
    simp only [i32_getI32 (by simp [memRead] : (memRead body _ 16 4).length = 4), hlast] at hbytes
    exact absurd hbytes (by decide)
  · intro beyond h24 hst hover
    have hstatus : getI32 (memRead body beyond 16 4) = 0 := by
      rw [status_memRead beyond (by simp only [sizeofReplyParam]; omega)]
      exact hst
    have hne : body.length ≠ sizeofReplyParam := by simp only [sizeofReplyParam]; omega
    have hfield : memRead body beyond 20 4 = slice body 20 4 := memRead_of_le beyond (by omega)
    rw [hframe]
    refine ⟨rfl, ?_⟩
    simp only [decodeBody, hstatus, hne, hfield, ne_eq, not_false_eq_true, and_self, if_true]
    exact hover

theorem getReply_trusts_lengths_one :
    ∃ beyond beyond' : Nat → UInt8,
      (getReply ⟨(BaseHeader.mk tcpHeaderVersion 1).bytes ++ [0], [], fun _ _ => 1,
        fun _ _ => 1, false⟩ false (fun _ => 0) beyond ⟨0, [], 0⟩).1 = tcpOk ∧
      (getReply ⟨(BaseHeader.mk tcpHeaderVersion 1).bytes ++ [0], [], fun _ _ => 1,
        fun _ _ => 1, false⟩ false (fun _ => 0) beyond' ⟨0, [], 0⟩).1 = tcpOk ∧
      (getReply ⟨(BaseHeader.mk tcpHeaderVersion 1).bytes ++ [0], [], fun _ _ => 1,
        fun _ _ => 1, false⟩ false (fun _ => 0) beyond ⟨0, [], 0⟩).2.2.status ≠
      (getReply ⟨(BaseHeader.mk tcpHeaderVersion 1).bytes ++ [0], [], fun _ _ => 1,
        fun _ _ => 1, false⟩ false (fun _ => 0) beyond' ⟨0, [], 0⟩).2.2.status :=
  (@getReply_trusts_lengths ⟨(BaseHeader.mk tcpHeaderVersion 1).bytes ++ [0], [], fun _ _ => 1,
    fun _ _ => 1, false⟩ 1 [0] [] (fun _ => 0) ⟨0, [], 0⟩ (by simp) (by decide) (by decide)
    (by decide)).1 (by decide)

/-! ## 5. The lengths `sendRequest` computes -/

/-- The size of the frame `sendRequest` lays out, counted in integers: the `requestHeader` and the
    operate type (34 bytes), then the data length and the data, or the total, the data length,
    the data, the extension length and the extension. -/
def requestFrameSize (dataLen : Int32) (withExtend : Bool) (extendLen : Int32) : Int :=
  if withExtend then 46 + dataLen.toInt + extendLen.toInt else 38 + dataLen.toInt

/-- `packet_len` is the frame's size reduced modulo `2^32` into `int32_t`. -/
theorem packetLen_toInt (dataLen extendLen : Int32) (withExtend : Bool) :
    (packetLen dataLen withExtend extendLen).toInt =
      (requestFrameSize dataLen withExtend extendLen).bmod (2 ^ 32) := by
  unfold packetLen requestFrameSize
  cases withExtend
  · simp only [Bool.false_eq_true, if_false, Int32.toInt_add]
    simp
  · simp only [if_true, Int32.toInt_add]
    simp

/-- **`packet_len` is the frame's size modulo `2^32`.** For every `data_len ≥ 0` that
    `sendRequest` accepts and any extension, it is the size itself exactly when the size is below
    `2^31`. With an extension of negative length it is less than the `46 + data_len` bytes the
    code writes up to the end of the extension's length field. -/
theorem sendRequest_packetLen_wraps (dataLen extendLen : Int32) (withExtend : Bool)
    (hd : 0 ≤ dataLen.toInt) :
    (packetLen dataLen withExtend extendLen).toInt =
        (requestFrameSize dataLen withExtend extendLen).bmod (2 ^ 32) ∧
      ((packetLen dataLen withExtend extendLen).toInt = requestFrameSize dataLen withExtend extendLen ↔
        requestFrameSize dataLen withExtend extendLen < 2 ^ 31) ∧
      (extendLen.toInt < 0 → (packetLen dataLen true extendLen).toInt < 46 + dataLen.toInt) := by
  have hd' := Int32.toInt_lt dataLen
  have he := Int32.toInt_lt extendLen
  have he' := Int32.le_toInt extendLen
  have hsize : ∀ w, -2 ^ 31 ≤ requestFrameSize dataLen w extendLen ∧
      requestFrameSize dataLen w extendLen < 2 ^ 32 + 2 ^ 31 := by
    intro w
    unfold requestFrameSize
    split <;> omega
  refine ⟨packetLen_toInt _ _ _, ?_, fun hneg => ?_⟩
  · rw [packetLen_toInt, CInt.bmod_of_range (hsize withExtend).1 (hsize withExtend).2]
    split <;> omega
  · rw [packetLen_toInt, CInt.bmod_of_range (hsize true).1 (hsize true).2]
    unfold requestFrameSize
    split <;> simp <;> omega

theorem sendRequest_packetLen_wraps_max :
    0 ≤ (2147483647 : Int32).toInt ∧
      (packetLen 2147483647 false 0).toInt = (requestFrameSize 2147483647 false 0).bmod (2 ^ 32) ∧
      ((packetLen 2147483647 false 0).toInt = requestFrameSize 2147483647 false 0 ↔
        requestFrameSize 2147483647 false 0 < 2 ^ 31) ∧
      ((0 : Int32).toInt < 0 → (packetLen 2147483647 true 0).toInt < 46 + (2147483647 : Int32).toInt) :=
  ⟨by decide, sendRequest_packetLen_wraps 2147483647 0 false (by decide)⟩

end ImageDfs
