/-
  File:      ImageDfs/Protocol/Frame.lean
  Subject:   THE WIRE FORMAT of qtcpsocket.h: the return codes, the protocol constants and the
             five packed structs, each with its byte layout and the reader a `reinterpret_cast`
             onto a buffer amounts to.

  Under `#pragma pack(1)` a struct is its fields' bytes one after the other:

  * `BaseHeader` (12 bytes: `version`, `length`), the prefix of every frame;
  * `RequestParam` (20 bytes) and `ReplyParam` (20 bytes), the first bytes of a request body and
    of a reply body;
  * `RequestHeader` (32) and `ReplyHeader` (32), which the client and the error path write in
    one piece. `RequestHeader.bytes_split` and `ReplyHeader.bytes_split`: they are byte for byte
    a `BaseHeader` followed by a `RequestParam` (a `ReplyParam`) -- the two sides of the
    protocol lay out the same bytes through different structs.

  The reserved fields are never written by the code; they carry whatever the buffer held, so
  they are fields of the structures like the others (with their width as a field).
-/
import ImageDfs.Basic

namespace ImageDfs

open LittleEndian

/-! ## 1. Return codes and constants -/

def tcpOk : Int32 := 0
def tcpErr : Int32 := -1
def tcpErrHeapAlloc : Int32 := -2
def tcpErrSocketInit : Int32 := -11
def tcpErrSocketConnection : Int32 := -12
def tcpErrSocketTimeout : Int32 := -14
def tcpErrSocketRecv : Int32 := -15
def tcpErrPacketHeader : Int32 := -16
def tcpErrPacketLength : Int32 := -17
def tcpErrSocketSend : Int32 := -18
def tcpErrSocketVersion : Int32 := -19
def tcpErrProtocolType : Int32 := -20
def tcpErrSourceType : Int32 := -21
def tcpErrCommandType : Int32 := -22
def tcpErrOperateType : Int32 := -24
def tcpErrDataLength : Int32 := -25

def tcpDefaultProtocolType : UInt16 := 1
def tcpDefaultSourceType : UInt16 := 1
def tcpDefaultCommandType : UInt16 := 1
def tcpDefaultOperateType : UInt16 := 1

/-- `TCP_DEFAULT_REQUEST_SIZE`, the size of every connection's request buffer. -/
def tcpDefaultRequestSize : Int32 := 3 * 2 ^ 20
/-- `TCP_DEFAULT_REPLY_SIZE`, the size of every connection's reply buffer. -/
def tcpDefaultReplySize : Int32 := 2 ^ 20
/-- `TCP_DEFAULT_HEADER_SIZE`, the bytes the work thread reads before `server_header`. -/
def tcpDefaultHeaderSize : Int32 := 12

/-- `TCP_HEADER_VERSION`: the eight bytes `"YST1.0.0"` read as a `uint64_t`. -/
def tcpHeaderVersion : UInt64 := getU64 (ascii "YST1.0.0")

/-- `TCP_TAILER_FILE_MARK`: the eight bytes `"@#@#@#@#"` read as a `uint64_t`. -/
def tcpTailerFileMark : UInt64 := getU64 (ascii "@#@#@#@#")

theorem u64_tcpHeaderVersion : u64 tcpHeaderVersion = ascii "YST1.0.0" := by decide

theorem u64_tcpTailerFileMark : u64 tcpTailerFileMark = ascii "@#@#@#@#" := by decide

/-! ## 2. `baseHeader` -/

/-- `struct baseHeader`: the protocol version and the length of what follows. -/
structure BaseHeader where
  version : UInt64
  length : Int32

/-- `sizeof(baseHeader)`. -/
def sizeofBaseHeader : Nat := 12

def BaseHeader.bytes (h : BaseHeader) : Bytes := u64 h.version ++ i32 h.length

/-- A `baseHeader*` cast onto a buffer. -/
def BaseHeader.read (buf : Bytes) : BaseHeader :=
  ⟨getU64 (slice buf 0 8), getI32 (slice buf 8 4)⟩

@[simp] theorem BaseHeader.bytes_length (h : BaseHeader) : h.bytes.length = sizeofBaseHeader := by
  simp [BaseHeader.bytes, sizeofBaseHeader]

@[simp] theorem BaseHeader.read_bytes (h : BaseHeader) (rest : Bytes) :
    BaseHeader.read (h.bytes ++ rest) = h := by
  have e1 : slice (h.bytes ++ rest) 0 8 = u64 h.version := by
    rw [BaseHeader.bytes, List.append_assoc, slice_append_left _ _ (by simp)]
  have e2 : slice (h.bytes ++ rest) 8 4 = i32 h.length := by
    have := slice_append_right (u64 h.version) (i32 h.length ++ rest) 0 4
    rw [u64_length, Nat.add_zero] at this
    rw [BaseHeader.bytes, List.append_assoc, this, slice_append_left _ _ (by simp)]
  simp [BaseHeader.read, e1, e2]

/-- The cast reads only the first twelve bytes. -/
theorem BaseHeader.read_append {buf : Bytes} (rest : Bytes) (h : sizeofBaseHeader ≤ buf.length) :
    BaseHeader.read (buf ++ rest) = BaseHeader.read buf := by
  have e1 : slice (buf ++ rest) 0 8 = slice buf 0 8 :=
    slice_append_inside _ _ (by simp only [sizeofBaseHeader] at h; omega)
  have e2 : slice (buf ++ rest) 8 4 = slice buf 8 4 :=
    slice_append_inside _ _ (by simp only [sizeofBaseHeader] at h; omega)
  simp only [BaseHeader.read, e1, e2]

/-- Twelve bytes are the encoding of the `baseHeader` they are cast to. -/
theorem BaseHeader.bytes_read {buf : Bytes} (h : buf.length = sizeofBaseHeader) :
    (BaseHeader.read buf).bytes = buf := by
  simp only [sizeofBaseHeader] at h
  have h8 : (slice buf 0 8).length = 8 := by simp; omega
  have h4 : (slice buf 8 4).length = 4 := by simp; omega
  rw [BaseHeader.bytes, BaseHeader.read, u64_getU64 h8, i32_getI32 h4]
  simp only [slice, List.drop_zero]
  rw [← List.take_add]
  exact List.take_of_length_le (by omega)

/-! ## 3. `requestParam` and `replyParam` -/

/-- `struct requestParam`: the first 20 bytes of a request body. -/
structure RequestParam where
  protocolType : UInt16
  sourceType : UInt16
  reserved : Bytes
  reserved_length : reserved.length = 14
  commandType : UInt16

/-- `sizeof(requestParam)`. -/
def sizeofRequestParam : Nat := 20

def RequestParam.bytes (p : RequestParam) : Bytes :=
  u16 p.protocolType ++ u16 p.sourceType ++ p.reserved ++ u16 p.commandType

/-- The fields `server_process` reads through a `requestParam*` cast onto the request buffer:
    `protocol_type` at 0, `source_type` at 2, `command_type` at 18. -/
def RequestParam.protocolTypeOf (buf : Bytes) : UInt16 := getU16 (slice buf 0 2)
def RequestParam.sourceTypeOf (buf : Bytes) : UInt16 := getU16 (slice buf 2 2)
def RequestParam.commandTypeOf (buf : Bytes) : UInt16 := getU16 (slice buf 18 2)

@[simp] theorem RequestParam.bytes_length (p : RequestParam) :
    p.bytes.length = sizeofRequestParam := by
  simp [RequestParam.bytes, p.reserved_length, sizeofRequestParam]

/-- The three fields read back from a body that starts with a `requestParam`. -/
@[simp] theorem RequestParam.protocolTypeOf_bytes (p : RequestParam) (rest : Bytes) :
    RequestParam.protocolTypeOf (p.bytes ++ rest) = p.protocolType := by
  rw [RequestParam.protocolTypeOf, RequestParam.bytes, List.append_assoc, List.append_assoc,
    List.append_assoc, slice_append_left _ _ (by simp), getU16_u16]

@[simp] theorem RequestParam.sourceTypeOf_bytes (p : RequestParam) (rest : Bytes) :
    RequestParam.sourceTypeOf (p.bytes ++ rest) = p.sourceType := by
  rw [RequestParam.sourceTypeOf, RequestParam.bytes, List.append_assoc, List.append_assoc,
    List.append_assoc, slice_append_of_le _ _ _ (by simp), u16_length, Nat.sub_self,
    slice_append_left _ _ (by simp), getU16_u16]

@[simp] theorem RequestParam.commandTypeOf_bytes (p : RequestParam) (rest : Bytes) :
    RequestParam.commandTypeOf (p.bytes ++ rest) = p.commandType := by
  have h18 : (u16 p.protocolType ++ u16 p.sourceType ++ p.reserved).length = 18 := by
    simp [p.reserved_length]
  rw [RequestParam.commandTypeOf, RequestParam.bytes, List.append_assoc _ (u16 p.commandType),
    slice_append_of_le _ _ _ h18.le, h18, Nat.sub_self, slice_append_left _ _ (by simp),
    getU16_u16]

/-- `struct replyParam`: the first 20 bytes of a reply body. -/
structure ReplyParam where
  reserved : Bytes
  reserved_length : reserved.length = 14
  commandType : UInt16
  status : Int32

/-- `sizeof(replyParam)`. -/
def sizeofReplyParam : Nat := 20

def ReplyParam.bytes (p : ReplyParam) : Bytes := p.reserved ++ u16 p.commandType ++ i32 p.status

/-- `reply_param->status` through a `replyParam*` cast onto a buffer: the `int32_t` at 16. -/
def ReplyParam.statusOf (buf : Bytes) : Int32 := getI32 (slice buf 16 4)

@[simp] theorem ReplyParam.bytes_length (p : ReplyParam) : p.bytes.length = sizeofReplyParam := by
  simp [ReplyParam.bytes, p.reserved_length, sizeofReplyParam]

/-- The status field read back from a reply body that starts with a `replyParam`. -/
@[simp] theorem ReplyParam.statusOf_bytes (p : ReplyParam) (rest : Bytes) :
    ReplyParam.statusOf (p.bytes ++ rest) = p.status := by
  have e : slice (p.bytes ++ rest) 16 4 = i32 p.status := by
    have h16 : (p.reserved ++ u16 p.commandType).length = 16 := by
      simp [p.reserved_length]
    have := slice_append_right (p.reserved ++ u16 p.commandType) (i32 p.status ++ rest) 0 4
    rw [h16, Nat.add_zero] at this
    rw [ReplyParam.bytes, List.append_assoc, this, slice_append_left _ _ (by simp)]
  simp [ReplyParam.statusOf, e]

/-! ## 4. `requestHeader` and `replyHeader` -/

/-- `struct requestHeader`: what `QTcpClient::sendRequest` writes at the start of a packet. -/
structure RequestHeader where
  version : UInt64
  length : Int32
  protocolType : UInt16
  sourceType : UInt16
  reserved : Bytes
  reserved_length : reserved.length = 14
  commandType : UInt16

/-- `sizeof(requestHeader)`. -/
def sizeofRequestHeader : Nat := 32

def RequestHeader.bytes (h : RequestHeader) : Bytes :=
  u64 h.version ++ i32 h.length ++ u16 h.protocolType ++ u16 h.sourceType ++ h.reserved ++
    u16 h.commandType

/-- **A `requestHeader` is a `baseHeader` followed by a `requestParam`.** -/
theorem RequestHeader.bytes_split (h : RequestHeader) :
    h.bytes = (BaseHeader.mk h.version h.length).bytes ++
      (RequestParam.mk h.protocolType h.sourceType h.reserved h.reserved_length h.commandType).bytes := by
  simp [RequestHeader.bytes, BaseHeader.bytes, RequestParam.bytes]

@[simp] theorem RequestHeader.bytes_length (h : RequestHeader) :
    h.bytes.length = sizeofRequestHeader := by
  simp [RequestHeader.bytes, h.reserved_length, sizeofRequestHeader]

/-- `struct replyHeader`: the whole error frame of the work thread. -/
structure ReplyHeader where
  version : UInt64
  length : Int32
  reserved : Bytes
  reserved_length : reserved.length = 14
  commandType : UInt16
  status : Int32

/-- `sizeof(replyHeader)`. -/
def sizeofReplyHeader : Nat := 32

def ReplyHeader.bytes (h : ReplyHeader) : Bytes :=
  u64 h.version ++ i32 h.length ++ h.reserved ++ u16 h.commandType ++ i32 h.status

/-- **A `replyHeader` is a `baseHeader` followed by a `replyParam`.** -/
theorem ReplyHeader.bytes_split (h : ReplyHeader) :
    h.bytes = (BaseHeader.mk h.version h.length).bytes ++
      (ReplyParam.mk h.reserved h.reserved_length h.commandType h.status).bytes := by
  simp [ReplyHeader.bytes, BaseHeader.bytes, ReplyParam.bytes]

@[simp] theorem ReplyHeader.bytes_length (h : ReplyHeader) : h.bytes.length = sizeofReplyHeader := by
  simp [ReplyHeader.bytes, h.reserved_length, sizeofReplyHeader]

end ImageDfs
