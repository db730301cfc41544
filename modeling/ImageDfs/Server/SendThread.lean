/-
  File:      ImageDfs/Server/SendThread.lean
  Subject:   THE TWO READERS OF THE RECORD LOG, READ BY READ: the decoding loops of
             `QTcpServer::send_thread` and `QTcpServer::backup_file`, with every `fread` they make
             into the thread's buffer.

  Both loops read a `baseHeader`, compare its signed `length` with the signed `buf_size`, and
  pass that length to `fread` as a `size_t`. A negative length passes the comparison and becomes
  a size of `2^64` plus it: the read then copies the whole rest of the file into the buffer.

  * `fread`, `sizeT` -- one item read of `size` bytes, and the conversion of `int32_t` to
    `size_t`;
  * `readRecord`, `decodeLoop` -- the loop body, the same for both loops but for the version
    check and the codes (`sendThreadChecks`, `backupFileChecks`), and the loop;
  * `decodeLoops_read_negative_length` -- a header with a negative length makes either loop ask
    `fread` for more than `buf_size` bytes and copy all that is left of the file;
  * `decodeLoops_reads_within` -- every other read asks for at most `buf_size` bytes: only the
    last read of a run can be the one of a negative length;
  * `decodeRecords_sendThreadRead` -- the decoding of `DataFile.lean` is what `send_thread`'s
    loop returns;
  * `backupFile_after_sendThread` -- `send_thread` hands `backup_file` only a file it read to the
    end, and `backup_file` then makes the same reads.
-/
import ImageDfs.Server.DataFile
import ImageDfs.Lib.CInt

namespace ImageDfs

open LittleEndian

/-! ## 1. `fread` and `size_t` -/

/-- What `fread(ptr, size, 1, fp)` does with the bytes not read yet: it copies up to `size` of
    them into `ptr` and moves past them, and returns 1 when a whole item of `size > 0` bytes came
    in. -/
structure Fread where
  ok : Bool
  copied : Bytes
  rest : Bytes

def fread (size : Nat) (file : Bytes) : Fread :=
  ⟨0 < size && size ≤ file.length, file.take size, file.drop size⟩

/-- `(size_t)x` of an `int32_t`: the value modulo `2^64`. -/
def sizeT (x : Int32) : Nat := (x.toInt % 2 ^ 64).toNat

@[simp] theorem fread_ok (size : Nat) (file : Bytes) :
    (fread size file).ok = true ↔ 0 < size ∧ size ≤ file.length := by
  simp [fread]

@[simp] theorem fread_ok_eq_false (size : Nat) (file : Bytes) :
    (fread size file).ok = false ↔ ¬ (0 < size ∧ size ≤ file.length) := by
  simp [fread]

@[simp] theorem fread_copied (size : Nat) (file : Bytes) :
    (fread size file).copied = file.take size := rfl

@[simp] theorem fread_rest (size : Nat) (file : Bytes) :
    (fread size file).rest = file.drop size := rfl

theorem sizeT_of_nonneg {x : Int32} (h : 0 ≤ x.toInt) : sizeT x = x.toInt.toNat := by
  have := Int32.toInt_lt x
  rw [sizeT, Int.emod_eq_of_lt h (by omega)]

/-- A negative length is a size of `2^64` plus it. -/
theorem sizeT_of_neg {x : Int32} (h : x.toInt < 0) : sizeT x = (x.toInt + 2 ^ 64).toNat := by
  have := Int32.le_toInt x
  rw [sizeT, ← Int.add_emod_right, Int.emod_eq_of_lt (by omega) (by omega)]

/-- What the size of a length at most `buf_size` is: at most `buf_size`, or at least
    `2^64 - 2^31` when the length is negative. -/
theorem sizeT_le_or_neg {x bufSize : Int32} (h : x ≤ bufSize) :
    sizeT x ≤ bufSize.toNatClampNeg ∨ x.toInt < 0 ∧ 2 ^ 64 - 2 ^ 31 ≤ sizeT x := by
  rw [Int32.le_iff_toInt_le] at h
  rw [CInt.toNatClampNeg_eq]
  by_cases hx : 0 ≤ x.toInt
  · exact .inl (by rw [sizeT_of_nonneg hx]; omega)
  · have := Int32.le_toInt x
    exact .inr ⟨by omega, by rw [sizeT_of_neg (by omega)]; omega⟩

/-! ## 2. The loops -/

/-- What a decoding loop checks and the code it throws at each check. `backup_file` does not
    look at the version. -/
structure LoopChecks where
  headerErr : Int32
  versionErr : Option Int32
  lengthErr : Int32
  payloadErr : Int32
  markReadErr : Int32
  markErr : Int32

/-- `send_thread`: `throw -1` to `throw -6`. -/
def sendThreadChecks : LoopChecks := ⟨-1, some (-2), -3, -4, -5, -6⟩

/-- `backup_file`: `throw -4` to `throw -8`, with no version check. -/
def backupFileChecks : LoopChecks := ⟨-4, none, -5, -6, -7, -8⟩

/-- The code of a wrong version, when the loop checks it. -/
def LoopChecks.versionCheck (c : LoopChecks) (version : UInt64) : Option Int32 :=
  match c.versionErr with
  | some e => if version = tcpHeaderVersion then none else some e
  | none => none

/-- The errors of the loop body: the code thrown, with the payload read when that `fread` was
    made. -/
abbrev ReadError := List (Nat × Bytes) × Int32

/-- `fread` of the `baseHeader`, then the version check and the length check against
    `buf_size`. -/
def readHeader (c : LoopChecks) (bufSize : Int32) (file : Bytes) :
    Except ReadError (BaseHeader × Bytes) :=
  let h := fread sizeofBaseHeader file
  if !h.ok then .error ([], c.headerErr)
  else
    let hdr := BaseHeader.read h.copied
    match c.versionCheck hdr.version with
    | some e => .error ([], e)
    | none => if hdr.length > bufSize then .error ([], c.lengthErr) else .ok (hdr, h.rest)

/-- `fread(ptr_buf, base_header.length, 1, fp_r)`: the length as a `size_t`. The read, the size
    and the bytes copied into the buffer, is reported whether it succeeds or not. -/
def readPayload (c : LoopChecks) (hdr : BaseHeader) (file : Bytes) :
    Except ReadError ((Nat × Bytes) × Bytes) :=
  let p := fread (sizeT hdr.length) file
  let read := (sizeT hdr.length, p.copied)
  if !p.ok then .error ([read], c.payloadErr) else .ok (read, p.rest)

/-- `fread(&end_mark, sizeof(end_mark), 1, fp_r)` and the comparison with `TCP_TAILER_FILE_MARK`. -/
def readMark (c : LoopChecks) (read : Nat × Bytes) (file : Bytes) : Except ReadError Bytes :=
  let m := fread 8 file
  if !m.ok then .error ([read], c.markReadErr)
  else if getU64 m.copied ≠ tcpTailerFileMark then .error ([read], c.markErr)
  else .ok m.rest

/-- The loop body: the header, the payload into the thread's buffer, the mark. It gives the
    payload read, the record and the bytes after the mark. -/
def readRecord (c : LoopChecks) (bufSize : Int32) (file : Bytes) :
    Except ReadError ((Nat × Bytes) × (BaseHeader × Bytes) × Bytes) :=
  readHeader c bufSize file >>= fun hr =>
  readPayload c hr.1 hr.2 >>= fun pr =>
  readMark c pr.1 pr.2 >>= fun rest =>
  pure (pr.1, (hr.1, pr.1.2), rest)

/-- What a loop did: every payload `fread` (the size it was given and the bytes it copied into
    the buffer), the records that passed every check, and `0` or the code thrown. -/
structure LoopRun where
  reads : List (Nat × Bytes)
  records : List (BaseHeader × Bytes)
  ret : Int32

/-- `while(current_size<file_size)` over the bytes not read yet. Each pass reads at least one
    byte, so `fuel` at the file's length is enough. -/
def decodeLoop (c : LoopChecks) (bufSize : Int32) : Nat → Bytes → LoopRun
  | 0, _ => ⟨[], [], 0⟩
  | fuel + 1, file =>
    if file = [] then ⟨[], [], 0⟩
    else match readRecord c bufSize file with
      | .error (reads, e) => ⟨reads, [], e⟩
      | .ok (read, r, rest) =>
        let run := decodeLoop c bufSize fuel rest
        ⟨read :: run.reads, r :: run.records, run.ret⟩

/-- The decoding loop of `send_thread` over the read file, with the thread's `buf_size`. -/
def sendThreadRead (bufSize : Int32) (file : Bytes) : LoopRun :=
  decodeLoop sendThreadChecks bufSize file.length file

/-- The decoding loop of `backup_file`. -/
def backupFileRead (bufSize : Int32) (file : Bytes) : LoopRun :=
  decodeLoop backupFileChecks bufSize file.length file

/-- `QTcpServer::backup_file(ptr_file, ptr_buf, buf_size)` when its calls on the files succeed:
    the code it returns and the bytes it appends to the day's `.snd` file, each record that
    passed written back as it was read. -/
def backupFile (bufSize : Int32) (file : Bytes) : Int32 × Bytes :=
  if bufSize ≤ 0 then (-1, [])
  else
    let run := backupFileRead bufSize file
    (run.ret, (run.records.map fun r => r.1.bytes ++ r.2 ++ u64 tcpTailerFileMark).flatten)

/-- Where the bytes `backup_file` writes to the day's file stop. -/
inductive BackupWrite where
  | whole
  /-- an `fwrite` fails, after the first `k` bytes of the records reached the file -/
  | fwriteFails (k : Nat)
  /-- every `fwrite` returns 1, and the flush in `fclose`, which is not checked, writes `k`
      bytes -/
  | flushCut (k : Nat)
  deriving DecidableEq

/-- The answers of the system to the calls of `backup_file` on the files: `fopen` of the read
    file and of the day's file, and its writes. -/
structure BackupSys where
  readOpens : Bool
  bakOpens : Bool
  write : BackupWrite

/-- Every call of `backup_file` on the files succeeds. -/
def BackupSys.Whole (io : BackupSys) : Prop :=
  io.readOpens = true ∧ io.bakOpens = true ∧ io.write = .whole

instance (io : BackupSys) : Decidable io.Whole := inferInstanceAs (Decidable (_ ∧ _ ∧ _))

/-- The code of the `fwrite` a cut after `k` bytes of the written records falls in: -9 in a
    header, -10 in a payload, -11 in an end mark; `none` past the last record. -/
def backupWriteCode : List (BaseHeader × Bytes) → Nat → Option Int32
  | [], _ => none
  | (_, p) :: rs, k =>
    if k < sizeofBaseHeader then some (-9)
    else if k < sizeofBaseHeader + p.length then some (-10)
    else if k < sizeofBaseHeader + p.length + 8 then some (-11)
    else backupWriteCode rs (k - (sizeofBaseHeader + p.length + 8))

/-- **`QTcpServer::backup_file(ptr_file, ptr_buf, buf_size)`** with its calls on the files: the
    code it returns (-2 and -3 for an `fopen` that fails, -9 to -11 for an `fwrite`) and, when
    `fopen(bak_name, "ab")` opened the day's `.snd` file, the bytes that reach it. -/
def backupFileSys (io : BackupSys) (bufSize : Int32) (file : Bytes) : Int32 × Option Bytes :=
  if bufSize ≤ 0 then (-1, none)
  else if io.readOpens = false then (-2, none)
  else if io.bakOpens = false then (-3, none)
  else
    let r := backupFile bufSize file
    match io.write with
    | .whole => (r.1, some r.2)
    | .fwriteFails k => ((backupWriteCode (backupFileRead bufSize file).records k).getD r.1,
        some (r.2.take k))
    | .flushCut k => (r.1, some (r.2.take k))

theorem backupFileSys_whole {io : BackupSys} (hio : io.Whole) {bufSize : Int32} (hbuf : 0 < bufSize)
    (file : Bytes) :
    backupFileSys io bufSize file = ((backupFile bufSize file).1, some (backupFile bufSize file).2) := by
  obtain ⟨hr, hb, hw⟩ := hio
  have hpos : ¬ bufSize ≤ 0 := Int32.not_le.mpr hbuf
  simp only [backupFileSys, hr, hb, hw, Bool.true_eq_false, hpos, ↓reduceIte]

/-- The day's file is opened exactly when `backup_file` gets past its two `fopen`s. -/
theorem backupFileSys_opened {io : BackupSys} {bufSize : Int32} (hbuf : 0 < bufSize) (file : Bytes) :
    (backupFileSys io bufSize file).2.isSome = (io.readOpens && io.bakOpens) := by
  have hpos : ¬ bufSize ≤ 0 := Int32.not_le.mpr hbuf
  unfold backupFileSys
  cases hr : io.readOpens <;> cases hb : io.bakOpens <;> simp only [hpos, ↓reduceIte] <;>
    first | rfl | (cases io.write <;> rfl)

/-- Whatever its calls on the files answer, `backup_file` appends a prefix of the records it
    reads. -/
theorem backupFileSys_prefix (io : BackupSys) (bufSize : Int32) (file : Bytes) {bytes : Bytes}
    (h : (backupFileSys io bufSize file).2 = some bytes) : bytes <+: (backupFile bufSize file).2 := by
  unfold backupFileSys at h
  split_ifs at h
  cases hw : io.write with
  | whole =>
    rw [hw] at h
    cases h
    exact List.prefix_refl _
  | fwriteFails k =>
    rw [hw] at h
    cases h
    exact List.take_prefix _ _
  | flushCut k =>
    rw [hw] at h
    cases h
    exact List.take_prefix _ _

/-! ## 3. The steps of the loop body -/

section Steps

variable {c : LoopChecks} {bufSize : Int32} {file : Bytes}

theorem readHeader_ok {hdr : BaseHeader} {rest : Bytes} :
    readHeader c bufSize file = .ok (hdr, rest) ↔
      sizeofBaseHeader ≤ file.length ∧ hdr = BaseHeader.read (file.take sizeofBaseHeader) ∧
        rest = file.drop sizeofBaseHeader ∧ c.versionCheck hdr.version = none ∧
        hdr.length ≤ bufSize := by
  dsimp only [readHeader]
  split
  · rename_i h1
    have : file.length < sizeofBaseHeader := by
      simpa [sizeofBaseHeader] using h1
    simp only [reduceCtorEq, false_iff, not_and]
    omega
  · rename_i h1
    have h12 : sizeofBaseHeader ≤ file.length := by
      simpa [sizeofBaseHeader] using h1
    split
    · rename_i e hv
      simp only [reduceCtorEq, false_iff, not_and]
      rintro - rfl - h
      simp [h] at hv
    · rename_i hv
      split
      · rename_i hgt
        simp only [reduceCtorEq, false_iff, not_and]
        rintro - rfl - - hle
        exact absurd hle (by simpa using hgt)
      · rename_i hle
        simp only [Except.ok.injEq, Prod.mk.injEq, fread_copied, fread_rest]
        constructor
        · rintro ⟨rfl, rfl⟩
          exact ⟨h12, rfl, rfl, hv, by simpa using hle⟩
        · rintro ⟨-, rfl, rfl, -, -⟩
          exact ⟨rfl, rfl⟩

theorem LoopChecks.versionCheck_some {c : LoopChecks} {v : UInt64} {e : Int32}
    (h : c.versionCheck v = some e) : c.versionErr = some e ∧ v ≠ tcpHeaderVersion := by
  unfold LoopChecks.versionCheck at h
  split at h
  · split at h
    · cases h
    · cases h
      exact ⟨‹_›, ‹_›⟩
  · cases h

/-- A header step that throws reads nothing into the buffer: the header is short, or its
    version or its length fails. -/
theorem readHeader_error {reads : List (Nat × Bytes)} {e : Int32}
    (h : readHeader c bufSize file = .error (reads, e)) :
    reads = [] ∧ (file.length < sizeofBaseHeader ∧ e = c.headerErr ∨
      sizeofBaseHeader ≤ file.length ∧
        (c.versionCheck (BaseHeader.read (file.take sizeofBaseHeader)).version = some e ∨
          c.versionCheck (BaseHeader.read (file.take sizeofBaseHeader)).version = none ∧
            bufSize < (BaseHeader.read (file.take sizeofBaseHeader)).length ∧ e = c.lengthErr)) := by
  dsimp only [readHeader] at h
  split at h
  · rename_i h1
    cases h
    exact ⟨rfl, .inl ⟨by simpa [sizeofBaseHeader] using h1, rfl⟩⟩
  · rename_i h1
    have h12 : sizeofBaseHeader ≤ file.length := by simpa [sizeofBaseHeader] using h1
    split at h
    · rename_i e' hv
      cases h
      exact ⟨rfl, .inr ⟨h12, .inl (by simpa using hv)⟩⟩
    · rename_i hv
      split at h
      · rename_i hgt
        cases h
        exact ⟨rfl, .inr ⟨h12, .inr ⟨by simpa using hv, by simpa using hgt, rfl⟩⟩⟩
      · cases h

theorem readPayload_ok {hdr : BaseHeader} {read : Nat × Bytes} {rest : Bytes} :
    readPayload c hdr file = .ok (read, rest) ↔
      0 < sizeT hdr.length ∧ sizeT hdr.length ≤ file.length ∧
        read = (sizeT hdr.length, file.take (sizeT hdr.length)) ∧
        rest = file.drop (sizeT hdr.length) := by
  dsimp only [readPayload]
  split
  · rename_i h
    simp only [Bool.not_eq_true', fread_ok_eq_false] at h
    simp only [reduceCtorEq, false_iff, not_and]
    intro h1 h2
    exact absurd ⟨h1, h2⟩ h
  · rename_i h
    simp only [Bool.not_eq_true', fread_ok_eq_false, not_not] at h
    simp only [Except.ok.injEq, Prod.mk.injEq, fread_copied, fread_rest]
    constructor
    · rintro ⟨rfl, rfl⟩
      exact ⟨h.1, h.2, rfl, rfl⟩
    · rintro ⟨-, -, rfl, rfl⟩
      exact ⟨rfl, rfl⟩

/-- The payload `fread` that fails: its read is reported with the payload code. -/
theorem readPayload_error {hdr : BaseHeader} {reads : List (Nat × Bytes)} {e : Int32} :
    readPayload c hdr file = .error (reads, e) ↔
      ¬ (0 < sizeT hdr.length ∧ sizeT hdr.length ≤ file.length) ∧
        reads = [(sizeT hdr.length, file.take (sizeT hdr.length))] ∧ e = c.payloadErr := by
  dsimp only [readPayload]
  split
  · rename_i h
    simp only [Bool.not_eq_true', fread_ok_eq_false] at h
    simp only [Except.error.injEq, Prod.mk.injEq, fread_copied]
    constructor
    · rintro ⟨rfl, rfl⟩
      exact ⟨h, rfl, rfl⟩
    · rintro ⟨-, rfl, rfl⟩
      exact ⟨rfl, rfl⟩
  · rename_i h
    simp only [Bool.not_eq_true', fread_ok_eq_false, not_not] at h
    simp only [reduceCtorEq, false_iff]
    rintro ⟨h', -, -⟩
    exact h' h

theorem readMark_ok {read : Nat × Bytes} {rest : Bytes} :
    readMark c read file = .ok rest ↔
      8 ≤ file.length ∧ getU64 (file.take 8) = tcpTailerFileMark ∧ rest = file.drop 8 := by
  dsimp only [readMark]
  split
  · rename_i h
    simp only [Bool.not_eq_true', fread_ok_eq_false] at h
    simp only [reduceCtorEq, false_iff, not_and]
    intro h8
    exact absurd ⟨by decide, h8⟩ h
  · rename_i h
    simp only [Bool.not_eq_true', fread_ok_eq_false, not_not] at h
    split
    · rename_i hm
      simp only [reduceCtorEq, false_iff, not_and]
      rintro - hm'
      exact absurd hm' (by simpa using hm)
    · rename_i hm
      simp only [Except.ok.injEq, fread_rest]
      constructor
      · rintro rfl
        exact ⟨h.2, by simpa using hm, rfl⟩
      · rintro ⟨-, -, rfl⟩
        rfl

theorem readMark_error {read : Nat × Bytes} {reads : List (Nat × Bytes)} {e : Int32}
    (h : readMark c read file = .error (reads, e)) :
    reads = [read] ∧ (file.length < 8 ∧ e = c.markReadErr ∨
      8 ≤ file.length ∧ getU64 (file.take 8) ≠ tcpTailerFileMark ∧ e = c.markErr) := by
  dsimp only [readMark] at h
  split at h
  · rename_i h1
    cases h
    exact ⟨rfl, .inl ⟨by simpa using h1, rfl⟩⟩
  · rename_i h1
    split at h
    · rename_i hm
      cases h
      exact ⟨rfl, .inr ⟨by simpa using h1, by simpa using hm, rfl⟩⟩
    · cases h

/-- A record the body reads whole, step by step. -/
theorem readRecord_ok {read : Nat × Bytes} {hdr : BaseHeader} {p rest : Bytes} :
    readRecord c bufSize file = .ok (read, (hdr, p), rest) ↔
      ∃ r1 r2, readHeader c bufSize file = .ok (hdr, r1) ∧ readPayload c hdr r1 = .ok (read, r2) ∧
        p = read.2 ∧ readMark c read r2 = .ok rest := by
  simp only [readRecord, except_bind_eq_ok]
  constructor
  · rintro ⟨⟨hdr', r1⟩, h1, ⟨read', r2⟩, h2, rest', h3, h4⟩
    simp only [except_pure, Except.ok.injEq, Prod.mk.injEq] at h4
    obtain ⟨rfl, ⟨rfl, rfl⟩, rfl⟩ := h4
    exact ⟨r1, r2, h1, h2, rfl, h3⟩
  · rintro ⟨r1, r2, h1, h2, rfl, h3⟩
    exact ⟨(hdr, r1), h1, (read, r2), h2, rest, h3, rfl⟩

/-- A pass that throws: before the payload `fread`, with no read; at the payload `fread`; or at
    the mark, after a payload read that succeeded. -/
theorem readRecord_error {reads : List (Nat × Bytes)} {e : Int32}
    (h : readRecord c bufSize file = .error (reads, e)) :
    reads = [] ∨ ∃ hdr r1, readHeader c bufSize file = .ok (hdr, r1) ∧
      (readPayload c hdr r1 = .error (reads, e) ∨
        ∃ read r2, readPayload c hdr r1 = .ok (read, r2) ∧ reads = [read]) := by
  simp only [readRecord, except_bind_eq_error] at h
  rcases h with h1 | ⟨⟨hdr, r1⟩, h1, h2 | ⟨⟨read, r2⟩, h2, h3 | ⟨rest, -, h4⟩⟩⟩
  · exact .inl (readHeader_error h1).1
  · exact .inr ⟨hdr, r1, h1, .inl h2⟩
  · exact .inr ⟨hdr, r1, h1, .inr ⟨read, r2, h2, (readMark_error h3).1⟩⟩
  · cases h4

/-- Every code the body throws is one of its loop's codes. -/
theorem readRecord_error_code {reads : List (Nat × Bytes)} {e : Int32}
    (h : readRecord c bufSize file = .error (reads, e)) :
    e = c.headerErr ∨ c.versionErr = some e ∨ e = c.lengthErr ∨ e = c.payloadErr ∨
      e = c.markReadErr ∨ e = c.markErr := by
  simp only [readRecord, except_bind_eq_error] at h
  rcases h with h1 | ⟨_, -, h2 | ⟨_, -, h3 | ⟨_, -, h4⟩⟩⟩
  · obtain ⟨-, ⟨-, rfl⟩ | ⟨-, hv | ⟨-, -, rfl⟩⟩⟩ := readHeader_error h1
    · simp
    · simp [(LoopChecks.versionCheck_some hv).1]
    · simp
  · simp [(readPayload_error.mp h2).2.2]
  · obtain ⟨-, ⟨-, rfl⟩ | ⟨-, -, rfl⟩⟩ := readMark_error h3 <;> simp
  · cases h4

/-- A record the body reads whole lies in the file as header, payload and mark. -/
theorem readRecord_ok_bytes {read : Nat × Bytes} {hdr : BaseHeader} {p rest : Bytes}
    (h : readRecord c bufSize file = .ok (read, (hdr, p), rest)) :
    file = hdr.bytes ++ p ++ u64 tcpTailerFileMark ++ rest := by
  obtain ⟨r1, r2, hh, hp, rfl, hm⟩ := readRecord_ok.mp h
  obtain ⟨h12, rfl, rfl, -, -⟩ := readHeader_ok.mp hh
  obtain ⟨-, -, rfl, rfl⟩ := readPayload_ok.mp hp
  obtain ⟨h8, hmark, rfl⟩ := readMark_ok.mp hm
  have hmark' : (((file.drop sizeofBaseHeader).drop (sizeT (BaseHeader.read
      (file.take sizeofBaseHeader)).length)).take 8) = u64 tcpTailerFileMark := by
    rw [← hmark, u64_getU64 (by simp only [List.length_take]; omega)]
  rw [BaseHeader.bytes_read (by simp only [List.length_take]; omega), List.append_assoc,
    List.append_assoc, ← hmark', List.take_append_drop, List.take_append_drop,
    List.take_append_drop]

/-- A payload `fread` that succeeds in a file shorter than `2^63` bytes (what an `off_t` can
    address) asked for at most `buf_size` bytes. -/
theorem readPayload_ok_le {hdr : BaseHeader} {r1 r2 : Bytes} {read : Nat × Bytes}
    (hh : readHeader c bufSize file = .ok (hdr, r1)) (hp : readPayload c hdr r1 = .ok (read, r2))
    (hf : file.length < 2 ^ 63) :
    read.1 ≤ bufSize.toNatClampNeg ∧ r2.length + read.1 + sizeofBaseHeader = file.length := by
  obtain ⟨h12, -, rfl, -, hle⟩ := readHeader_ok.mp hh
  obtain ⟨-, hsize, rfl, rfl⟩ := readPayload_ok.mp hp
  simp only [List.length_drop] at hsize ⊢
  refine ⟨?_, by omega⟩
  rcases sizeT_le_or_neg hle with h | ⟨-, h⟩
  · exact h
  · omega

end Steps

/-- The body that reads a record whole asked for at most `buf_size` bytes and left fewer bytes
    to read. -/
theorem readRecord_ok_le {read : Nat × Bytes} {r : BaseHeader × Bytes} {rest : Bytes}
    (h : readRecord c bufSize file = .ok (read, r, rest)) (hf : file.length < 2 ^ 63) :
    read.1 ≤ bufSize.toNatClampNeg ∧ rest.length < file.length := by
  obtain ⟨r1, r2, hh, hp, -, hm⟩ := readRecord_ok.mp h
  obtain ⟨hle, hlen⟩ := readPayload_ok_le hh hp hf
  obtain ⟨-, -, rfl⟩ := readMark_ok.mp hm
  refine ⟨hle, ?_⟩
  simp only [List.length_drop, sizeofBaseHeader] at hlen ⊢
  omega

/-- The body that throws made a read of at most `buf_size` bytes, or none, or the read of a
    negative length, and then threw the payload code. -/
theorem readRecord_error_le {reads : List (Nat × Bytes)} {e : Int32}
    (h : readRecord c bufSize file = .error (reads, e)) (hf : file.length < 2 ^ 63) :
    (∀ r ∈ reads, r.1 ≤ bufSize.toNatClampNeg) ∨
      ∃ L copied, reads = [(sizeT L, copied)] ∧ L.toInt < 0 ∧ e = c.payloadErr := by
  rcases readRecord_error h with rfl | ⟨hdr, r1, hh, hp | ⟨read, r2, hp, rfl⟩⟩
  · exact .inl (by simp)
  · obtain ⟨-, rfl, rfl⟩ := readPayload_error.mp hp
    obtain ⟨-, -, -, -, hle⟩ := readHeader_ok.mp hh
    rcases sizeT_le_or_neg hle with hs | ⟨hneg, -⟩
    · exact .inl (by simpa using hs)
    · exact .inr ⟨hdr.length, _, rfl, hneg, rfl⟩
  · exact .inl (by simpa using (readPayload_ok_le hh hp hf).1)

/-! ## 4. A negative length -/

section Negative

variable {c : LoopChecks} {bufSize : Int32} {hb : BaseHeader} {rest : Bytes}

theorem readHeader_bytes (hv : c.versionCheck hb.version = none) (hle : hb.length ≤ bufSize) :
    readHeader c bufSize (hb.bytes ++ rest) = .ok (hb, rest) := by
  have htake : (hb.bytes ++ rest).take sizeofBaseHeader = hb.bytes := List.take_left' (by simp)
  refine readHeader_ok.mpr ⟨by simp, ?_, (List.drop_left' (by simp)).symm, hv, hle⟩
  rw [htake]
  simpa using (BaseHeader.read_bytes hb []).symm

/-- The body on a header whose length is negative: the length check passes, and the payload
    `fread` asks for `2^64` plus the length, copies every byte left and fails. -/
theorem readRecord_negative (hv : c.versionCheck hb.version = none) (hle : hb.length ≤ bufSize)
    (hneg : hb.length.toInt < 0) (hrest : rest.length < 2 ^ 63) :
    readRecord c bufSize (hb.bytes ++ rest) = .error ([(sizeT hb.length, rest)], c.payloadErr) := by
  have hsize : rest.length < sizeT hb.length := by
    have := Int32.le_toInt hb.length
    rw [sizeT_of_neg hneg]
    omega
  have hp : readPayload c hb rest = .error ([(sizeT hb.length, rest)], c.payloadErr) :=
    readPayload_error.mpr ⟨by omega, by rw [List.take_of_length_le (by omega)], rfl⟩
  simp only [readRecord, readHeader_bytes hv hle, hp, except_ok_bind, except_error_bind]

theorem decodeLoop_negative (hv : c.versionCheck hb.version = none) (hle : hb.length ≤ bufSize)
    (hneg : hb.length.toInt < 0) (hrest : rest.length < 2 ^ 63) (fuel : Nat) :
    decodeLoop c bufSize (fuel + 1) (hb.bytes ++ rest) =
      ⟨[(sizeT hb.length, rest)], [], c.payloadErr⟩ := by
  have hne : hb.bytes ++ rest ≠ [] := List.ne_nil_of_length_pos (by simp [sizeofBaseHeader])
  rw [decodeLoop, if_neg hne, readRecord_negative hv hle hneg hrest]

end Negative

/-- **A negative length passes the length check.** With any `buf_size` that is not negative, a
    record header with the version and a negative length makes both loops ask `fread` for
    `2^64` plus the length, more than `buf_size` bytes, and copy into the thread's buffer all the
    bytes left in the file; `send_thread` then throws `-4` and `backup_file` `-6`. -/
theorem decodeLoops_read_negative_length (bufSize : Int32) (hbuf : 0 ≤ bufSize) (hb : BaseHeader)
    (hv : hb.version = tcpHeaderVersion) (hneg : hb.length < 0) (rest : Bytes)
    (hrest : rest.length < 2 ^ 63) :
    sendThreadRead bufSize (hb.bytes ++ rest) = ⟨[(sizeT hb.length, rest)], [], -4⟩ ∧
      backupFileRead bufSize (hb.bytes ++ rest) = ⟨[(sizeT hb.length, rest)], [], -6⟩ ∧
      bufSize.toNatClampNeg < sizeT hb.length := by
  rw [Int32.lt_iff_toInt_lt, Int32.toInt_zero] at hneg
  rw [Int32.le_iff_toInt_le, Int32.toInt_zero] at hbuf
  have hle : hb.length ≤ bufSize := by
    rw [Int32.le_iff_toInt_le]
    omega
  have hlen : (hb.bytes ++ rest).length = rest.length + 11 + 1 := by
    simp only [List.length_append, BaseHeader.bytes_length, sizeofBaseHeader]
    omega
  refine ⟨?_, ?_, ?_⟩
  · rw [sendThreadRead, hlen]
    exact decodeLoop_negative (by simp [LoopChecks.versionCheck, sendThreadChecks, hv]) hle hneg
      hrest _
  · rw [backupFileRead, hlen]
    exact decodeLoop_negative rfl hle hneg hrest _
  · have := Int32.toInt_lt bufSize
    have := Int32.le_toInt hb.length
    rw [sizeT_of_neg hneg, CInt.toNatClampNeg_eq]
    omega

theorem decodeLoops_read_negative_length_minus_one :
    sendThreadRead tcpDefaultBufferSize ((BaseHeader.mk tcpHeaderVersion (-1)).bytes ++ ascii "abc") =
        ⟨[(sizeT (-1), ascii "abc")], [], -4⟩ ∧
      backupFileRead tcpDefaultBufferSize
          ((BaseHeader.mk tcpHeaderVersion (-1)).bytes ++ ascii "abc") =
        ⟨[(sizeT (-1), ascii "abc")], [], -6⟩ ∧
      tcpDefaultBufferSize.toNatClampNeg < sizeT (-1) :=
  decodeLoops_read_negative_length tcpDefaultBufferSize (by decide) ⟨tcpHeaderVersion, -1⟩ rfl
    (by decide) (ascii "abc") (by decide)

/-! ## 5. Whole runs -/

/-- The reads of a run into the thread's buffer: each asks for at most `buf_size` bytes, but
    for the last, which may be the read of a negative length, after which the loop threw its
    payload code. -/
def ReadsWithin (c : LoopChecks) (bufSize : Int32) (run : LoopRun) : Prop :=
  (∀ r ∈ run.reads, r.1 ≤ bufSize.toNatClampNeg) ∨
    ∃ pre L copied, run.reads = pre ++ [(sizeT L, copied)] ∧ L.toInt < 0 ∧
      run.ret = c.payloadErr ∧ ∀ r ∈ pre, r.1 ≤ bufSize.toNatClampNeg

/-- The loop's codes, none of which is the 0 of a loop that ended. -/
def LoopChecks.CodesNonzero (c : LoopChecks) : Prop :=
  c.headerErr ≠ 0 ∧ c.versionErr ≠ some 0 ∧ c.lengthErr ≠ 0 ∧ c.payloadErr ≠ 0 ∧
    c.markReadErr ≠ 0 ∧ c.markErr ≠ 0

theorem sendThreadChecks_codesNonzero : sendThreadChecks.CodesNonzero := by
  simp [LoopChecks.CodesNonzero, sendThreadChecks]

theorem backupFileChecks_codesNonzero : backupFileChecks.CodesNonzero := by
  simp [LoopChecks.CodesNonzero, backupFileChecks]

section Runs

variable {c : LoopChecks} {bufSize : Int32}

theorem readRecord_error_ne_zero (hc : c.CodesNonzero) {file : Bytes}
    {reads : List (Nat × Bytes)} {e : Int32} (h : readRecord c bufSize file = .error (reads, e)) :
    e ≠ 0 := by
  obtain ⟨h1, h2, h3, h4, h5, h6⟩ := hc
  rintro rfl
  rcases readRecord_error_code h with h | h | h | h | h | h
  · exact h1 h.symm
  · exact h2 h
  · exact h3 h.symm
  · exact h4 h.symm
  · exact h5 h.symm
  · exact h6 h.symm

/-- The loop, one pass unfolded: it stops on an empty file, throws what the body throws, or goes
    on after the record the body read. -/
theorem decodeLoop_succ (fuel : Nat) {file : Bytes} (hne : file ≠ []) :
    decodeLoop c bufSize (fuel + 1) file =
      match readRecord c bufSize file with
      | .error (reads, e) => ⟨reads, [], e⟩
      | .ok (read, r, rest) =>
        ⟨read :: (decodeLoop c bufSize fuel rest).reads,
          r :: (decodeLoop c bufSize fuel rest).records, (decodeLoop c bufSize fuel rest).ret⟩ := by
  rw [decodeLoop, if_neg hne]

/-- **Every run reads within the buffer but for one read of a negative length**, in a file
    shorter than `2^63` bytes. The induction is on the passes of the loop. -/
theorem decodeLoop_readsWithin :
    ∀ fuel file, file.length < 2 ^ 63 → ReadsWithin c bufSize (decodeLoop c bufSize fuel file) := by
  intro fuel
  induction fuel with
  | zero => exact fun _ _ => .inl (by simp [decodeLoop])
  | succ fuel ih =>
    intro file hf
    by_cases hne : file = []
    · subst hne
      exact .inl (by simp [decodeLoop])
    rw [decodeLoop_succ fuel hne]
    rcases hr : readRecord c bufSize file with ⟨reads, e⟩ | ⟨read, r, rest⟩
    · rcases readRecord_error_le hr hf with h | ⟨L, copied, rfl, hneg, rfl⟩
      · exact .inl h
      · exact .inr ⟨[], L, copied, rfl, hneg, rfl, by simp⟩
    · obtain ⟨hle, hlt⟩ := readRecord_ok_le hr hf
      rcases ih rest (by omega) with h | ⟨pre, L, copied, hreads, hneg, hret, hpre⟩
      · exact .inl (by simpa [hle] using h)
      · refine .inr ⟨read :: pre, L, copied, by simp [hreads], hneg, hret, ?_⟩
        simpa [hle] using hpre

/-- A run that ended with 0 from enough fuel read the whole file, record after record. -/
theorem decodeLoop_records_bytes (hc : c.CodesNonzero) :
    ∀ fuel file, file.length ≤ fuel → (decodeLoop c bufSize fuel file).ret = 0 →
      ((decodeLoop c bufSize fuel file).records.map
        fun r => r.1.bytes ++ r.2 ++ u64 tcpTailerFileMark).flatten = file := by
  intro fuel
  induction fuel with
  | zero =>
    intro file hlen _
    simp [List.eq_nil_of_length_eq_zero (Nat.le_zero.mp hlen), decodeLoop]
  | succ fuel ih =>
    intro file hlen hret
    by_cases hne : file = []
    · subst hne
      simp [decodeLoop]
    rw [decodeLoop_succ fuel hne] at hret ⊢
    rcases hr : readRecord c bufSize file with ⟨reads, e⟩ | ⟨read, ⟨hdr, p⟩, rest⟩
    · rw [hr] at hret
      exact absurd hret (readRecord_error_ne_zero hc hr)
    · rw [hr] at hret
      have hbytes := readRecord_ok_bytes hr
      have hrest : rest.length ≤ fuel := by
        have := congrArg List.length hbytes
        simp only [List.length_append, BaseHeader.bytes_length, u64_length] at this
        omega
      simp only [List.map_cons, List.flatten_cons, ih rest hrest hret]
      exact hbytes.symm

/-- What `send_thread` reads whole, `backup_file` reads whole the same way: it checks less. -/
theorem readRecord_backup_of_send {file : Bytes} {read : Nat × Bytes} {r : BaseHeader × Bytes}
    {rest : Bytes} (h : readRecord sendThreadChecks bufSize file = .ok (read, r, rest)) :
    readRecord backupFileChecks bufSize file = .ok (read, r, rest) := by
  obtain ⟨hdr, p⟩ := r
  obtain ⟨r1, r2, hh, hp, hpe, hm⟩ := readRecord_ok.mp h
  obtain ⟨h12, hhdr, hr1, -, hle⟩ := readHeader_ok.mp hh
  exact readRecord_ok.mpr ⟨r1, r2, readHeader_ok.mpr ⟨h12, hhdr, hr1, rfl, hle⟩,
    readPayload_ok.mpr (readPayload_ok.mp hp), hpe, readMark_ok.mpr (readMark_ok.mp hm)⟩

theorem decodeLoop_backup_of_send :
    ∀ fuel file, (decodeLoop sendThreadChecks bufSize fuel file).ret = 0 →
      decodeLoop backupFileChecks bufSize fuel file = decodeLoop sendThreadChecks bufSize fuel file := by
  intro fuel
  induction fuel with
  | zero => intro _ _; rfl
  | succ fuel ih =>
    intro file hret
    by_cases hne : file = []
    · subst hne
      rfl
    rw [decodeLoop_succ fuel hne] at hret ⊢
    rcases hr : readRecord sendThreadChecks bufSize file with ⟨reads, e⟩ | ⟨read, r, rest⟩
    · rw [hr] at hret
      exact absurd hret (readRecord_error_ne_zero sendThreadChecks_codesNonzero hr)
    · rw [decodeLoop_succ fuel hne, readRecord_backup_of_send hr, hr]
      rw [hr] at hret
      dsimp only at hret ⊢
      rw [ih rest hret]

end Runs

/-- **Both loops read within the thread's buffer, but for one read.** In every file shorter than
    `2^63` bytes, every payload `fread` of `send_thread`'s loop and of `backup_file`'s asks for at
    most `buf_size` bytes, except at most the last one of each run: the read of a negative
    length, after which the loop throws `-4` (`-6` in `backup_file`). -/
theorem decodeLoops_reads_within (bufSize : Int32) (file : Bytes) (hf : file.length < 2 ^ 63) :
    ReadsWithin sendThreadChecks bufSize (sendThreadRead bufSize file) ∧
      ReadsWithin backupFileChecks bufSize (backupFileRead bufSize file) :=
  ⟨decodeLoop_readsWithin _ _ hf, decodeLoop_readsWithin _ _ hf⟩

theorem decodeLoops_reads_within_log :
    (logOf [ascii "abc"]).length < 2 ^ 63 ∧
      ReadsWithin sendThreadChecks tcpDefaultBufferSize
        (sendThreadRead tcpDefaultBufferSize (logOf [ascii "abc"])) ∧
      ReadsWithin backupFileChecks tcpDefaultBufferSize
        (backupFileRead tcpDefaultBufferSize (logOf [ascii "abc"])) :=
  ⟨by decide, decodeLoops_reads_within tcpDefaultBufferSize _ (by decide)⟩

/-- After a loop of `send_thread` that ended with 0, `backup_file` appends the whole file. -/
theorem backupFile_of_send {bufSize : Int32} (hbuf : 0 < bufSize) {file : Bytes}
    (hret : (sendThreadRead bufSize file).ret = 0) : backupFile bufSize file = (0, file) := by
  have hpos : ¬ bufSize ≤ 0 := by
    rw [Int32.lt_iff_toInt_lt] at hbuf
    rw [Int32.le_iff_toInt_le]
    simp only [Int32.toInt_zero] at hbuf ⊢
    omega
  have hsame : backupFileRead bufSize file = sendThreadRead bufSize file :=
    decodeLoop_backup_of_send _ _ hret
  have hret' : (backupFileRead bufSize file).ret = 0 := by rw [hsame, hret]
  simp only [backupFile, hpos, if_false, hret', Prod.mk.injEq, true_and]
  exact decodeLoop_records_bytes backupFileChecks_codesNonzero _ _ le_rfl hret'

/-- **`backup_file` after `send_thread`.** `send_thread` calls `backup_file` only once its loop
    ended with 0. `backup_file` then makes the same reads and keeps the same records, and
    appends the whole file to the `.snd` file. -/
theorem backupFile_after_sendThread (bufSize : Int32) (hbuf : 0 < bufSize) (file : Bytes)
    (hret : (sendThreadRead bufSize file).ret = 0) :
    backupFileRead bufSize file = sendThreadRead bufSize file ∧ backupFile bufSize file = (0, file) :=
  ⟨decodeLoop_backup_of_send _ _ hret, backupFile_of_send hbuf hret⟩

theorem backupFile_after_sendThread_abc :
    0 < tcpDefaultBufferSize ∧ (sendThreadRead tcpDefaultBufferSize (logOf [ascii "abc"])).ret = 0 ∧
      backupFileRead tcpDefaultBufferSize (logOf [ascii "abc"]) =
        sendThreadRead tcpDefaultBufferSize (logOf [ascii "abc"]) ∧
      backupFile tcpDefaultBufferSize (logOf [ascii "abc"]) = (0, logOf [ascii "abc"]) :=
  ⟨by decide, by decide, backupFile_after_sendThread tcpDefaultBufferSize (by decide) _ (by decide)⟩

/-! ## 6. The decoding of `DataFile.lean` -/

theorem BaseHeader.read_take {file : Bytes} (h : sizeofBaseHeader ≤ file.length) :
    BaseHeader.read (file.take sizeofBaseHeader) = BaseHeader.read file := by
  conv_rhs => rw [← List.take_append_drop sizeofBaseHeader file]
  exact (BaseHeader.read_append _ (by simp only [List.length_take]; omega)).symm

theorem sendThreadChecks_versionCheck {v : UInt64} :
    sendThreadChecks.versionCheck v = none ↔ v = tcpHeaderVersion := by
  simp [LoopChecks.versionCheck, sendThreadChecks]

/-- In a file shorter than `2^63` bytes the payload `fread` succeeds exactly when the length is
    positive and that many bytes are left. -/
theorem sizeT_fits {x : Int32} {n : Nat} (hn : n < 2 ^ 63) :
    (0 < sizeT x ∧ sizeT x ≤ n) ↔ (0 < x.toInt ∧ x.toNatClampNeg ≤ n) := by
  rw [CInt.toNatClampNeg_eq]
  by_cases hx : 0 ≤ x.toInt
  · rw [sizeT_of_nonneg hx]
    omega
  · have := Int32.le_toInt x
    rw [sizeT_of_neg (by omega)]
    omega

section Decode

variable {bufSize : Int32} {file : Bytes}

/-- Where `send_thread`'s body throws, the decoding throws the same code. -/
theorem decodeRecords_of_error {reads : List (Nat × Bytes)} {e : Int32} (hne : file ≠ [])
    (hf : file.length < 2 ^ 63) (h : readRecord sendThreadChecks bufSize file = .error (reads, e)) :
    decodeRecords bufSize file = .error e := by
  have hlen0 : file.length ≠ 0 := fun h0 => hne (List.eq_nil_of_length_eq_zero h0)
  rw [decodeRecords, if_neg hlen0]
  simp only [readRecord, except_bind_eq_error] at h
  rcases h with h1 | ⟨⟨hdr, r1⟩, h1, h2 | ⟨⟨read, r2⟩, h2, h3 | ⟨_, -, h4⟩⟩⟩
  · obtain ⟨-, ⟨hlt, rfl⟩ | ⟨h12, hv | ⟨hv, hgt, rfl⟩⟩⟩ := readHeader_error h1
    · rw [if_pos hlt]
      rfl
    · obtain ⟨he, hver⟩ := LoopChecks.versionCheck_some hv
      simp only [sendThreadChecks, Option.some.injEq] at he
      rw [BaseHeader.read_take h12] at hver
      rw [if_neg (Nat.not_lt.mpr h12)]
      dsimp only
      rw [if_pos hver, he]
    · rw [BaseHeader.read_take h12, sendThreadChecks_versionCheck] at hv
      rw [BaseHeader.read_take h12] at hgt
      rw [if_neg (Nat.not_lt.mpr h12)]
      dsimp only
      rw [if_neg (not_not.mpr hv), if_pos hgt]
      rfl
  · dsimp only at h2
    obtain ⟨h12, rfl, rfl, hv, hle⟩ := readHeader_ok.mp h1
    obtain ⟨hnf, -, rfl⟩ := readPayload_error.mp h2
    rw [BaseHeader.read_take h12] at hv hle hnf
    rw [sendThreadChecks_versionCheck] at hv
    rw [sizeT_fits (by simp only [List.length_drop]; omega)] at hnf
    have hbad : (BaseHeader.read file).length ≤ 0 ∨
        (file.drop sizeofBaseHeader).length < (BaseHeader.read file).length.toNatClampNeg := by
      rw [Int32.le_iff_toInt_le, Int32.toInt_zero]
      omega
    rw [if_neg (Nat.not_lt.mpr h12)]
    dsimp only
    rw [if_neg (not_not.mpr hv), if_neg (Int32.not_lt.mpr hle), if_pos hbad]
    rfl
  · dsimp only at h2 h3
    obtain ⟨h12, rfl, rfl, hv, hle⟩ := readHeader_ok.mp h1
    obtain ⟨hpos, hsz, rfl, rfl⟩ := readPayload_ok.mp h2
    rw [BaseHeader.read_take h12] at hv hle hpos hsz h3
    rw [sendThreadChecks_versionCheck] at hv
    have hfit := (sizeT_fits (by simp only [List.length_drop]; omega)).mp ⟨hpos, hsz⟩
    have hsz' : sizeT (BaseHeader.read file).length = (BaseHeader.read file).length.toNatClampNeg := by
      rw [sizeT_of_nonneg (by omega), CInt.toNatClampNeg_eq]
    have hgood : ¬ ((BaseHeader.read file).length ≤ 0 ∨
        (file.drop sizeofBaseHeader).length < (BaseHeader.read file).length.toNatClampNeg) := by
      rw [Int32.le_iff_toInt_le, Int32.toInt_zero]
      omega
    rw [hsz'] at h3
    rw [if_neg (Nat.not_lt.mpr h12)]
    dsimp only
    rw [if_neg (not_not.mpr hv), if_neg (Int32.not_lt.mpr hle), if_neg hgood]
    obtain ⟨-, ⟨h8, rfl⟩ | ⟨h8, hm, rfl⟩⟩ := readMark_error h3
    · rw [if_pos h8]
      rfl
    · rw [if_neg (Nat.not_lt.mpr h8), if_pos hm]
      rfl
  · cases h4

/-- Where `send_thread`'s body reads a record whole, the decoding takes the same payload and
    goes on after the mark. -/
theorem decodeRecords_of_ok {read : Nat × Bytes} {hdr : BaseHeader} {p rest : Bytes}
    (hf : file.length < 2 ^ 63) (h : readRecord sendThreadChecks bufSize file = .ok (read, (hdr, p), rest)) :
    decodeRecords bufSize file = (decodeRecords bufSize rest).map (p :: ·) := by
  obtain ⟨r1, r2, hh, hp, hpe, -⟩ := readRecord_ok.mp h
  obtain ⟨h12, -, hr1, hv, hle⟩ := readHeader_ok.mp hh
  obtain ⟨hpos, hsz, hread, -⟩ := readPayload_ok.mp hp
  rw [sendThreadChecks_versionCheck] at hv
  have hr1len : r1.length < 2 ^ 63 := by
    rw [hr1, List.length_drop]
    omega
  have hfit := (sizeT_fits hr1len).mp ⟨hpos, hsz⟩
  have hpos' : 0 < hdr.length := by
    rw [Int32.lt_iff_toInt_lt, Int32.toInt_zero]
    exact hfit.1
  have hp' : p.length = hdr.length.toNatClampNeg := by
    rw [hpe, hread, List.length_take, Nat.min_eq_left hsz, sizeT_of_nonneg (by omega),
      CInt.toNatClampNeg_eq]
  rw [readRecord_ok_bytes h]
  exact decodeRecords_record bufSize hdr p rest hv hpos' hle hp'

end Decode

/-- **The decoding of `DataFile.lean` is `send_thread`'s loop**: in a file shorter than `2^63`
    bytes, it gives the payloads of the records the loop read when the loop ended with 0, and
    the code the loop threw otherwise. -/
theorem decodeRecords_sendThreadRead (bufSize : Int32) :
    ∀ fuel file, file.length ≤ fuel → file.length < 2 ^ 63 →
      decodeRecords bufSize file =
        if (decodeLoop sendThreadChecks bufSize fuel file).ret = 0 then
          .ok ((decodeLoop sendThreadChecks bufSize fuel file).records.map Prod.snd)
        else .error (decodeLoop sendThreadChecks bufSize fuel file).ret := by
  intro fuel
  induction fuel with
  | zero =>
    intro file hlen _
    rw [List.eq_nil_of_length_eq_zero (Nat.le_zero.mp hlen), decodeRecords]
    simp [decodeLoop]
  | succ fuel ih =>
    intro file hlen hf
    by_cases hne : file = []
    · subst hne
      rw [decodeRecords]
      simp [decodeLoop]
    rw [decodeLoop_succ fuel hne]
    rcases hr : readRecord sendThreadChecks bufSize file with ⟨reads, e⟩ | ⟨read, ⟨hdr, p⟩, rest⟩
    · simp only [decodeRecords_of_error hne hf hr,
        if_neg (readRecord_error_ne_zero sendThreadChecks_codesNonzero hr)]
    · have hrest : rest.length < file.length := by
        have := congrArg List.length (readRecord_ok_bytes hr)
        simp only [List.length_append, BaseHeader.bytes_length, u64_length, sizeofBaseHeader] at this
        omega
      rw [decodeRecords_of_ok hf hr, ih rest (by omega) (by omega)]
      split <;> rfl

end ImageDfs
