/-
  File:      ImageDfs/Server/DataFile.lean
  Subject:   THE RECORD LOG OF QTcpServer: what `write_data_file` appends, what `q_repair_file`
             keeps of a file cut by a crash, and what the decoding loop of `send_thread` reads back.

  A record is a `baseHeader` (`TCP_HEADER_VERSION`, the payload's length), the payload, and the
  eight bytes of `TCP_TAILER_FILE_MARK`; a call that fails cuts the file back to where it
  started. After a crash `init` runs `q_repair_file`, which reads the file backwards one
  megabyte at a time and cuts it after the last mark it finds inside one read. The mark is not
  escaped in payloads:

  * `writeDataFile`, `writeCalls_logOf` -- the calls build `logOf` of the payloads that were
    written;
  * `decodeRecords_logOf` -- the decoding loop reads a log back, record for record;
  * `repairScan_spec`, `qRepairFile_cuts_after_last_read_mark` -- the scan cuts after the last
    occurrence of the mark that lies inside one of its reads; `qRepairFile_short_file` -- in a
    file of at most one megabyte that is the last occurrence, but
    `qRepairFile_misses_straddling_mark` -- a last occurrence across two reads is not seen, and
    the file is cut before it;
  * `markInPayload_breaks_log` -- a payload that holds the mark, cut by a crash just after it,
    is kept by `q_repair_file` and then fails to decode;
  * `dataFile_recovers_whole_records` -- when the mark occurs in the log only as the records'
    tails, and the last whole record's tail lies inside one read, repair and decoding give back
    exactly the records wholly inside the cut file;
  * `dataFile_drops_straddling_record` -- when that tail straddles two reads, they give back only
    a proper prefix of them: one byte and a megabyte of zeros, cut 17 bytes past the first
    megabyte, lose the one whole record.
-/
import ImageDfs.Protocol.Frame
import ImageDfs.Lib.Search

namespace ImageDfs

open LittleEndian

/-! ## 1. Writing -/

/-- What a successful `write_data_file` appends: the `baseHeader`, the `buf_len` bytes at
    `ptr_buf`, and `TCP_TAILER_FILE_MARK`. -/
def dataRecord (bufLen : Int32) (body : Bytes) : Bytes :=
  (BaseHeader.mk tcpHeaderVersion bufLen).bytes ++ body ++ u64 tcpTailerFileMark

/-- Which of the three `fwrite`s of `write_data_file` fail. -/
structure WriteOutcome where
  headerFails : Bool
  bodyFails : Bool
  markFails : Bool

/-- `QTcpServer::write_data_file`, on the file's contents, `ptr_buf` (the bytes it points to) and
    `buf_len`. The `catch` seeks back to `offset` and cuts the file there, retrying until both
    succeed: a failed call leaves the file as it was. -/
def writeDataFile (o : WriteOutcome) (file ptrBuf : Bytes) (bufLen : Int32) : Int32 × Bytes :=
  if o.headerFails then (-2, file)
  -- `fwrite(ptr_buf, buf_len, 1, fp_w)` writes no item of size 0, nor of a negative size
  else if bufLen ≤ 0 ∨ o.bodyFails then (-3, file)
  else if o.markFails then (-4, file)
  else (0, file ++ dataRecord bufLen (ptrBuf.take bufLen.toNatClampNeg))

/-- `write_data_file` called on one file, call after call. -/
def writeCalls : Bytes → List (WriteOutcome × Bytes × Int32) → Bytes
  | file, [] => file
  | file, (o, ptrBuf, bufLen) :: cs => writeCalls (writeDataFile o file ptrBuf bufLen).2 cs

/-- The payloads of the calls that succeed. -/
def writtenPayloads : List (WriteOutcome × Bytes × Int32) → List Bytes
  | [] => []
  | (o, ptrBuf, bufLen) :: cs =>
    if (writeDataFile o [] ptrBuf bufLen).1 = 0 then
      ptrBuf.take bufLen.toNatClampNeg :: writtenPayloads cs
    else writtenPayloads cs

/-- The record of a payload, with its length in the header. -/
def recordOf (p : Bytes) : Bytes := dataRecord (Int32.ofNat p.length) p

/-- The log of the payloads `p1 .. pk`. -/
def logOf : List Bytes → Bytes
  | [] => []
  | p :: ps => recordOf p ++ logOf ps

/-! ## 2. `q_repair_file` -/

/-- `1<<20`, the bytes `q_repair_file` reads at a time. -/
def repairChunk : Nat := 2 ^ 20

/-- The backward scan of `q_repair_file` from `file_len` bytes: read the last
    `min (1<<20) file_len` of them, look for `end_flag` from the last place it fits down to the
    first (the `memcmp` loop), and return `real_len`, the end of the one found; go on before the
    read when there is none. The loop runs at most `file_len` times: `fuel`. -/
def repairScan (file endFlag : Bytes) : Nat → Nat → Nat
  | 0, _ => 0
  | fuel + 1, fileLen =>
    let readLen := min repairChunk fileLen
    let start := fileLen - readLen
    let readBuf := slice file start readLen
    -- `loop_num = read_len - end_flag_len + 1 <= 0` breaks with `real_len` still 0
    if readLen + 1 ≤ endFlag.length then 0
    else
      match Search.findBack (fun i => decide (slice readBuf i endFlag.length = endFlag))
          (readLen - endFlag.length + 1) with
      | some i => start + i + endFlag.length
      | none => if start = 0 then 0 else repairScan file endFlag fuel start

/-- `q_repair_file(file, end_flag, ...)`: an empty file is left as it is, and any other is cut
    to `real_len`. The allocation, `fopen`, the reads and the cut are taken to succeed. -/
def qRepairFile (file endFlag : Bytes) : Bytes :=
  if file.length = 0 then file else file.take (repairScan file endFlag file.length file.length)

/-! ## 3. Decoding -/

/-- `TCP_DEFAULT_BUFFER_SIZE`: the send thread's `buf_size` unless `send-buffer-size` sets it. -/
def tcpDefaultBufferSize : Int32 := 2 ^ 20

/-- The decoding loop of `send_thread`, over the bytes not read yet: while some are left, read a
    `baseHeader`, check its version and length against the thread's `buf_size`, read the payload
    and the mark. `fread(..., 1, fp_r)` reads a whole item or fails. -/
def decodeRecords (bufSize : Int32) (file : Bytes) : Except Int32 (List Bytes) :=
  if file.length = 0 then .ok []
  else if file.length < sizeofBaseHeader then .error (-1)
  else
    let hdr := BaseHeader.read file
    let rest := file.drop sizeofBaseHeader
    if hdr.version ≠ tcpHeaderVersion then .error (-2)
    else if hdr.length > bufSize then .error (-3)
    else if hdr.length ≤ 0 ∨ rest.length < hdr.length.toNatClampNeg then .error (-4)
    else
      let after := rest.drop hdr.length.toNatClampNeg
      if after.length < 8 then .error (-5)
      else if getU64 (after.take 8) ≠ tcpTailerFileMark then .error (-6)
      else (decodeRecords bufSize (after.drop 8)).map (rest.take hdr.length.toNatClampNeg :: ·)
termination_by file.length
decreasing_by simp only [List.length_drop, sizeofBaseHeader] at *; omega

/-! ## 4. The calls build a log -/

@[simp] theorem logOf_append (ps qs : List Bytes) : logOf (ps ++ qs) = logOf ps ++ logOf qs := by
  induction ps with
  | nil => rfl
  | cons p ps ih => simp [logOf, ih]

theorem recordOf_length (p : Bytes) : (recordOf p).length = p.length + 20 := by
  simp [recordOf, dataRecord, sizeofBaseHeader]
  omega

theorem int32_ofNat_toNatClampNeg {x : Int32} (h : 0 < x) : Int32.ofNat x.toNatClampNeg = x := by
  apply Int32.toInt_inj.mp
  have hlt := Int32.toInt_lt x
  have hpos : 0 < x.toInt := Int32.lt_iff_toInt_lt.mp h
  rw [← Int32.toNat_toInt, Int32.toInt_ofNat_of_lt (by omega)]
  omega

/-- **One call**: it fails and leaves the file, or returns 0 and appends the record of the
    `buf_len` bytes at `ptr_buf`. -/
theorem writeDataFile_cases (o : WriteOutcome) (file ptrBuf : Bytes) (bufLen : Int32)
    (hbuf : bufLen.toNatClampNeg ≤ ptrBuf.length) :
    ((writeDataFile o file ptrBuf bufLen).1 < 0 ∧ (writeDataFile o file ptrBuf bufLen).2 = file) ∨
      ((writeDataFile o file ptrBuf bufLen).1 = 0 ∧
        (writeDataFile o file ptrBuf bufLen).2 = file ++ recordOf (ptrBuf.take bufLen.toNatClampNeg)) := by
  unfold writeDataFile
  split_ifs with h1 h2 h3
  · exact .inl ⟨by dsimp only; decide, rfl⟩
  · exact .inl ⟨by dsimp only; decide, rfl⟩
  · exact .inl ⟨by dsimp only; decide, rfl⟩
  · -- the header holds `buf_len`, which is the payload's length
    have hpos : 0 < bufLen := by
      have h := (not_or.mp h2).1
      rw [Int32.le_iff_toInt_le] at h
      rw [Int32.lt_iff_toInt_lt]
      simp only [Int32.toInt_zero] at h ⊢
      omega
    refine .inr ⟨rfl, ?_⟩
    rw [recordOf, List.length_take, Nat.min_eq_left hbuf, int32_ofNat_toNatClampNeg hpos]

theorem writeDataFile_file (o : WriteOutcome) (file ptrBuf : Bytes) (bufLen : Int32)
    (hbuf : bufLen.toNatClampNeg ≤ ptrBuf.length) :
    (writeDataFile o file ptrBuf bufLen).2 =
      file ++ if (writeDataFile o [] ptrBuf bufLen).1 = 0
        then recordOf (ptrBuf.take bufLen.toNatClampNeg) else [] := by
  -- whether a call succeeds does not depend on the file
  have hret : (writeDataFile o file ptrBuf bufLen).1 = (writeDataFile o [] ptrBuf bufLen).1 := by
    unfold writeDataFile
    split_ifs <;> rfl
  rcases writeDataFile_cases o file ptrBuf bufLen hbuf with ⟨hneg, he⟩ | ⟨hz, he⟩
  · rw [← hret, if_neg (by intro h; rw [h] at hneg; exact absurd hneg (by decide)), he,
      List.append_nil]
  · rw [← hret, if_pos hz, he]

/-- **The calls build a log**: from a log, `write_data_file` called again and again leaves the
    log of the old payloads and of those it wrote, in order, whatever fails. -/
theorem writeCalls_logOf (ps : List Bytes) (cs : List (WriteOutcome × Bytes × Int32))
    (hbuf : ∀ c ∈ cs, c.2.2.toNatClampNeg ≤ c.2.1.length) :
    writeCalls (logOf ps) cs = logOf (ps ++ writtenPayloads cs) := by
  induction cs generalizing ps with
  | nil => simp [writeCalls, writtenPayloads]
  | cons c cs ih =>
    obtain ⟨o, ptrBuf, bufLen⟩ := c
    have hc := hbuf (o, ptrBuf, bufLen) List.mem_cons_self
    have hrest : ∀ c ∈ cs, c.2.2.toNatClampNeg ≤ c.2.1.length :=
      fun c hc => hbuf c (List.mem_cons_of_mem _ hc)
    simp only [writeCalls, writtenPayloads]
    rw [writeDataFile_file o _ ptrBuf bufLen hc]
    split_ifs
    · rw [show logOf ps ++ recordOf (ptrBuf.take bufLen.toNatClampNeg) =
          logOf (ps ++ [ptrBuf.take bufLen.toNatClampNeg]) by simp [logOf], ih _ hrest]
      simp
    · rw [List.append_nil, ih _ hrest]

/-! ## 5. Decoding a log -/

/-- A payload the decoding loop takes: not empty, and no longer than the thread's buffer. -/
def Decodable (bufSize : Int32) (p : Bytes) : Prop := 0 < p.length ∧ p.length ≤ bufSize.toNatClampNeg

instance (bufSize : Int32) : DecidablePred (Decodable bufSize) :=
  fun p => inferInstanceAs (Decidable (0 < p.length ∧ p.length ≤ bufSize.toNatClampNeg))

/-- A header the decoding loop takes -- the version, a length in `(0, buf_size]` -- and the
    payload it announces: what follows them decides. -/
theorem decodeRecords_header (bufSize : Int32) (hdr : BaseHeader) (p rest : Bytes)
    (hv : hdr.version = tcpHeaderVersion) (hpos : 0 < hdr.length) (hle : hdr.length ≤ bufSize)
    (hp : p.length = hdr.length.toNatClampNeg) :
    decodeRecords bufSize (hdr.bytes ++ p ++ rest) =
      if rest.length < 8 then .error (-5)
      else if getU64 (rest.take 8) ≠ tcpTailerFileMark then .error (-6)
      else (decodeRecords bufSize (rest.drop 8)).map (p :: ·) := by
  have hne : (hdr.bytes ++ p ++ rest).length ≠ 0 := by
    simp [sizeofBaseHeader]
  have hge : ¬ (hdr.bytes ++ p ++ rest).length < sizeofBaseHeader := by
    simp only [List.length_append, BaseHeader.bytes_length]
    omega
  have hhdr : BaseHeader.read (hdr.bytes ++ p ++ rest) = hdr := by
    simp only [List.append_assoc, BaseHeader.read_bytes]
  have hrest : (hdr.bytes ++ p ++ rest).drop sizeofBaseHeader = p ++ rest := by
    simp only [List.append_assoc]
    exact List.drop_left' (by simp)
  have hlt : ¬ hdr.length > bufSize := by
    rw [gt_iff_lt, Int32.lt_iff_toInt_lt, Int.not_lt]
    exact Int32.le_iff_toInt_le.mp hle
  have hnp : ¬ hdr.length ≤ 0 := by
    rw [Int32.lt_iff_toInt_lt, Int32.toInt_zero] at hpos
    rw [Int32.le_iff_toInt_le, Int32.toInt_zero]
    omega
  have hfits : ¬ (p ++ rest).length < p.length := by
    rw [List.length_append]
    omega
  rw [decodeRecords]
  simp only [hne, hge, hhdr, hv, hlt, hnp, hrest, ← hp, hfits, List.drop_left, List.take_left,
    if_false, ne_eq, not_true_eq_false, false_or]

/-- One record the decoding loop takes. -/
theorem decodeRecords_record (bufSize : Int32) (hdr : BaseHeader) (p rest : Bytes)
    (hv : hdr.version = tcpHeaderVersion) (hpos : 0 < hdr.length) (hle : hdr.length ≤ bufSize)
    (hp : p.length = hdr.length.toNatClampNeg) :
    decodeRecords bufSize (hdr.bytes ++ p ++ u64 tcpTailerFileMark ++ rest) =
      (decodeRecords bufSize rest).map (p :: ·) := by
  have htake : (u64 tcpTailerFileMark ++ rest).take 8 = u64 tcpTailerFileMark :=
    List.take_left' (u64_length _)
  have hdrop : (u64 tcpTailerFileMark ++ rest).drop 8 = rest := List.drop_left' (u64_length _)
  rw [List.append_assoc (hdr.bytes ++ p), decodeRecords_header bufSize hdr p _ hv hpos hle hp,
    htake, hdrop]
  simp

/-- A header and its payload with nothing after them: fewer than eight bytes where the tail
    belongs (`-5`). -/
theorem decodeRecords_untailed (bufSize : Int32) (hdr : BaseHeader) (p : Bytes)
    (hv : hdr.version = tcpHeaderVersion) (hpos : 0 < hdr.length) (hle : hdr.length ≤ bufSize)
    (hp : p.length = hdr.length.toNatClampNeg) :
    decodeRecords bufSize (hdr.bytes ++ p) = .error (-5) := by
  have h := decodeRecords_header bufSize hdr p [] hv hpos hle hp
  rw [List.append_nil] at h
  rw [h]
  rfl

/-- The header of a payload the loop takes passes its checks: a length in `(0, buf_size]`, the
    payload's. -/
theorem decodable_header {bufSize : Int32} {p : Bytes} (hp : Decodable bufSize p) :
    0 < Int32.ofNat p.length ∧ Int32.ofNat p.length ≤ bufSize ∧
      p.length = (Int32.ofNat p.length).toNatClampNeg := by
  obtain ⟨hpos, hle⟩ := hp
  have hbuf := Int32.toInt_lt bufSize
  have hle' : (p.length : Int) ≤ bufSize.toInt := by
    have h := Int32.toNat_toInt bufSize
    omega
  have hlen : p.length < 2 ^ 31 := by omega
  refine ⟨?_, ?_, (Int32.toNatClampNeg_ofNat_of_lt hlen).symm⟩
  · rw [Int32.lt_iff_toInt_lt, Int32.toInt_ofNat_of_lt hlen, Int32.toInt_zero]
    omega
  · rw [Int32.le_iff_toInt_le, Int32.toInt_ofNat_of_lt hlen]
    exact hle'

/-- **The decoding loop reads a log back**, record for record. -/
theorem decodeRecords_logOf (bufSize : Int32) (ps : List Bytes)
    (hps : ∀ p ∈ ps, Decodable bufSize p) : decodeRecords bufSize (logOf ps) = .ok ps := by
  induction ps with
  | nil => simp [decodeRecords, logOf]
  | cons p ps ih =>
    obtain ⟨hnz, hin, hl⟩ := decodable_header (hps p List.mem_cons_self)
    have hlog : logOf (p :: ps) = (BaseHeader.mk tcpHeaderVersion (Int32.ofNat p.length)).bytes ++
        p ++ u64 tcpTailerFileMark ++ logOf ps := by
      simp [logOf, recordOf, dataRecord]
    rw [hlog, decodeRecords_record bufSize ⟨tcpHeaderVersion, Int32.ofNat p.length⟩ p (logOf ps) rfl
      hnz hin hl,
      ih (fun q hq => hps q (List.mem_cons_of_mem _ hq))]
    rfl

/-! ## 6. The backward scan -/

/-- `flag` occurs at `j` in `file`. -/
def OccursAt (file flag : Bytes) (j : Nat) : Prop := slice file j flag.length = flag

instance (file flag : Bytes) : DecidablePred (OccursAt file flag) :=
  fun j => inferInstanceAs (Decidable (slice file j flag.length = flag))

/-- An occurrence starts with the flag's first byte. -/
theorem occursAt_getElem? {file flag : Bytes} {j : Nat} (h : OccursAt file flag j)
    (hf : 0 < flag.length) : file[j]? = flag.head? := by
  unfold OccursAt at h
  rw [← h, slice, List.head?_take, if_neg (by omega), List.head?_drop]

/-- The scan from `F` makes its `k`-th read over `[F - (k+1)·2^20, F - k·2^20)`; an occurrence
    of a flag of `len` bytes at `j` that lies inside one of them. -/
def InRead (len F j : Nat) : Prop :=
  ∃ k, F - (k + 1) * repairChunk ≤ j ∧ j + len ≤ F - k * repairChunk

theorem repairChunk_eq : repairChunk = 1048576 := rfl

/-- Inside the first read, or inside a read of the scan that starts before it. -/
theorem inRead_cases {len F j : Nat} (h : InRead len F j) :
    (F - repairChunk ≤ j ∧ j + len ≤ F) ∨ InRead len (F - repairChunk) j := by
  obtain ⟨k, h1, h2⟩ := h
  rw [repairChunk_eq] at *
  cases k with
  | zero => exact .inl ⟨by omega, by omega⟩
  | succ k => exact .inr ⟨k, by rw [repairChunk_eq]; omega, by rw [repairChunk_eq]; omega⟩

theorem inRead_prev {len F j : Nat} (h : InRead len (F - repairChunk) j) : InRead len F j := by
  obtain ⟨k, h1, h2⟩ := h
  rw [repairChunk_eq] at *
  exact ⟨k + 1, by rw [repairChunk_eq]; omega, by rw [repairChunk_eq]; omega⟩

theorem inRead_first {len F j : Nat} (h1 : F - repairChunk ≤ j) (h2 : j + len ≤ F) :
    InRead len F j :=
  ⟨0, by simpa using h1, by simpa using h2⟩

/-- **What `q_repair_file`'s scan finds**: from `F` bytes, with enough fuel, it returns the end
    of the last occurrence of the flag that lies inside one of its reads, and 0 when there is
    none. -/
theorem repairScan_spec (file flag : Bytes) (hlen : 0 < flag.length)
    (hC : flag.length ≤ repairChunk) :
    ∀ fuel F, F ≤ fuel → F ≤ file.length →
      (repairScan file flag fuel F = 0 ∧ ∀ j, OccursAt file flag j → ¬ InRead flag.length F j) ∨
      ∃ j, repairScan file flag fuel F = j + flag.length ∧ OccursAt file flag j ∧
        InRead flag.length F j ∧ ∀ j', OccursAt file flag j' → InRead flag.length F j' → j' ≤ j := by
  intro fuel
  induction fuel with
  | zero =>
    intro F hF _
    refine .inl ⟨rfl, fun j _ hj => ?_⟩
    obtain ⟨k, -, h2⟩ := hj
    omega
  | succ fuel ih =>
    intro F hF hFl
    generalize hr : repairScan file flag (fuel + 1) F = r
    simp only [repairScan] at hr
    -- the read is `[start, F)`, `readLen` bytes
    obtain ⟨readLen, hrl⟩ : ∃ readLen, readLen = min repairChunk F := ⟨_, rfl⟩
    rw [← hrl] at hr
    have hstart : F - readLen = F - repairChunk := by omega
    have hbuf : ∀ i, i + flag.length ≤ readLen →
        (slice (slice file (F - readLen) readLen) i flag.length = flag ↔
          OccursAt file flag (F - readLen + i)) := fun i hi => by
      rw [slice_slice _ _ _ hi]
      rfl
    by_cases hsmall : readLen + 1 ≤ flag.length
    · -- `loop_num <= 0`: the file is shorter than the flag
      rw [if_pos hsmall] at hr
      subst hr
      refine .inl ⟨rfl, fun j _ hj => ?_⟩
      obtain ⟨k, -, h2⟩ := hj
      omega
    · rw [if_neg hsmall] at hr
      rcases hfb : Search.findBack (fun i => decide (slice (slice file (F - readLen) readLen) i
          flag.length = flag)) (readLen - flag.length + 1) with _ | i
      · rw [hfb] at hr
        -- no occurrence inside this read
        have hnone : ∀ j, OccursAt file flag j → F - repairChunk ≤ j → j + flag.length ≤ F → False := by
          intro j hj h1 h2
          have hi := Search.findBack_none hfb (j - (F - readLen)) (by omega)
          have hocc := (hbuf (j - (F - readLen)) (by omega)).mpr
            (by rw [Nat.add_sub_cancel' (by omega)]; exact hj)
          simp [hocc] at hi
        simp only at hr
        by_cases h0 : F - readLen = 0
        · rw [if_pos h0] at hr
          subst hr
          refine .inl ⟨rfl, fun j hj hin => ?_⟩
          rcases inRead_cases hin with ⟨h1, h2⟩ | ⟨k, -, h2⟩
          · exact hnone j hj h1 h2
          · rw [repairChunk_eq] at *
            omega
        · -- the scan goes on before this read
          rw [if_neg h0] at hr
          have hnext := ih (F - readLen) (by omega) (by omega)
          rw [hr, hstart] at hnext
          rcases hnext with ⟨hz, hno⟩ | ⟨j, hj, hocc, hin, hmax⟩
          · refine .inl ⟨hz, fun j hj hin => ?_⟩
            rcases inRead_cases hin with ⟨h1, h2⟩ | hin'
            · exact hnone j hj h1 h2
            · exact hno j hj hin'
          · refine .inr ⟨j, hj, hocc, inRead_prev hin, fun j' hj' hin' => ?_⟩
            rcases inRead_cases hin' with ⟨h1, h2⟩ | hin''
            · exact absurd (hnone j' hj' h1 h2) id
            · exact hmax j' hj' hin''
      · rw [hfb] at hr
        simp only at hr
        obtain ⟨hi, hp, hmax⟩ := Search.findBack_some hfb
        have hocc : OccursAt file flag (F - readLen + i) := (hbuf i (by omega)).mp (by simpa using hp)
        refine .inr ⟨F - readLen + i, hr.symm, hocc, inRead_first (by omega) (by omega), ?_⟩
        intro j' hj' hin'
        rcases inRead_cases hin' with ⟨h1, h2⟩ | ⟨k, -, h2⟩
        · -- inside this read: nothing above the one found
          by_contra hgt
          have hq := hmax (j' - (F - readLen)) (by omega) (by omega)
          have hocc' := (hbuf (j' - (F - readLen)) (by omega)).mpr
            (by rw [Nat.add_sub_cancel' (by omega)]; exact hj')
          simp [hocc'] at hq
        · rw [repairChunk_eq] at *
          omega

/-! ## 7. What `q_repair_file` keeps of any file -/

/-- An occurrence of a flag that is not empty lies inside the file. -/
theorem occursAt_le {file flag : Bytes} {j : Nat} (hlen : 0 < flag.length)
    (h : OccursAt file flag j) : j + flag.length ≤ file.length := by
  have hl := congrArg List.length h
  simp only [slice_length] at hl
  omega

/-- The empty file is left as it is, which is also what cutting it anywhere gives. -/
theorem qRepairFile_eq_take (file endFlag : Bytes) :
    qRepairFile file endFlag = file.take (repairScan file endFlag file.length file.length) := by
  unfold qRepairFile
  split
  · simp_all
  · rfl

/-- **What `q_repair_file` keeps of any file**: for a flag of 1 to `1<<20` bytes, the file up to
    the end of the last occurrence of the flag that lies inside one of the scan's reads, or
    nothing when there is none. -/
theorem qRepairFile_cuts_after_last_read_mark (file flag : Bytes) (hlen : 0 < flag.length)
    (hC : flag.length ≤ repairChunk) :
    (qRepairFile file flag = [] ∧ ∀ j, OccursAt file flag j → ¬ InRead flag.length file.length j) ∨
      ∃ j, qRepairFile file flag = file.take (j + flag.length) ∧ OccursAt file flag j ∧
        InRead flag.length file.length j ∧
        ∀ j', OccursAt file flag j' → InRead flag.length file.length j' → j' ≤ j := by
  rw [qRepairFile_eq_take]
  rcases repairScan_spec file flag hlen hC file.length file.length le_rfl le_rfl with
    ⟨hz, hno⟩ | ⟨j, hj, hocc, hin, hmax⟩
  · exact .inl ⟨by rw [hz, List.take_zero], hno⟩
  · exact .inr ⟨j, by rw [hj], hocc, hin, hmax⟩

/-- **A last occurrence across two reads is missed**: when the last occurrence of the flag
    straddles a boundary of the scan's reads, `q_repair_file` cuts the file before its end --
    after an earlier occurrence inside a read, or to nothing. -/
theorem qRepairFile_misses_straddling_mark (file flag : Bytes) (hlen : 0 < flag.length)
    (hC : flag.length ≤ repairChunk) (j : Nat) (hocc : OccursAt file flag j)
    (hstr : ¬ InRead flag.length file.length j) (hlast : ∀ j', OccursAt file flag j' → j' ≤ j) :
    (qRepairFile file flag).length < j + flag.length := by
  rcases qRepairFile_cuts_after_last_read_mark file flag hlen hC with ⟨h0, -⟩ | ⟨i, hi, hocci, hin, -⟩
  · rw [h0, List.length_nil]
    omega
  · -- the occurrence found lies inside a read, so it is an earlier one
    have hlt : i < j := by
      rcases Nat.lt_or_ge i j with h | h
      · exact h
      · obtain rfl : i = j := le_antisymm (hlast i hocci) h
        exact absurd hin hstr
    rw [hi, List.length_take]
    omega

/-- In `01 02` followed by zeros, the flag `01 02` occurs at the start. -/
theorem occursAt_head (n : Nat) : OccursAt ([1, 2] ++ List.replicate n 0) [1, 2] 0 := by
  simp [OccursAt, slice]

/-- ... and only there. -/
theorem occursAt_head_only {n j : Nat} (h : OccursAt ([1, 2] ++ List.replicate n 0) [1, 2] j) :
    j = 0 := by
  have hb := occursAt_getElem? h (by decide)
  rcases j with _ | _ | j
  · rfl
  · simp at hb
  · simp [List.getElem?_replicate] at hb

/-- With `1<<20 - 1` zeros the file has `1<<20 + 1` bytes: the scan reads `[1, 1<<20 + 1)` and
    then `[0, 1)`, and neither holds the two bytes at 0. The zeros' count stays a variable:
    `simp` would unfold a literal one into a million-element list. -/
theorem head_mark_straddles {n : Nat} (hn : n = repairChunk - 1) :
    ¬ InRead [1, 2].length ([1, 2] ++ List.replicate n (0 : UInt8)).length 0 := by
  rintro ⟨k, h1, h2⟩
  rw [List.length_append, List.length_replicate, hn, repairChunk_eq] at h1 h2
  simp only [List.length_cons, List.length_nil] at h1 h2
  omega

/-- The flag `01 02` at the start of a file of `1<<20 + 1` bytes, its only occurrence. -/
theorem qRepairFile_misses_straddling_mark_head :
    (qRepairFile ([1, 2] ++ List.replicate (2 ^ 20 - 1) 0) [1, 2]).length < 0 + [1, 2].length :=
  qRepairFile_misses_straddling_mark _ _ (by decide) (by decide) 0 (occursAt_head _)
    (head_mark_straddles rfl) fun _ h => (occursAt_head_only h).le

/-- **A file of at most `1<<20` bytes** is read at once: `q_repair_file` cuts it after the last
    occurrence of the flag, and to nothing when the flag does not occur. -/
theorem qRepairFile_short_file (file flag : Bytes) (hlen : 0 < flag.length)
    (hC : flag.length ≤ repairChunk) (hF : file.length ≤ repairChunk) :
    (qRepairFile file flag = [] ∧ ∀ j, ¬ OccursAt file flag j) ∨
      ∃ j, qRepairFile file flag = file.take (j + flag.length) ∧ OccursAt file flag j ∧
        ∀ j', OccursAt file flag j' → j' ≤ j := by
  have hin : ∀ j, OccursAt file flag j → InRead flag.length file.length j :=
    fun j hj => inRead_first (by omega) (occursAt_le hlen hj)
  rw [qRepairFile_eq_take]
  rcases repairScan_spec file flag hlen hC file.length file.length le_rfl le_rfl with
    ⟨hz, hno⟩ | ⟨j, hj, hocc, -, hmax⟩
  · exact .inl ⟨by rw [hz, List.take_zero], fun j hj => hno j hj (hin j hj)⟩
  · exact .inr ⟨j, by rw [hj], hocc, fun j' hj' => hmax j' hj' (hin j' hj')⟩

/-- The log of one record is cut after its own mark. -/
theorem qRepairFile_short_file_log :
    (0 < (u64 tcpTailerFileMark).length ∧ (u64 tcpTailerFileMark).length ≤ repairChunk ∧
      (logOf [ascii "abc"]).length ≤ repairChunk) ∧
      ((qRepairFile (logOf [ascii "abc"]) (u64 tcpTailerFileMark) = [] ∧
        ∀ j, ¬ OccursAt (logOf [ascii "abc"]) (u64 tcpTailerFileMark) j) ∨
      ∃ j, qRepairFile (logOf [ascii "abc"]) (u64 tcpTailerFileMark) =
          (logOf [ascii "abc"]).take (j + 8) ∧
        OccursAt (logOf [ascii "abc"]) (u64 tcpTailerFileMark) j ∧
        ∀ j', OccursAt (logOf [ascii "abc"]) (u64 tcpTailerFileMark) j' → j' ≤ j) :=
  ⟨⟨by decide, by decide, by decide⟩,
    qRepairFile_short_file _ (u64 tcpTailerFileMark) (by decide) (by decide) (by decide)⟩

/-- A file that ends in the flag has it at its end. -/
theorem occursAt_end (a flag : Bytes) : OccursAt (a ++ flag) flag a.length := by
  unfold OccursAt
  have h := slice_append_right a flag 0 flag.length
  rw [Nat.add_zero] at h
  rw [h, slice_zero, List.take_length]

/-- A file of at most `1<<20` bytes that ends in the flag is kept whole. -/
theorem qRepairFile_ends_in_flag (a flag : Bytes) (hlen : 0 < flag.length)
    (hF : (a ++ flag).length ≤ repairChunk) : qRepairFile (a ++ flag) flag = a ++ flag := by
  have hend := occursAt_end a flag
  have hC : flag.length ≤ repairChunk := by
    rw [List.length_append] at hF
    omega
  rcases qRepairFile_short_file (a ++ flag) flag hlen hC hF with ⟨-, hno⟩ | ⟨j, hj, hocc, hmax⟩
  · exact absurd hend (hno _)
  · have hge := hmax _ hend
    have hle := occursAt_le hlen hocc
    rw [hj, List.take_of_length_le (by rw [List.length_append] at hle ⊢; omega)]

/-! ## 8. A log cut by a crash -/

/-- The records wholly inside the first `n` bytes of the log of `ps`. -/
def wholeRecords : List Bytes → Nat → List Bytes
  | [], _ => []
  | p :: ps, n =>
    if (recordOf p).length ≤ n then p :: wholeRecords ps (n - (recordOf p).length) else []

/-- The mark occurs in the log only as the tail of a record. -/
def MarkOnlyAtTails (ps : List Bytes) : Prop :=
  ∀ j < (logOf ps).length, OccursAt (logOf ps) (u64 tcpTailerFileMark) j →
    ∃ m < ps.length + 1, 0 < m ∧ j + 8 = (logOf (ps.take m)).length

instance (ps : List Bytes) : Decidable (MarkOnlyAtTails ps) :=
  inferInstanceAs (Decidable (∀ j < (logOf ps).length, OccursAt (logOf ps) (u64 tcpTailerFileMark) j →
    ∃ m < ps.length + 1, 0 < m ∧ j + 8 = (logOf (ps.take m)).length))

theorem wholeRecords_eq_take (ps : List Bytes) (n : Nat) :
    wholeRecords ps n = ps.take (wholeRecords ps n).length := by
  induction ps generalizing n with
  | nil => rfl
  | cons p ps ih =>
    simp only [wholeRecords]
    split_ifs
    · rw [List.length_cons, List.take_succ_cons, ← ih]
    · rfl

theorem mem_wholeRecords {ps : List Bytes} {n : Nat} {p : Bytes} (h : p ∈ wholeRecords ps n) :
    p ∈ ps := by
  rw [wholeRecords_eq_take] at h
  exact List.mem_of_mem_take h

theorem logOf_wholeRecords_le (ps : List Bytes) (n : Nat) :
    (logOf (wholeRecords ps n)).length ≤ n := by
  induction ps generalizing n with
  | nil => exact Nat.zero_le n
  | cons p ps ih =>
    simp only [wholeRecords]
    split_ifs with h
    · have := ih (n - (recordOf p).length)
      simp only [logOf, List.length_append]
      omega
    · exact Nat.zero_le n

/-- Every run of records from the front that fits in `n` bytes is among the whole records. -/
theorem le_wholeRecords {ps : List Bytes} {n m : Nat} (hm : m ≤ ps.length)
    (hfit : (logOf (ps.take m)).length ≤ n) : m ≤ (wholeRecords ps n).length := by
  induction ps generalizing n m with
  | nil =>
    simp only [List.length_nil, wholeRecords] at hm ⊢
    exact hm
  | cons p ps ih =>
    cases m with
    | zero => exact Nat.zero_le _
    | succ m =>
      simp only [List.take_succ_cons, logOf, List.length_append] at hfit
      simp only [wholeRecords, if_pos (show (recordOf p).length ≤ n by omega), List.length_cons]
      have := ih (n := n - (recordOf p).length) (by simpa using hm) (by omega)
      omega

theorem logOf_take_length_mono (ps : List Bytes) {a b : Nat} (h : a ≤ b) :
    (logOf (ps.take a)).length ≤ (logOf (ps.take b)).length := by
  obtain ⟨k, rfl⟩ := Nat.exists_eq_add_of_le h
  rw [List.take_add, logOf_append, List.length_append]
  exact Nat.le_add_right _ _

/-- A log that is not empty ends in the mark. -/
theorem occursAt_tail {W : List Bytes} (hW : W ≠ []) (rest : Bytes) :
    OccursAt (logOf W ++ rest) (u64 tcpTailerFileMark) ((logOf W).length - 8) ∧
      8 ≤ (logOf W).length := by
  obtain ⟨W', p, rfl⟩ := (List.eq_nil_or_concat W).resolve_left hW
  rw [List.concat_eq_append]
  have hsplit : logOf (W' ++ [p]) =
      (logOf W' ++ (BaseHeader.mk tcpHeaderVersion (Int32.ofNat p.length)).bytes ++ p) ++
        u64 tcpTailerFileMark := by
    simp [logOf, recordOf, dataRecord]
  rw [hsplit]
  refine ⟨?_, by simp; omega⟩
  unfold OccursAt
  rw [List.length_append, u64_length, Nat.add_sub_cancel, List.append_assoc]
  have := slice_append_right (logOf W' ++ (BaseHeader.mk tcpHeaderVersion (Int32.ofNat p.length)).bytes ++ p)
    (u64 tcpTailerFileMark ++ rest) 0 8
  rw [Nat.add_zero] at this
  rw [this, slice_append_left _ _ (u64_length _).symm]

/-- An occurrence in the cut file is one in the log, inside the cut. -/
theorem occursAt_take {log flag : Bytes} (hf : 0 < flag.length) {n j : Nat}
    (h : OccursAt (log.take n) flag j) :
    OccursAt log flag j ∧ j + flag.length ≤ (log.take n).length := by
  have hlen : j + flag.length ≤ (log.take n).length := by
    have := congrArg List.length h
    rw [slice_length] at this
    omega
  refine ⟨?_, hlen⟩
  have hle : j + flag.length ≤ n := by
    rw [List.length_take] at hlen
    omega
  unfold OccursAt at h ⊢
  rw [← slice_take log hle]
  exact h

/-- An occurrence of the mark in a crash prefix of a log where the mark is only at the records'
    tails ends a run of whole records. -/
theorem occursAt_crash_tail {ps : List Bytes} (hmark : MarkOnlyAtTails ps) {n j : Nat}
    (h : OccursAt ((logOf ps).take n) (u64 tcpTailerFileMark) j) :
    ∃ m ≤ (wholeRecords ps n).length, 0 < m ∧ j + 8 = (logOf (ps.take m)).length := by
  obtain ⟨hj, hjP⟩ := occursAt_take (by simp) h
  rw [u64_length, List.length_take] at hjP
  obtain ⟨m, hm, hm0, hjm⟩ := hmark j (by omega) hj
  exact ⟨m, le_wholeRecords (by omega) (by omega), hm0, hjm⟩

/-- The crash prefix cut at the end of a run of whole records is their log. -/
theorem take_crash_prefix {ps : List Bytes} {n m : Nat} (hm : m ≤ (wholeRecords ps n).length) :
    ((logOf ps).take n).take (logOf (ps.take m)).length = logOf ((wholeRecords ps n).take m) := by
  have hW := wholeRecords_eq_take ps n
  have hpre : (wholeRecords ps n).take m = ps.take m := by
    rw [hW, List.take_take, Nat.min_eq_left hm]
  have hle : (logOf (ps.take m)).length ≤ n := by
    have hmono := logOf_take_length_mono ps hm
    rw [← hW] at hmono
    exact hmono.trans (logOf_wholeRecords_le ps n)
  have hlog : logOf ps = logOf (ps.take m) ++ logOf (ps.drop m) := by
    conv_lhs => rw [← List.take_append_drop m ps]
    rw [logOf_append]
  rw [hpre, List.take_take, Nat.min_eq_left hle, hlog, List.take_left]

/-- The tail of the last whole record is an occurrence in the crash prefix. -/
theorem occursAt_last_tail {ps : List Bytes} {n : Nat} (hW : wholeRecords ps n ≠ []) :
    OccursAt ((logOf ps).take n) (u64 tcpTailerFileMark) ((logOf (wholeRecords ps n)).length - 8) ∧
      8 ≤ (logOf (wholeRecords ps n)).length := by
  have hWt := wholeRecords_eq_take ps n
  have hlog : logOf ps = logOf (wholeRecords ps n) ++ logOf (ps.drop (wholeRecords ps n).length) := by
    conv_lhs => rw [← List.take_append_drop (wholeRecords ps n).length ps]
    rw [logOf_append, ← hWt]
  obtain ⟨hocc, h8⟩ := occursAt_tail hW (logOf (ps.drop (wholeRecords ps n).length))
  rw [← hlog] at hocc
  refine ⟨?_, h8⟩
  have hE := logOf_wholeRecords_le ps n
  unfold OccursAt at hocc ⊢
  rw [slice_take _ (by rw [u64_length]; omega)]
  exact hocc

/-- **Repair and decoding after a crash.** Take the log of payloads the decoding loop takes, in
    which the mark occurs only as the records' tails, cut after any `n` bytes. When the tail of
    the last record wholly inside the cut lies inside one read of `q_repair_file`'s scan,
    repairing and then decoding gives back exactly the records wholly inside the cut, in order. -/
theorem dataFile_recovers_whole_records (bufSize : Int32) (ps : List Bytes)
    (hps : ∀ p ∈ ps, Decodable bufSize p) (hmark : MarkOnlyAtTails ps) (n : Nat)
    (hread : wholeRecords ps n ≠ [] →
      InRead 8 ((logOf ps).take n).length ((logOf (wholeRecords ps n)).length - 8)) :
    decodeRecords bufSize (qRepairFile ((logOf ps).take n) (u64 tcpTailerFileMark)) =
      .ok (wholeRecords ps n) := by
  have hWt := wholeRecords_eq_take ps n
  have hrep : qRepairFile ((logOf ps).take n) (u64 tcpTailerFileMark) =
      logOf (wholeRecords ps n) := by
    rcases qRepairFile_cuts_after_last_read_mark ((logOf ps).take n) (u64 tcpTailerFileMark)
        (by simp) (by rw [u64_length, repairChunk_eq]; omega) with
      ⟨h0, hno⟩ | ⟨j, hj, hocc, -, hmax⟩
    · -- no mark inside a read: no record is whole
      have hW : wholeRecords ps n = [] := by
        by_contra hW
        exact hno _ (occursAt_last_tail hW).1 (hread hW)
      rw [h0, hW]
      rfl
    · -- the mark found ends a run of whole records, and none ends after the last one's tail
      obtain ⟨m, hm, hm0, hjm⟩ := occursAt_crash_tail hmark hocc
      have hW : wholeRecords ps n ≠ [] := by
        intro h
        rw [h, List.length_nil] at hm
        omega
      obtain ⟨htocc, h8⟩ := occursAt_last_tail hW
      have hle := hmax _ htocc (hread hW)
      have hge : j + 8 ≤ (logOf (wholeRecords ps n)).length := by
        have hmono := logOf_take_length_mono ps hm
        rw [← hWt] at hmono
        omega
      have hcut := take_crash_prefix (le_refl (wholeRecords ps n).length)
      rw [← hWt, List.take_length] at hcut
      rw [hj, u64_length, show j + 8 = (logOf (wholeRecords ps n)).length by omega, hcut]
  rw [hrep]
  exact decodeRecords_logOf bufSize _ fun p hp => hps p (mem_wholeRecords hp)

/-- Two payloads, cut by a crash inside the second record: the first comes back. -/
example :
    wholeRecords [ascii "abc", ascii "hello"] 40 = [ascii "abc"] ∧
      decodeRecords tcpDefaultBufferSize
        (qRepairFile ((logOf [ascii "abc", ascii "hello"]).take 40) (u64 tcpTailerFileMark)) =
        .ok (wholeRecords [ascii "abc", ascii "hello"] 40) :=
  ⟨by decide, dataFile_recovers_whole_records tcpDefaultBufferSize _ (by decide) (by decide) 40
    (fun _ => ⟨0, by decide, by decide⟩)⟩

/-- **A payload that ends in the mark.** Cut by a crash after its header and payload, before its
    own tail, the log of such a payload holds no whole record; yet in a file of at most a
    megabyte `q_repair_file` keeps it all, up to the mark inside the payload, and the decoding
    loop then finds nothing where the record's tail belongs (`-5`). -/
theorem markInPayload_breaks_log (bufSize : Int32) (q : Bytes)
    (hp : Decodable bufSize (q ++ u64 tcpTailerFileMark))
    (hsmall : sizeofBaseHeader + (q ++ u64 tcpTailerFileMark).length ≤ repairChunk) :
    wholeRecords [q ++ u64 tcpTailerFileMark]
        (sizeofBaseHeader + (q ++ u64 tcpTailerFileMark).length) = [] ∧
      decodeRecords bufSize (qRepairFile ((logOf [q ++ u64 tcpTailerFileMark]).take
        (sizeofBaseHeader + (q ++ u64 tcpTailerFileMark).length)) (u64 tcpTailerFileMark)) =
        .error (-5) := by
  obtain ⟨hpos, hle, hl⟩ := decodable_header hp
  -- the cut file is the header and the payload
  have hcut : (logOf [q ++ u64 tcpTailerFileMark]).take
      (sizeofBaseHeader + (q ++ u64 tcpTailerFileMark).length) =
      (BaseHeader.mk tcpHeaderVersion (Int32.ofNat (q ++ u64 tcpTailerFileMark).length)).bytes ++
        (q ++ u64 tcpTailerFileMark) := by
    simp only [logOf, recordOf, dataRecord, List.append_nil]
    exact List.take_left' (by simp)
  -- which ends in the mark, so `q_repair_file` keeps it whole
  have hkept := qRepairFile_ends_in_flag
    ((BaseHeader.mk tcpHeaderVersion (Int32.ofNat (q ++ u64 tcpTailerFileMark).length)).bytes ++ q)
    (u64 tcpTailerFileMark) (by simp) (by simpa [sizeofBaseHeader] using hsmall)
  rw [List.append_assoc] at hkept
  refine ⟨?_, ?_⟩
  · simp only [wholeRecords, recordOf_length, sizeofBaseHeader]
    rw [if_neg (by omega)]
  · rw [hcut, hkept]
    exact decodeRecords_untailed bufSize _ _ rfl hpos hle hl

/-- The payload `"@#@#@#@#"`, cut after its 20 first bytes. -/
example :
    wholeRecords [ascii "@#@#@#@#"] 20 = [] ∧
      decodeRecords tcpDefaultBufferSize
        (qRepairFile ((logOf [ascii "@#@#@#@#"]).take 20) (u64 tcpTailerFileMark)) = .error (-5) :=
  markInPayload_breaks_log tcpDefaultBufferSize [] (by decide) (by decide)

/-! ## 9. A last tail across two reads -/

/-- **A last tail across two reads loses records.** Take the log of payloads the decoding loop
    takes, in which the mark occurs only as the records' tails, cut after any `n` bytes. When the
    tail of the last record wholly inside the cut straddles two reads of `q_repair_file`'s scan,
    the repair cuts before it, and decoding gives back only a proper prefix of the records wholly
    inside the cut. -/
theorem dataFile_drops_straddling_record (bufSize : Int32) (ps : List Bytes)
    (hps : ∀ p ∈ ps, Decodable bufSize p) (hmark : MarkOnlyAtTails ps) (n : Nat)
    (hW : wholeRecords ps n ≠ [])
    (hstr : ¬ InRead 8 ((logOf ps).take n).length ((logOf (wholeRecords ps n)).length - 8)) :
    ∃ m < (wholeRecords ps n).length,
      decodeRecords bufSize (qRepairFile ((logOf ps).take n) (u64 tcpTailerFileMark)) =
        .ok ((wholeRecords ps n).take m) := by
  have hWt := wholeRecords_eq_take ps n
  obtain ⟨m, hm, hrep⟩ : ∃ m < (wholeRecords ps n).length,
      qRepairFile ((logOf ps).take n) (u64 tcpTailerFileMark) =
        logOf ((wholeRecords ps n).take m) := by
    rcases qRepairFile_cuts_after_last_read_mark ((logOf ps).take n) (u64 tcpTailerFileMark)
        (by simp) (by rw [u64_length, repairChunk_eq]; omega) with
      ⟨h0, -⟩ | ⟨j, hj, hocc, hin, -⟩
    · -- no mark inside a read: nothing is kept
      exact ⟨0, List.length_pos_of_ne_nil hW, by rw [h0, List.take_zero]; rfl⟩
    · -- the mark found ends a run of whole records, and it is not the last one's tail
      obtain ⟨m, hm, -, hjm⟩ := occursAt_crash_tail hmark hocc
      have hne : m ≠ (wholeRecords ps n).length := by
        rintro rfl
        rw [← hWt] at hjm
        rw [u64_length] at hin
        exact hstr (by rw [show (logOf (wholeRecords ps n)).length - 8 = j by omega]; exact hin)
      refine ⟨m, lt_of_le_of_ne hm hne, ?_⟩
      rw [hj, u64_length, hjm, take_crash_prefix hm]
  refine ⟨m, hm, ?_⟩
  rw [hrep]
  exact decodeRecords_logOf bufSize _ fun p hp => hps p (mem_wholeRecords (List.mem_of_mem_take hp))

section Zeros

/-! The payloads `00` and a megabyte of zeros, cut 17 bytes past the first megabyte. Their
    number `N` stays a variable: `simp` would unfold a literal one into a million-element list. -/

variable {N : Nat}

/-- Both payloads fit the default buffer of the send thread. -/
theorem decodable_zeros (hN : N = 2 ^ 20) :
    ∀ p ∈ [[0], List.replicate N 0], Decodable tcpDefaultBufferSize p := by
  intro p hp
  simp only [List.mem_cons, List.not_mem_nil, or_false] at hp
  rcases hp with rfl | rfl
  · decide
  · rw [Decodable, List.length_replicate, hN]
    decide

/-- The log is the first record and the second's header (33 bytes), the zeros, and the mark. -/
theorem logOf_zeros :
    logOf [[0], List.replicate N 0] =
      (recordOf [0] ++ (BaseHeader.mk tcpHeaderVersion (Int32.ofNat N)).bytes) ++
        (List.replicate N 0 ++ u64 tcpTailerFileMark) := by
  simp [logOf, recordOf, dataRecord]

theorem logOf_zeros_length : (logOf [[0], List.replicate N 0]).length = N + 41 := by
  rw [logOf_zeros]
  simp [recordOf, dataRecord, sizeofBaseHeader]
  omega

/-- The first 33 bytes and eight zeros hold the mark at 13 only. -/
theorem occursAt_zeros_head (hN : N = 2 ^ 20) :
    ∀ j < 33, OccursAt ((recordOf [0] ++ (BaseHeader.mk tcpHeaderVersion (Int32.ofNat N)).bytes) ++
      List.replicate 8 0) (u64 tcpTailerFileMark) j → j = 13 := by
  rw [hN]
  decide

/-- **The mark occurs in the log only as the two tails.** -/
theorem markOnlyAtTails_zeros (hN : N = 2 ^ 20) : MarkOnlyAtTails [[0], List.replicate N 0] := by
  have hA : (recordOf [0] ++ (BaseHeader.mk tcpHeaderVersion (Int32.ofNat N)).bytes).length = 33 := by
    simp [recordOf, dataRecord, sizeofBaseHeader]
  intro j _ hocc
  have hend := occursAt_le (by simp) hocc
  rw [u64_length, logOf_zeros_length] at hend
  rw [logOf_zeros] at hocc
  by_cases hj : j < 33
  · -- inside the first 41 bytes, which the finite check covers
    have hsplit : List.replicate N (0 : UInt8) = List.replicate 8 0 ++ List.replicate (N - 8) 0 := by
      rw [← List.replicate_add]
      congr 1
      omega
    have hlog : (recordOf [0] ++ (BaseHeader.mk tcpHeaderVersion (Int32.ofNat N)).bytes) ++
        (List.replicate N 0 ++ u64 tcpTailerFileMark) =
        ((recordOf [0] ++ (BaseHeader.mk tcpHeaderVersion (Int32.ofNat N)).bytes) ++
          List.replicate 8 0) ++ (List.replicate (N - 8) 0 ++ u64 tcpTailerFileMark) := by
      rw [hsplit]
      simp only [List.append_assoc]
    have hfirst : OccursAt ((recordOf [0] ++ (BaseHeader.mk tcpHeaderVersion (Int32.ofNat N)).bytes) ++
        List.replicate 8 0) (u64 tcpTailerFileMark) j := by
      unfold OccursAt at hocc ⊢
      rwa [hlog, slice_append_inside _ _ (by rw [List.length_append, hA, u64_length]; simp; omega)]
        at hocc
    obtain rfl := occursAt_zeros_head hN j hj hfirst
    exact ⟨1, by simp, by simp, by simp [logOf, recordOf, dataRecord, sizeofBaseHeader]⟩
  · by_cases hz : j < 33 + N
    · -- a zero byte where the mark begins with `'@'`
      exfalso
      have hb := occursAt_getElem? hocc (by simp)
      rw [List.getElem?_append_right (by omega), hA, List.getElem?_append_left (by simp; omega),
        List.getElem?_replicate, if_pos (by omega), u64_tcpTailerFileMark] at hb
      exact absurd hb (by decide)
    · -- the tail of the second record
      exact ⟨2, by simp, by simp, by
        rw [List.take_of_length_le (by simp), logOf_zeros_length]
        omega⟩

theorem wholeRecords_zeros (hN : N = 2 ^ 20) :
    wholeRecords [[0], List.replicate N 0] (N + 17) = [[0]] := by
  simp only [wholeRecords, recordOf_length, List.length_singleton, List.length_replicate]
  rw [if_pos (by omega), if_neg (by omega)]

/-- The first record's tail, at `[13, 21)`, straddles the first read, `[17, 1<<20 + 17)`. -/
theorem zeros_tail_straddles (hN : N = 2 ^ 20) :
    ¬ InRead 8 ((logOf [[0], List.replicate N 0]).take (N + 17)).length
      ((logOf (wholeRecords [[0], List.replicate N 0] (N + 17))).length - 8) := by
  rw [wholeRecords_zeros hN, List.length_take, logOf_zeros_length]
  have hone : (logOf [[0]]).length = 21 := by decide
  rw [hone]
  rintro ⟨k, h1, h2⟩
  rw [hN, repairChunk_eq] at h1 h2
  omega

end Zeros

/-- The payloads `00` and a megabyte of zeros, cut 17 bytes past the first megabyte: the first
    record is whole, and none comes back. -/
theorem dataFile_drops_straddling_record_zeros :
    ∃ m < (wholeRecords [[0], List.replicate (2 ^ 20) 0] (2 ^ 20 + 17)).length,
      decodeRecords tcpDefaultBufferSize
        (qRepairFile ((logOf [[0], List.replicate (2 ^ 20) 0]).take (2 ^ 20 + 17))
          (u64 tcpTailerFileMark)) =
        .ok ((wholeRecords [[0], List.replicate (2 ^ 20) 0] (2 ^ 20 + 17)).take m) :=
  dataFile_drops_straddling_record tcpDefaultBufferSize [[0], List.replicate (2 ^ 20) 0]
    (decodable_zeros rfl) (markOnlyAtTails_zeros rfl) (2 ^ 20 + 17)
    (by rw [wholeRecords_zeros rfl]; simp) (zeros_tail_straddles rfl)

end ImageDfs
