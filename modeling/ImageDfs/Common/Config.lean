/-
  File:      ImageDfs/Common/Config.lean
  Subject:   THE CONFIGURATION READER: `QConfigReader::getFieldString` (qconfigreader.h) on any
             file text, read the way its loop reads it: `fgets` into a `BUFSIZ_1K` buffer, one
             piece of at most 1023 bytes at a time.

  Every piece goes through the same test: its first `strlen(pFieldName)` bytes are the field name
  up to case, `cancelEnter` cuts the trailing spaces, CRs and LFs, then come spaces, `'='`, spaces
  and the value. The first piece that passes gives the value.

  * `fieldValue`, `getFieldString`, `getFieldStringDup` -- the test of one piece, the sized
    version and the `char*&` version;
  * `lineValue`, `configValue` -- what the reader is meant to return: the value of the first
    whole line that sets the field;
  * `fieldValue_eq_lineValue` -- on a piece without a NUL the code's test is `lineValue`;
  * `getFieldString_reads_line_tail` -- a line of 1023 bytes or more is cut, and the rest of it
    is tested as a line of its own;
  * `getFieldString_of_fitting_lines` -- when every line fits the buffer, both versions return
    `configValue`.
-/
import ImageDfs.Basic
import ImageDfs.Lib.Lines

namespace ImageDfs

/-! ## 1. The model -/

/-- `BUFSIZ_1K` (qglobal.h): the size of `readBuf`, and of the callers' value buffers. -/
def bufsiz1K : Nat := 1024

/-- `tolower` in the C locale. -/
def toLower (c : UInt8) : UInt8 := if 65 ≤ c ∧ c ≤ 90 then c + 32 else c

/-- `strncasecmp(a, b, n) == 0` on C strings: the first `n` bytes agree up to case, or both
    strings end together before. -/
def strncasecmpEq (a b : Bytes) (n : Nat) : Bool :=
  ((cstr a).take n).map toLower == ((cstr b).take n).map toLower

/-- A byte `cancelEnter` removes from the end: `0x20`, `0x0D` or `0x0A`. -/
def isEnter (c : UInt8) : Bool := c == 0x20 || c == 0x0D || c == 0x0A

/-- `cancelEnter(pBuffer, bufferLength)`: the buffer without its trailing spaces, CRs and LFs
    (the function stores a NUL after them and returns the length left). -/
def cancelEnter (b : Bytes) : Bytes := b.rdropWhile isEnter

/-- The test one piece `readBuf` goes through in the loop of `getFieldString`: the value from
    `p1` to `p2`, or `none` where the loop `continue`s. Past the trimmed line `readBuf` holds the
    NUL `cancelEnter` stored and the bytes it cut, none of them `'='`. -/
def fieldValue (name readBuf : Bytes) : Option Bytes :=
  if !strncasecmpEq readBuf name name.length then none
  else
    let line := cancelEnter (cstr readBuf)
    if line.length = 0 then none
    else
      match (line.drop name.length).dropWhile (· == 0x20) with
      | c :: rest => if c = 0x3D then some (rest.dropWhile (· == 0x20)) else none
      | [] => none

/-- What successive `fgets(readBuf, BUFSIZ_1K, fp)` calls copy from the start of the file
    (`fseek(fp, 0, SEEK_SET)`): up to and including a `'\n'`, at most 1023 bytes. -/
def configPieces (file : Bytes) : List Bytes := Lines.chunks 0x0A (bufsiz1K - 2) file

/-- **`getFieldString(pFieldName, pFieldValue, fieldValueSize)`** on an open file, for a field
    name shorter than `2^31` bytes: the code returned and the C string left in `pFieldValue`
    (the empty one when the function returns before writing it: the callers' buffers are
    zeroed). -/
def getFieldString (name file : Bytes) (fieldValueSize : Int32) : Int32 × Bytes :=
  if fieldValueSize ≤ 0 then (-1, [])
  else if name.length = 0 then (-1, [])
  else
    match (configPieces file).findSome? (fieldValue name) with
    | none => (-1, [])
    | some v =>
      if Int32.ofNat v.length > fieldValueSize then (-1, []) else (Int32.ofNat v.length, v)

/-- `getFieldString(pFieldName, char*& pFieldValue)`: the code returned and the copy `q_strdup`
    makes of the value (`q_strdup` succeeds). -/
def getFieldStringDup (name file : Bytes) : Int32 × Option Bytes :=
  if name.length = 0 then (-1, none)
  else
    match (configPieces file).findSome? (fieldValue name) with
    | none => (-1, none)
    | some v => (Int32.ofNat v.length, some v)

/-! ## 2. What the reader is meant to return -/

/-- The value a whole line gives for the field `name`: the line starts with the name up to case,
    then spaces and `'='`; the value is the rest, without the spaces after `'='` and without the
    trailing spaces, CRs and LFs. -/
def lineValue (name line : Bytes) : Option Bytes :=
  if (line.take name.length).map toLower = name.map toLower then
    match (line.drop name.length).dropWhile (· == 0x20) with
    | c :: rest =>
      if c = 0x3D then some ((rest.dropWhile (· == 0x20)).rdropWhile isEnter) else none
    | [] => none
  else none

/-- The lines of the file, each with its `'\n'`. -/
def configLines (file : Bytes) : List Bytes := Lines.lines 0x0A file

/-- The value of the first line of the file that sets the field `name`. -/
def configValue (name file : Bytes) : Option Bytes := (configLines file).findSome? (lineValue name)

/-! ## 3. The test of one piece -/

/-- A line whose trimmed text is empty sets no field: its bytes are spaces, CRs and LFs, none of
    them `'='`. -/
theorem lineValue_of_enters {name l : Bytes} (hl : l.rdropWhile isEnter = []) :
    lineValue name l = none := by
  have hall := List.rdropWhile_eq_nil_iff.mp hl
  unfold lineValue
  split
  · split
    · rename_i c rest hcr
      have hc : c ∈ l := (List.drop_sublist _ _).subset
        ((List.dropWhile_suffix _).subset (hcr ▸ List.mem_cons_self))
      have henter := hall c hc
      rw [if_neg]
      rintro rfl
      exact absurd henter (by decide)
    · rfl
  · rfl

/-- **On a piece without a NUL the code's test is `lineValue`**: `cancelEnter` trims the piece
    before the name is skipped, `lineValue` trims the value after `'='`, and both come to the
    same. -/
theorem fieldValue_eq_lineValue (name readBuf : Bytes) (hname : 0 ∉ name) (hbuf : 0 ∉ readBuf) :
    fieldValue name readBuf = lineValue name readBuf := by
  have hc : cstr readBuf = readBuf := cstr_of_forall fun c hc h0 => hbuf (h0 ▸ hc)
  have hn : cstr name = name := cstr_of_forall fun c hc h0 => hname (h0 ▸ hc)
  have hsp : ∀ a : UInt8, (a == 0x20) = true → isEnter a = true := by
    intro a ha
    rw [beq_iff_eq] at ha
    subst ha
    rfl
  by_cases hpre : (readBuf.take name.length).map toLower = name.map toLower
  · have htest : strncasecmpEq readBuf name name.length = true := by
      rw [strncasecmpEq, hc, hn, List.take_length, hpre, beq_self_eq_true]
    by_cases hemp : (readBuf.rdropWhile isEnter).length = 0
    · rw [lineValue_of_enters (List.length_eq_zero_iff.mp hemp), fieldValue, htest]
      simp only [hc, cancelEnter, hemp, Bool.not_true, Bool.false_eq_true, if_false, if_true]
    · rw [fieldValue, htest, lineValue, if_pos hpre]
      simp only [hc, cancelEnter, hemp, Bool.not_true, Bool.false_eq_true, if_false]
      rw [Lines.rdropWhile_drop, Lines.rdropWhile_dropWhile hsp]
      -- the bytes after the name and its spaces: `'='` first, or no value
      cases (readBuf.drop name.length).dropWhile (· == 0x20) with
      | nil => rfl
      | cons c rest =>
        rw [Lines.rdropWhile_cons]
        by_cases hc61 : c = 0x3D
        · subst hc61
          rw [if_neg fun h => absurd h.1 (by decide)]
          dsimp only
          rw [if_pos rfl, if_pos rfl, Lines.rdropWhile_dropWhile hsp]
        · by_cases hx : isEnter c = true ∧ rest.rdropWhile isEnter = []
          · rw [if_pos hx]
            dsimp only
            rw [if_neg hc61]
          · rw [if_neg hx]
            dsimp only
            rw [if_neg hc61, if_neg hc61]
  · have htest : strncasecmpEq readBuf name name.length = false := by
      rw [strncasecmpEq, hc, hn, List.take_length]
      exact beq_eq_false_iff_ne.mpr hpre
    rw [fieldValue, htest, lineValue, if_neg hpre]
    rfl

/-- A value lies inside its line, after the name and the `'='`. -/
theorem lineValue_length {name line v : Bytes} (h : lineValue name line = some v) :
    v.length + name.length + 1 ≤ line.length := by
  unfold lineValue at h
  split at h
  · rename_i hpre
    have hname : name.length ≤ line.length := by
      have := congrArg List.length hpre
      simp only [List.length_map, List.length_take] at this
      omega
    split at h
    · rename_i c rest hcr
      split at h
      · cases h
        have hrest : (c :: rest).length ≤ (line.drop name.length).length :=
          hcr ▸ (List.dropWhile_suffix _).length_le
        have hv : ((rest.dropWhile (· == 0x20)).rdropWhile isEnter).length ≤ rest.length :=
          (List.rdropWhile_prefix _ _).length_le.trans (List.dropWhile_suffix _).length_le
        simp only [List.length_drop, List.length_cons] at hrest
        omega
      · cases h
    · cases h
  · cases h

/-! ## 4. The loop over the pieces -/

/-- **A line of 1023 bytes or more is cut**: `fgets` returns its first 1023 bytes, and when they
    do not set the field the loop goes on in the middle of the line, testing the rest of it as a
    line of its own. -/
theorem getFieldString_reads_line_tail (name pre rest : Bytes) (size : Int32)
    (hpre : pre.length = 1023) (hnl : 0x0A ∉ pre) (hmiss : fieldValue name pre = none) :
    getFieldString name (pre ++ rest) size = getFieldString name rest size ∧
      getFieldStringDup name (pre ++ rest) = getFieldStringDup name rest := by
  have hpieces : (configPieces (pre ++ rest)).findSome? (fieldValue name) =
      (configPieces rest).findSome? (fieldValue name) := by
    rw [configPieces, show bufsiz1K - 2 = 1022 from rfl, Lines.chunks_cons_of_long 0x0A hnl hpre,
      List.findSome?_cons, hmiss]
    rfl
  exact ⟨by rw [getFieldString, getFieldString, hpieces],
    by rw [getFieldStringDup, getFieldStringDup, hpieces]⟩

/-- A comment of 1023 bytes followed on the same line by `log-size=5`: the reader returns the
    value, although the only line of the file starts with `#`. -/
theorem getFieldString_reads_line_tail_comment :
    getFieldString (ascii "log-size") (ascii "#" ++ List.replicate 1022 0x78 ++ ascii "log-size=5\n")
        1024 = (1, ascii "5") ∧
      configValue (ascii "log-size")
        (ascii "#" ++ List.replicate 1022 0x78 ++ ascii "log-size=5\n") = none :=
  ⟨((getFieldString_reads_line_tail (ascii "log-size") (ascii "#" ++ List.replicate 1022 0x78)
      (ascii "log-size=5\n") 1024 (by rw [List.length_append, List.length_replicate]; rfl)
      (by
        rw [List.mem_append, not_or]
        exact ⟨by decide, fun h => absurd (List.eq_of_mem_replicate h) (by decide)⟩)
      (by decide)).1).trans (by decide),
    by decide +kernel⟩

/-- **When every line fits the buffer the reader returns the value of the first line that sets
    the field**, in both versions; the sized one, with the callers' `BUFSIZ_1K` buffer, never
    finds the value too long. -/
theorem getFieldString_of_fitting_lines (name file : Bytes) (hname : name ≠ [])
    (hname0 : 0 ∉ name) (hfile : 0 ∉ file) (hfit : ∀ l ∈ configLines file, l.length ≤ 1023) :
    getFieldString name file 1024 =
        (match configValue name file with
          | none => (-1, [])
          | some v => (Int32.ofNat v.length, v)) ∧
      getFieldStringDup name file =
        (match configValue name file with
          | none => (-1, none)
          | some v => (Int32.ofNat v.length, some v)) := by
  have hpieces : (configPieces file).findSome? (fieldValue name) = configValue name file := by
    rw [configPieces, show bufsiz1K - 2 = 1022 from rfl, Lines.chunks_eq_lines 0x0A 1022 file hfit,
      configValue, configLines]
    exact Lines.findSome_congr fun l hl => fieldValue_eq_lineValue name l hname0
      fun h0 => hfile (Lines.mem_of_mem_chunks 0x0A _ file hl h0)
  have hlen : name.length ≠ 0 := fun h => hname (List.length_eq_zero_iff.mp h)
  refine ⟨?_, ?_⟩
  · rw [getFieldString, if_neg (by decide), if_neg hlen, hpieces]
    cases hv : configValue name file with
    | none => rfl
    | some v =>
      obtain ⟨l, hl, hlv⟩ := List.exists_of_findSome?_eq_some hv
      have hinside := lineValue_length hlv
      have hl' := hfit l hl
      have hnot : ¬ Int32.ofNat v.length > 1024 := by
        rw [gt_iff_lt, Int32.lt_iff_toInt_lt, Int32.toInt_ofNat_of_lt (by omega)]
        show ¬ (1024 : Int) < v.length
        omega
      dsimp only
      rw [if_neg hnot]
  · rw [getFieldStringDup, if_neg hlen, hpieces]

/-- Two fields with a common prefix, on CRLF lines: `log-size` skips `log-screen` and gets `5`. -/
theorem getFieldString_of_fitting_lines_crlf :
    getFieldString (ascii "log-size") (ascii "log-screen=yes\r\nlog-size = 5 \r\n") 1024 =
        (match configValue (ascii "log-size") (ascii "log-screen=yes\r\nlog-size = 5 \r\n") with
          | none => (-1, [])
          | some v => (Int32.ofNat v.length, v)) ∧
      getFieldStringDup (ascii "log-size") (ascii "log-screen=yes\r\nlog-size = 5 \r\n") =
        (match configValue (ascii "log-size") (ascii "log-screen=yes\r\nlog-size = 5 \r\n") with
          | none => (-1, none)
          | some v => (Int32.ofNat v.length, some v)) :=
  getFieldString_of_fitting_lines (ascii "log-size") (ascii "log-screen=yes\r\nlog-size = 5 \r\n")
    (by decide) (by decide) (by decide) (by decide)

example : configValue (ascii "log-size") (ascii "log-screen=yes\r\nlog-size = 5 \r\n") =
    some (ascii "5") := by decide

end ImageDfs
