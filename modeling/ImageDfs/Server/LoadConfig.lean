/-
  File:      ImageDfs/Server/LoadConfig.lean
  Subject:   READING THE SERVER'S CONFIGURATION: the typed getters of `QConfigReader`
             (qconfigreader.h), `QTcpServer::load_server_config` (qtcpsocket.cc) and the reads at
             the start of `IDFSServer::initialize` (idfsserver.cc), on one configuration file.

  Every getter reads the value with `getFieldString` into a `BUFSIZ_1K` buffer, fails when it is
  empty, and converts it with the C library: `atoi` for an `int32_t`, `(uint16_t)atoi` for a port,
  `strcasecmp` with `"yes"` and `"no"`, `atol` three times for a time. `load_server_config` makes
  24 reads in a row and returns `TCP_ERR` at the first that fails:

  * `getFieldStringTo`, `getFieldInt32`, `getFieldUint16`, `getFieldYesNo`, `getFieldTime` -- the
    getters, with the member they set passed in and returned;
  * `runReads`, `loadServerConfig`, `readInitCnf` -- the reads of the two readers;
  * `configText`, `Writable` -- a file written one field per line, `name = value`, and what its
    fields need to be read back; `getFieldString_configText` -- each field is;
  * `configFile_round_trip` -- such a file with the members of `QTcpServer` and the five values of
    `IDFSServer` in it: `load_server_config` returns `TCP_OK` with exactly the members written,
    and `initialize` gets its five values;
  * `getFieldInt32_accepts_text` -- a value that is no number reads as 0, without an error;
  * `getFieldUint16_wraps` -- a port above 65535 is taken modulo 65536;
  * `getFieldTime_reads_minute_twice` -- the seconds of `H:M:S` are never read: the second
    `strchr` searches from the start again, and the minute is counted twice.
-/
import ImageDfs.Server.Initialize
import ImageDfs.Common.Config
import ImageDfs.Lib.Strtol

namespace ImageDfs

/-! ## 1. The getters -/

/-- `strcasecmp(a, b) == 0` on C strings. -/
def strcasecmpEq (a b : Bytes) : Bool := (cstr a).map toLower == (cstr b).map toLower

/-- `getFieldString(pFieldName, char*& pFieldValue)` on the member `pFieldValue`: replaced by the
    copy of the value when there is one, left as it was otherwise. -/
def getFieldStringTo (name file : Bytes) (pFieldValue : Option Bytes) : Int32 × Option Bytes :=
  let r := getFieldStringDup name file
  (r.1, r.2.or pFieldValue)

/-- `getFieldInt32(pFieldName, fieldValue)`: the code, and `fieldValue` afterwards. -/
def getFieldInt32 (name file : Bytes) (fieldValue : Int32) : Int32 × Int32 :=
  let r := getFieldString name file (Int32.ofNat bufsiz1K)
  if r.1 ≤ 0 then (-1, fieldValue) else (0, Strtol.atoi r.2)

/-- `getFieldUint16(pFieldName, fieldValue)`: `(uint16_t)atoi(s)`, the low 16 bits. -/
def getFieldUint16 (name file : Bytes) (fieldValue : UInt16) : Int32 × UInt16 :=
  let r := getFieldString name file (Int32.ofNat bufsiz1K)
  if r.1 ≤ 0 then (-1, fieldValue) else (0, UInt16.ofInt (Strtol.atoi r.2).toInt)

/-- `getFieldYesNo(pFieldName, fieldValue)`: 1 for `yes` and 0 for `no`, in any case. -/
def getFieldYesNo (name file : Bytes) (fieldValue : Int32) : Int32 × Int32 :=
  let r := getFieldString name file (Int32.ofNat bufsiz1K)
  if r.1 ≤ 0 then (-1, fieldValue)
  else if strcasecmpEq r.2 (ascii "yes") then (0, 1)
  else if strcasecmpEq r.2 (ascii "no") then (0, 0)
  else (-1, fieldValue)

/-- `strchr(s, ':')` and `p++`: what follows the first `':'` of the C string `s`. -/
def afterColon (s : Bytes) : Option Bytes :=
  match (cstr s).dropWhile (· != 0x3A) with
  | [] => none
  | _ :: p => some p

/-- `getFieldTime(pFieldName, hour, minute, second)`: the code (the total of seconds when it
    succeeds, in `int32_t` arithmetic) and the three members afterwards; an `int32_t&` keeps the
    low 32 bits of the `long` that `atol` returns. -/
def getFieldTime (name file : Bytes) (hour minute second : Int32) :
    Int32 × Int32 × Int32 × Int32 :=
  let r := getFieldString name file (Int32.ofNat bufsiz1K)
  if r.1 ≤ 0 then (-1, hour, minute, second)
  else
    let hour := Int32.ofInt (Strtol.strtol r.2)
    match afterColon r.2 with
    | none => (-1, hour, minute, second)
    | some p =>
      let minute := Int32.ofInt (Strtol.strtol p)
      -- `p=strchr(s, ':')` once more: from the start of `s` again
      match afterColon r.2 with
      | none => (-1, hour, minute, second)
      | some p =>
        let second := Int32.ofInt (Strtol.strtol p)
        (hour * 3600 + minute * 60 + second, hour, minute, second)

/-! ## 2. The two readers -/

/-- The members of `QTcpServer` that `load_server_config` sets; a `char*` member is `none` while
    it is `NULL`. -/
structure ServerConfig where
  pidfile : Option Bytes
  serverName : Option Bytes
  serverPort : UInt16
  monitorPort : UInt16
  serverTimeout : Int32
  commThreadMax : Int32
  commBufferSize : Int32
  commThreadTimeout : Int32
  workThreadMax : Int32
  workBufferSize : Int32
  workThreadTimeout : Int32
  sendThreadMax : Int32
  sendBufferSize : Int32
  sendThreadTimeout : Int32
  queueSize : Int32
  sendIp : Option Bytes
  sendPort : Int32
  dataPath : Option Bytes
  readPath : Option Bytes
  writePath : Option Bytes
  logPath : Option Bytes
  logPrefix : Option Bytes
  logScreen : Int32
  logSize : Int32
  deriving DecidableEq

/-- One read of `load_server_config`, `ret=config_->getter(name, member)`: the getter is given
    the member and sets it. -/
def fieldRead {τ : Type} (getter : Bytes → Bytes → τ → Int32 × τ) (name : Bytes)
    (get : ServerConfig → τ) (set : ServerConfig → τ → ServerConfig) (file : Bytes)
    (s : ServerConfig) : Int32 × ServerConfig :=
  let r := getter name file (get s)
  (r.1, set s r.2)

/-- Reads one after the other, each followed by `if(ret<0) return TCP_ERR;`. -/
def runReads {σ : Type} : List (σ → Int32 × σ) → σ → Int32 × σ
  | [], s => (tcpOk, s)
  | read :: reads, s =>
    let r := read s
    if r.1 < 0 then (tcpErr, r.2) else runReads reads r.2

/-- The 24 reads of `load_server_config`, in its order. -/
def serverReads (file : Bytes) : List (ServerConfig → Int32 × ServerConfig) :=
  [fieldRead getFieldStringTo (ascii "pidfile") (·.pidfile) (fun s v => { s with pidfile := v })
      file,
    fieldRead getFieldStringTo (ascii "server-name") (·.serverName)
      (fun s v => { s with serverName := v }) file,
    fieldRead getFieldUint16 (ascii "server-port") (·.serverPort)
      (fun s v => { s with serverPort := v }) file,
    fieldRead getFieldUint16 (ascii "monitor-port") (·.monitorPort)
      (fun s v => { s with monitorPort := v }) file,
    fieldRead getFieldInt32 (ascii "server-timeout") (·.serverTimeout)
      (fun s v => { s with serverTimeout := v }) file,
    fieldRead getFieldInt32 (ascii "comm-thread-max") (·.commThreadMax)
      (fun s v => { s with commThreadMax := v }) file,
    fieldRead getFieldInt32 (ascii "comm-buffer-size") (·.commBufferSize)
      (fun s v => { s with commBufferSize := v }) file,
    fieldRead getFieldInt32 (ascii "comm-thread-timeout") (·.commThreadTimeout)
      (fun s v => { s with commThreadTimeout := v }) file,
    fieldRead getFieldInt32 (ascii "work-thread-max") (·.workThreadMax)
      (fun s v => { s with workThreadMax := v }) file,
    fieldRead getFieldInt32 (ascii "work-buffer-size") (·.workBufferSize)
      (fun s v => { s with workBufferSize := v }) file,
    fieldRead getFieldInt32 (ascii "work-thread-timeout") (·.workThreadTimeout)
      (fun s v => { s with workThreadTimeout := v }) file,
    fieldRead getFieldInt32 (ascii "send-thread-max") (·.sendThreadMax)
      (fun s v => { s with sendThreadMax := v }) file,
    fieldRead getFieldInt32 (ascii "send-buffer-size") (·.sendBufferSize)
      (fun s v => { s with sendBufferSize := v }) file,
    fieldRead getFieldInt32 (ascii "send-thread-timeout") (·.sendThreadTimeout)
      (fun s v => { s with sendThreadTimeout := v }) file,
    fieldRead getFieldInt32 (ascii "queue-size") (·.queueSize)
      (fun s v => { s with queueSize := v }) file,
    fieldRead getFieldStringTo (ascii "send-ip") (·.sendIp) (fun s v => { s with sendIp := v })
      file,
    fieldRead getFieldInt32 (ascii "send-port") (·.sendPort)
      (fun s v => { s with sendPort := v }) file,
    fieldRead getFieldStringTo (ascii "data-path") (·.dataPath)
      (fun s v => { s with dataPath := v }) file,
    fieldRead getFieldStringTo (ascii "read-path") (·.readPath)
      (fun s v => { s with readPath := v }) file,
    fieldRead getFieldStringTo (ascii "write-path") (·.writePath)
      (fun s v => { s with writePath := v }) file,
    fieldRead getFieldStringTo (ascii "log-path") (·.logPath)
      (fun s v => { s with logPath := v }) file,
    fieldRead getFieldStringTo (ascii "log-prefix") (·.logPrefix)
      (fun s v => { s with logPrefix := v }) file,
    fieldRead getFieldYesNo (ascii "log-screen") (·.logScreen)
      (fun s v => { s with logScreen := v }) file,
    fieldRead getFieldInt32 (ascii "log-size") (·.logSize) (fun s v => { s with logSize := v })
      file]

/-- `QTcpServer::load_server_config(cfg_file)` on the members `s`: `cfgFile` is the text of the
    file, `none` when `QConfigReader::init` cannot `fopen` it (`q_new` is taken to succeed). -/
def loadServerConfig (cfgFile : Option Bytes) (s : ServerConfig) : Int32 × ServerConfig :=
  match cfgFile with
  | none => (tcpErr, s)
  | some file => runReads (serverReads file) s

/-- What a read gives `IDFSServer::initialize`: the value, `none` when the code is negative. -/
def readValue {τ : Type} (r : Int32 × Option τ) : Option τ := if r.1 < 0 then none else r.2

/-- The reads at the start of `IDFSServer::initialize`, as `initializeServer` takes them: it
    returns `TCP_ERR` as soon as one fails, and then uses none of them. -/
def readInitCnf (file : Bytes) : InitCnf where
  imgPath := readValue (getFieldStringDup (ascii "img-path") file)
  imgDir := readValue (getFieldStringDup (ascii "img-dir") file)
  imgSubdirNum :=
    readValue (let r := getFieldInt32 (ascii "img-subdir-num") file 0; (r.1, some r.2))
  mongoUri := readValue (getFieldStringDup (ascii "mongo-uri") file)
  mongoImgCollection := readValue (getFieldStringDup (ascii "mongo-img-collection") file)

/-! ## 3. A file of `name = value` lines -/

/-- The line `name = value` of a configuration file, without its `'\n'`. -/
def fieldLine (field : Bytes × Bytes) : Bytes := field.1 ++ ascii " = " ++ field.2

/-- A configuration file of the lines `ls`, each ended by `'\n'`. -/
def configText (ls : List Bytes) : Bytes := ls.flatMap (· ++ [0x0A])

/-- Two field names neither of which starts the other, up to case. -/
def CaseApart (a b : Bytes) : Prop :=
  ¬ a.map toLower <+: b.map toLower ∧ ¬ b.map toLower <+: a.map toLower

instance : DecidableRel CaseApart := fun _ _ => inferInstanceAs (Decidable (_ ∧ _))

/-- A value that reads back as written: no NUL or `'\n'` in it, no space in front, and no space,
    CR or LF at its end. -/
def PlainValue (v : Bytes) : Prop :=
  0 ∉ v ∧ 0x0A ∉ v ∧ v.head?.all (· != 0x20) ∧ v.getLast?.all (!isEnter ·)

instance (v : Bytes) : Decidable (PlainValue v) := inferInstanceAs (Decidable (_ ∧ _))

/-- Fields that can be written one per line and read back: names that are not empty, without
    NUL or `'\n'`, and apart up to case; plain values; lines within the 1022 bytes that one
    `fgets` into `BUFSIZ_1K` copies before the `'\n'`. -/
def Writable (fields : List (Bytes × Bytes)) : Prop :=
  (∀ f ∈ fields, f.1 ≠ [] ∧ 0 ∉ f.1 ∧ 0x0A ∉ f.1 ∧ PlainValue f.2 ∧ (fieldLine f).length ≤ 1022) ∧
    (fields.map Prod.fst).Pairwise CaseApart

instance (fields : List (Bytes × Bytes)) : Decidable (Writable fields) :=
  inferInstanceAs (Decidable (_ ∧ _))

theorem CaseApart.symm {a b : Bytes} (h : CaseApart a b) : CaseApart b a := ⟨h.2, h.1⟩

section Text

/-- A field's own line gives its value: the name, the spaces and `'='`, and the value up to the
    `'\n'` that `cancelEnter` cuts. -/
theorem lineValue_fieldLine_self {f : Bytes × Bytes} (hv : PlainValue f.2) :
    lineValue f.1 (fieldLine f ++ [0x0A]) = some f.2 := by
  obtain ⟨-, -, hhead, hlast⟩ := hv
  have hline : fieldLine f ++ [0x0A] = f.1 ++ (0x20 :: 0x3D :: 0x20 :: (f.2 ++ [0x0A])) := by
    simp only [fieldLine, List.append_assoc]
    rfl
  -- no space in front of the value
  have hskip : (f.2 ++ [0x0A]).dropWhile (· == 0x20) = f.2 ++ [0x0A] := by
    cases h : f.2 with
    | nil => rfl
    | cons c cs =>
      rw [h] at hhead
      simp only [List.head?_cons, Option.all_some, bne_iff_ne, ne_eq] at hhead
      exact List.dropWhile_cons_of_neg (by simpa using hhead)
  -- at the end only the `'\n'` is trimmed
  have htrim : (f.2 ++ [0x0A]).rdropWhile isEnter = f.2 := by
    rw [List.rdropWhile_concat_pos _ _ _ rfl, List.rdropWhile_eq_self_iff]
    intro hne
    have hl := List.getLast_mem_getLast? hne
    cases hget : f.2.getLast? with
    | none => rw [hget] at hl; cases hl
    | some c =>
      rw [hget] at hl hlast
      simp only [Option.mem_def, Option.some.injEq] at hl
      simpa [← hl] using hlast
  unfold lineValue
  rw [hline, List.take_left, if_pos rfl, List.drop_left]
  simp only [List.dropWhile_cons, hskip]
  simp [hskip, htrim]

/-- The line of a field apart from `n` sets no value of `n`. -/
theorem lineValue_fieldLine_of_apart {n : Bytes} {g : Bytes × Bytes} (h : CaseApart n g.1) :
    lineValue n (fieldLine g ++ [0x0A]) = none := by
  unfold lineValue
  rw [if_neg]
  intro heq
  have h1 : n.map toLower <+: (fieldLine g ++ [0x0A]).map toLower := by
    rw [← heq, List.map_take]
    exact List.take_prefix _ _
  have h2 : g.1.map toLower <+: (fieldLine g ++ [0x0A]).map toLower := by
    rw [fieldLine, List.append_assoc, List.append_assoc, List.map_append]
    exact List.prefix_append _ _
  rcases List.prefix_or_prefix_of_prefix h1 h2 with h' | h'
  exacts [h.1 h', h.2 h']

/-- Over the lines of the fields, the first that sets `f.1` is its own. -/
theorem findSome_fieldLines : ∀ {fields : List (Bytes × Bytes)},
    (∀ f ∈ fields, PlainValue f.2) → (fields.map Prod.fst).Pairwise CaseApart →
      ∀ f ∈ fields, ((fields.map fieldLine).map (· ++ [0x0A])).findSome? (lineValue f.1) = some f.2
  | [], _, _, _, hf => absurd hf List.not_mem_nil
  | g :: gs, hv, hp, f, hf => by
    rw [List.map_cons, List.pairwise_cons] at hp
    rw [List.map_cons, List.map_cons, List.findSome?_cons]
    rcases List.mem_cons.mp hf with rfl | hf'
    · rw [lineValue_fieldLine_self (hv _ List.mem_cons_self)]
    · rw [lineValue_fieldLine_of_apart (hp.1 f.1 (List.mem_map_of_mem hf')).symm]
      exact findSome_fieldLines (fun f hf => hv f (List.mem_cons_of_mem _ hf)) hp.2 f hf'

/-- What the getters need of a file for the field `f`: they find its value, of at most 1022
    bytes. -/
def Gives (file : Bytes) (f : Bytes × Bytes) : Prop :=
  f.2.length ≤ 1022 ∧ getFieldStringDup f.1 file = (Int32.ofNat f.2.length, some f.2) ∧
    getFieldString f.1 file (Int32.ofNat bufsiz1K) = (Int32.ofNat f.2.length, f.2)

/-- **Each field of a file written one per line reads back as written**, in both versions of
    `getFieldString`. -/
theorem getFieldString_configText {fields : List (Bytes × Bytes)} (hw : Writable fields)
    {f : Bytes × Bytes} (hf : f ∈ fields) : Gives (configText (fields.map fieldLine)) f := by
  obtain ⟨hok, hapart⟩ := hw
  obtain ⟨hne, hnul, -, hv, hlen⟩ := hok f hf
  have hlines : ∀ l ∈ fields.map fieldLine, 0x0A ∉ l ∧ l.length ≤ 1022 := by
    intro l hl
    obtain ⟨g, hg, rfl⟩ := List.mem_map.mp hl
    obtain ⟨-, -, hnl, ⟨-, hvnl, -⟩, hglen⟩ := hok g hg
    refine ⟨?_, hglen⟩
    simp only [fieldLine, List.mem_append, not_or]
    exact ⟨⟨hnl, by decide⟩, hvnl⟩
  -- `fgets` reads the lines one by one, and on each the code's test is `lineValue`
  have hpieces : (configPieces (configText (fields.map fieldLine))).findSome? (fieldValue f.1) =
      some f.2 := by
    rw [configPieces, configText, show bufsiz1K - 2 = 1022 from rfl,
      Lines.chunks_flatMap_lines 0x0A 1022 _ hlines]
    rw [Lines.findSome_congr (g := lineValue f.1) fun l hl => ?_]
    · exact findSome_fieldLines (fun g hg => (hok g hg).2.2.2.1) hapart f hf
    · obtain ⟨l', hl', rfl⟩ := List.mem_map.mp hl
      obtain ⟨g, hg, rfl⟩ := List.mem_map.mp hl'
      obtain ⟨-, hgnul, -, ⟨hvnul, -⟩, -⟩ := hok g hg
      refine fieldValue_eq_lineValue _ _ hnul ?_
      simp only [fieldLine, List.mem_append, not_or]
      exact ⟨⟨⟨hgnul, by decide⟩, hvnul⟩, by decide⟩
  have hvlen : f.2.length ≤ 1022 := by
    have := hlen
    simp only [fieldLine, List.length_append] at this
    omega
  have hname : f.1.length ≠ 0 := fun h => hne (List.length_eq_zero_iff.mp h)
  refine ⟨hvlen, by rw [getFieldStringDup, if_neg hname, hpieces], ?_⟩
  have hfits : ¬ Int32.ofNat f.2.length > Int32.ofNat bufsiz1K := by
    rw [gt_iff_lt, Int32.lt_iff_toInt_lt, Int32.toInt_ofNat_of_lt (show f.2.length < 2 ^ 31 by omega),
      Int32.toInt_ofNat_of_lt (show bufsiz1K < 2 ^ 31 by decide)]
    show ¬ ((1024 : Nat) : Int) < f.2.length
    omega
  rw [getFieldString, if_neg (by decide), if_neg hname, hpieces]
  exact if_neg hfits

end Text

/-! ## 4. The numbers, printed and read back -/

section Numbers

theorem mem_fmtD_cases {x : Int} {c : UInt8} (h : c ∈ fmtD x) :
    c = 0x2D ∨ (48 ≤ c.toNat ∧ c.toNat ≤ 57) := by
  unfold fmtD at h
  split at h
  · rcases List.mem_append.mp h with h | h
    · exact .inl (List.mem_singleton.mp h)
    · exact .inr (mem_fmtU h)
  · exact .inr (mem_fmtU h)

theorem ne_of_digit {c b : UInt8} (hd : 48 ≤ c.toNat ∧ c.toNat ≤ 57)
    (hb : ¬ (48 ≤ b.toNat ∧ b.toNat ≤ 57)) : c ≠ b := by
  rintro rfl
  exact hb hd

/-- A byte of `%d` is no NUL, `'\n'`, space or CR. -/
theorem ne_of_mem_fmtD {x : Int} {c : UInt8} (h : c ∈ fmtD x) :
    c ≠ 0 ∧ c ≠ 0x0A ∧ c ≠ 0x20 ∧ isEnter c = false := by
  rcases mem_fmtD_cases h with rfl | hd
  · decide
  · refine ⟨ne_of_digit hd (by decide), ne_of_digit hd (by decide), ne_of_digit hd (by decide), ?_⟩
    simp only [isEnter, Bool.or_eq_false_iff, beq_eq_false_iff_ne]
    exact ⟨⟨ne_of_digit hd (by decide), ne_of_digit hd (by decide)⟩, ne_of_digit hd (by decide)⟩

theorem plainValue_fmtD (x : Int) : PlainValue (fmtD x) := by
  refine ⟨fun h => (ne_of_mem_fmtD h).1 rfl, fun h => (ne_of_mem_fmtD h).2.1 rfl, ?_, ?_⟩
  · rw [Option.all_eq_true]
    intro c hc
    exact bne_iff_ne.mpr (ne_of_mem_fmtD (List.mem_of_mem_head? hc)).2.2.1
  · rw [Option.all_eq_true]
    intro c hc
    simpa using (ne_of_mem_fmtD (List.mem_of_getLast? hc)).2.2.2

theorem fmtD_ne_nil (x : Int) : fmtD x ≠ [] := by
  unfold fmtD
  split
  · exact List.append_ne_nil_of_left_ne_nil (by decide) _
  · exact fmtU_ne_nil _

theorem fmtD_natCast (n : Nat) : fmtD n = fmtU n := by
  simp [fmtD]

/-- `%d` reads back through `strtol` while it fits a `long`. -/
theorem strtol_fmtD {x : Int} (hlo : Strtol.longMin ≤ x) (hhi : x ≤ Strtol.longMax) :
    Strtol.strtol (fmtD x) = x := by
  have hend : ∀ c ∈ ([] : Bytes).head?, Strtol.isDigit c = false := by simp
  unfold fmtD
  split_ifs with hneg
  · have h : Strtol.strtol (0x2D :: ((Nat.toDigits 10 x.natAbs).map Digits.byte ++ [])) =
        -(x.natAbs : Int) := Strtol.strtol_neg_toDigits x.natAbs hend (by omega)
    rw [List.append_nil] at h
    rw [fmtU_eq, show ascii "-" = [0x2D] from rfl, List.singleton_append, h]
    omega
  · have h : Strtol.strtol ((Nat.toDigits 10 x.toNat).map Digits.byte ++ []) = x.toNat :=
      Strtol.strtol_toDigits x.toNat hend (by omega)
    rw [List.append_nil] at h
    rw [fmtU_eq, h]
    omega

/-- **`%d` of an `int` reads back through `atoi`.** -/
theorem atoi_fmtD (v : Int32) : Strtol.atoi (fmtD v.toInt) = v := by
  have hlo : Strtol.longMin ≤ v.toInt := le_trans (by decide) (Int32.le_toInt v)
  have hhi : v.toInt ≤ Strtol.longMax := le_trans (Int32.toInt_lt v).le (by decide)
  rw [Strtol.atoi, strtol_fmtD hlo hhi, Int32.ofInt_toInt]

/-- `(uint16_t)atoi` of `%u` keeps the number modulo 65536, while it fits an `int`. -/
theorem atoi_fmtU_toUInt16 {n : Nat} (hn : n < 2 ^ 31) :
    (UInt16.ofInt (Strtol.atoi (fmtU n)).toInt).toNat = n % 65536 := by
  have hlong : ((n : Int)) ≤ Strtol.longMax := le_trans (by omega) (by decide : (2 ^ 31 : Int) ≤ Strtol.longMax)
  rw [Strtol.atoi, ← fmtD_natCast, strtol_fmtD (le_trans (by decide) (Int.natCast_nonneg n)) hlong,
    Int32.ofInt_eq_ofNat, Int32.toInt_ofNat_of_lt hn, UInt16.ofInt, UInt16.toNat_ofNat']
  omega

end Numbers

/-! ## 5. The reads, on a file that gives every field -/

section Reads

variable {file : Bytes}

theorem runReads_cons_of_nonneg {σ : Type} {read : σ → Int32 × σ} {reads : List (σ → Int32 × σ)}
    {s : σ} (h : ¬ (read s).1 < 0) : runReads (read :: reads) s = runReads reads (read s).2 :=
  if_neg h

/-- A read that returns 0 hands its configuration to the next. -/
theorem runReads_cons_of_ok {σ : Type} {read : σ → Int32 × σ} {reads : List (σ → Int32 × σ)}
    {s s' : σ} (h : read s = (0, s')) : runReads (read :: reads) s = runReads reads s' := by
  rw [runReads_cons_of_nonneg (by rw [h]; exact Int32.lt_irrefl), h]

theorem ofNat_length_pos {v : Bytes} (hpos : 0 < v.length) (hlen : v.length ≤ 1022) :
    0 < Int32.ofNat v.length := by
  rw [Int32.lt_iff_toInt_lt, Int32.toInt_ofNat_of_lt (show v.length < 2 ^ 31 by omega),
    Int32.toInt_zero]
  exact_mod_cast hpos

theorem not_ofNat_length_neg {v : Bytes} (hlen : v.length ≤ 1022) : ¬ Int32.ofNat v.length < 0 := by
  rw [Int32.lt_iff_toInt_lt, Int32.toInt_ofNat_of_lt (show v.length < 2 ^ 31 by omega)]
  exact fun h => absurd h (by simp)

section Member

variable {τ : Type} {name : Bytes} {get : ServerConfig → τ} {set : ServerConfig → τ → ServerConfig}
  {rest : List (ServerConfig → Int32 × ServerConfig)} {s : ServerConfig}

theorem runReads_string {v : Bytes} (hg : Gives file (name, v))
    {get : ServerConfig → Option Bytes} {set : ServerConfig → Option Bytes → ServerConfig} :
    runReads (fieldRead getFieldStringTo name get set file :: rest) s =
      runReads rest (set s (some v)) := by
  have hread : fieldRead getFieldStringTo name get set file s =
      (Int32.ofNat v.length, set s (some v)) := by
    rw [fieldRead, getFieldStringTo, hg.2.1]
    rfl
  rw [runReads_cons_of_nonneg (by rw [hread]; exact not_ofNat_length_neg hg.1), hread]

/-- A value that `getFieldString` finds, not empty, is converted. -/
theorem getFieldInt32_of_value {v : Bytes} {k : Int32}
    (hv : getFieldString name file (Int32.ofNat bufsiz1K) = (k, v)) (hk : 0 < k) (old : Int32) :
    getFieldInt32 name file old = (0, Strtol.atoi v) := by
  rw [getFieldInt32, hv]
  exact if_neg (Int32.not_le.mpr hk)

theorem getFieldUint16_of_value {v : Bytes} {k : Int32}
    (hv : getFieldString name file (Int32.ofNat bufsiz1K) = (k, v)) (hk : 0 < k) (old : UInt16) :
    getFieldUint16 name file old = (0, UInt16.ofInt (Strtol.atoi v).toInt) := by
  rw [getFieldUint16, hv]
  exact if_neg (Int32.not_le.mpr hk)

theorem runReads_int32 {x : Int32} (hg : Gives file (name, fmtD x.toInt))
    {get : ServerConfig → Int32} {set : ServerConfig → Int32 → ServerConfig} :
    runReads (fieldRead getFieldInt32 name get set file :: rest) s = runReads rest (set s x) := by
  have hread : fieldRead getFieldInt32 name get set file s = (0, set s x) := by
    rw [fieldRead, getFieldInt32_of_value hg.2.2
      (ofNat_length_pos (List.length_pos_of_ne_nil (fmtD_ne_nil _)) hg.1), atoi_fmtD]
  rw [runReads_cons_of_ok hread]

theorem runReads_uint16 {x : UInt16} (hg : Gives file (name, fmtU x.toNat))
    {get : ServerConfig → UInt16} {set : ServerConfig → UInt16 → ServerConfig} :
    runReads (fieldRead getFieldUint16 name get set file :: rest) s = runReads rest (set s x) := by
  have hx : UInt16.ofInt (Strtol.atoi (fmtU x.toNat)).toInt = x := by
    apply UInt16.toNat_inj.mp
    rw [atoi_fmtU_toUInt16 (by have := x.toNat_lt; omega)]
    exact Nat.mod_eq_of_lt x.toNat_lt
  have hread : fieldRead getFieldUint16 name get set file s = (0, set s x) := by
    rw [fieldRead, getFieldUint16_of_value hg.2.2
      (ofNat_length_pos (List.length_pos_of_ne_nil (fmtU_ne_nil _)) hg.1), hx]
  rw [runReads_cons_of_ok hread]

theorem runReads_yesNo {x : Int32} (hx : x = 0 ∨ x = 1)
    (hg : Gives file (name, if x = 1 then ascii "yes" else ascii "no"))
    {get : ServerConfig → Int32} {set : ServerConfig → Int32 → ServerConfig} :
    runReads (fieldRead getFieldYesNo name get set file :: rest) s = runReads rest (set s x) := by
  have hread : fieldRead getFieldYesNo name get set file s = (0, set s x) := by
    rcases hx with rfl | rfl
    · rw [if_neg (by decide)] at hg
      have hfound : ¬ Int32.ofNat (ascii "no").length ≤ 0 := by decide
      have hyes : strcasecmpEq (ascii "no") (ascii "yes") = false := by decide
      have hno : strcasecmpEq (ascii "no") (ascii "no") = true := by decide
      simp only [fieldRead, getFieldYesNo, hg.2.2, hfound, hyes, hno, if_false, if_true,
        Bool.false_eq_true]
    · rw [if_pos rfl] at hg
      have hfound : ¬ Int32.ofNat (ascii "yes").length ≤ 0 := by decide
      have hyes : strcasecmpEq (ascii "yes") (ascii "yes") = true := by decide
      simp only [fieldRead, getFieldYesNo, hg.2.2, hfound, hyes, if_false, if_true]
  rw [runReads_cons_of_ok hread]

end Member

end Reads

/-! ## 6. One configuration file, two readers -/

/-- The members written one per line, in the order `load_server_config` reads them: a string as
    it is, a number as `%d` (`%u` for a port), `log-screen` as `yes` or `no`. -/
def serverConfigFields (c : ServerConfig) : List (Bytes × Bytes) :=
  [(ascii "pidfile", c.pidfile.getD []), (ascii "server-name", c.serverName.getD []),
    (ascii "server-port", fmtU c.serverPort.toNat),
    (ascii "monitor-port", fmtU c.monitorPort.toNat),
    (ascii "server-timeout", fmtD c.serverTimeout.toInt),
    (ascii "comm-thread-max", fmtD c.commThreadMax.toInt),
    (ascii "comm-buffer-size", fmtD c.commBufferSize.toInt),
    (ascii "comm-thread-timeout", fmtD c.commThreadTimeout.toInt),
    (ascii "work-thread-max", fmtD c.workThreadMax.toInt),
    (ascii "work-buffer-size", fmtD c.workBufferSize.toInt),
    (ascii "work-thread-timeout", fmtD c.workThreadTimeout.toInt),
    (ascii "send-thread-max", fmtD c.sendThreadMax.toInt),
    (ascii "send-buffer-size", fmtD c.sendBufferSize.toInt),
    (ascii "send-thread-timeout", fmtD c.sendThreadTimeout.toInt),
    (ascii "queue-size", fmtD c.queueSize.toInt), (ascii "send-ip", c.sendIp.getD []),
    (ascii "send-port", fmtD c.sendPort.toInt), (ascii "data-path", c.dataPath.getD []),
    (ascii "read-path", c.readPath.getD []), (ascii "write-path", c.writePath.getD []),
    (ascii "log-path", c.logPath.getD []), (ascii "log-prefix", c.logPrefix.getD []),
    (ascii "log-screen", if c.logScreen = 1 then ascii "yes" else ascii "no"),
    (ascii "log-size", fmtD c.logSize.toInt)]

/-- The five values of `IDFSServer::initialize` written one per line. -/
def idfsConfigFields (imgPath imgDir : Bytes) (imgSubdirNum : Int32)
    (mongoUri mongoImgCollection : Bytes) : List (Bytes × Bytes) :=
  [(ascii "img-path", imgPath), (ascii "img-dir", imgDir),
    (ascii "img-subdir-num", fmtD imgSubdirNum.toInt), (ascii "mongo-uri", mongoUri),
    (ascii "mongo-img-collection", mongoImgCollection)]

/-- Every `char*` member is set. -/
def ServerConfig.StringsSet (c : ServerConfig) : Prop :=
  ∀ v ∈ [c.pidfile, c.serverName, c.sendIp, c.dataPath, c.readPath, c.writePath, c.logPath,
    c.logPrefix], v.isSome

instance (c : ServerConfig) : Decidable c.StringsSet :=
  inferInstanceAs (Decidable (∀ v ∈ _, _))

section Readers

variable {file : Bytes}

theorem some_getD_of_isSome {o : Option Bytes} (h : o.isSome) : some (o.getD []) = o := by
  cases o with
  | none => cases h
  | some v => rfl

/-- **`load_server_config` reads the members back** from a file that gives each of them. -/
theorem loadServerConfig_of_gives {c : ServerConfig} (s : ServerConfig)
    (hg : ∀ f ∈ serverConfigFields c, Gives file f) (hset : c.StringsSet)
    (hscreen : c.logScreen = 0 ∨ c.logScreen = 1) : loadServerConfig (some file) s = (tcpOk, c) := by
  simp only [serverConfigFields, List.forall_mem_cons, List.not_mem_nil, false_implies, implies_true, and_true] at hg
  obtain ⟨g1, g2, g3, g4, g5, g6, g7, g8, g9, g10, g11, g12, g13, g14, g15, g16, g17, g18, g19,
    g20, g21, g22, g23, g24⟩ := hg
  -- the 24 reads in order, each finding its member
  rw [loadServerConfig, serverReads, runReads_string g1, runReads_string g2, runReads_uint16 g3,
    runReads_uint16 g4, runReads_int32 g5, runReads_int32 g6, runReads_int32 g7,
    runReads_int32 g8, runReads_int32 g9, runReads_int32 g10, runReads_int32 g11,
    runReads_int32 g12, runReads_int32 g13, runReads_int32 g14, runReads_int32 g15,
    runReads_string g16, runReads_int32 g17, runReads_string g18, runReads_string g19,
    runReads_string g20, runReads_string g21, runReads_string g22, runReads_yesNo hscreen g23,
    runReads_int32 g24, runReads]
  -- each read replaced one member; normalise the updates before comparing them with `c`
  dsimp only
  -- the strings were set, so the copies read are the members themselves
  simp only [ServerConfig.StringsSet, List.forall_mem_cons, List.not_mem_nil, false_implies, implies_true, and_true] at hset
  obtain ⟨h1, h2, h3, h4, h5, h6, h7, h8⟩ := hset
  rw [some_getD_of_isSome h1, some_getD_of_isSome h2, some_getD_of_isSome h3,
    some_getD_of_isSome h4, some_getD_of_isSome h5, some_getD_of_isSome h6,
    some_getD_of_isSome h7, some_getD_of_isSome h8]

/-- **`initialize` reads its five values back** from a file that gives each of them. -/
theorem readInitCnf_of_gives {imgPath imgDir mongoUri mongoImgCollection : Bytes}
    {imgSubdirNum : Int32}
    (hg : ∀ f ∈ idfsConfigFields imgPath imgDir imgSubdirNum mongoUri mongoImgCollection,
      Gives file f) :
    readInitCnf file =
      ⟨some imgPath, some imgDir, some imgSubdirNum, some mongoUri, some mongoImgCollection⟩ := by
  simp only [idfsConfigFields, List.forall_mem_cons, List.not_mem_nil, false_implies, implies_true, and_true] at hg
  obtain ⟨g1, g2, g3, g4, g5⟩ := hg
  have hstr : ∀ {n v : Bytes}, Gives file (n, v) →
      readValue (getFieldStringDup n file) = some v := by
    intro n v hg
    rw [hg.2.1, readValue, if_neg (not_ofNat_length_neg hg.1)]
  have hnum : readValue (let r := getFieldInt32 (ascii "img-subdir-num") file 0; (r.1, some r.2)) =
      some imgSubdirNum := by
    rw [getFieldInt32_of_value g3.2.2
      (ofNat_length_pos (List.length_pos_of_ne_nil (fmtD_ne_nil _)) g3.1), atoi_fmtD]
    rfl
  simp only [readInitCnf, hstr g1, hstr g2, hnum, hstr g4, hstr g5]

end Readers

/-- **One configuration file, written one field per line, reads back in both readers**: with
    the members of `QTcpServer` (their strings set, `log-screen` 0 or 1) and the five values of
    `IDFSServer` in it, on names apart up to case and lines that fit `BUFSIZ_1K`,
    `load_server_config` returns `TCP_OK` with exactly the members written, whatever they were
    before, and `initialize` gets exactly its five values. -/
theorem configFile_round_trip (c s : ServerConfig) (imgPath imgDir : Bytes) (imgSubdirNum : Int32)
    (mongoUri mongoImgCollection : Bytes)
    (hw : Writable (serverConfigFields c ++
      idfsConfigFields imgPath imgDir imgSubdirNum mongoUri mongoImgCollection))
    (hset : c.StringsSet) (hscreen : c.logScreen = 0 ∨ c.logScreen = 1) :
    loadServerConfig (some (configText ((serverConfigFields c ++
        idfsConfigFields imgPath imgDir imgSubdirNum mongoUri mongoImgCollection).map fieldLine)))
        s = (tcpOk, c) ∧
      readInitCnf (configText ((serverConfigFields c ++
          idfsConfigFields imgPath imgDir imgSubdirNum mongoUri mongoImgCollection).map fieldLine)) =
        ⟨some imgPath, some imgDir, some imgSubdirNum, some mongoUri, some mongoImgCollection⟩ :=
  ⟨loadServerConfig_of_gives s (fun _ hf => getFieldString_configText hw (List.mem_append_left _ hf))
      hset hscreen,
    readInitCnf_of_gives fun _ hf => getFieldString_configText hw (List.mem_append_right _ hf)⟩

/-- The members as `conf/init.cnf` sets them. -/
def initCnfServerConfig : ServerConfig where
  pidfile := some (ascii "/var/run/idfs.pid")
  serverName := some (ascii "ImageDFS")
  serverPort := 8190
  monitorPort := 8112
  serverTimeout := 12000
  commThreadMax := 1
  commBufferSize := 1024
  commThreadTimeout := 8000
  workThreadMax := 18
  workBufferSize := 1024
  workThreadTimeout := 12000
  sendThreadMax := 0
  sendBufferSize := 10240
  sendThreadTimeout := 8000
  queueSize := 200
  sendIp := some (ascii "192.168.1.100")
  sendPort := 22222
  dataPath := some (ascii "./data/")
  readPath := some (ascii "./data/read.snd")
  writePath := some (ascii "./data/write.snd")
  logPath := some (ascii "../log/")
  logPrefix := some (ascii "idfs")
  logScreen := 1
  logSize := 10240

/-- The values of `conf/init.cnf`, written one per line over members that are all unset. -/
theorem configFile_round_trip_initCnf :
    loadServerConfig (some (configText ((serverConfigFields initCnfServerConfig ++
        idfsConfigFields (ascii "/data1/img") (ascii "img005") 1000
          (ascii "mongodb://192.168.1.91:27017") (ascii "IDDS.imgdb")).map fieldLine)))
        { initCnfServerConfig with pidfile := none, serverName := none, sendIp := none } =
        (tcpOk, initCnfServerConfig) ∧
      readInitCnf (configText ((serverConfigFields initCnfServerConfig ++
          idfsConfigFields (ascii "/data1/img") (ascii "img005") 1000
            (ascii "mongodb://192.168.1.91:27017") (ascii "IDDS.imgdb")).map fieldLine)) =
        ⟨some (ascii "/data1/img"), some (ascii "img005"), some 1000,
          some (ascii "mongodb://192.168.1.91:27017"), some (ascii "IDDS.imgdb")⟩ :=
  configFile_round_trip _ _ _ _ _ _ _ (by decide) (by decide) (.inr rfl)

/-! ## 7. What the getters make of odd values -/

section Odd

theorem strtol_fmtU_append (n : Nat) {rest : Bytes}
    (hrest : ∀ c ∈ rest.head?, Strtol.isDigit c = false) (hn : n < 2 ^ 31) :
    Strtol.strtol (fmtU n ++ rest) = n := by
  rw [fmtU_eq]
  exact Strtol.strtol_toDigits n hrest
    (le_trans (by omega) (by decide : ((2 ^ 31 : Nat) : Int) ≤ Strtol.longMax))

/-- `strchr` finds the `':'` after a number. -/
theorem afterColon_fmtU (n : Nat) {rest : Bytes} (hrest : 0 ∉ rest) :
    afterColon (fmtU n ++ ascii ":" ++ rest) = some rest := by
  have hdig : ∀ c ∈ fmtU n, (c != 0x3A) = true := fun c hc =>
    bne_iff_ne.mpr (ne_of_digit (mem_fmtU hc) (by decide))
  have hnul : ∀ c ∈ fmtU n ++ ascii ":" ++ rest, c ≠ 0 := by
    intro c hc
    rcases List.mem_append.mp hc with hc | hc
    · rcases List.mem_append.mp hc with hc | hc
      · exact ne_of_digit (mem_fmtU hc) (by decide)
      · rw [List.mem_singleton.mp hc]
        decide
    · rintro rfl
      exact hrest hc
  rw [afterColon, cstr_of_forall hnul, List.append_assoc, List.dropWhile_append,
    if_pos (by rw [List.dropWhile_eq_nil_iff.mpr hdig]; rfl)]
  rfl

/-- **`getFieldTime` never reads the seconds**: when the value is `H:M:S`, the second `strchr`
    finds the first `':'` again, so the member `second` gets the minutes and the total counts them
    twice, `S` playing no part. -/
theorem getFieldTime_reads_minute_twice (name file : Bytes) (hour minute second : Int32)
    (H M S : Nat) (k : Int32)
    (hv : getFieldString name file (Int32.ofNat bufsiz1K) =
      (k, fmtU H ++ ascii ":" ++ fmtU M ++ ascii ":" ++ fmtU S))
    (hk : 0 < k) (hH : H < 2 ^ 31) (hM : M < 2 ^ 31) :
    getFieldTime name file hour minute second =
      (Int32.ofNat H * 3600 + Int32.ofNat M * 60 + Int32.ofNat M, Int32.ofNat H, Int32.ofNat M,
        Int32.ofNat M) := by
  have hcolon : ∀ {rest : Bytes}, ∀ c ∈ (ascii ":" ++ rest).head?, Strtol.isDigit c = false := by
    intro rest c hc
    rw [show ascii ":" ++ rest = 0x3A :: rest from rfl, List.head?_cons, Option.mem_some_iff] at hc
    rw [← hc]
    rfl
  have hsec : 0 ∉ fmtU M ++ ascii ":" ++ fmtU S := by
    intro h
    rcases List.mem_append.mp h with h | h
    · rcases List.mem_append.mp h with h | h
      · exact ne_of_digit (mem_fmtU h) (by decide) rfl
      · exact absurd (List.mem_singleton.mp h) (by decide)
    · exact ne_of_digit (mem_fmtU h) (by decide) rfl
  have hvalue : fmtU H ++ ascii ":" ++ fmtU M ++ ascii ":" ++ fmtU S =
      fmtU H ++ ascii ":" ++ (fmtU M ++ ascii ":" ++ fmtU S) := by
    simp only [List.append_assoc]
  have hhour : Strtol.strtol (fmtU H ++ ascii ":" ++ (fmtU M ++ ascii ":" ++ fmtU S)) = H := by
    rw [List.append_assoc]
    exact strtol_fmtU_append H hcolon hH
  have hmin : Strtol.strtol (fmtU M ++ ascii ":" ++ fmtU S) = M := by
    rw [List.append_assoc]
    exact strtol_fmtU_append M hcolon hM
  rw [getFieldTime, hv, hvalue]
  dsimp only
  rw [if_neg (Int32.not_le.mpr hk), hhour, afterColon_fmtU H hsec]
  dsimp only
  rw [hmin, Int32.ofInt_eq_ofNat, Int32.ofInt_eq_ofNat]

theorem getFieldTime_reads_minute_twice_send :
    getFieldTime (ascii "send-time") (ascii "send-time = 12:30:45\n") 0 0 0 =
      (Int32.ofNat 12 * 3600 + Int32.ofNat 30 * 60 + Int32.ofNat 30, Int32.ofNat 12, Int32.ofNat 30,
        Int32.ofNat 30) :=
  getFieldTime_reads_minute_twice _ _ _ _ _ 12 30 45 8 (by decide) (by decide) (by decide)
    (by decide)

example : (Int32.ofNat 12 * 3600 + Int32.ofNat 30 * 60 + Int32.ofNat 30 : Int32) = 45030 := by
  decide

/-- **A value that is no number is read as 0, without an error**: `atoi` finds no digit and
    `getFieldInt32` returns 0 with the member 0, so a word where a count or a size belongs passes
    for 0. -/
theorem getFieldInt32_accepts_text (name file v : Bytes) (k old : Int32)
    (hv : getFieldString name file (Int32.ofNat bufsiz1K) = (k, v)) (hk : 0 < k)
    (hnum : ∀ c ∈ v, Strtol.isDigit c = false) : getFieldInt32 name file old = (0, 0) := by
  rw [getFieldInt32_of_value hv hk, Strtol.atoi, Strtol.strtol_of_no_digit hnum]
  rfl

example :
    getFieldInt32 (ascii "server-timeout") (ascii "server-timeout = forever\n") 12000 = (0, 0) :=
  getFieldInt32_accepts_text _ _ (ascii "forever") 7 _ (by decide) (by decide) (by decide +kernel)

/-- **A port above 65535 is taken modulo 65536**: `(uint16_t)atoi` keeps the low 16 bits, with no
    error. -/
theorem getFieldUint16_wraps (name file : Bytes) (n : Nat) (k : Int32) (old : UInt16)
    (hv : getFieldString name file (Int32.ofNat bufsiz1K) = (k, fmtU n)) (hk : 0 < k)
    (hn : n < 2 ^ 31) :
    (getFieldUint16 name file old).1 = 0 ∧ (getFieldUint16 name file old).2.toNat = n % 65536 := by
  rw [getFieldUint16_of_value hv hk]
  exact ⟨rfl, atoi_fmtU_toUInt16 hn⟩

example :
    (getFieldUint16 (ascii "server-port") (ascii "server-port = 73726\n") 8088).1 = 0 ∧
      (getFieldUint16 (ascii "server-port") (ascii "server-port = 73726\n") 8088).2.toNat =
        73726 % 65536 :=
  getFieldUint16_wraps _ _ 73726 5 _ (by decide) (by decide) (by decide)

end Odd

end ImageDfs
