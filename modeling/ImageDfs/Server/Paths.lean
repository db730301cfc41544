/-
  File:      ImageDfs/Server/Paths.lean
  Subject:   THE PATHS OF AN IMAGE: `file_path` and `local_path` of `server_main`, and `img_size`,
             spelled out for a configuration whose strings `q_format` never cuts.

  `server_main` formats `file_path` as `"%s/%03d/%lx.%s"` of `img_dir_`, `iid%1000`, `iid` and the
  type's name, then `local_path` as `"%s/%s"` of `img_path_` and `file_path.c_str()`. Both go
  through `q_format`, which cuts a text of 1024 bytes or more (`qFormat`), and both are read back
  through `c_str()`, which stops at a NUL (`cstr`). For a configuration whose two paths have no
  NUL and are short (`IdfsConfig.Plain`) neither happens:

  * `imgFilePath_plain`, `cstr_imgFilePath`, `cstr_imgLocalPath` -- the paths as the format
    strings spell them, whole;
  * `imgLocalPath_inj` -- the local path names the image id: `%lx` prints it in hex, and the hex
    digits end at the `.`;
  * `cstr_sizeText` -- `img_size`, `"%d*%d"` of two `int32_t`, is whole in any configuration.
-/
import ImageDfs.Server.Main
import ImageDfs.Lib.Digits

namespace ImageDfs

/-! ## 1. The conversions as digits -/

theorem fmtU_eq (n : Nat) : fmtU n = (Nat.toDigits 10 n).map Digits.byte := by
  simp [fmtU, ascii, Digits.byte]

theorem fmtX_eq (n : Nat) : fmtX n = (Nat.toDigits 16 n).map Digits.byte := by
  simp [fmtX, ascii, Digits.byte]

/-- `%lx` prints distinct numbers differently. -/
theorem fmtX_inj {a b : Nat} (h : fmtX a = fmtX b) : a = b := by
  rw [fmtX_eq, fmtX_eq] at h
  exact Digits.toDigits_bytes_inj (by decide) (by decide) h

theorem mem_fmtX {n : Nat} {c : UInt8} (h : c ∈ fmtX n) :
    (48 ≤ c.toNat ∧ c.toNat ≤ 57) ∨ (97 ≤ c.toNat ∧ c.toNat ≤ 102) := by
  rw [fmtX_eq] at h
  exact Digits.mem_toDigits_bytes (by decide) (by decide) h

theorem fmtU_length_le {n k : Nat} (hk : 0 < k) (h : n < 10 ^ k) : (fmtU n).length ≤ k := by
  rw [fmtU_eq, List.length_map]
  exact (Nat.length_toDigits_le_iff (by decide) hk).mpr h

theorem fmtX_length_le {n : Nat} (h : n < 2 ^ 64) : (fmtX n).length ≤ 16 := by
  rw [fmtX_eq, List.length_map]
  exact (Nat.length_toDigits_le_iff (by decide) (by decide)).mpr (by simpa using h)

/-- `%03d` of a number below 1000 is three digits. -/
theorem fmt03d_length {n : Nat} (h : n < 1000) : (fmt03d n).length = 3 := by
  have hle := fmtU_length_le (by decide : 0 < 3) (show n < 10 ^ 3 by simpa using h)
  simp only [fmt03d, List.length_append, List.length_replicate]
  omega

/-- `%03d` prints distinct numbers differently: the padding zeros read as nothing. -/
theorem fmt03d_inj {a b : Nat} (h : fmt03d a = fmt03d b) : a = b := by
  have key : ∀ n, Digits.valueFrom 10 0 (fmt03d n) = n := by
    intro n
    rw [fmt03d, fmtU_eq, show UInt8.ofNat 48 = Digits.byte '0' from rfl, Digits.valueFrom_zeros,
      Digits.valueFrom_toDigits (by decide) (by decide)]
  calc a = Digits.valueFrom 10 0 (fmt03d a) := (key a).symm
    _ = Digits.valueFrom 10 0 (fmt03d b) := by rw [h]
    _ = b := key b

theorem mem_fmt03d {n : Nat} {c : UInt8} (h : c ∈ fmt03d n) : 48 ≤ c.toNat ∧ c.toNat ≤ 57 := by
  simp only [fmt03d, List.mem_append, List.mem_replicate] at h
  rcases h with ⟨-, rfl⟩ | h
  · decide
  · exact mem_fmtU h

theorem fmtD_length_le (x : Int32) : (fmtD x.toInt).length ≤ 11 := by
  have hlo := Int32.le_toInt x
  have hhi := Int32.toInt_lt x
  unfold fmtD
  split
  · have hle : (fmtU x.toInt.natAbs).length ≤ 10 := fmtU_length_le (by decide) (by omega)
    simp only [List.length_append, ascii_length]
    have : "-".length = 1 := rfl
    omega
  · have hle : (fmtU x.toInt.toNat).length ≤ 10 := fmtU_length_le (by decide) (by omega)
    omega

theorem mem_fmtD {x : Int} {c : UInt8} (h : c ∈ fmtD x) : c ≠ 0 := by
  unfold fmtD at h
  split at h
  · rcases List.mem_append.mp h with h | h
    · have : c = 45 := by simpa [ascii] using h
      subst this
      decide
    · intro h0
      have := (mem_fmtU h).1
      subst h0
      simp at this
  · intro h0
    have := (mem_fmtU h).1
    subst h0
    simp at this

/-- **`img_size`, whole**: `"%d*%d"` of two `int32_t` is at most 23 bytes, with no NUL. -/
theorem cstr_sizeText (heap : Nat → UInt8) (w h : Int32) :
    cstr (qFormat heap (fmtD w.toInt ++ ascii "*" ++ fmtD h.toInt)) =
      fmtD w.toInt ++ ascii "*" ++ fmtD h.toInt := by
  have hw := fmtD_length_le w
  have hh := fmtD_length_le h
  rw [qFormat_short heap (by
    simp only [List.length_append, ascii_length]
    have : "*".length = 1 := rfl
    omega)]
  apply cstr_of_forall
  intro c hc
  simp only [List.mem_append] at hc
  rcases hc with (hc | hc) | hc
  · exact mem_fmtD hc
  · exact forall_ne_of_all rfl c hc
  · exact mem_fmtD hc

/-! ## 2. A configuration `q_format` never cuts -/

/-- `img_path` and `img_dir` have no NUL, and are short enough that every local path fits the
    1024-byte buffer of `q_format`. -/
structure IdfsConfig.Plain (cfg : IdfsConfig) : Prop where
  imgPath_ne_zero : ∀ c ∈ cfg.imgPath, c ≠ 0
  imgDir_ne_zero : ∀ c ∈ cfg.imgDir, c ≠ 0
  short : cfg.imgPath.length + cfg.imgDir.length + 26 < 1024

/-- What `"%s/%03d/%lx.%s"` prints of `img_dir_`, `iid%1000`, `iid` and the type's name. -/
def filePathText (cfg : IdfsConfig) (iid : UInt64) (type : UInt16) : Bytes :=
  cfg.imgDir ++ ascii "/" ++ fmt03d (iid.toNat % 1000) ++ ascii "/" ++ fmtX iid.toNat ++
    ascii "." ++ ascii (getImageTypeName type.toNat)

theorem typeName_length (k : Nat) : (getImageTypeName k).length = 3 := by
  unfold getImageTypeName
  split <;> rfl

theorem mem_typeName {k : Nat} {c : UInt8} (h : c ∈ ascii (getImageTypeName k)) : c ≠ 0 := by
  unfold getImageTypeName at h
  split at h <;> exact forall_ne_of_all rfl c h

theorem filePathText_length_le (cfg : IdfsConfig) (iid : UInt64) (type : UInt16) :
    (filePathText cfg iid type).length ≤ cfg.imgDir.length + 25 := by
  have h3 := fmt03d_length (Nat.mod_lt iid.toNat (by decide : 0 < 1000))
  have hx := fmtX_length_le (UInt64.toNat_lt iid)
  have ht := typeName_length type.toNat
  simp only [filePathText, List.length_append, ascii_length]
  have : "/".length = 1 := rfl
  have : ".".length = 1 := rfl
  omega

theorem filePathText_ne_zero {cfg : IdfsConfig} (hd : ∀ c ∈ cfg.imgDir, c ≠ 0) (iid : UInt64)
    (type : UInt16) : ∀ c ∈ filePathText cfg iid type, c ≠ 0 := by
  intro c hc
  simp only [filePathText, List.mem_append] at hc
  -- the directory, the separators, the digits, the type's name
  rcases hc with ((((((h | h) | h) | h) | h) | h) | h)
  · exact hd c h
  · exact forall_ne_of_all rfl c h
  · intro h0; have := (mem_fmt03d h).1; subst h0; simp at this
  · exact forall_ne_of_all rfl c h
  · intro h0; rcases mem_fmtX h with h' | h' <;> (subst h0; simp at h')
  · exact forall_ne_of_all rfl c h
  · exact mem_typeName h

/-- The hex digits of `%lx` end at the `.` before the type's name. -/
theorem takeWhile_fmtX_dot (n : Nat) (rest : Bytes) :
    (fmtX n ++ (ascii "." ++ rest)).takeWhile (fun c => c != 46) = fmtX n := by
  rw [List.takeWhile_append_of_pos]
  · simp [ascii]
  · intro c hc
    rcases mem_fmtX hc with h | h <;> (simp only [bne_iff_ne, ne_eq]; intro e; subst e; simp at h)

section Plain

variable {cfg : IdfsConfig} (hcfg : cfg.Plain)
include hcfg

/-- **`file_path`, whole**. -/
theorem imgFilePath_plain (heap : Nat → UInt8) (iid : UInt64) (type : UInt16) :
    imgFilePath cfg heap iid type = filePathText cfg iid type := by
  have hlen := filePathText_length_le cfg iid type
  have hshort := hcfg.short
  exact qFormat_short heap (show (filePathText cfg iid type).length < 1024 by omega)

theorem cstr_imgFilePath (heap : Nat → UInt8) (iid : UInt64) (type : UInt16) :
    cstr (imgFilePath cfg heap iid type) = filePathText cfg iid type := by
  rw [imgFilePath_plain hcfg]
  exact cstr_of_forall (filePathText_ne_zero hcfg.imgDir_ne_zero iid type)

/-- **`local_path`, whole**: `img_path/` and then `file_path`. -/
theorem cstr_imgLocalPath (heap0 heap1 : Nat → UInt8) (iid : UInt64) (type : UInt16) :
    cstr (imgLocalPath cfg heap1 (imgFilePath cfg heap0 iid type)) =
      cfg.imgPath ++ ascii "/" ++ filePathText cfg iid type := by
  have hlen := filePathText_length_le cfg iid type
  have hshort := hcfg.short
  rw [imgLocalPath, cstr_imgFilePath hcfg, qFormat_short heap1 (by
    simp only [List.length_append, ascii_length]
    have : "/".length = 1 := rfl
    omega)]
  apply cstr_of_forall
  intro c hc
  simp only [List.mem_append] at hc
  rcases hc with (h | h) | h
  · exact hcfg.imgPath_ne_zero c h
  · exact forall_ne_of_all rfl c h
  · exact filePathText_ne_zero hcfg.imgDir_ne_zero iid type c h

/-- **The local path names the image id.** -/
theorem imgLocalPath_inj {heap0 heap1 heap0' heap1' : Nat → UInt8} {iid iid' : UInt64}
    {type type' : UInt16}
    (h : cstr (imgLocalPath cfg heap1 (imgFilePath cfg heap0 iid type)) =
      cstr (imgLocalPath cfg heap1' (imgFilePath cfg heap0' iid' type'))) : iid = iid' := by
  rw [cstr_imgLocalPath hcfg, cstr_imgLocalPath hcfg] at h
  simp only [filePathText, List.append_assoc, List.append_cancel_left_eq] at h
  -- past `img_path/img_dir/`: three digits, a slash, the hex digits, a dot
  have h3 := List.append_inj h (by
    rw [fmt03d_length (Nat.mod_lt _ (by decide)), fmt03d_length (Nat.mod_lt _ (by decide))])
  have hx := List.append_cancel_left h3.2
  have hhex : fmtX iid.toNat = fmtX iid'.toNat := by
    have := congrArg (List.takeWhile (fun c => c != 46)) hx
    rwa [takeWhile_fmtX_dot, takeWhile_fmtX_dot] at this
  exact UInt64.toNat_inj.mp (fmtX_inj hhex)

end Plain

end ImageDfs
