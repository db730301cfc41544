/-
  File:      ImageDfs/Server/Initialize.lean
  Subject:   THE IMAGE DIRECTORIES: what `IDFSServer::initialize` creates through `QDir::mkdir`,
             against the directory `server_main` writes each image into.

  `initialize` makes `img_path_`, then `"%s/%s/%03d"` of `img_path_`, `img_dir_` and each
  `i < img_subdir_num_`. `server_main` writes an image to `img_path/img_dir/%03d/%lx.type` of
  `iid % 1000`. `QDir::mkdir` makes a path one component at a time, so the directories that
  exist afterwards are the old ones and prefixes of the paths it was given:

  * `sysMkdir`, `mkdirWalk`, `qdirMkdir` -- the system call and the walk of `QDir::mkdir`;
    `qdirMkdir_new` (it makes only prefixes of its path), `qdirMkdir_mem` (on success the path
    is a directory, unless another entry had its name), `qdirMkdir_ok` (with no refusal from
    the system it succeeds);
  * `qdirMkdir_preserves`, `initializeServer_preserves` -- what every call of `mkdir` keeps,
    `QDir::mkdir` and `initialize` keep;
  * `mkdirSubdirs`, `initializeServer` -- the loop and `initialize`, over the directories that
    exist;
  * `dirName_localPath` -- the directory of `local_path` is `img_path/img_dir/%03d` of
    `iid % 1000`;
  * `initialize_leaves_subdir_missing` -- nothing checks `img-subdir-num` against the modulus
    1000: an image id whose `iid % 1000` is not below it gets a directory `initialize` never
    made;
  * `initialize_makes_every_subdir` -- with `img-subdir-num` at least 1000 (1000 in `init.cnf`)
    and no regular file in the place of an image directory, every image's directory exists once
    `initialize` has succeeded;
  * `initialize_ok_over_file` -- `mkdir` answers `EEXIST` for a regular file too, and
    `QDir::mkdir` takes that for success: with a file at `img_path/img_dir/000`, `initialize`
    returns `TCP_OK` and the images of ids `0 mod 1000` have no directory.
-/
import ImageDfs.Server.Files

namespace ImageDfs

/-! ## 1. `QDir::mkdir` -/

/-- `DIR_DEFAULT_PATH_SIZE`: the bytes of `QDir::dirpath_`. -/
def dirDefaultPathSize : Nat := 256

/-- A separator to `QDir::mkdir`: `'\\'` or `'/'`. -/
def isSep (c : UInt8) : Bool := c == 92 || c == 47

/-- The system's `mkdir` as `QDir::mkdir` sees it, beyond the directories that exist: the names
    of entries that are not directories (a regular file, a socket, a link to one), which no
    `mkdir` of `initialize` adds or removes, and the names it refuses (permissions, a missing
    parent, a full disk). -/
structure MkdirSys where
  notDir : Bytes → Bool
  fails : Bytes → Bool

/-- The system's `mkdir` of a directory name, over the directories that exist: `EEXIST`, which
    `QDir::mkdir` lets pass, when the name exists, as a directory or as another entry; otherwise
    the directory is made, unless the system refuses it. -/
def sysMkdir (sys : MkdirSys) (name : Bytes) (dirs : List Bytes) : Bool × List Bytes :=
  if name ∈ dirs ∨ sys.notDir name = true then (true, dirs)
  else if sys.fails name then (false, dirs)
  else (true, dirs ++ [name])

/-- The `Q_FOREVER` loop of `QDir::mkdir`, a byte at a time: `dirName` is what `dir_name` holds,
    the list what `ptr` has left. At each separator and at the end the directory named so far is
    made; a failure other than `EEXIST` returns `false`. -/
def mkdirWalk (sys : MkdirSys) : Bytes → Bytes → List Bytes → Bool × List Bytes
  | dirName, [], dirs => sysMkdir sys dirName dirs
  | dirName, c :: rest, dirs =>
    if isSep c then
      let r := sysMkdir sys dirName dirs
      if r.1 = false then r
      -- the separator is copied, and `ptr - dirpath >= len` ends the loop after a last one
      else if rest = [] then r
      else mkdirWalk sys (dirName ++ [c]) rest r.2
    else mkdirWalk sys (dirName ++ [c]) rest dirs

/-- `QDir::mkdir(dirpath)`: `QDir(dirpath)` copies the C string into `dirpath_`, and `mkdir()`
    refuses an empty one or one of `DIR_DEFAULT_PATH_SIZE` bytes or more (which the copy has then
    written past `dirpath_`), copies a leading separator, and walks the rest. -/
def qdirMkdir (sys : MkdirSys) (dirpath : Bytes) (dirs : List Bytes) : Bool × List Bytes :=
  let path := cstr dirpath
  if path.length = 0 ∨ dirDefaultPathSize ≤ path.length then (false, dirs)
  else
    match path with
    | [] => (false, dirs)
    | c :: rest =>
      if isSep c then
        if rest = [] then (false, dirs) else mkdirWalk sys [c] rest dirs
      else mkdirWalk sys [] (c :: rest) dirs

/-! ## 2. `initialize` -/

/-- The values `initialize` reads from the configuration, `none` where `getFieldString` or
    `getFieldInt32` fails. -/
structure InitCnf where
  imgPath : Option Bytes
  imgDir : Option Bytes
  imgSubdirNum : Option Int32
  mongoUri : Option Bytes
  mongoImgCollection : Option Bytes

/-- The outside world of `initialize`: the system's `mkdir`, a `QMongoClient` that
    `new(std::nothrow)` cannot allocate, and `QNetworkAccessManager::global_init()` failing. -/
structure InitEnv where
  mkdir : MkdirSys
  mongoAllocFails : Bool
  globalInitFails : Bool

/-- `snprintf(directory, sizeof(directory), "%s/%s/%03d", img_path_, img_dir_, i)`: the text cut
    to the 1023 bytes `directory` holds before its NUL. -/
def subdirPath (imgPath imgDir : Bytes) (i : Nat) : Bytes :=
  (cstr imgPath ++ ascii "/" ++ cstr imgDir ++ ascii "/" ++ fmt03d i).take 1023

/-- The first `n` rounds of the loop of `initialize` over `i < img_subdir_num_`. -/
def mkdirSubdirs (sys : MkdirSys) (imgPath imgDir : Bytes) : Nat → List Bytes → Bool × List Bytes
  | 0, dirs => (true, dirs)
  | n + 1, dirs =>
    let r := mkdirSubdirs sys imgPath imgDir n dirs
    if r.1 = false then r else qdirMkdir sys (subdirPath imgPath imgDir n) r.2

/-- `IDFSServer::initialize`, over the directories that exist: its return code, and the
    directories that exist afterwards. `snprintf` of these formats never returns a negative
    count. -/
def initializeServer (env : InitEnv) (cnf : InitCnf) (dirs : List Bytes) : Int32 × List Bytes :=
  match cnf.imgPath, cnf.imgDir, cnf.imgSubdirNum, cnf.mongoUri, cnf.mongoImgCollection with
  | some imgPath, some imgDir, some num, some _, some _ =>
    let r1 := qdirMkdir env.mkdir imgPath dirs
    if r1.1 = false then (tcpErr, r1.2)
    else
      let r2 := mkdirSubdirs env.mkdir imgPath imgDir num.toNatClampNeg r1.2
      if r2.1 = false then (tcpErr, r2.2)
      else if env.mongoAllocFails || env.globalInitFails then (tcpErr, r2.2)
      else (tcpOk, r2.2)
  | _, _, _, _, _ => (tcpErr, dirs)

/-! ## 3. What `mkdir` makes -/

section Mkdir

variable {f : MkdirSys}

theorem sysMkdir_sub (name : Bytes) (dirs : List Bytes) : dirs ⊆ (sysMkdir f name dirs).2 := by
  unfold sysMkdir
  split_ifs
  · exact List.Subset.refl _
  · exact List.Subset.refl _
  · exact List.subset_append_left _ _

theorem sysMkdir_new {name : Bytes} {dirs : List Bytes} {x : Bytes}
    (h : x ∈ (sysMkdir f name dirs).2) : x ∈ dirs ∨ x = name := by
  unfold sysMkdir at h
  split_ifs at h
  · exact .inl h
  · exact .inl h
  · simpa using h

/-- A call that succeeds leaves a directory of that name, unless another entry had it. -/
theorem sysMkdir_mem {name : Bytes} {dirs : List Bytes} (hnd : f.notDir name = false)
    (h : (sysMkdir f name dirs).1 = true) : name ∈ (sysMkdir f name dirs).2 := by
  unfold sysMkdir at h ⊢
  split_ifs at h ⊢ with hin
  · simpa [hnd] using hin
  · simp

/-- A name another entry has is never made a directory. -/
theorem sysMkdir_not_mem {name x : Bytes} {dirs : List Bytes} (hx : f.notDir x = true)
    (h : x ∉ dirs) : x ∉ (sysMkdir f name dirs).2 := by
  intro hmem
  rcases sysMkdir_new hmem with hd | rfl
  · exact h hd
  · unfold sysMkdir at hmem
    rw [if_pos (.inr hx)] at hmem
    exact h hmem

theorem sysMkdir_ok (hf : ∀ x, f.fails x = false) (name : Bytes) (dirs : List Bytes) :
    (sysMkdir f name dirs).1 = true := by
  unfold sysMkdir
  split_ifs with h1 h2
  · rfl
  · rw [hf] at h2
    exact absurd h2 Bool.false_ne_true
  · rfl

/-! What every call of the system's `mkdir` keeps, the walk, `QDir::mkdir` and the loop of
    `initialize` keep: they change the directories only through it. -/

section Preserve

variable (P : List Bytes → Prop) (hP : ∀ name dirs, P dirs → P (sysMkdir f name dirs).2)
include hP

theorem mkdirWalk_preserves (dirName rest : Bytes) {dirs : List Bytes} (h : P dirs) :
    P (mkdirWalk f dirName rest dirs).2 := by
  induction rest generalizing dirName dirs with
  | nil => exact hP _ _ h
  | cons c rest ih =>
    simp only [mkdirWalk]
    split_ifs
    · exact hP _ _ h
    · exact hP _ _ h
    · exact ih _ (hP _ _ h)
    · exact ih _ h

theorem qdirMkdir_preserves (p : Bytes) {dirs : List Bytes} (h : P dirs) :
    P (qdirMkdir f p dirs).2 := by
  dsimp only [qdirMkdir]
  split_ifs
  · exact h
  · split
    · exact h
    · split_ifs
      · exact h
      · exact mkdirWalk_preserves P hP _ _ h
      · exact mkdirWalk_preserves P hP _ _ h

theorem mkdirSubdirs_preserves (imgPath imgDir : Bytes) (n : Nat) {dirs : List Bytes}
    (h : P dirs) : P (mkdirSubdirs f imgPath imgDir n dirs).2 := by
  induction n with
  | zero => exact h
  | succ n ih =>
    simp only [mkdirSubdirs]
    split_ifs
    · exact ih
    · exact qdirMkdir_preserves P hP _ ih

end Preserve

/-- The walk only adds directories. -/
theorem mkdirWalk_sub (dirName rest : Bytes) (dirs : List Bytes) :
    dirs ⊆ (mkdirWalk f dirName rest dirs).2 :=
  mkdirWalk_preserves (dirs ⊆ ·) (fun _ _ h => List.Subset.trans h (sysMkdir_sub _ _)) _ _
    (List.Subset.refl _)

/-- **The walk makes only prefixes of its path.** -/
theorem mkdirWalk_new {dirName rest : Bytes} {dirs : List Bytes} {x : Bytes}
    (h : x ∈ (mkdirWalk f dirName rest dirs).2) : x ∈ dirs ∨ x <+: dirName ++ rest := by
  induction rest generalizing dirName dirs with
  | nil =>
    rcases sysMkdir_new h with h | rfl
    · exact .inl h
    · exact .inr (by simp)
  | cons c rest ih =>
    simp only [mkdirWalk] at h
    -- a name made at a separator is `dirName`, a prefix of the whole
    have hname : ∀ {dirs'}, x ∈ (sysMkdir f dirName dirs').2 → x ∈ dirs' ∨ x <+: dirName ++ c :: rest :=
      fun h' => (sysMkdir_new h').imp_right fun e => by rw [e]; exact List.prefix_append _ _
    split_ifs at h
    · exact hname h
    · exact hname h
    · rcases ih h with h | h
      · exact hname h
      · exact .inr (by simpa using h)
    · rcases ih h with h | h
      · exact .inl h
      · exact .inr (by simpa using h)

/-- **A walk that succeeds has made its whole path** a directory, when the path does not end
    in a separator and no other entry has its name. -/
theorem mkdirWalk_mem {c : UInt8} (hc : isSep c = false) {dirName init : Bytes} {dirs : List Bytes}
    (hnd : f.notDir (dirName ++ init ++ [c]) = false)
    (hok : (mkdirWalk f dirName (init ++ [c]) dirs).1 = true) :
    dirName ++ init ++ [c] ∈ (mkdirWalk f dirName (init ++ [c]) dirs).2 := by
  induction init generalizing dirName dirs with
  | nil =>
    simp only [List.nil_append, mkdirWalk, hc, Bool.false_eq_true, if_false] at hok ⊢
    simpa using sysMkdir_mem (by simpa using hnd) hok
  | cons a init ih =>
    simp only [List.cons_append, mkdirWalk] at hok ⊢
    have hne : init ++ [c] ≠ [] := by simp
    by_cases ha : isSep a = true
    · simp only [ha, if_true, hne, if_false] at hok ⊢
      split_ifs at hok ⊢ with h1
      · rw [h1] at hok
        exact absurd hok Bool.false_ne_true
      · simpa using ih (by simpa using hnd) hok
    · simp only [ha, Bool.false_eq_true, if_false] at hok ⊢
      simpa using ih (by simpa using hnd) hok

theorem mkdirWalk_ok (hf : ∀ x, f.fails x = false) (dirName rest : Bytes) (dirs : List Bytes) :
    (mkdirWalk f dirName rest dirs).1 = true := by
  induction rest generalizing dirName dirs with
  | nil => exact sysMkdir_ok hf _ _
  | cons c rest ih =>
    simp only [mkdirWalk]
    have hs := sysMkdir_ok hf dirName dirs
    split_ifs with h1 h2 h3
    · rw [h2] at hs
      exact absurd hs Bool.false_ne_true
    · exact hs
    · exact ih _ _
    · exact ih _ _

theorem qdirMkdir_sub (p : Bytes) (dirs : List Bytes) : dirs ⊆ (qdirMkdir f p dirs).2 :=
  qdirMkdir_preserves (dirs ⊆ ·) (fun _ _ h => List.Subset.trans h (sysMkdir_sub _ _)) _
    (List.Subset.refl _)

/-- **`QDir::mkdir` makes only prefixes of its path.** -/
theorem qdirMkdir_new {p : Bytes} {dirs : List Bytes} {x : Bytes}
    (h : x ∈ (qdirMkdir f p dirs).2) : x ∈ dirs ∨ x <+: cstr p := by
  dsimp only [qdirMkdir] at h
  split_ifs at h
  · exact .inl h
  · split at h
    · exact .inl h
    · rename_i c rest hp
      rw [hp]
      split_ifs at h
      · exact .inl h
      · simpa using mkdirWalk_new h
      · simpa using mkdirWalk_new h

/-- **`QDir::mkdir` that succeeds has made its path** a directory, when it does not end in a
    separator and no other entry has its name. -/
theorem qdirMkdir_mem {p : Bytes} {dirs : List Bytes} (hok : (qdirMkdir f p dirs).1 = true)
    {init : Bytes} {c : UInt8} (hp : cstr p = init ++ [c]) (hc : isSep c = false)
    (hnd : f.notDir (cstr p) = false) : cstr p ∈ (qdirMkdir f p dirs).2 := by
  dsimp only [qdirMkdir] at hok ⊢
  split_ifs at hok ⊢
  split at hok
  · exact absurd hok Bool.false_ne_true
  · rename_i a rest hpa
    rw [hpa] at hp ⊢
    split_ifs at hok ⊢ with hs hr
    · -- a leading separator: `init` starts with it, and the walk goes over the rest
      obtain ⟨init', rfl, rfl⟩ : ∃ init', init = a :: init' ∧ rest = init' ++ [c] := by
        cases init with
        | nil =>
          simp only [List.nil_append, List.cons.injEq] at hp
          rw [hp.1, hc] at hs
          exact absurd hs Bool.false_ne_true
        | cons b init' =>
          simp only [List.cons_append, List.cons.injEq] at hp
          exact ⟨init', by rw [hp.1], hp.2⟩
      rw [hpa, hp] at hnd
      simpa using @mkdirWalk_mem f c hc [a] init' dirs (by simpa using hnd) hok
    · rw [hpa, hp] at hnd
      rw [hp] at hok ⊢
      simpa using @mkdirWalk_mem f c hc [] init dirs (by simpa using hnd) hok

/-- With no refusal from the system, `QDir::mkdir` of a path shorter than `dirpath_` that does
    not end in a separator succeeds. -/
theorem qdirMkdir_ok (hf : ∀ x, f.fails x = false) {p : Bytes} (hlen : (cstr p).length < dirDefaultPathSize)
    {init : Bytes} {c : UInt8} (hp : cstr p = init ++ [c]) (hc : isSep c = false)
    (dirs : List Bytes) : (qdirMkdir f p dirs).1 = true := by
  dsimp only [qdirMkdir]
  have hpos : (cstr p).length ≠ 0 := by simp [hp]
  rw [if_neg (by omega)]
  split
  · rename_i hnil
    rw [hnil] at hpos
    exact absurd rfl hpos
  · rename_i a rest hpa
    split_ifs with hs hr
    · -- a path of one separator ends in one
      rw [hpa, hr] at hp
      obtain ⟨-, rfl⟩ : init = [] ∧ a = c := by
        cases init with
        | nil => simpa using hp
        | cons b init' => simp at hp
      rw [hs] at hc
      exact absurd hc (by decide)
    · exact mkdirWalk_ok hf _ _ _
    · exact mkdirWalk_ok hf _ _ _

end Mkdir

/-! ## 4. What `initialize` makes -/

section Init

variable {f : MkdirSys} {imgPath imgDir : Bytes}

/-- The loop makes only prefixes of the paths of its rounds. -/
theorem mkdirSubdirs_new {n : Nat} {dirs : List Bytes} {x : Bytes}
    (h : x ∈ (mkdirSubdirs f imgPath imgDir n dirs).2) :
    x ∈ dirs ∨ ∃ i < n, x <+: cstr (subdirPath imgPath imgDir i) := by
  induction n with
  | zero => exact .inl h
  | succ n ih =>
    simp only [mkdirSubdirs] at h
    have hprev : x ∈ (mkdirSubdirs f imgPath imgDir n dirs).2 →
        x ∈ dirs ∨ ∃ i < n + 1, x <+: cstr (subdirPath imgPath imgDir i) :=
      fun h' => (ih h').imp_right fun ⟨i, hi, hx⟩ => ⟨i, Nat.lt_succ_of_lt hi, hx⟩
    split_ifs at h
    · exact hprev h
    · rcases qdirMkdir_new h with h | h
      · exact hprev h
      · exact .inr ⟨n, Nat.lt_succ_self n, h⟩

/-- A loop that succeeds has made the path of each round a directory, when none ends in a
    separator, unless another entry had its name. -/
theorem mkdirSubdirs_mem {n : Nat} {dirs : List Bytes}
    (hlast : ∀ i < n, ∃ init c, cstr (subdirPath imgPath imgDir i) = init ++ [c] ∧ isSep c = false)
    (hok : (mkdirSubdirs f imgPath imgDir n dirs).1 = true) :
    ∀ i < n, f.notDir (cstr (subdirPath imgPath imgDir i)) = false →
      cstr (subdirPath imgPath imgDir i) ∈ (mkdirSubdirs f imgPath imgDir n dirs).2 := by
  induction n with
  | zero => intro i hi; omega
  | succ n ih =>
    simp only [mkdirSubdirs] at hok ⊢
    split_ifs at hok ⊢ with h1
    · rw [h1] at hok
      exact absurd hok Bool.false_ne_true
    · have hprev := ih (fun i hi => hlast i (Nat.lt_succ_of_lt hi)) (by simpa using h1)
      intro i hi hnd
      rcases Nat.lt_succ_iff_lt_or_eq.mp hi with hi | rfl
      · exact qdirMkdir_sub _ _ (hprev i hi hnd)
      · obtain ⟨init, c, hp, hc⟩ := hlast i hi
        exact qdirMkdir_mem hok hp hc hnd

theorem mkdirSubdirs_ok (hf : ∀ x, f.fails x = false) {n : Nat}
    (hpaths : ∀ i < n, (cstr (subdirPath imgPath imgDir i)).length < dirDefaultPathSize ∧
      ∃ init c, cstr (subdirPath imgPath imgDir i) = init ++ [c] ∧ isSep c = false)
    (dirs : List Bytes) : (mkdirSubdirs f imgPath imgDir n dirs).1 = true := by
  induction n with
  | zero => rfl
  | succ n ih =>
    simp only [mkdirSubdirs]
    have hprev := ih (fun i hi => hpaths i (Nat.lt_succ_of_lt hi))
    rw [if_neg (by simp [hprev])]
    obtain ⟨hlen, init, c, hp, hc⟩ := hpaths n (Nat.lt_succ_self n)
    exact qdirMkdir_ok hf hlen hp hc _

end Init

/-! ## 5. The paths, spelled out -/

/-- `img_path/img_dir/%03d` of `i`. -/
def subdirText (imgPath imgDir : Bytes) (i : Nat) : Bytes :=
  imgPath ++ ascii "/" ++ imgDir ++ ascii "/" ++ fmt03d i

/-- The directory a path names its file in: the bytes before its last `/`. -/
def dirName (p : Bytes) : Bytes := ((p.reverse.dropWhile (fun c => c != 47)).drop 1).reverse

theorem dirName_append {d s : Bytes} (hs : ∀ c ∈ s, c ≠ 47) : dirName (d ++ ascii "/" ++ s) = d := by
  have hdrop : s.reverse.dropWhile (fun c => c != 47) = [] := by
    rw [List.dropWhile_eq_nil_iff]
    intro c hc
    simpa using hs c (List.mem_reverse.mp hc)
  have hslash : ascii "/" = [47] := rfl
  simp [dirName, hslash, List.dropWhile_append, hdrop]

theorem isSep_of_digit {c : UInt8} (h : 48 ≤ c.toNat ∧ c.toNat ≤ 57) : isSep c = false := by
  have h92 : c ≠ 92 := fun e => by subst e; simp at h
  have h47 : c ≠ 47 := fun e => by subst e; simp at h
  simp [isSep, h92, h47]

theorem fmt03d_length_le {i : Nat} (hi : i < 10 ^ 10) : (fmt03d i).length ≤ 10 := by
  have hle := fmtU_length_le (by decide : 0 < 10) hi
  simp only [fmt03d, List.length_append, List.length_replicate]
  omega

theorem subdirText_length (imgPath imgDir : Bytes) (i : Nat) :
    (subdirText imgPath imgDir i).length = imgPath.length + imgDir.length + 2 + (fmt03d i).length := by
  simp only [subdirText, List.length_append, ascii_length]
  have : "/".length = 1 := rfl
  omega

/-- A directory name ends in a digit of `%03d`, not in a separator. -/
theorem subdirText_last (imgPath imgDir : Bytes) (i : Nat) :
    ∃ init c, subdirText imgPath imgDir i = init ++ [c] ∧ isSep c = false := by
  rcases List.eq_nil_or_concat (fmt03d i) with h | ⟨init, c, hc⟩
  · have hne : fmt03d i ≠ [] := by simp [fmt03d, fmtU_ne_nil]
    exact absurd h hne
  · refine ⟨imgPath ++ ascii "/" ++ imgDir ++ ascii "/" ++ init, c, ?_, ?_⟩
    · simp [subdirText, hc]
    · exact isSep_of_digit (mem_fmt03d (by rw [hc]; simp))

theorem typeName_no_slash (k : Nat) : ∀ c ∈ ascii (getImageTypeName k), c ≠ 47 := by
  unfold getImageTypeName
  split <;> exact forall_ne_of_all rfl

section Plain

variable {imgPath imgDir : Bytes} (hcfg : IdfsConfig.Plain ⟨imgPath, imgDir⟩)
include hcfg

theorem subdirText_ne_zero (i : Nat) : ∀ c ∈ subdirText imgPath imgDir i, c ≠ 0 := by
  intro c hc
  simp only [subdirText, List.mem_append] at hc
  rcases hc with (((h | h) | h) | h) | h
  · exact hcfg.imgPath_ne_zero c h
  · exact forall_ne_of_all rfl c h
  · exact hcfg.imgDir_ne_zero c h
  · exact forall_ne_of_all rfl c h
  · intro h0
    have := (mem_fmt03d h).1
    subst h0
    simp at this

/-- **The directory of round `i`, whole**: with a plain configuration `snprintf` cuts nothing and
    `QDir` reads all of it. -/
theorem cstr_subdirPath {i : Nat} (hi : i < 10 ^ 10) :
    cstr (subdirPath imgPath imgDir i) = subdirText imgPath imgDir i := by
  have hlen := fmt03d_length_le hi
  have hshort := hcfg.short
  have hp : cstr imgPath = imgPath := cstr_of_forall hcfg.imgPath_ne_zero
  have hd : cstr imgDir = imgDir := cstr_of_forall hcfg.imgDir_ne_zero
  have htake : (subdirText imgPath imgDir i).take 1023 = subdirText imgPath imgDir i := by
    apply List.take_of_length_le
    simp only [subdirText, List.length_append, ascii_length]
    have : "/".length = 1 := rfl
    simp only at hshort
    omega
  rw [subdirPath, hp, hd, ← subdirText, htake]
  exact cstr_of_forall (subdirText_ne_zero hcfg i)

/-- **The directory of `local_path`** is `img_path/img_dir/%03d` of `iid % 1000`. -/
theorem dirName_localPath (heap0 heap1 : Nat → UInt8) (iid : UInt64) (type : UInt16) :
    dirName (cstr (imgLocalPath ⟨imgPath, imgDir⟩ heap1 (imgFilePath ⟨imgPath, imgDir⟩ heap0 iid type))) =
      subdirText imgPath imgDir (iid.toNat % 1000) := by
  rw [cstr_imgLocalPath hcfg]
  have hsplit : imgPath ++ ascii "/" ++ filePathText ⟨imgPath, imgDir⟩ iid type =
      subdirText imgPath imgDir (iid.toNat % 1000) ++ ascii "/" ++
        (fmtX iid.toNat ++ ascii "." ++ ascii (getImageTypeName type.toNat)) := by
    simp only [filePathText, subdirText, List.append_assoc]
  rw [hsplit]
  apply dirName_append
  intro c hc
  simp only [List.mem_append] at hc
  rcases hc with (h | h) | h
  · intro e
    subst e
    rcases mem_fmtX h with h' | h' <;> simp at h'
  · exact forall_ne_of_all rfl c h
  · exact typeName_no_slash _ c h

end Plain

/-! ## 6. The directories against the images -/

/-- **What `initialize` leaves**: the directories it was given when a field is missing, and
    otherwise those after `QDir::mkdir(img_path_)` or after the loop too; `TCP_OK` only when both
    succeed, with the directories after the loop. -/
theorem initializeServer_cases (env : InitEnv) (cnf : InitCnf) (dirs : List Bytes) :
    initializeServer env cnf dirs = (tcpErr, dirs) ∨
      ∃ imgPath imgDir num, cnf.imgPath = some imgPath ∧ cnf.imgDir = some imgDir ∧
        cnf.imgSubdirNum = some num ∧
        (initializeServer env cnf dirs = (tcpErr, (qdirMkdir env.mkdir imgPath dirs).2) ∨
          ((qdirMkdir env.mkdir imgPath dirs).1 = true ∧
            (initializeServer env cnf dirs).2 = (mkdirSubdirs env.mkdir imgPath imgDir
              num.toNatClampNeg (qdirMkdir env.mkdir imgPath dirs).2).2 ∧
            ((initializeServer env cnf dirs).1 = tcpOk →
              (mkdirSubdirs env.mkdir imgPath imgDir num.toNatClampNeg
                (qdirMkdir env.mkdir imgPath dirs).2).1 = true))) := by
  have herr : tcpErr ≠ tcpOk := by decide
  unfold initializeServer
  split
  · rename_i imgPath imgDir num _ _ hp hd hn _ _
    refine .inr ⟨imgPath, imgDir, num, hp, hd, hn, ?_⟩
    dsimp only
    split_ifs with h1 h2 h3
    · exact .inl rfl
    · exact .inr ⟨by simpa using h1, rfl, fun h => absurd h herr⟩
    · exact .inr ⟨by simpa using h1, rfl, fun h => absurd h herr⟩
    · exact .inr ⟨by simpa using h1, rfl, fun _ => by simpa using h2⟩
  · exact .inl rfl

/-- What every call of the system's `mkdir` keeps, `initialize` keeps. -/
theorem initializeServer_preserves (P : List Bytes → Prop) (env : InitEnv) (cnf : InitCnf)
    (hP : ∀ name dirs, P dirs → P (sysMkdir env.mkdir name dirs).2) {dirs : List Bytes}
    (h : P dirs) : P (initializeServer env cnf dirs).2 := by
  rcases initializeServer_cases env cnf dirs with he | ⟨p, d, n, -, -, -, he | ⟨-, he, -⟩⟩
  · rw [he]
    exact h
  · rw [he]
    exact qdirMkdir_preserves P hP _ h
  · rw [he]
    exact mkdirSubdirs_preserves P hP _ _ _ (qdirMkdir_preserves P hP _ h)

/-- **A name another entry has is never made a directory**: `mkdir` answers `EEXIST` for it,
    which `QDir::mkdir` takes for success. -/
theorem initializeServer_not_mem (env : InitEnv) (cnf : InitCnf) {dirs : List Bytes} {x : Bytes}
    (hx : env.mkdir.notDir x = true) (h : x ∉ dirs) : x ∉ (initializeServer env cnf dirs).2 :=
  initializeServer_preserves (x ∉ ·) env cnf (fun _ _ h' => sysMkdir_not_mem hx h') h

/-- Every directory that exists after `initialize` existed before or is a prefix of a path it
    gave `QDir::mkdir`. -/
theorem initializeServer_new {env : InitEnv} {cnf : InitCnf} {dirs : List Bytes}
    {imgPath imgDir : Bytes} {num : Int32} (hpath : cnf.imgPath = some imgPath)
    (hdir : cnf.imgDir = some imgDir) (hnum : cnf.imgSubdirNum = some num) {x : Bytes}
    (h : x ∈ (initializeServer env cnf dirs).2) :
    x ∈ dirs ∨ x <+: cstr imgPath ∨
      ∃ i < num.toNatClampNeg, x <+: cstr (subdirPath imgPath imgDir i) := by
  rcases initializeServer_cases env cnf dirs with he | ⟨p, d, n, hp, hd, hn, he | ⟨-, he, -⟩⟩
  · rw [he] at h
    exact .inl h
  all_goals
    rw [hpath, Option.some.injEq] at hp
    rw [hdir, Option.some.injEq] at hd
    rw [hnum, Option.some.injEq] at hn
    subst hp hd hn
    rw [he] at h
  · exact (qdirMkdir_new h).imp_right .inl
  · rcases mkdirSubdirs_new h with h | h
    · exact (qdirMkdir_new h).imp_right .inl
    · exact .inr (.inr h)

/-- **`initialize` succeeds** when every field is read and nothing in the outside world fails,
    for a plain configuration whose directories fit `dirpath_` and whose `img_path` does not end
    in a separator. -/
theorem initializeServer_ok {env : InitEnv} (hf : ∀ x, env.mkdir.fails x = false)
    (hm : env.mongoAllocFails = false) (hg : env.globalInitFails = false) {cnf : InitCnf}
    {imgPath imgDir uri coll : Bytes} {num : Int32} (hpath : cnf.imgPath = some imgPath)
    (hdir : cnf.imgDir = some imgDir) (hnum : cnf.imgSubdirNum = some num)
    (huri : cnf.mongoUri = some uri) (hcoll : cnf.mongoImgCollection = some coll)
    (hcfg : IdfsConfig.Plain ⟨imgPath, imgDir⟩)
    (hshort : imgPath.length + imgDir.length + 12 < dirDefaultPathSize)
    (hlast : ∃ init c, imgPath = init ++ [c] ∧ isSep c = false)
    (dirs : List Bytes) : (initializeServer env cnf dirs).1 = tcpOk := by
  obtain ⟨init, c, hlast, hc⟩ := hlast
  have hp : cstr imgPath = imgPath := cstr_of_forall hcfg.imgPath_ne_zero
  have h1 : (qdirMkdir env.mkdir imgPath dirs).1 = true := by
    refine qdirMkdir_ok hf ?_ (hp.trans hlast) hc dirs
    rw [hp]
    omega
  -- each round's directory is `img_path/img_dir/%03d`, of at most ten digits
  have h2 : ∀ d, (mkdirSubdirs env.mkdir imgPath imgDir num.toNatClampNeg d).1 = true := by
    intro d
    apply mkdirSubdirs_ok hf
    intro i hi
    have hnumlt := Int32.toInt_lt num
    have hrange : i < 10 ^ 10 := by
      rw [← Int32.toNat_toInt] at hi
      omega
    rw [cstr_subdirPath hcfg hrange]
    refine ⟨?_, subdirText_last imgPath imgDir i⟩
    have := fmt03d_length_le hrange
    rw [subdirText_length]
    omega
  unfold initializeServer
  rw [hpath, hdir, hnum, huri, hcoll]
  simp only [h1, h2, hm, hg]
  rfl

/-- **A missing image directory.** Nothing checks `img-subdir-num` against the modulus 1000 of
    `server_main`: for an image id whose `iid % 1000` is not below `img-subdir-num`, the
    directory of its `local_path` is not one `initialize` makes; it exists afterwards only if it
    existed before. -/
theorem initialize_leaves_subdir_missing (env : InitEnv) (cnf : InitCnf) (dirs : List Bytes)
    {imgPath imgDir : Bytes} {num : Int32} (hpath : cnf.imgPath = some imgPath)
    (hdir : cnf.imgDir = some imgDir) (hnum : cnf.imgSubdirNum = some num)
    (hcfg : IdfsConfig.Plain ⟨imgPath, imgDir⟩) (iid : UInt64)
    (hiid : num.toNatClampNeg ≤ iid.toNat % 1000) (heap0 heap1 : Nat → UInt8) (type : UInt16)
    (hin : dirName (cstr (imgLocalPath ⟨imgPath, imgDir⟩ heap1
      (imgFilePath ⟨imgPath, imgDir⟩ heap0 iid type))) ∈ (initializeServer env cnf dirs).2) :
    dirName (cstr (imgLocalPath ⟨imgPath, imgDir⟩ heap1
      (imgFilePath ⟨imgPath, imgDir⟩ heap0 iid type))) ∈ dirs := by
  rw [dirName_localPath hcfg] at hin ⊢
  have hmod : iid.toNat % 1000 < 1000 := Nat.mod_lt _ (by decide)
  have hlen := subdirText_length imgPath imgDir (iid.toNat % 1000)
  rw [fmt03d_length hmod] at hlen
  rcases initializeServer_new hpath hdir hnum hin with h | h | ⟨i, hi, h⟩
  · exact h
  · -- `img_path` is shorter than the directory
    have hp : cstr imgPath = imgPath := cstr_of_forall hcfg.imgPath_ne_zero
    have := h.length_le
    rw [hp] at this
    omega
  · -- a round `i` below `img-subdir-num` makes `%03d` of `i`, three digits as well
    have hi1000 : i < 1000 := by omega
    rw [cstr_subdirPath hcfg (by omega)] at h
    have hleni := subdirText_length imgPath imgDir i
    rw [fmt03d_length hi1000] at hleni
    have heq := h.eq_of_length (by omega)
    simp only [subdirText, List.append_cancel_left_eq] at heq
    have := fmt03d_inj heq
    omega

/-- **Every image directory exists** once `initialize` has succeeded with `img-subdir-num` at
    least 1000 and a plain configuration, when no entry other than a directory has the name of
    one of the 1000 image directories. -/
theorem initialize_makes_every_subdir (env : InitEnv) (cnf : InitCnf) (dirs : List Bytes)
    {imgPath imgDir : Bytes} {num : Int32} (hpath : cnf.imgPath = some imgPath)
    (hdir : cnf.imgDir = some imgDir) (hnum : cnf.imgSubdirNum = some num)
    (hcfg : IdfsConfig.Plain ⟨imgPath, imgDir⟩) (h1000 : 1000 ≤ num.toInt)
    (hfiles : ∀ i < 1000, env.mkdir.notDir (subdirText imgPath imgDir i) = false)
    (hok : (initializeServer env cnf dirs).1 = tcpOk) (iid : UInt64) (heap0 heap1 : Nat → UInt8)
    (type : UInt16) :
    dirName (cstr (imgLocalPath ⟨imgPath, imgDir⟩ heap1
      (imgFilePath ⟨imgPath, imgDir⟩ heap0 iid type))) ∈ (initializeServer env cnf dirs).2 := by
  rw [dirName_localPath hcfg]
  have hnumlt := Int32.toInt_lt num
  have hrounds : ∀ i < num.toNatClampNeg, i < 10 ^ 10 := by
    intro i hi
    have : num.toNatClampNeg = num.toInt.toNat := (Int32.toNat_toInt num).symm
    omega
  have hlast : ∀ i < num.toNatClampNeg, ∃ init c,
      cstr (subdirPath imgPath imgDir i) = init ++ [c] ∧ isSep c = false := by
    intro i hi
    rw [cstr_subdirPath hcfg (hrounds i hi)]
    exact subdirText_last imgPath imgDir i
  have hiid : iid.toNat % 1000 < num.toNatClampNeg := by
    have : num.toNatClampNeg = num.toInt.toNat := (Int32.toNat_toInt num).symm
    have := Nat.mod_lt iid.toNat (by decide : 0 < 1000)
    omega
  have herr : tcpErr ≠ tcpOk := by decide
  rcases initializeServer_cases env cnf dirs with he | ⟨p, d, n, hp, hd, hn, he | ⟨-, he, hloop⟩⟩
  · rw [he] at hok
    exact absurd hok herr
  · rw [he] at hok
    exact absurd hok herr
  · rw [hpath, Option.some.injEq] at hp
    rw [hdir, Option.some.injEq] at hd
    rw [hnum, Option.some.injEq] at hn
    subst hp hd hn
    rw [he, ← cstr_subdirPath hcfg (hrounds _ hiid)]
    refine mkdirSubdirs_mem hlast (hloop hok) _ hiid ?_
    rw [cstr_subdirPath hcfg (hrounds _ hiid)]
    exact hfiles _ (Nat.mod_lt _ (by decide))

/-! ## 7. `conf/init.cnf` -/

/-- The values of `conf/init.cnf`, with `img-subdir-num` as given. -/
def initCnf (num : Int32) : InitCnf :=
  ⟨some initCnfConfig.imgPath, some initCnfConfig.imgDir, some num,
    some (ascii "mongodb://192.168.1.91:27017"), some (ascii "IDDS.imgdb")⟩

/-- Nothing in the outside world fails, and no entry but directories is on the disk. -/
def initOk : InitEnv := ⟨⟨fun _ => false, fun _ => false⟩, false, false⟩

theorem initCnf_ok {env : InitEnv} (hf : ∀ x, env.mkdir.fails x = false)
    (hm : env.mongoAllocFails = false) (hg : env.globalInitFails = false) (num : Int32)
    (dirs : List Bytes) : (initializeServer env (initCnf num) dirs).1 = tcpOk :=
  initializeServer_ok hf hm hg rfl rfl rfl rfl rfl initCnfConfig_plain (by decide)
    ⟨ascii "/data1/im", 103, rfl, rfl⟩ dirs

/-- With `img-subdir-num = 999`, one short of the modulus: `initialize` succeeds on an empty disk,
    and the image id 999 has no directory. -/
theorem initialize_leaves_subdir_missing_999 :
    (initializeServer initOk (initCnf 999) []).1 = tcpOk ∧
      dirName (cstr (imgLocalPath initCnfConfig (fun _ => 0)
        (imgFilePath initCnfConfig (fun _ => 0) 999 0))) ∉ (initializeServer initOk (initCnf 999) []).2 :=
  ⟨initCnf_ok (fun _ => rfl) rfl rfl 999 [], fun h => List.not_mem_nil
    (initialize_leaves_subdir_missing initOk (initCnf 999) [] rfl rfl rfl initCnfConfig_plain 999
      (by decide) (fun _ => 0) (fun _ => 0) 0 h)⟩

/-- `conf/init.cnf` as shipped, `img-subdir-num = 1000`: the directory of the image id 999 is
    there. -/
theorem initialize_makes_every_subdir_1000 :
    (∀ i < 1000, initOk.mkdir.notDir (subdirText initCnfConfig.imgPath initCnfConfig.imgDir i) =
        false) ∧
      dirName (cstr (imgLocalPath initCnfConfig (fun _ => 0)
        (imgFilePath initCnfConfig (fun _ => 0) 999 0))) ∈ (initializeServer initOk (initCnf 1000) []).2 :=
  ⟨fun _ _ => rfl, initialize_makes_every_subdir initOk (initCnf 1000) [] rfl rfl rfl
    initCnfConfig_plain (by decide) (fun _ _ => rfl) (initCnf_ok (fun _ => rfl) rfl rfl 1000 [])
    999 (fun _ => 0) (fun _ => 0) 0⟩

/-- `conf/init.cnf` over a disk whose only entry is a regular file `/data1/img/img005/000`. -/
def fileAt000 : InitEnv :=
  ⟨⟨fun name => name == ascii "/data1/img/img005/000", fun _ => false⟩, false, false⟩

/-- **A regular file in the place of an image directory**: `mkdir` answers `EEXIST` for it and
    `QDir::mkdir` takes that for success, so `initialize` returns `TCP_OK`, and the images of ids
    `0 mod 1000` have no directory. -/
theorem initialize_ok_over_file :
    (initializeServer fileAt000 (initCnf 1000) []).1 = tcpOk ∧
      dirName (cstr (imgLocalPath initCnfConfig (fun _ => 0)
        (imgFilePath initCnfConfig (fun _ => 0) 0 0))) ∉ (initializeServer fileAt000 (initCnf 1000) []).2 := by
  refine ⟨initCnf_ok (fun _ => rfl) rfl rfl 1000 [], ?_⟩
  -- the directory of id 0 is `/data1/img/img005/000`, the file's name
  exact initializeServer_not_mem _ _ (by decide) List.not_mem_nil

end ImageDfs
