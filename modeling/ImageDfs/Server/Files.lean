/-
  File:      ImageDfs/Server/Files.lean
  Subject:   WHAT A RECORD PROMISES: the file `img_path/imgpath` holds an image whose MD5 prints as
             the imgid and whose decoded size prints as the imgsize, over every run of the uploads
             machine in which every write reaches the file; and a run in which an `fwrite` fails,
             and one upload whose `fclose` cuts the file.

  A record is inserted after `getImageSize` has read the file at `local_path`, and that file was
  either written by the same upload or found there by `save_image` (which then returns 1 and is
  taken for success). The invariant therefore speaks of the files as well as the records:

  * `RecordOk` -- what one record promises;
  * `FilesHashed` -- every file at the local path of an image id holds an image of that id;
  * `StageOk` -- what each thread's stage carries (the image fits an `int32_t`; the paths at
    `getImageSize` are the image's; the record about to be inserted is already `RecordOk`);
  * `fileInv_step`, `uploads_records_name_their_files` -- with a plain configuration and every
    write reaching the file (`Outcomes.WritesWhole`), every record stays `RecordOk` over every
    interleaving;
  * `truncatedUpload_recorded` -- an `fwrite` that fails after 42 bytes of the GIF leaves a file
    that the next upload of the GIF records;
  * `closeCutUpload_recorded` -- `save_image` does not look at what `fclose` returns, so one
    upload whose flush stops after 42 bytes records the cut file.

  Files are written once: `save_image` writes only where there is no file, so every fact about
  an existing file survives every later step (`RecordOk.mono`, `StageOk.mono`).
-/
import ImageDfs.Server.Uploads
import ImageDfs.Server.Paths

namespace ImageDfs

open Machine

/-! ## 1. Records and files -/

/-- **What a record promises**: the file `img_path/imgpath` holds `c`, `q_to_string(MD5Bits64(c))`
    is the imgid, and the decoder's size of `c`, printed `"%d*%d"`, is the imgsize. -/
def RecordOk (env : Env) (cfg : IdfsConfig) (st : Store) (r : ImgRecord) : Prop :=
  ∃ c, st.files (cfg.imgPath ++ ascii "/" ++ r.imgpath) = some c ∧
    qToString (env.md5Bits64 c) = r.imgid ∧
    ∃ w h, env.imread c = some (w, h) ∧ r.imgsize = fmtD w.toInt ++ ascii "*" ++ fmtD h.toInt

/-- The files of `st'` include those of `st`, with the same contents. -/
def Store.Grows (st st' : Store) : Prop := ∀ p c, st.files p = some c → st'.files p = some c

theorem RecordOk.mono {env : Env} {cfg : IdfsConfig} {st st' : Store} {r : ImgRecord}
    (hg : st.Grows st') (h : RecordOk env cfg st r) : RecordOk env cfg st' r := by
  obtain ⟨c, hc, hid, hsize⟩ := h
  exact ⟨c, hg _ _ hc, hid, hsize⟩

/-- Every file at the local path of an image id holds an image of that id. -/
def FilesHashed (env : Env) (cfg : IdfsConfig) (st : Store) : Prop :=
  ∀ iid type heap0 heap1 c,
    st.files (cstr (imgLocalPath cfg heap1 (imgFilePath cfg heap0 iid type))) = some c →
      env.md5Bits64 c = iid

/-! ## 2. The invariant -/

/-- What a thread's stage carries: the image it will write fits an `int32_t` (it is `data_len`
    or the download's length); at `getImageSize` the paths are those of the image; at `insert`
    the record is already what it promises. -/
def StageOk (env : Env) (cfg : IdfsConfig) (st : Store) : Stage → Prop
  | .hashed _ img | .atExists _ img | .atSave _ img => img.length < 2 ^ 31
  | .atSize img filePath localPath =>
    ∃ type heap0 heap1, filePath = imgFilePath cfg heap0 (env.md5Bits64 img) type ∧
      localPath = imgLocalPath cfg heap1 filePath
  | .atInsert img filePath imgSize =>
    RecordOk env cfg st ⟨imgidOf env img, cstr filePath, cstr imgSize⟩
  | _ => True

theorem StageOk.mono {env : Env} {cfg : IdfsConfig} {st st' : Store} {s : Stage}
    (hg : st.Grows st') (h : StageOk env cfg st s) : StageOk env cfg st' s := by
  cases s with
  | atInsert img filePath imgSize => exact RecordOk.mono hg h
  | _ => exact h

/-- **The records invariant.** -/
structure FileInv (env : Env) (cfg : IdfsConfig) (u : Uploads) : Prop where
  hashed : FilesHashed env cfg u.store
  records : ∀ r ∈ u.store.coll, RecordOk env cfg u.store r
  stages : ∀ t, StageOk env cfg u.store (u.stage t)

section Step

variable (env : Env) {cfg : IdfsConfig} (hcfg : cfg.Plain)

/-- One thread's stage changes and the files grow: the other threads keep what they carry. -/
theorem stageOk_update {st st' : Store} {stage : Nat → Stage} {t : Nat} {s' : Stage}
    (hs : ∀ t, StageOk env cfg st (stage t)) (hg : st.Grows st') (h' : StageOk env cfg st' s') :
    ∀ t', StageOk env cfg st' (Function.update stage t s' t') := by
  intro t'
  by_cases ht : t' = t
  · subst ht
    rw [Function.update_self]
    exact h'
  · rw [Function.update_of_ne ht]
    exact StageOk.mono hg (hs t')

theorem Store.Grows.refl (st : Store) : st.Grows st := fun _ _ h => h

include hcfg

/-- **A save keeps the files hashed**: the image is written whole (it fits an `int32_t` and
    every write reaches the file) under its own local path, and that path names no other id. -/
theorem filesHashed_save {o : Outcomes} (hw : o.WritesWhole) {type : UInt16}
    {img : Bytes} (hlen : img.length < 2 ^ 31) {st : Store} (hh : FilesHashed env cfg st) :
    FilesHashed env cfg (saveImage o (cstr (imgLocalPath cfg (o.heap 1)
      (imgFilePath cfg (o.heap 0) (env.md5Bits64 img) type))) img (Int32.ofNat img.length) st).2 := by
  rcases saveImage_uncut hw _ img _ st with hst | ⟨-, hst⟩
  · rw [hst]
    exact hh
  · rw [hst]
    intro iid type' heap0 heap1 c hc
    rw [Store.write_files] at hc
    split at hc
    · -- the new file: its path is the image's, so the id is the image's
      rename_i hpath
      have hid := imgLocalPath_inj hcfg hpath
      cases hc
      have htake : img.take (Int32.ofNat img.length).toNatClampNeg = img := by
        rw [Int32.toNatClampNeg_ofNat_of_lt hlen, List.take_length]
      rw [htake, hid]
    · exact hh iid type' heap0 heap1 c hc

/-- **A call keeps the invariant**, stage by stage of the section. -/
theorem fileInv_call {o : Outcomes} (hw : o.WritesWhole) {u : Uploads} {t : Nat}
    {s' : Stage} {st' : Store} (hi : FileInv env cfg u)
    (hs : sectionStep env cfg o (u.stage t) u.store = some (s', st')) :
    FileInv env cfg { u with store := st', stage := Function.update u.stage t s' } := by
  have hst := hi.stages t
  cases hstage : u.stage t with
  | atExists type img =>
    rw [hstage] at hs hst
    obtain ⟨rfl, hs'⟩ := sectionStep_atExists env cfg hs
    refine ⟨hi.hashed, hi.records, stageOk_update env hi.stages (Store.Grows.refl _) ?_⟩
    rcases hs' with rfl | ⟨rfl, -⟩
    · trivial
    · exact hst
  | atSelect img =>
    rw [hstage] at hs
    obtain ⟨rfl, res, rfl⟩ := sectionStep_atSelect env cfg hs
    exact ⟨hi.hashed, hi.records, stageOk_update env hi.stages (Store.Grows.refl _) trivial⟩
  | atSave type img =>
    rw [hstage] at hs hst
    obtain ⟨rfl, hs'⟩ := sectionStep_atSave env cfg hs
    have hg : u.store.Grows (saveImage o (cstr (imgLocalPath cfg (o.heap 1)
        (imgFilePath cfg (o.heap 0) (env.md5Bits64 img) type))) img
          (Int32.ofNat img.length) u.store).2 :=
      fun p c h => saveImage_files_of_some o img _ h
    refine ⟨filesHashed_save env hcfg hw hst hi.hashed, fun r hr => ?_,
      stageOk_update env hi.stages hg ?_⟩
    · rw [saveImage_coll] at hr
      exact RecordOk.mono hg (hi.records r hr)
    · rcases hs' with rfl | rfl
      · trivial
      · exact ⟨type, o.heap 0, o.heap 1, rfl, rfl⟩
  | atSize img filePath localPath =>
    rw [hstage] at hs hst
    obtain ⟨rfl, hs'⟩ := sectionStep_atSize env cfg hs
    refine ⟨hi.hashed, hi.records, stageOk_update env hi.stages (Store.Grows.refl _) ?_⟩
    rcases hs' with rfl | ⟨c, w, hgt, hc, hdec, rfl⟩
    · trivial
    · -- the file `getImageSize` read is at the image's local path, so its id is the image's
      obtain ⟨type, heap0, heap1, rfl, rfl⟩ := hst
      have hid := hi.hashed _ _ _ _ c hc
      refine ⟨c, ?_, ?_, w, hgt, hdec, cstr_sizeText _ w hgt⟩
      · dsimp only
        rw [cstr_imgFilePath hcfg, ← cstr_imgLocalPath hcfg heap0 heap1]
        exact hc
      · dsimp only
        rw [hid]
        rfl
  | atInsert img filePath imgSize =>
    rw [hstage] at hs hst
    obtain ⟨hfiles, hcoll, res, rfl⟩ := sectionStep_atInsert env cfg hs
    have hg : u.store.Grows st' := fun p c h => by rw [hfiles]; exact h
    refine ⟨fun iid type heap0 heap1 c h => hi.hashed iid type heap0 heap1 c (by rwa [← hfiles]),
      fun r hr => ?_, stageOk_update env hi.stages hg trivial⟩
    -- the inserted record is the one the stage carried
    rcases hcoll with hc | hc <;> rw [hc] at hr
    · exact RecordOk.mono hg (hi.records r hr)
    · rcases List.mem_append.mp hr with hr | hr
      · exact RecordOk.mono hg (hi.records r hr)
      · rw [List.mem_singleton.mp hr]
        exact RecordOk.mono hg hst
  | idle | hashed type img | atUnlock res =>
    rw [hstage] at hs
    simp [sectionStep] at hs

theorem fileInv_step (ok : Outcomes → Prop) (hok : ∀ o, ok o → o.WritesWhole) :
    Invariant (UploadStep env cfg ok) (FileInv env cfg) := by
  intro u u' hi hs
  cases hs with
  | take t type img htype hlen hs =>
    exact ⟨hi.hashed, hi.records, stageOk_update env hi.stages (Store.Grows.refl _) hlen⟩
  | lock t type img hs hfree =>
    have hfit := hi.stages t
    rw [hs] at hfit
    exact ⟨hi.hashed, hi.records, stageOk_update env hi.stages (Store.Grows.refl _) hfit⟩
  | call t o s' st' ho hs => exact fileInv_call env hcfg (hok o ho) hi hs
  | unlock t res hs =>
    exact ⟨hi.hashed, hi.records, stageOk_update env hi.stages (Store.Grows.refl _) trivial⟩

end Step

/-- **Every record names a file that holds what it says**, over every interleaving of the work
    threads' uploads with any failures of the Mongo calls and of `fopen`, as long as every write
    reaches the file (no `fwrite` fails and no flush in `fclose` stops short), in a configuration
    whose paths `q_format` does not cut, from a store whose records and image files are
    sound. -/
theorem uploads_records_name_their_files (env : Env) {cfg : IdfsConfig} (hcfg : cfg.Plain)
    {st0 : Store} {u : Uploads} (hfiles : FilesHashed env cfg st0)
    (hrec : ∀ r ∈ st0.coll, RecordOk env cfg st0 r)
    (hrun : Relation.ReflTransGen (UploadStep env cfg Outcomes.WritesWhole)
      (Uploads.init st0) u) :
    ∀ r ∈ u.store.coll, RecordOk env cfg u.store r := by
  have hinit : FileInv env cfg (Uploads.init st0) := ⟨hfiles, hrec, fun _ => trivial⟩
  exact ((fileInv_step env hcfg _ (fun _ h => h)).run hinit hrun).records

/-! ## 3. The server of `init.cnf` -/

/-- `img-path` and `img-dir` of conf/init.cnf are plain. -/
theorem initCnfConfig_plain : initCnfConfig.Plain :=
  ⟨forall_ne_of_all rfl, forall_ne_of_all rfl, by decide⟩

theorem uploads_records_name_their_files_gif :
    ∃ r ∈ (uploadSection gifEnv initCnfConfig noFailures 0 onePixelGif
        (gifEnv.md5Bits64 onePixelGif) emptyStore).2.coll,
      RecordOk gifEnv initCnfConfig (uploadSection gifEnv initCnfConfig noFailures 0 onePixelGif
        (gifEnv.md5Bits64 onePixelGif) emptyStore).2 r :=
  ⟨_, List.head_mem (by decide),
    @uploads_records_name_their_files gifEnv initCnfConfig initCnfConfig_plain emptyStore
      { Uploads.init emptyStore with
        store := (uploadSection gifEnv initCnfConfig noFailures 0 onePixelGif
          (gifEnv.md5Bits64 onePixelGif) emptyStore).2 }
      (fun _ _ _ _ _ h => by cases h) (fun _ h => by cases h)
      (@upload_run gifEnv initCnfConfig Outcomes.WritesWhole noFailures ⟨rfl, rfl⟩
        (Uploads.init emptyStore) 0 0 onePixelGif (.inl (by decide)) (by decide) rfl rfl)
      _ (List.head_mem _)⟩

/-- **A cut `fwrite` leaves a file that a later upload records**: the GIF is uploaded (type 0)
    with `fwrite` failing after 42 bytes (-55, the 42 bytes stay), then once more with every call
    succeeding: `save_image` finds the file and returns 1, the decoder reads the 42 bytes, and
    the record's imgid is the GIF's while the file's MD5 is not. -/
theorem truncatedUpload_recorded :
    ∃ u, Relation.ReflTransGen (UploadStep gifEnv initCnfConfig (fun _ => True))
        (Uploads.init emptyStore) u ∧
      ∃ r ∈ u.store.coll, ¬ RecordOk gifEnv initCnfConfig u.store r := by
  let o1 : Outcomes := { noFailures with fwriteCut := some 42 }
  let u1 : Uploads := { Uploads.init emptyStore with
    store := (uploadSection gifEnv initCnfConfig o1 0 onePixelGif
      (gifEnv.md5Bits64 onePixelGif) emptyStore).2 }
  let st2 := (uploadSection gifEnv initCnfConfig noFailures 0 onePixelGif
    (gifEnv.md5Bits64 onePixelGif) u1.store).2
  have h1 : Relation.ReflTransGen (UploadStep gifEnv initCnfConfig (fun _ => True))
      (Uploads.init emptyStore) u1 :=
    @upload_run gifEnv initCnfConfig (fun _ => True) o1 trivial (Uploads.init emptyStore) 0 0
      onePixelGif (.inl (by decide)) (by decide) rfl rfl
  have h2 : Relation.ReflTransGen (UploadStep gifEnv initCnfConfig (fun _ => True))
      u1 { u1 with store := st2 } :=
    @upload_run gifEnv initCnfConfig (fun _ => True) noFailures trivial u1 0 0 onePixelGif
      (.inl (by decide)) (by decide) rfl rfl
  refine ⟨_, h1.trans h2, st2.coll.head (by decide), List.head_mem _, ?_⟩
  -- the record names the 42 bytes the first upload left
  rintro ⟨c, hc, hid, -⟩
  have hfile : st2.files (initCnfConfig.imgPath ++ ascii "/" ++
      (st2.coll.head (by decide)).imgpath) = some (onePixelGif.take 42) := by decide
  rw [hfile] at hc
  cases hc
  exact absurd hid (by decide)

/-- **A cut flush in `fclose` is recorded by the same upload**: `fwrite` returns 1 with the GIF
    in the stream's buffer, the flush in `fclose` stops after 42 bytes, `save_image` returns 0,
    the decoder reads the 42 bytes and the record's imgid is the GIF's while the file's MD5 is
    not. -/
theorem closeCutUpload_recorded :
    ∃ u, Relation.ReflTransGen (UploadStep gifEnv initCnfConfig (fun o => o.fwriteCut = none))
        (Uploads.init emptyStore) u ∧
      ∃ r ∈ u.store.coll, ¬ RecordOk gifEnv initCnfConfig u.store r := by
  let o1 : Outcomes := { noFailures with fcloseCut := some 42 }
  let st1 := (uploadSection gifEnv initCnfConfig o1 0 onePixelGif
    (gifEnv.md5Bits64 onePixelGif) emptyStore).2
  have h1 : Relation.ReflTransGen (UploadStep gifEnv initCnfConfig (fun o => o.fwriteCut = none))
      (Uploads.init emptyStore) { Uploads.init emptyStore with store := st1 } :=
    @upload_run gifEnv initCnfConfig (fun o => o.fwriteCut = none) o1 rfl
      (Uploads.init emptyStore) 0 0 onePixelGif (.inl (by decide)) (by decide) rfl rfl
  refine ⟨_, h1, st1.coll.head (by decide), List.head_mem _, ?_⟩
  -- the record names the 42 bytes the flush wrote
  rintro ⟨c, hc, hid, -⟩
  have hfile : st1.files (initCnfConfig.imgPath ++ ascii "/" ++
      (st1.coll.head (by decide)).imgpath) = some (onePixelGif.take 42) := by decide
  rw [hfile] at hc
  cases hc
  exact absurd hid (by decide)

end ImageDfs
