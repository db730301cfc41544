/-
  File:      ImageDfs/Server/Uploads.lean
  Subject:   THE UPLOADS OF MANY WORK THREADS: the critical section of `server_main` cut at its
             calls, under `mongo_mutex_`, and the collection over every interleaving.

  Every work thread runs `server_main` on its own request, and all of them share the store (the
  image files and the collection) and `mongo_mutex_`. Outside the lock a thread touches only
  what is its own (the reply, the hash, the download), so the machine keeps of each thread only
  where it is in the critical section, and which image it stores:

  * `Stage`, `Uploads` -- each thread's place, the mutex's holder, the store;
  * `sectionStep` -- one call of the section (`exists`, `select`, `save_image`, `getImageSize`,
    `insert`) with that call's outcomes, exactly as `uploadSection` makes it;
  * `UploadStep ok` -- a thread takes an image, locks, makes its next call or unlocks; `ok` says
    which outcomes the outside world may give;
  * `sectionCalls_atExists`, `upload_run`, `serverMain_run` -- the section's calls made in a row
    compute `uploadSection`, so every `server_main` call is a run of the machine;
  * `Uploads.Exclusive` -- at most one thread is between `lock()` and `unlock()`;
  * `DedupInv`, `uploads_imgid_unique` -- while `exists` answers truly, no two records share an
    imgid, over any interleaving and any failures of `select`, `insert` and the file calls;
  * `repeatUpload_duplicate` -- one `exists` that throws, and a repeated upload leaves two: the
    wrapper reads the exception as "no such id", and `save_image` reports the file the first
    upload left as saved (1).
-/
import Mathlib.Data.List.Nodup
import ImageDfs.Server.Main
import ImageDfs.Lib.Machine

namespace ImageDfs

open Machine

/-! ## 1. Threads, the mutex and the store -/

/-- The imgid `server_main` computes for an image: `q_to_string(MD5Bits64(ptr_data, data_len))`. -/
def imgidOf (env : Env) (img : Bytes) : Bytes := qToString (env.md5Bits64 img)

@[simp] theorem cstr_imgidOf (env : Env) (img : Bytes) : cstr (imgidOf env img) = imgidOf env img :=
  cstr_qToString _

/-- Where a work thread is: outside an upload; at `mongo_mutex_.lock()` with the image's type
    and bytes (hashed); holding the lock at one of the section's calls; or at `unlock()` with
    the section's result. -/
inductive Stage where
  | idle
  | hashed (type : UInt16) (img : Bytes)
  | atExists (type : UInt16) (img : Bytes)
  | atSelect (img : Bytes)
  | atSave (type : UInt16) (img : Bytes)
  | atSize (img filePath localPath : Bytes)
  | atInsert (img filePath imgSize : Bytes)
  | atUnlock (res : Except Int32 (Bytes × Bytes))

/-- The thread is between `lock()` and `unlock()`. -/
def Stage.locked : Stage → Bool
  | .idle | .hashed _ _ => false
  | _ => true

/-- The image of a thread to which `exists` answered no, and which has not inserted yet. -/
def Stage.pending : Stage → Option Bytes
  | .atSave _ img | .atSize img _ _ | .atInsert img _ _ => some img
  | _ => none

theorem Stage.locked_of_pending {s : Stage} {img : Bytes} (h : s.pending = some img) :
    s.locked = true := by
  cases s <;> simp_all [Stage.pending, Stage.locked]

/-- The server's shared state: the store, `mongo_mutex_` (who holds it), and every work
    thread's place (threads are numbered; those that never run stay idle). -/
structure Uploads where
  store : Store
  holder : Option Nat
  stage : Nat → Stage

/-- The server after `initialize`: no thread in an upload and the mutex free. -/
def Uploads.init (st : Store) : Uploads := ⟨st, none, fun _ => .idle⟩

/-! ## 2. The machine -/

section Machine

variable (env : Env) (cfg : IdfsConfig)

/-- **One call of the critical section** by a thread at `s`, the outside world answering `o`:
    the lines of `uploadSection` up to the next call out of the process, or `none` when the
    thread is not in the section. -/
def sectionStep (o : Outcomes) : Stage → Store → Option (Stage × Store)
  | .atExists type img, st =>
    if mongoExists o st (imgidOf env img) then some (.atSelect img, st)
    else some (.atSave type img, st)
  | .atSelect img, st =>
    let (found, filePath, imgSize) := mongoSelect o st (imgidOf env img) [] []
    if boolToInt found = mongoErr then some (.atUnlock (.error (-54)), st)
    else some (.atUnlock (.ok (filePath, imgSize)), st)
  | .atSave type img, st =>
    let filePath := imgFilePath cfg (o.heap 0) (env.md5Bits64 img) type
    let localPath := imgLocalPath cfg (o.heap 1) filePath
    let (ret, st1) := saveImage o (cstr localPath) img (Int32.ofNat img.length) st
    if ret < 0 then some (.atUnlock (.error (-55)), st1)
    else some (.atSize img filePath localPath, st1)
  | .atSize img filePath localPath, st =>
    let (ret, width, height) := getImageSize env st (cstr localPath)
    if ret < 0 then some (.atUnlock (.error (-56)), st)
    else
      some (.atInsert img filePath
        (qFormat (o.heap 2) (fmtD width.toInt ++ ascii "*" ++ fmtD height.toInt)), st)
  | .atInsert img filePath imgSize, st =>
    let (ret, st2) := mongoInsert o st ⟨cstr (imgidOf env img), cstr filePath, cstr imgSize⟩
    if ret = mongoErr then some (.atUnlock (.error (-57)), st2)
    else some (.atUnlock (.ok (filePath, imgSize)), st2)
  | _, _ => none

variable (ok : Outcomes → Prop)

/-- **A step of the server**: one thread moves. -/
inductive UploadStep : Uploads → Uploads → Prop where
  /-- The thread has the image to store (the payload of types 0-4, or the body the download of
      type 64 brought; its length is an `int32_t`), has hashed it, and calls `lock()`. -/
  | take (u : Uploads) (t : Nat) (type : UInt16) (img : Bytes) (htype : type < 5 ∨ type = 64)
      (hlen : img.length < 2 ^ 31) (hs : u.stage t = .idle) :
      UploadStep u { u with stage := Function.update u.stage t (.hashed type img) }
  /-- `lock()` returns to a waiting thread when the mutex is free. -/
  | lock (u : Uploads) (t : Nat) (type : UInt16) (img : Bytes) (hs : u.stage t = .hashed type img)
      (hfree : u.holder = none) :
      UploadStep u
        { u with holder := some t, stage := Function.update u.stage t (.atExists type img) }
  /-- The thread makes its next call of the section. -/
  | call (u : Uploads) (t : Nat) (o : Outcomes) (s' : Stage) (st' : Store) (ho : ok o)
      (hs : sectionStep env cfg o (u.stage t) u.store = some (s', st')) :
      UploadStep u { u with store := st', stage := Function.update u.stage t s' }
  /-- `unlock()`; the thread writes its reply outside the lock and is done with the upload. -/
  | unlock (u : Uploads) (t : Nat) (res : Except Int32 (Bytes × Bytes))
      (hs : u.stage t = .atUnlock res) :
      UploadStep u { u with holder := none, stage := Function.update u.stage t .idle }

theorem sectionStep_locked {o : Outcomes} {s : Stage} {st : Store} {p : Stage × Store}
    (h : sectionStep env cfg o s st = some p) : s.locked = true := by
  cases s <;> simp_all [sectionStep, Stage.locked]

/-- `exists` changes nothing; the thread goes on to `select` or to `save_image`. -/
theorem sectionStep_atExists {o : Outcomes} {type : UInt16} {img : Bytes} {st st' : Store}
    {s' : Stage} (h : sectionStep env cfg o (.atExists type img) st = some (s', st')) :
    st' = st ∧ (s' = .atSelect img ∨
      (s' = .atSave type img ∧ mongoExists o st (imgidOf env img) = false)) := by
  simp only [sectionStep] at h
  split_ifs at h with hex
  · cases h
    exact ⟨rfl, .inl rfl⟩
  · cases h
    exact ⟨rfl, .inr ⟨rfl, by simpa using hex⟩⟩

/-- `select` changes nothing; the thread goes on to `unlock()`. -/
theorem sectionStep_atSelect {o : Outcomes} {img : Bytes} {st st' : Store} {s' : Stage}
    (h : sectionStep env cfg o (.atSelect img) st = some (s', st')) :
    st' = st ∧ ∃ res, s' = .atUnlock res := by
  simp only [sectionStep] at h
  split_ifs at h <;> (cases h; exact ⟨rfl, _, rfl⟩)

/-- `save_image` of the image under its local path; on success the thread goes on to
    `getImageSize` with both paths. -/
theorem sectionStep_atSave {o : Outcomes} {type : UInt16} {img : Bytes} {st st' : Store}
    {s' : Stage} (h : sectionStep env cfg o (.atSave type img) st = some (s', st')) :
    let filePath := imgFilePath cfg (o.heap 0) (env.md5Bits64 img) type
    let localPath := imgLocalPath cfg (o.heap 1) filePath
    st' = (saveImage o (cstr localPath) img (Int32.ofNat img.length) st).2 ∧
      (s' = .atUnlock (.error (-55)) ∨ s' = .atSize img filePath localPath) := by
  intro filePath localPath
  simp only [sectionStep] at h
  split_ifs at h
  · cases h
    exact ⟨rfl, .inl rfl⟩
  · cases h
    exact ⟨rfl, .inr rfl⟩

/-- `getImageSize` changes nothing; on success the file is there, the decoder reads it, and the
    thread goes on to `insert` with the size it printed. -/
theorem sectionStep_atSize {o : Outcomes} {img filePath localPath : Bytes} {st st' : Store}
    {s' : Stage} (h : sectionStep env cfg o (.atSize img filePath localPath) st = some (s', st')) :
    st' = st ∧ (s' = .atUnlock (.error (-56)) ∨
      ∃ c w hgt, st.files (cstr localPath) = some c ∧ env.imread c = some (w, hgt) ∧
        s' = .atInsert img filePath
          (qFormat (o.heap 2) (fmtD w.toInt ++ ascii "*" ++ fmtD hgt.toInt))) := by
  simp only [sectionStep] at h
  split_ifs at h with hsize
  · cases h
    exact ⟨rfl, .inl rfl⟩
  · cases h
    obtain ⟨c, hc, hdec⟩ := getImageSize_ok hsize
    exact ⟨rfl, .inr ⟨c, _, _, hc, hdec, rfl⟩⟩

/-- `insert` leaves the files alone and appends the record, or nothing; the thread goes on to
    `unlock()`. -/
theorem sectionStep_atInsert {o : Outcomes} {img filePath imgSize : Bytes} {st st' : Store}
    {s' : Stage} (h : sectionStep env cfg o (.atInsert img filePath imgSize) st = some (s', st')) :
    st'.files = st.files ∧
      (st'.coll = st.coll ∨
        st'.coll = st.coll ++ [⟨imgidOf env img, cstr filePath, cstr imgSize⟩]) ∧
      ∃ res, s' = .atUnlock res := by
  simp only [sectionStep, mongoInsert, cstr_imgidOf] at h
  by_cases hf : o.insertFails = true
  · simp only [hf, if_true] at h
    cases h
    exact ⟨rfl, .inl rfl, _, rfl⟩
  · simp only [hf, Bool.false_eq_true, if_false] at h
    split_ifs at h <;> (cases h; exact ⟨rfl, .inr rfl, _, rfl⟩)

/-! ## 3. The section's calls in a row are `uploadSection` -/

/-- `n` calls of one thread, every one answered by `o`. -/
def sectionCalls (o : Outcomes) : Nat → Stage → Store → Stage × Store
  | 0, s, st => (s, st)
  | n + 1, s, st =>
    match sectionStep env cfg o s st with
    | some (s', st') => sectionCalls o n s' st'
    | none => (s, st)

/-- A thread's calls made in a row are a run of the machine. -/
theorem sectionCalls_run {o : Outcomes} (ho : ok o) (n : Nat) (u : Uploads) (t : Nat) :
    Relation.ReflTransGen (UploadStep env cfg ok) u
      { u with store := (sectionCalls env cfg o n (u.stage t) u.store).2,
               stage := Function.update u.stage t (sectionCalls env cfg o n (u.stage t) u.store).1 } := by
  induction n generalizing u with
  | zero =>
    simp only [sectionCalls, Function.update_eq_self]
    exact .refl
  | succ n ih =>
    simp only [sectionCalls]
    cases hs : sectionStep env cfg o (u.stage t) u.store with
    | none =>
      simp only [Function.update_eq_self]
      exact .refl
    | some p =>
      obtain ⟨s', st'⟩ := p
      have hrest := ih { u with store := st', stage := Function.update u.stage t s' }
      simp only [Function.update_self, Function.update_idem] at hrest
      exact .head (UploadStep.call u t o s' st' ho hs) hrest

/-- **The refinement**: the four calls of a thread that enters at `exists`, answered by one
    `o`, compute `uploadSection` (the exists branch stops after `select`). -/
theorem sectionCalls_atExists (o : Outcomes) (type : UInt16) (img : Bytes) (st : Store) :
    sectionCalls env cfg o 4 (.atExists type img) st =
      (.atUnlock (uploadSection env cfg o type img (env.md5Bits64 img) st).1,
        (uploadSection env cfg o type img (env.md5Bits64 img) st).2) := by
  simp only [sectionCalls, sectionStep, uploadSection, imgidOf]
  by_cases hex : mongoExists o st (qToString (env.md5Bits64 img)) = true
  · simp [hex, boolToInt_ne_mongoErr]
  · simp only [hex, Bool.false_eq_true, if_false]
    -- the same three tests as `uploadSection`, in the same order
    by_cases hsave : (saveImage o (cstr (imgLocalPath cfg (o.heap 1)
        (imgFilePath cfg (o.heap 0) (env.md5Bits64 img) type))) img
          (Int32.ofNat img.length) st).1 < 0
    · simp only [hsave, if_true]
    · by_cases hsize : (getImageSize env (saveImage o (cstr (imgLocalPath cfg (o.heap 1)
          (imgFilePath cfg (o.heap 0) (env.md5Bits64 img) type))) img
            (Int32.ofNat img.length) st).2 (cstr (imgLocalPath cfg (o.heap 1)
          (imgFilePath cfg (o.heap 0) (env.md5Bits64 img) type)))).1 < 0
      · simp only [hsave, hsize, if_true, if_false]
      · simp only [hsave, hsize, if_false, cstr_qToString, List.append_assoc]
        split_ifs <;> rfl

/-- **A whole upload is a run**: take the image, lock, the section's calls, unlock. -/
theorem upload_run {o : Outcomes} (ho : ok o) {u : Uploads} {t : Nat} {type : UInt16}
    {img : Bytes} (htype : type < 5 ∨ type = 64) (hlen : img.length < 2 ^ 31)
    (hidle : u.stage t = .idle) (hfree : u.holder = none) :
    Relation.ReflTransGen (UploadStep env cfg ok) u
      { u with store := (uploadSection env cfg o type img (env.md5Bits64 img) u.store).2 } := by
  set sec := uploadSection env cfg o type img (env.md5Bits64 img) u.store
  -- the thread takes the image, locks, makes the section's calls and unlocks
  let u1 : Uploads := { u with stage := Function.update u.stage t (.hashed type img) }
  let u2 : Uploads :=
    { u with holder := some t, stage := Function.update u.stage t (.atExists type img) }
  let u3 : Uploads :=
    { u with store := sec.2, holder := some t, stage := Function.update u.stage t (.atUnlock sec.1) }
  have h1 : UploadStep env cfg ok u u1 := .take u t type img htype hlen hidle
  have h2 : UploadStep env cfg ok u1 u2 := by
    have h : UploadStep env cfg ok u1 _ := .lock u1 t type img (by simp [u1]) hfree
    simpa [u1, u2] using h
  have h3 : Relation.ReflTransGen (UploadStep env cfg ok) u2 u3 := by
    have h := sectionCalls_run env cfg ok ho 4 u2 t
    simpa [u2, u3, sectionCalls_atExists] using h
  have h4 : UploadStep env cfg ok u3 { u with store := sec.2 } := by
    have hback : Function.update u.stage t .idle = u.stage := by
      rw [← hidle]
      exact Function.update_eq_self t u.stage
    have h : UploadStep env cfg ok u3 _ := .unlock u3 t sec.1 (by simp [u3])
    simpa [u3, hback, hfree] using h
  exact ((Relation.ReflTransGen.single h1).tail h2).trans (h3.tail h4)

/-- **Every `server_main` call is a run of the machine** by an idle thread while the mutex is
    free: the store after the call is one the machine reaches. -/
theorem serverMain_run {o : Outcomes} (ho : ok o) {u : Uploads} {t : Nat}
    (hidle : u.stage t = .idle) (hfree : u.holder = none) {type : UInt16} {data : Bytes}
    {dataLen outSize : Int32} {r : MainResult}
    (h : serverMain env cfg o type data dataLen outSize u.store = .ok r) :
    Relation.ReflTransGen (UploadStep env cfg ok) u { u with store := r.store } := by
  obtain ⟨-, -, ⟨-, hst⟩ | ⟨out, img, htype, hlen, rfl⟩⟩ := serverMain_cases h
  · rw [hst]
  · rw [uploadImage_store]
    exact upload_run env cfg ok ho htype hlen hidle hfree

/-! ## 4. Mutual exclusion -/

/-- Every thread between `lock()` and `unlock()` holds the mutex. -/
def Uploads.Exclusive (u : Uploads) : Prop :=
  ∀ t, (u.stage t).locked = true → u.holder = some t

theorem Uploads.Exclusive.eq {u : Uploads} (hx : u.Exclusive) {t t' : Nat}
    (ht : (u.stage t).locked = true) (ht' : (u.stage t').locked = true) : t = t' :=
  Option.some_injective _ ((hx t ht).symm.trans (hx t' ht'))

theorem exclusive_step : Invariant (UploadStep env cfg ok) Uploads.Exclusive := by
  intro u u' hx hs t' ht'
  cases hs with
  | take t type img htype hlen hs =>
    by_cases h : t' = t
    · subst h
      simp [Stage.locked] at ht'
    · simp only [Function.update_of_ne h] at ht' ⊢
      exact hx t' ht'
  | lock t type img hs hfree =>
    by_cases h : t' = t
    · subst h
      rfl
    · simp only [Function.update_of_ne h] at ht' ⊢
      have hheld := hx t' ht'
      rw [hfree] at hheld
      cases hheld
  | call t o s' st' ho hs =>
    by_cases h : t' = t
    · subst h
      exact hx t' (sectionStep_locked env cfg hs)
    · simp only [Function.update_of_ne h] at ht' ⊢
      exact hx t' ht'
  | unlock t res hs =>
    by_cases h : t' = t
    · subst h
      simp [Stage.locked] at ht'
    · simp only [Function.update_of_ne h] at ht' ⊢
      -- `t` holds the mutex, being at `unlock()`; so does `t'`
      exact absurd (hx.eq ht' (by simp [hs, Stage.locked])) h


/-! ## 5. Deduplication -/

/-- What `exists` answering no tells, when it answers truly. -/
theorem not_mem_of_mongoExists {o : Outcomes} {st : Store} {id : Bytes}
    (hfail : o.existsFails = false) (h : mongoExists o st id = false) :
    id ∉ st.coll.map ImgRecord.imgid := by
  simp only [mongoExists, hfail, Bool.false_eq_true, if_false, List.any_eq_false, beq_iff_eq] at h
  intro hm
  obtain ⟨r, hr, hid⟩ := List.mem_map.mp hm
  exact h r hr hid

/-- Only `insert` changes the collection, by one record. -/
theorem sectionStep_coll {o : Outcomes} {s s' : Stage} {st st' : Store}
    (h : sectionStep env cfg o s st = some (s', st')) :
    st'.coll = st.coll ∨ ∃ img filePath imgSize, s = .atInsert img filePath imgSize ∧
      st'.coll = st.coll ++ [⟨imgidOf env img, cstr filePath, cstr imgSize⟩] := by
  cases s with
  | atInsert img filePath imgSize =>
    simp only [sectionStep, mongoInsert, cstr_imgidOf] at h
    by_cases hf : o.insertFails = true
    · left
      simp only [hf, if_true] at h
      cases h
      rfl
    · right
      simp only [hf, Bool.false_eq_true, if_false] at h
      refine ⟨img, filePath, imgSize, rfl, ?_⟩
      split_ifs at h <;> (cases h; rfl)
  | atSave type img =>
    left
    simp only [sectionStep] at h
    split_ifs at h <;> (cases h; exact saveImage_coll ..)
  | atExists type img | atSelect img | atSize img filePath localPath =>
    left
    simp only [sectionStep] at h
    split_ifs at h <;> (cases h; rfl)
  | idle | hashed type img | atUnlock res => simp [sectionStep] at h


/-- A thread becomes pending only when `exists` answers no; a pending thread stays so, with the
    collection unchanged, until it inserts. -/
theorem sectionStep_pending {o : Outcomes} {s s' : Stage} {st st' : Store} {img : Bytes}
    (h : sectionStep env cfg o s st = some (s', st')) (hp : s'.pending = some img) :
    (s.pending = some img ∧ st'.coll = st.coll) ∨
      (∃ type, s = .atExists type img ∧ mongoExists o st (imgidOf env img) = false ∧ st' = st) := by
  cases s with
  | atExists type img0 =>
    simp only [sectionStep] at h
    split_ifs at h with hex
    · cases h
      simp [Stage.pending] at hp
    · cases h
      simp only [Stage.pending, Option.some.injEq] at hp
      subst hp
      exact .inr ⟨type, rfl, by simpa using hex, rfl⟩
  | atSave type img0 =>
    simp only [sectionStep] at h
    split_ifs at h
    · cases h
      simp [Stage.pending] at hp
    · cases h
      exact .inl ⟨hp, saveImage_coll ..⟩
  | atSize img0 filePath localPath =>
    simp only [sectionStep] at h
    split_ifs at h
    · cases h
      simp [Stage.pending] at hp
    · cases h
      exact .inl ⟨hp, rfl⟩
  | atSelect img0 | atInsert img0 filePath imgSize =>
    simp only [sectionStep] at h
    split_ifs at h <;> (cases h; simp [Stage.pending] at hp)
  | idle | hashed type img0 | atUnlock res => simp [sectionStep] at h

/-- **The deduplication invariant**: the mutex is exclusive, no imgid is recorded twice, and
    the imgid of every pending upload is not recorded. -/
structure DedupInv (u : Uploads) : Prop where
  exclusive : u.Exclusive
  nodup : (u.store.coll.map ImgRecord.imgid).Nodup
  fresh : ∀ t img, (u.stage t).pending = some img →
    imgidOf env img ∉ u.store.coll.map ImgRecord.imgid

/-- A thread other than `t` is not pending while `t` holds the lock. -/
theorem DedupInv.not_pending {u : Uploads} (hi : DedupInv env u) {t t' : Nat} {img : Bytes}
    (ht : (u.stage t).locked = true) (h : t' ≠ t) : (u.stage t').pending ≠ some img :=
  fun hp => h (hi.exclusive.eq (Stage.locked_of_pending hp) ht)

theorem dedup_step (hok : ∀ o, ok o → o.existsFails = false) :
    Invariant (UploadStep env cfg ok) (DedupInv env) := by
  intro u u' hi hs
  have hx := exclusive_step env cfg ok u u' hi.exclusive hs
  cases hs with
  | take t type img htype hlen hs =>
    refine ⟨hx, hi.nodup, fun t' img' hp => ?_⟩
    by_cases h : t' = t
    · subst h
      simp [Stage.pending] at hp
    · simp only [Function.update_of_ne h] at hp ⊢
      exact hi.fresh t' img' hp
  | lock t type img hs hfree =>
    refine ⟨hx, hi.nodup, fun t' img' hp => ?_⟩
    by_cases h : t' = t
    · subst h
      simp [Stage.pending] at hp
    · simp only [Function.update_of_ne h] at hp ⊢
      exact hi.fresh t' img' hp
  | call t o s' st' ho hs =>
    have hlocked := sectionStep_locked env cfg hs
    refine ⟨hx, ?_, fun t' img' hp => ?_⟩
    · -- an insert adds the imgid of `t`'s pending image, which is not recorded
      rcases sectionStep_coll env cfg hs with hc | ⟨img, filePath, imgSize, hst, hc⟩
      · simpa [hc] using hi.nodup
      · have hnew := hi.fresh t img (by rw [hst]; rfl)
        simp only [hc, List.map_append, List.map_cons, List.map_nil]
        rw [← List.concat_eq_append, List.nodup_concat]
        exact ⟨hnew, hi.nodup⟩
    · by_cases h : t' = t
      · subst h
        simp only [Function.update_self] at hp ⊢
        rcases sectionStep_pending env cfg hs hp with ⟨hp0, hc⟩ | ⟨type, -, hex, rfl⟩
        · rw [hc]
          exact hi.fresh t' img' hp0
        · exact not_mem_of_mongoExists (hok o ho) hex
      · simp only [Function.update_of_ne h] at hp
        exact absurd hp (hi.not_pending env hlocked h)
  | unlock t res hs =>
    refine ⟨hx, hi.nodup, fun t' img' hp => ?_⟩
    by_cases h : t' = t
    · subst h
      simp [Stage.pending] at hp
    · simp only [Function.update_of_ne h] at hp
      exact absurd hp (hi.not_pending env (by simp [hs, Stage.locked]) h)

end Machine

/-- **No imgid is recorded twice**, over every interleaving of the work threads' uploads (types
    0-4 and 64, any images) and any failures of `select`, `insert`, `fopen` and `fwrite`, as long
    as `exists` answers truly. -/
theorem uploads_imgid_unique (env : Env) (cfg : IdfsConfig) {st0 : Store} {u : Uploads}
    (hnodup : (st0.coll.map ImgRecord.imgid).Nodup)
    (hrun : Relation.ReflTransGen (UploadStep env cfg (fun o => o.existsFails = false))
      (Uploads.init st0) u) :
    (u.store.coll.map ImgRecord.imgid).Nodup := by
  have hinit : DedupInv env (Uploads.init st0) := by
    refine ⟨fun t h => ?_, hnodup, fun t img h => ?_⟩
    · simp [Uploads.init, Stage.locked] at h
    · simp [Uploads.init, Stage.pending] at h
  exact ((dedup_step env cfg _ (fun _ h => h)).run hinit hrun).nodup

/-! ## 6. The server of `init.cnf`, and a one-pixel GIF -/

/-- A 1×1 GIF (43 bytes). -/
def onePixelGif : Bytes :=
  [0x47, 0x49, 0x46, 0x38, 0x39, 0x61, 0x01, 0x00, 0x01, 0x00, 0x80, 0x00, 0x00, 0xff, 0xff,
   0xff, 0x00, 0x00, 0x00, 0x21, 0xf9, 0x04, 0x01, 0x00, 0x00, 0x00, 0x00, 0x2c, 0x00, 0x00,
   0x00, 0x00, 0x01, 0x00, 0x01, 0x00, 0x00, 0x02, 0x02, 0x44, 0x01, 0x00, 0x3b]

/-- The libraries as they answer for that image and for its first 42 bytes (the GIF without its
    trailer byte): the MD5s are 325472601571f31e1bf00674c368d335 and
    0060cc426d58ea30f5099166a6452fdb, whose first eight bytes read as a little-endian `uint64_t`
    are `0x1ef3711560725432` and `0x30ea586d42cc6000`, and a decoder that stops after the image
    data reads both as 1×1. The runs below hash and decode nothing else. -/
def gifEnv : Env where
  md5Bits64 := fun c => if c = onePixelGif then 0x1ef3711560725432 else 0x30ea586d42cc6000
  md5 := fun c => if c = onePixelGif then ascii "325472601571f31e1bf00674c368d335"
    else ascii "0060cc426d58ea30f5099166a6452fdb"
  imread := fun c => if c = onePixelGif ∨ c = onePixelGif.take 42 then some (1, 1) else none

/-- `img-path` and `img-dir` of conf/init.cnf. -/
def initCnfConfig : IdfsConfig := ⟨ascii "/data1/img", ascii "img005"⟩

/-- Every call of the outside world succeeds. -/
def noFailures : Outcomes :=
  ⟨false, false, false, false, none, none, 0, false, fun _ => 0,
    fun _ _ _ => ⟨none, [], false, some 200⟩, fun _ _ => 0⟩

/-- No file and an empty collection. -/
def emptyStore : Store := ⟨fun _ => none, []⟩

theorem uploads_imgid_unique_gif :
    ({ Uploads.init emptyStore with
        store := (uploadSection gifEnv initCnfConfig noFailures 0 onePixelGif
          (gifEnv.md5Bits64 onePixelGif) emptyStore).2 }.store.coll.map ImgRecord.imgid).Nodup :=
  @uploads_imgid_unique gifEnv initCnfConfig emptyStore _ List.nodup_nil
    (@upload_run gifEnv initCnfConfig (fun o => o.existsFails = false) noFailures rfl
      (Uploads.init emptyStore) 0 0 onePixelGif (.inl (by decide)) (by decide) rfl rfl)

/-- **A repeated upload after a failed `exists` is recorded twice**: the GIF is uploaded (type 0)
    with every call succeeding, then once more with `exists` throwing. -/
theorem repeatUpload_duplicate :
    ∃ u, Relation.ReflTransGen (UploadStep gifEnv initCnfConfig (fun _ => True))
        (Uploads.init emptyStore) u ∧
      ¬ (u.store.coll.map ImgRecord.imgid).Nodup := by
  let u1 : Uploads := { Uploads.init emptyStore with
    store := (uploadSection gifEnv initCnfConfig noFailures 0 onePixelGif
      (gifEnv.md5Bits64 onePixelGif) emptyStore).2 }
  have h1 : Relation.ReflTransGen (UploadStep gifEnv initCnfConfig (fun _ => True))
      (Uploads.init emptyStore) u1 :=
    @upload_run gifEnv initCnfConfig (fun _ => True) noFailures trivial (Uploads.init emptyStore)
      0 0 onePixelGif (.inl (by decide)) (by decide) rfl rfl
  -- the second upload: `exists` throws, `save_image` finds the file and returns 1
  have h2 := @upload_run gifEnv initCnfConfig (fun _ => True)
    { noFailures with existsFails := true } trivial u1 0 0 onePixelGif (.inl (by decide))
    (by decide) rfl rfl
  exact ⟨_, h1.trans h2, by decide⟩

end ImageDfs
