/-
  File:      ImageDfs/Server/Main.lean
  Subject:   `IDFSServer::server_main` (idfsserver.cc) with everything it calls in this
             repository: `save_image`, `get_image_type_name`, the `QMongoClient` wrappers
             `exists`, `select`, `insert` (qmongoclient.cc) and `getImageSize` (qopencv.h).

  What `server_main` changes is a `Store`: the regular files, by path, and the Mongo collection,
  a list of `ImgRecord`s (the fields the code writes and reads; `_id` and `createdAt` are read by
  nothing modelled). Code outside this repository enters in two ways:

  * `Env` -- fixed functions: `MD5Bits64` and `md5` (qmd5.h, MD5.cc: vendored and too large to
    embed; the model uses nothing of them but that they are functions of the bytes), and the
    image decoder behind `cv::imread`;
  * `Outcomes` -- what the outside answers on one call: whether the Mongo driver throws inside
    `exists`, `select` or `insert` (each wrapper turns that into `false` or `MONGO_ERR`),
    whether `fopen` fails, after how many bytes `fwrite` fails or the flush in `fclose` cuts
    the file, what `networkProxy.init()` returns, whether `q_new_array` finds the download
    buffer, what libcurl delivers to `doHttpGet`, and the bytes of the blocks `q_format` and
    `q_new_array` take from the heap. `q_format` `malloc`s only for a text of 1024 bytes or
    more, which `IdfsConfig.Plain` rules out for the texts `server_main` formats, so its
    `Q_ASSERT(p!=NULL)` is not modelled.

  The two upload branches (types 0-4 and 64) run the same critical section (`uploadSection`,
  between `mongo_mutex_.lock()` and `unlock()`) and the same reply tail (`replyTail`); they are
  one definition each, applied by both branches (`uploadImage`). The branches differ in where
  the image comes from: the request payload, or a download.

  The `select` failure check is `select(...)==MONGO_ERR` on a `bool`: the promoted value is 0
  or 1 and never -1, so the branch returning -54 is dead (`boolToInt_ne_mongoErr`).

  The type-64 branch runs `doHttpGet` (Common/Network.lean) on the transfer libcurl delivers
  for the request's url, referer and user agent; `serverMain_download` says what it uploads for
  each outcome of that call.
-/
import ImageDfs.Protocol.Frame
import ImageDfs.Common.Network

namespace ImageDfs

/-! ## 1. The store and the outside world -/

/-- A document of the image collection: the three fields `server_main` writes and reads. -/
structure ImgRecord where
  imgid : Bytes
  imgpath : Bytes
  imgsize : Bytes
  deriving DecidableEq

/-- The state `server_main` reads and writes: the regular files by path, and the collection. -/
structure Store where
  files : Bytes → Option Bytes
  coll : List ImgRecord

/-- The file at `path` now holds `content`. -/
def Store.write (st : Store) (path content : Bytes) : Store :=
  { st with files := Function.update st.files path (some content) }

@[simp] theorem Store.write_coll (st : Store) (path content : Bytes) :
    (st.write path content).coll = st.coll := rfl

theorem Store.write_files (st : Store) (path content p : Bytes) :
    (st.write path content).files p = if p = path then some content else st.files p := by
  simp [Store.write, Function.update_apply]

/-- The configuration `server_main` reads (`img_path_`, `img_dir_`). -/
structure IdfsConfig where
  imgPath : Bytes
  imgDir : Bytes

/-- The functions of other libraries `server_main` depends on. -/
structure Env where
  /-- `QMD5::MD5Bits64`: the first eight bytes of the MD5 digest, as a `uint64_t`. -/
  md5Bits64 : Bytes → UInt64
  /-- `md5(char*, int)`: the hex digest. -/
  md5 : Bytes → Bytes
  /-- `cv::imread` of a file's contents: the image's width and height, or `none` when the
      decoder returns an empty matrix. -/
  imread : Bytes → Option (Int32 × Int32)

/-- `IDFS_IMG_MAX_SIZE` (idfsserver.h): the size of the download buffer. -/
def idfsImgMaxSize : Nat := 3 * 2 ^ 20

/-- The answers of the outside world on one call of `server_main`. -/
structure Outcomes where
  existsFails : Bool
  selectFails : Bool
  insertFails : Bool
  fopenFails : Bool
  /-- `fwrite` fails after writing that many bytes (`none`: it returns 1, having written the
      bytes or left them in the stream's buffer). -/
  fwriteCut : Option Nat
  /-- The flush in `fclose` stops after that many bytes of the file (`none`: it writes them
      all); `save_image` does not look at what `fclose` returns. -/
  fcloseCut : Option Nat
  /-- The return value of `networkProxy.init()`. -/
  proxyInit : Int32
  /-- `q_new_array<char>(IDFS_IMG_MAX_SIZE)` of the type-64 branch returns `NULL`. -/
  imgAllocFails : Bool
  /-- The bytes of the block it returns otherwise. -/
  imgBlock : Nat → UInt8
  /-- What libcurl does in `doHttpGet(src, …)` with the referer and user agent set, by `src`,
      referer, user agent. -/
  curl : Bytes → Bytes → Bytes → CurlOutcome
  /-- The bytes of the block the `k`th `q_format` of the call `malloc`s. -/
  heap : Nat → Nat → UInt8

/-! ## 2. The Mongo wrappers -/

def mongoOk : Int32 := 0
def mongoErr : Int32 := -1

/-- A `bool` promoted to `int32_t` for a comparison. -/
def boolToInt (b : Bool) : Int32 := if b then 1 else 0

/-- **`select(...)==MONGO_ERR` is never true**: a `bool` is 0 or 1. -/
theorem boolToInt_ne_mongoErr (b : Bool) : boolToInt b ≠ mongoErr := by
  cases b <;> decide

/-- `QMongoClient::exists("imgid", idValue)`: a document with that `imgid` is in the collection;
    `false` when the driver throws. -/
def mongoExists (o : Outcomes) (st : Store) (idValue : Bytes) : Bool :=
  if o.existsFails then false else st.coll.any (fun r => r.imgid == idValue)

/-- `QMongoClient::select("imgid", idValue, "imgpath", v1, "imgsize", v2)`: `findOne`; on a
    document the two fields are copied out and the result is `true`, otherwise `v1` and `v2`
    keep their values and the result is `false` (also when the driver throws). -/
def mongoSelect (o : Outcomes) (st : Store) (idValue v1 v2 : Bytes) : Bool × Bytes × Bytes :=
  if o.selectFails then (false, v1, v2)
  else match st.coll.find? (fun r => r.imgid == idValue) with
    | some r => (true, r.imgpath, r.imgsize)
    | none => (false, v1, v2)

/-- `QMongoClient::insert` of one document: appended, or `MONGO_ERR` and nothing when the driver
    throws. -/
def mongoInsert (o : Outcomes) (st : Store) (r : ImgRecord) : Int32 × Store :=
  if o.insertFails then (mongoErr, st) else (mongoOk, { st with coll := st.coll ++ [r] })

/-! ## 3. Files -/

/-- `IDFSServer::save_image(path, data, len)`. A path that exists is left alone and reported as
    1; otherwise `fopen(path, "w")` creates the file and `fwrite` fills it, or fails after a
    prefix and leaves that prefix behind. What `fwrite` keeps in the stream's buffer goes out in
    `fclose`, whose flush may stop short as well; its result is not looked at, so the call then
    returns 0 on a cut file. -/
def saveImage (o : Outcomes) (path data : Bytes) (len : Int32) (st : Store) : Int32 × Store :=
  if len ≤ 0 then (-1, st)
  else if st.files path = none then
    if o.fopenFails then (-2, st)
    else match o.fwriteCut with
      | some k => (-3, st.write path (data.take (min k (len.toNatClampNeg - 1))))
      | none =>
        match o.fcloseCut with
        | none => (0, st.write path (data.take len.toNatClampNeg))
        | some k => (0, st.write path (data.take (min k (len.toNatClampNeg - 1))))
  else (1, st)

@[simp] theorem saveImage_coll (o : Outcomes) (path data : Bytes) (len : Int32) (st : Store) :
    (saveImage o path data len st).2.coll = st.coll := by
  unfold saveImage
  cases o.fwriteCut <;> cases o.fcloseCut <;> split_ifs <;> rfl

/-- A file, once there, stays: `save_image` writes only where there is no file. -/
theorem saveImage_files_of_some (o : Outcomes) {path : Bytes} (data : Bytes) (len : Int32)
    {st : Store} {p c : Bytes} (h : st.files p = some c) :
    (saveImage o path data len st).2.files p = some c := by
  unfold saveImage
  split_ifs with hlen hnone hfopen
  · exact h
  · exact h
  · have hp : p ≠ path := fun e => by rw [e, hnone] at h; cases h
    cases o.fwriteCut <;> cases o.fcloseCut <;> simp [Store.write_files, hp, h]
  · exact h

/-- Every write of `save_image` reaches the file: `fwrite` returns 1 and the flush in `fclose`
    writes all of it. -/
def Outcomes.WritesWhole (o : Outcomes) : Prop := o.fwriteCut = none ∧ o.fcloseCut = none

instance (o : Outcomes) : Decidable o.WritesWhole := inferInstanceAs (Decidable (_ ∧ _))

/-- When every write reaches the file, `save_image` leaves the store as it was, or writes the
    whole first `len` bytes to a new file. -/
theorem saveImage_uncut {o : Outcomes} (hw : o.WritesWhole) (path data : Bytes) (len : Int32)
    (st : Store) :
    (saveImage o path data len st).2 = st ∨
      (st.files path = none ∧
        (saveImage o path data len st).2 = st.write path (data.take len.toNatClampNeg)) := by
  unfold saveImage
  split_ifs with hlen hnone hfopen
  · exact .inl rfl
  · exact .inl rfl
  · rw [hw.1, hw.2]
    exact .inr ⟨hnone, rfl⟩
  · exact .inl rfl

/-- `getImageSize(fileName, &width, &height)`: 0 and the decoded size, or -1 (width and height
    untouched, here 0) when there is no file or the decoder cannot read it. -/
def getImageSize (env : Env) (st : Store) (fileName : Bytes) : Int32 × Int32 × Int32 :=
  match (st.files fileName).bind env.imread with
  | some (w, h) => (0, w, h)
  | none => (-1, 0, 0)

/-- A size is returned only for a file the decoder reads. -/
theorem getImageSize_ok {env : Env} {st : Store} {fileName : Bytes}
    (h : ¬ (getImageSize env st fileName).1 < 0) :
    ∃ c, st.files fileName = some c ∧
      env.imread c = some ((getImageSize env st fileName).2.1, (getImageSize env st fileName).2.2) := by
  cases hf : st.files fileName with
  | none => simp [getImageSize, hf] at h
  | some c =>
    cases hi : env.imread c with
    | none => simp [getImageSize, hf, hi] at h
    | some wh => exact ⟨c, rfl, by simp [getImageSize, hf, hi]⟩

/-- `IDFSServer::get_image_type_name`. -/
def getImageTypeName : Nat → String
  | 0 => "jpg"
  | 1 => "png"
  | 2 => "bmp"
  | 3 => "gif"
  | 4 => "tif"
  | _ => "jpg"

/-! ## 4. The reply -/

/-- One `snprintf` into the reply and its check: the piece goes after the `out` bytes already
    written unless they reach `out_size` together (`ptr_temp+ret>=ptr_end`), in which case
    `server_main` returns `code`. -/
def putPiece (outSize : Nat) (code : Int32) (piece out : Bytes) : Except Int32 Bytes :=
  if outSize ≤ out.length + piece.length then .error code else .ok (out ++ piece)

/-- The three pieces both upload branches write first (-51, -52, -53). -/
def replyHead (outSize : Nat) : Except Int32 Bytes :=
  putPiece outSize (-51) (ascii "<?xml version=\"1.0\" encoding=\"UTF-8\"?>\n") [] >>=
    putPiece outSize (-52) (ascii "<doc>\n") >>=
    putPiece outSize (-53) (ascii "<base>\n")

/-- The six pieces both upload branches write after the critical section (-58 … -63). -/
def replyTail (outSize : Nat) (iid : UInt64) (imgMd5 filePath imgSize out : Bytes) :
    Except Int32 Bytes :=
  putPiece outSize (-58) (ascii "<imgid><![CDATA[" ++ fmtU iid.toNat ++ ascii "]]></imgid>\n")
      out >>=
    putPiece outSize (-59) (ascii "<imgmd5><![CDATA[" ++ cstr imgMd5 ++ ascii "]]></imgmd5>\n") >>=
    putPiece outSize (-60)
      (ascii "<imgpath><![CDATA[" ++ cstr filePath ++ ascii "]]></imgpath>\n") >>=
    putPiece outSize (-61)
      (ascii "<imgsize><![CDATA[" ++ cstr imgSize ++ ascii "]]></imgsize>\n") >>=
    putPiece outSize (-62) (ascii "</base>\n") >>=
    putPiece outSize (-63) (ascii "</doc>")

/-! ## 5. `server_main` -/

/-- `file_path`: `q_format("%s/%03d/%lx.%s", img_dir_, iid%1000, iid, type name)`. -/
def imgFilePath (cfg : IdfsConfig) (heap : Nat → UInt8) (iid : UInt64) (type : UInt16) : Bytes :=
  qFormat heap (cfg.imgDir ++ ascii "/" ++ fmt03d (iid.toNat % 1000) ++ ascii "/" ++
    fmtX iid.toNat ++ ascii "." ++ ascii (getImageTypeName type.toNat))

/-- `local_path`: `q_format("%s/%s", img_path_, file_path.c_str())`. -/
def imgLocalPath (cfg : IdfsConfig) (heap : Nat → UInt8) (filePath : Bytes) : Bytes :=
  qFormat heap (cfg.imgPath ++ ascii "/" ++ cstr filePath)

/-- **The critical section** of both upload branches, between `mongo_mutex_.lock()` and
    `unlock()`: if `exists` sees the id, `select` fills `file_path` and `img_size` (its failure
    check is dead); otherwise the image is saved under `local_path`, decoded, and inserted. The
    result is `file_path` and `img_size`, or the code returned (-54 … -57), with the store. -/
def uploadSection (env : Env) (cfg : IdfsConfig) (o : Outcomes) (type : UInt16) (img : Bytes)
    (iid : UInt64) (st : Store) : Except Int32 (Bytes × Bytes) × Store :=
  let imgid := qToString iid
  if mongoExists o st imgid then
    let (found, filePath, imgSize) := mongoSelect o st imgid [] []
    if boolToInt found = mongoErr then (.error (-54), st) else (.ok (filePath, imgSize), st)
  else
    let filePath := imgFilePath cfg (o.heap 0) iid type
    let localPath := imgLocalPath cfg (o.heap 1) filePath
    let (ret, st1) := saveImage o (cstr localPath) img (Int32.ofNat img.length) st
    if ret < 0 then (.error (-55), st1)
    else
      let (ret, width, height) := getImageSize env st1 (cstr localPath)
      if ret < 0 then (.error (-56), st1)
      else
        let imgSize := qFormat (o.heap 2) (fmtD width.toInt ++ ascii "*" ++ fmtD height.toInt)
        let (ret, st2) := mongoInsert o st1 ⟨cstr imgid, cstr filePath, cstr imgSize⟩
        if ret = mongoErr then (.error (-57), st2) else (.ok (filePath, imgSize), st2)

/-- What `server_main` returns: `ret`, the bytes it wrote at `ptr_out` (the reply when
    `ret ≥ 0`), and the store after the call. -/
structure MainResult where
  ret : Int32
  out : Bytes
  store : Store

/-- The part of an upload after the image bytes are known: hash, critical section, reply tail.
    `ret` is `ptr_temp-ptr_out`. -/
def uploadImage (env : Env) (cfg : IdfsConfig) (o : Outcomes) (outSize : Nat) (type : UInt16)
    (out img : Bytes) (st : Store) : MainResult :=
  let iid := env.md5Bits64 img
  let imgMd5 := env.md5 img
  match uploadSection env cfg o type img iid st with
  | (.error code, st') => ⟨code, out, st'⟩
  | (.ok (filePath, imgSize), st') =>
    match replyTail outSize iid imgMd5 filePath imgSize out with
    | .error code => ⟨code, out, st'⟩
    | .ok out' => ⟨Int32.ofNat out'.length, out', st'⟩

/-- The `IDFS_IMG_MAX_SIZE` bytes of the block `q_new_array` returns. -/
def imgBuffer (o : Outcomes) : Bytes := (List.range idfsImgMaxSize).map o.imgBlock

/-- **`IDFSServer::server_main(type, ptr_data, data_len, ptr_out, out_size)`.** Types 0-4
    upload the payload; type 64 reads `src`, `referer` and `user_agent` out of the payload,
    allocates the download buffer (aborting on `NULL`, as `assert` does in both builds) and
    uploads what `doHttpGet` brings; any other type is `TCP_ERR_OPERATE_TYPE`. -/
def serverMain (env : Env) (cfg : IdfsConfig) (o : Outcomes) (type : UInt16) (data : Bytes)
    (dataLen outSize : Int32) (st : Store) : Except String MainResult := do
  qAssert (decide (0 < dataLen)) "data_len must be larger than 0!"
  qAssert (decide (0 < outSize)) "out_size must be larger than 0!"
  let n := outSize.toNatClampNeg
  let payload := data.take dataLen.toNatClampNeg
  if type < 5 then
    match replyHead n with
    | .error code => pure ⟨code, [], st⟩
    | .ok out => pure (uploadImage env cfg o n type out payload st)
  else if type = 64 then
    match replyHead n with
    | .error code => pure ⟨code, [], st⟩
    | .ok out =>
      let referer := qSubstr payload (ascii "<referer><![CDATA[") (ascii "]]></referer>")
      let userAgent := qSubstr payload (ascii "<user_agent><![CDATA[") (ascii "]]></user_agent>")
      let src := qSubstr payload (ascii "<src><![CDATA[") (ascii "]]></src>")
      if o.proxyInit < 0 then pure ⟨-531, out, st⟩
      else do
        -- `ptr_img=q_new_array<char>(IDFS_IMG_MAX_SIZE)`; `assert(ptr_img!=NULL)` aborts too
        qAssert (!o.imgAllocFails) "ptr_img!=NULL"
        let (ret, buf) := doHttpGet (o.curl (cstr src) (cstr referer) (cstr userAgent)) 8000
          (imgBuffer o) (Int32.ofNat idfsImgMaxSize)
        if ret < 0 then pure ⟨ret, out, st⟩
        else pure (uploadImage env cfg o n type out (buf.take ret.toNatClampNeg) st)
  else pure ⟨tcpErrOperateType, [], st⟩

/-! ## 6. What the pieces of `server_main` return -/

theorem putPiece_ok {n : Nat} {code : Int32} {piece out out' : Bytes}
    (h : putPiece n code piece out = .ok out') : out' = out ++ piece ∧ out'.length < n := by
  unfold putPiece at h
  split at h
  · cases h
  · rename_i hlt
    cases h
    simp only [List.length_append, true_and]
    omega

theorem putPiece_error {n : Nat} {code c : Int32} {piece out : Bytes}
    (h : putPiece n code piece out = .error c) : c = code := by
  unfold putPiece at h
  split at h
  · cases h; rfl
  · cases h

theorem putPiece_bind_ok {n : Nat} {code : Int32} {piece out' : Bytes} {x : Except Int32 Bytes}
    (h : (x >>= putPiece n code piece) = .ok out') :
    ∃ out, x = .ok out ∧ out' = out ++ piece ∧ out'.length < n := by
  obtain ⟨out, hx, h⟩ := except_bind_eq_ok.mp h
  exact ⟨out, hx, putPiece_ok h⟩

theorem putPiece_bind_error {n : Nat} {code c : Int32} {piece : Bytes} {x : Except Int32 Bytes}
    (h : (x >>= putPiece n code piece) = .error c) : x = .error c ∨ c = code := by
  rcases except_bind_eq_error.mp h with h | ⟨out, _, h⟩
  · exact .inl h
  · exact .inr (putPiece_error h)

theorem replyHead_error {n : Nat} {c : Int32} (h : replyHead n = .error c) :
    c = -51 ∨ c = -52 ∨ c = -53 := by
  simp only [replyHead] at h
  rcases putPiece_bind_error h with h | h53
  · rcases putPiece_bind_error h with h | h52
    · exact .inl (putPiece_error h)
    · exact .inr (.inl h52)
  · exact .inr (.inr h53)

theorem replyTail_error {n : Nat} {iid : UInt64} {imgMd5 filePath imgSize out : Bytes} {c : Int32}
    (h : replyTail n iid imgMd5 filePath imgSize out = .error c) :
    c = -58 ∨ c = -59 ∨ c = -60 ∨ c = -61 ∨ c = -62 ∨ c = -63 := by
  simp only [replyTail] at h
  -- the six pieces, peeled from the last
  rcases putPiece_bind_error h with h | h63
  · rcases putPiece_bind_error h with h | h62
    · rcases putPiece_bind_error h with h | h61
      · rcases putPiece_bind_error h with h | h60
        · rcases putPiece_bind_error h with h | h59
          · exact .inl (putPiece_error h)
          · exact .inr (.inl h59)
        · exact .inr (.inr (.inl h60))
      · exact .inr (.inr (.inr (.inl h61)))
    · exact .inr (.inr (.inr (.inr (.inl h62))))
  · exact .inr (.inr (.inr (.inr (.inr h63))))

/-- What the reply tail writes stays below `out_size`. -/
theorem replyTail_ok {n : Nat} {iid : UInt64} {imgMd5 filePath imgSize out out' : Bytes}
    (h : replyTail n iid imgMd5 filePath imgSize out = .ok out') : out'.length < n := by
  simp only [replyTail] at h
  obtain ⟨-, -, -, h⟩ := putPiece_bind_ok h
  exact h

/-- **The critical section, exit by exit**: the id is known and `select` answers; or the save,
    the decode or the insert fails; or the image is saved, decoded and inserted. -/
theorem uploadSection_cases {env : Env} {cfg : IdfsConfig} {o : Outcomes} {type : UInt16}
    {img : Bytes} {iid : UInt64} {st st' : Store} {res : Except Int32 (Bytes × Bytes)}
    (h : uploadSection env cfg o type img iid st = (res, st')) :
    let imgid := qToString iid
    let filePath := imgFilePath cfg (o.heap 0) iid type
    let localPath := cstr (imgLocalPath cfg (o.heap 1) filePath)
    let saved := saveImage o localPath img (Int32.ofNat img.length) st
    let size := getImageSize env saved.2 localPath
    let imgSize := qFormat (o.heap 2) (fmtD size.2.1.toInt ++ ascii "*" ++ fmtD size.2.2.toInt)
    let inserted := mongoInsert o saved.2 ⟨cstr imgid, cstr filePath, cstr imgSize⟩
    (mongoExists o st imgid = true ∧ res = .ok (mongoSelect o st imgid [] []).2 ∧ st' = st) ∨
    (mongoExists o st imgid = false ∧ saved.1 < 0 ∧ res = .error (-55) ∧ st' = saved.2) ∨
    (mongoExists o st imgid = false ∧ ¬ saved.1 < 0 ∧ size.1 < 0 ∧ res = .error (-56) ∧
      st' = saved.2) ∨
    (mongoExists o st imgid = false ∧ ¬ saved.1 < 0 ∧ ¬ size.1 < 0 ∧ inserted.1 = mongoErr ∧
      res = .error (-57) ∧ st' = inserted.2) ∨
    (mongoExists o st imgid = false ∧ ¬ saved.1 < 0 ∧ ¬ size.1 < 0 ∧ inserted.1 ≠ mongoErr ∧
      res = .ok (filePath, imgSize) ∧ st' = inserted.2) := by
  intro imgid filePath localPath saved size imgSize inserted
  simp only [uploadSection] at h
  split at h
  · -- the id is known: the `select` failure check is dead
    rename_i hex
    split at h
    · rename_i hsel
      exact absurd hsel (boolToInt_ne_mongoErr _)
    · simp only [Prod.mk.injEq] at h
      obtain ⟨rfl, rfl⟩ := h
      exact .inl ⟨hex, rfl, rfl⟩
  · rename_i hex
    have hex : mongoExists o st imgid = false := by simpa using hex
    split at h
    · rename_i hsave
      simp only [Prod.mk.injEq] at h
      obtain ⟨rfl, rfl⟩ := h
      exact .inr (.inl ⟨hex, hsave, rfl, rfl⟩)
    · rename_i hsave
      split at h
      · rename_i hsize
        simp only [Prod.mk.injEq] at h
        obtain ⟨rfl, rfl⟩ := h
        exact .inr (.inr (.inl ⟨hex, hsave, hsize, rfl, rfl⟩))
      · rename_i hsize
        split at h
        · rename_i hins
          simp only [Prod.mk.injEq] at h
          obtain ⟨rfl, rfl⟩ := h
          exact .inr (.inr (.inr (.inl ⟨hex, hsave, hsize, hins, rfl, rfl⟩)))
        · rename_i hins
          simp only [Prod.mk.injEq] at h
          obtain ⟨rfl, rfl⟩ := h
          exact .inr (.inr (.inr (.inr ⟨hex, hsave, hsize, hins, rfl, rfl⟩)))

theorem uploadSection_error_neg {env : Env} {cfg : IdfsConfig} {o : Outcomes} {type : UInt16}
    {img : Bytes} {iid : UInt64} {st st' : Store} {code : Int32}
    (h : uploadSection env cfg o type img iid st = (.error code, st')) : code < 0 := by
  rcases uploadSection_cases h with ⟨-, h, -⟩ | ⟨-, -, h, -⟩ | ⟨-, -, -, h, -⟩ |
    ⟨-, -, -, -, h, -⟩ | ⟨-, -, -, -, h, -⟩
  · cases h
  · cases h; decide
  · cases h; decide
  · cases h; decide
  · cases h

/-- An upload returns a negative code, or the length of the reply, which is below `out_size`. -/
theorem uploadImage_ret (env : Env) (cfg : IdfsConfig) (o : Outcomes) {n : Nat} (type : UInt16)
    (out img : Bytes) (st : Store) {r : MainResult} (hn : n < 2 ^ 31)
    (h : uploadImage env cfg o n type out img st = r) :
    r.ret < 0 ∨ (r.ret.toInt = r.out.length ∧ r.out.length < n) := by
  simp only [uploadImage] at h
  split at h
  · rename_i code st' hsec
    subst h
    exact .inl (uploadSection_error_neg hsec)
  · split at h
    · rename_i c hc
      subst h
      left
      show c < 0
      rcases replyTail_error hc with rfl | rfl | rfl | rfl | rfl | rfl <;> decide
    · rename_i out' hok
      subst h
      have hlt := replyTail_ok hok
      exact .inr ⟨Int32.toInt_ofNat_of_lt (by omega), hlt⟩

/-- An upload changes the store as its critical section does; the reply is written outside it. -/
theorem uploadImage_store (env : Env) (cfg : IdfsConfig) (o : Outcomes) (n : Nat) (type : UInt16)
    (out img : Bytes) (st : Store) :
    (uploadImage env cfg o n type out img st).store =
      (uploadSection env cfg o type img (env.md5Bits64 img) st).2 := by
  simp only [uploadImage]
  split
  · rename_i hsec
    rw [hsec]
  · rename_i hsec
    rw [hsec]
    split <;> rfl

/-! ## 7. What `server_main` returns -/

/-- **`server_main` aborts only through its asserts**: with a positive data length and a
    positive output size, its one abort is `assert(ptr_img!=NULL)` of type 64. -/
theorem serverMain_error (env : Env) (cfg : IdfsConfig) (o : Outcomes) (type : UInt16)
    (data : Bytes) {dataLen outSize : Int32} (st : Store) (hd : 0 < dataLen) (ho : 0 < outSize)
    {m : String} (h : serverMain env cfg o type data dataLen outSize st = .error m) :
    o.imgAllocFails = true ∧ m = "ptr_img!=NULL" := by
  simp only [serverMain, decide_eq_true hd, decide_eq_true ho, qAssert_true, pure_bind] at h
  -- types 0-4, type 64 (with its proxy, allocation and download), any other type
  split at h
  · split at h <;> cases h
  · split at h
    · split at h
      · cases h
      · split at h
        · cases h
        · cases halloc : o.imgAllocFails
          · simp only [halloc, Bool.not_false, qAssert_true, pure_bind] at h
            split at h <;> cases h
          · simp only [halloc, Bool.not_true, qAssert_false, except_error_bind,
              Except.error.injEq] at h
            exact ⟨rfl, h.symm⟩
    · cases h

/-- With the download buffer allocated, every branch of `server_main` returns. -/
theorem serverMain_ok (env : Env) (cfg : IdfsConfig) (o : Outcomes) (type : UInt16) (data : Bytes)
    {dataLen outSize : Int32} (st : Store) (hd : 0 < dataLen) (ho : 0 < outSize)
    (halloc : o.imgAllocFails = false) :
    ∃ r, serverMain env cfg o type data dataLen outSize st = .ok r := by
  cases h : serverMain env cfg o type data dataLen outSize st with
  | ok r => exact ⟨r, rfl⟩
  | error m =>
    have := (serverMain_error env cfg o type data st hd ho h).1
    rw [halloc] at this
    cases this

/-- **`server_main`, exit by exit**: it returned past its asserts, and either an exit before
    the upload gave a negative code with the store untouched, or the result is an upload's. -/
theorem serverMain_cases {env : Env} {cfg : IdfsConfig} {o : Outcomes} {type : UInt16}
    {data : Bytes} {dataLen outSize : Int32} {st : Store} {r : MainResult}
    (h : serverMain env cfg o type data dataLen outSize st = .ok r) :
    0 < dataLen ∧ 0 < outSize ∧
      ((r.ret < 0 ∧ r.store = st) ∨
        ∃ out img, (type < 5 ∨ type = 64) ∧ img.length < 2 ^ 31 ∧
          r = uploadImage env cfg o outSize.toNatClampNeg type out img st) := by
  by_cases hd : 0 < dataLen
  · by_cases ho : 0 < outSize
    · refine ⟨hd, ho, ?_⟩
      simp only [serverMain, decide_eq_true hd, decide_eq_true ho, qAssert_true,
        except_pure] at h
      -- every exit before `uploadImage` returns a negative code and leaves the store alone
      have early : ∀ {code : Int32} {out : Bytes}, code < 0 →
          (Except.ok ⟨code, out, st⟩ : Except String MainResult) = .ok r →
            r.ret < 0 ∧ r.store = st := by
        intro code out hneg h
        cases h
        exact ⟨hneg, rfl⟩
      split at h
      · rename_i htype
        split at h
        · rename_i code hcode
          exact .inl (early (by rcases replyHead_error hcode with rfl | rfl | rfl <;> decide) h)
        · cases h
          -- the payload is at most `data_len` bytes
          have hlen : (data.take dataLen.toNatClampNeg).length < 2 ^ 31 := by
            have := Int32.toInt_lt dataLen
            have := Int32.toNat_toInt dataLen
            simp only [List.length_take]
            omega
          exact .inr ⟨_, _, .inl htype, hlen, rfl⟩
      · split at h
        · rename_i htype
          split at h
          · rename_i code hcode
            exact .inl (early (by rcases replyHead_error hcode with rfl | rfl | rfl <;> decide) h)
          · -- the proxy, the allocation, then the download
            split at h
            · exact .inl (early (by decide) h)
            · cases halloc : o.imgAllocFails
              · simp only [halloc, Bool.not_false, qAssert_true, pure_bind] at h
                split at h
                · rename_i hneg
                  exact .inl (early hneg h)
                · cases h
                  -- the image is at most `ret` bytes, and `ret` is an `int32_t`
                  have hlen : ∀ (buf : Bytes) (ret : Int32), (buf.take ret.toNatClampNeg).length < 2 ^ 31 :=
                    fun buf ret => by
                      have := Int32.toInt_lt ret
                      have := Int32.toNat_toInt ret
                      simp only [List.length_take]
                      omega
                  exact .inr ⟨_, _, .inr htype, hlen _ _, rfl⟩
              · simp [halloc] at h
        · exact .inl (early (by decide) h)
    · simp [serverMain, hd, ho] at h
  · simp [serverMain, hd] at h

/-- **Every non-negative result of `server_main` is the length of what it wrote, and below
    `out_size`.** -/
theorem serverMain_ret {env : Env} {cfg : IdfsConfig} {o : Outcomes} {type : UInt16}
    {data : Bytes} {dataLen outSize : Int32} {st : Store} {r : MainResult}
    (h : serverMain env cfg o type data dataLen outSize st = .ok r) (hr : 0 ≤ r.ret) :
    r.ret.toInt = r.out.length ∧ r.out.length < outSize.toNatClampNeg := by
  have hn : outSize.toNatClampNeg < 2 ^ 31 := by
    have := Int32.toInt_lt outSize
    have := Int32.toNat_toInt outSize
    omega
  obtain ⟨-, -, ⟨hneg, -⟩ | ⟨out, img, -, -, hup⟩⟩ := serverMain_cases h
  · exact absurd hr (Int32.not_le.mpr hneg)
  · rcases uploadImage_ret env cfg o type out img st hn hup.symm with hneg | hok
    · exact absurd hr (Int32.not_le.mpr hneg)
    · exact hok

/-! ## 8. The download of type 64 -/

/-- An upload of the empty image whose id is not in the collection fails in `save_image`, whose
    `len<=0` test refuses it: -55, and nothing changes. -/
theorem uploadImage_empty (env : Env) (cfg : IdfsConfig) {o : Outcomes} (n : Nat) (type : UInt16)
    (out : Bytes) {st : Store} (hnew : mongoExists o st (qToString (env.md5Bits64 [])) = false) :
    uploadImage env cfg o n type out [] st = ⟨-55, out, st⟩ := by
  have hsave : ∀ p, saveImage o p [] (Int32.ofNat ([] : Bytes).length) st = (-1, st) :=
    fun p => by rw [saveImage]; exact if_pos (by decide)
  have hsec : uploadSection env cfg o type [] (env.md5Bits64 []) st = (.error (-55), st) := by
    simp only [uploadSection, hnew, Bool.false_eq_true, if_false, hsave]
    rfl
  simp only [uploadImage, hsec]

/-- The type-64 branch past its reply head, its proxy and its allocation: `doHttpGet` into the
    buffer, then the upload of the first `ret` bytes. -/
theorem serverMain_type64 (env : Env) (cfg : IdfsConfig) (o : Outcomes) (data : Bytes)
    {dataLen outSize : Int32} (st : Store) {out : Bytes}
    (hd : 0 < dataLen) (ho : 0 < outSize) (hhead : replyHead outSize.toNatClampNeg = .ok out)
    (hproxy : ¬ o.proxyInit < 0) (halloc : o.imgAllocFails = false) :
    let payload := data.take dataLen.toNatClampNeg
    let r := doHttpGet (o.curl (cstr (qSubstr payload (ascii "<src><![CDATA[") (ascii "]]></src>")))
        (cstr (qSubstr payload (ascii "<referer><![CDATA[") (ascii "]]></referer>")))
        (cstr (qSubstr payload (ascii "<user_agent><![CDATA[") (ascii "]]></user_agent>"))))
      8000 (imgBuffer o) (Int32.ofNat idfsImgMaxSize)
    serverMain env cfg o 64 data dataLen outSize st =
      if r.1 < 0 then .ok ⟨r.1, out, st⟩
      else .ok (uploadImage env cfg o outSize.toNatClampNeg 64 out (r.2.take r.1.toNatClampNeg) st) := by
  intro payload r
  simp only [serverMain, decide_eq_true hd, decide_eq_true ho, qAssert_true, pure_bind,
    show ¬ (64 : UInt16) < 5 by decide, if_false, if_true, hhead, if_neg hproxy, halloc,
    Bool.not_false]
  split <;> rfl

/-- **What the type-64 branch uploads.** For a request past the reply head, the proxy and the
    allocation of its `IDFS_IMG_MAX_SIZE` buffer, and every transfer libcurl can deliver into it
    (chunks short enough that no `int32_t` sum wraps, response codes below `2^31`): a negative
    result of `doHttpGet` is returned as it is, with nothing changed. Otherwise either the server
    answered 200 and the upload is of the whole body; or the response code could not be read or
    was 0, and the upload is of an empty image, which `save_image` refuses, so the request fails
    with -55 and changes nothing unless the empty image's id is in the collection. -/
theorem serverMain_download (env : Env) (cfg : IdfsConfig) (o : Outcomes) (data : Bytes)
    {dataLen outSize : Int32} (st : Store) {out : Bytes}
    (hd : 0 < dataLen) (ho : 0 < outSize) (hhead : replyHead outSize.toNatClampNeg = .ok out)
    (hproxy : ¬ o.proxyInit < 0) (halloc : o.imgAllocFails = false)
    (hchunks : ∀ u r a, ∀ c ∈ (o.curl u r a).chunks, c.2.length + idfsImgMaxSize < 2 ^ 31)
    (hcode : ∀ u r a code, (o.curl u r a).responseCode = some code → code < 2 ^ 31) :
    let payload := data.take dataLen.toNatClampNeg
    let cu := o.curl (cstr (qSubstr payload (ascii "<src><![CDATA[") (ascii "]]></src>")))
      (cstr (qSubstr payload (ascii "<referer><![CDATA[") (ascii "]]></referer>")))
      (cstr (qSubstr payload (ascii "<user_agent><![CDATA[") (ascii "]]></user_agent>")))
    let ret := (doHttpGet cu 8000 (imgBuffer o) (Int32.ofNat idfsImgMaxSize)).1
    (ret < 0 → serverMain env cfg o 64 data dataLen outSize st = .ok ⟨ret, out, st⟩) ∧
    (¬ ret < 0 →
      (cu.responseCode = some 200 ∧ serverMain env cfg o 64 data dataLen outSize st =
          .ok (uploadImage env cfg o outSize.toNatClampNeg 64 out (cu.chunks.map Prod.snd).flatten
            st)) ∨
      ((cu.responseCode = none ∨ cu.responseCode = some 0) ∧
        serverMain env cfg o 64 data dataLen outSize st =
          .ok (uploadImage env cfg o outSize.toNatClampNeg 64 out [] st) ∧
        (mongoExists o st (qToString (env.md5Bits64 [])) = false →
          serverMain env cfg o 64 data dataLen outSize st = .ok ⟨-55, out, st⟩))) := by
  intro payload cu ret
  have heq := serverMain_type64 env cfg o data st hd ho hhead hproxy halloc
  have hmax : (Int32.ofNat idfsImgMaxSize).toNatClampNeg = idfsImgMaxSize := by decide
  have hbuf : (Int32.ofNat idfsImgMaxSize).toNatClampNeg ≤ (imgBuffer o).length := by
    rw [hmax, imgBuffer, List.length_map, List.length_range]
  refine ⟨fun hneg => by rw [heq, if_pos hneg], fun hnn => ?_⟩
  rw [heq, if_neg hnn]
  -- which of the outcomes of `doHttpGet` gave a result that is not negative
  rcases doHttpGet_cases cu 8000 (imgBuffer o) (Int32.ofNat idfsImgMaxSize) hbuf
      (by rw [hmax]; exact hchunks _ _ _) (hcode _ _ _) with hlt | ⟨h200, hlen, -, htake⟩ |
      ⟨hnone, h0⟩
  · exact absurd (Int32.lt_iff_toInt_lt.mpr (by rw [Int32.toInt_zero]; exact hlt)) hnn
  · have hn : (doHttpGet cu 8000 (imgBuffer o) (Int32.ofNat idfsImgMaxSize)).1.toNatClampNeg =
        (cu.chunks.map Prod.snd).flatten.length := by
      rw [CInt.toNatClampNeg_eq, hlen, Int.toNat_natCast]
    exact .inl ⟨h200, by rw [hn, htake]⟩
  · have hempty : (doHttpGet cu 8000 (imgBuffer o) (Int32.ofNat idfsImgMaxSize)).2.take
        (doHttpGet cu 8000 (imgBuffer o) (Int32.ofNat idfsImgMaxSize)).1.toNatClampNeg = [] := by
      rw [h0]
      rfl
    refine .inr ⟨hnone, by rw [hempty], fun hnew => ?_⟩
    rw [hempty, uploadImage_empty env cfg _ 64 out hnew]

/-- Every call succeeds, and libcurl delivers the body `[7]` but no response code. -/
def noCodeDownload : Outcomes :=
  ⟨false, false, false, false, none, none, 0, false, fun _ => 0,
    fun _ _ _ => ⟨none, [(false, [7])], false, none⟩, fun _ _ => 0⟩

/-- The body came in, the response code did not: the upload is of the empty image, -55. -/
theorem serverMain_download_no_code :
    serverMain ⟨fun _ => 0, fun _ => [], fun _ => none⟩ ⟨[], []⟩ noCodeDownload 64 (ascii "<src>") 5
        4096 ⟨fun _ => none, []⟩ =
      .ok ⟨-55, ascii "<?xml version=\"1.0\" encoding=\"UTF-8\"?>\n" ++ ascii "<doc>\n" ++
        ascii "<base>\n", ⟨fun _ => none, []⟩⟩ := by
  obtain ⟨-, hnn⟩ := serverMain_download ⟨fun _ => 0, fun _ => [], fun _ => none⟩ ⟨[], []⟩
    noCodeDownload (ascii "<src>") ⟨fun _ => none, []⟩ (by decide : (0 : Int32) < 5)
    (by decide : (0 : Int32) < 4096) rfl (by decide) rfl
    (fun _ _ _ c hc => by
      simp only [noCodeDownload, List.mem_singleton] at hc
      subst hc
      decide)
    (fun _ _ _ _ h => nomatch h)
  rcases hnn (by decide) with ⟨h200, -⟩ | ⟨-, -, hempty⟩
  · exact absurd h200 (by decide)
  · exact hempty rfl

end ImageDfs
