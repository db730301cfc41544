/-
  File:      ImageDfs/Server/Exits.lean
  Subject:   WHAT `server_main` LEAVES BEHIND: the imgpath and imgsize of the reply on a
             non-negative return, and the files and the collection on a negative one.

  * `uploadSection_known` -- on a known id the section returns what `select` copied out; the
    `==MONGO_ERR` test after it compares a `bool` and is never true;
  * `uploadImage_cases` -- an upload returns the section's code, a reply-tail code, or the
    length of the reply written from the section's `file_path` and `img_size`;
  * `serverMain_reply_names_record` -- while `select` answers, the reply of a non-negative return
    prints the imgpath and imgsize of a record of its imgid;
  * `selectFailure_reply_empty` -- a `select` that throws on a known id is taken for success: the
    reply is written from an empty `file_path` and `img_size`;
  * `Store.AddsFile`, `uploadSection_store` -- the section adds at most one file, at a path
    where there was none, and at most one record, only when it succeeds;
  * `serverMain_failure_frame` -- what a negative return may leave: one new file, and one new
    record only after the insert (-58 … -63); `notAnImage_leaves_file` -- five bytes of text
    are saved, fail to decode (-56), and stay on disk.
-/
import ImageDfs.Server.Uploads

namespace ImageDfs

/-! ## 1. `select` and the section on a known id -/

/-- A `select` that answers on an id `exists` saw copies out the fields of a record of that id. -/
theorem mongoSelect_found {o : Outcomes} {st : Store} {id : Bytes} (v1 v2 : Bytes)
    (hsel : o.selectFails = false) (hex : mongoExists o st id = true) :
    ∃ rec ∈ st.coll, rec.imgid = id ∧ mongoSelect o st id v1 v2 = (true, rec.imgpath, rec.imgsize) := by
  have hany : st.coll.any (fun r => r.imgid == id) = true := by
    unfold mongoExists at hex
    split_ifs at hex
    exact hex
  obtain ⟨rec, hfind⟩ :=
    Option.isSome_iff_exists.mp (List.find?_isSome.mpr (List.any_eq_true.mp hany))
  have hid : rec.imgid = id := by simpa using List.find?_some hfind
  refine ⟨rec, List.mem_of_find?_eq_some hfind, hid, ?_⟩
  simp [mongoSelect, hsel, hfind]

/-- **The section on a known id** returns `select`'s fields whatever `select` returns. -/
theorem uploadSection_known (env : Env) (cfg : IdfsConfig) {o : Outcomes} (type : UInt16)
    (img : Bytes) {iid : UInt64} {st : Store} (hex : mongoExists o st (qToString iid) = true) :
    uploadSection env cfg o type img iid st = (.ok (mongoSelect o st (qToString iid) [] []).2, st) := by
  simp only [uploadSection, hex, if_true, if_neg (boolToInt_ne_mongoErr _)]

/-- `insert` appends its document, or answers `MONGO_ERR` and leaves the store. -/
theorem mongoInsert_cases (o : Outcomes) (st : Store) (r : ImgRecord) :
    ((mongoInsert o st r).1 = mongoErr ∧ (mongoInsert o st r).2 = st) ∨
      ((mongoInsert o st r).1 = mongoOk ∧
        (mongoInsert o st r).2 = { st with coll := st.coll ++ [r] }) := by
  unfold mongoInsert
  split
  · exact .inl ⟨rfl, rfl⟩
  · exact .inr ⟨rfl, rfl⟩

/-! ## 2. The reply -/

/-- The reply tail prints C strings, so it prints a field and its C string alike. -/
theorem replyTail_cstr (n : Nat) (iid : UInt64) (imgMd5 filePath imgSize out : Bytes) :
    replyTail n iid imgMd5 (cstr filePath) (cstr imgSize) out =
      replyTail n iid imgMd5 filePath imgSize out := by
  simp only [replyTail, cstr_cstr]

/-- **An upload, exit by exit**: the section's code, or a reply-tail code, or the length of the
    reply written from the section's fields; the store is the section's in every case. -/
theorem uploadImage_cases {env : Env} {cfg : IdfsConfig} {o : Outcomes} {n : Nat}
    {type : UInt16} {out img : Bytes} {st : Store} {r : MainResult}
    (h : uploadImage env cfg o n type out img st = r) :
    (uploadSection env cfg o type img (env.md5Bits64 img) st = (.error r.ret, r.store)) ∨
      ∃ filePath imgSize,
        uploadSection env cfg o type img (env.md5Bits64 img) st = (.ok (filePath, imgSize), r.store) ∧
        (replyTail n (env.md5Bits64 img) (env.md5 img) filePath imgSize out = .error r.ret ∨
          (replyTail n (env.md5Bits64 img) (env.md5 img) filePath imgSize out = .ok r.out ∧
            r.ret = Int32.ofNat r.out.length)) := by
  simp only [uploadImage] at h
  split at h
  · rename_i code st' hsec
    subst h
    exact .inl hsec
  · rename_i filePath imgSize st' hsec
    split at h
    · rename_i code htail
      subst h
      exact .inr ⟨filePath, imgSize, hsec, .inl htail⟩
    · rename_i out' htail
      subst h
      exact .inr ⟨filePath, imgSize, hsec, .inr ⟨htail, rfl⟩⟩

/-- A non-negative upload wrote its whole reply from the section's fields. -/
theorem uploadImage_reply {env : Env} {cfg : IdfsConfig} {o : Outcomes} {n : Nat}
    {type : UInt16} {out img : Bytes} {st : Store} {r : MainResult}
    (h : uploadImage env cfg o n type out img st = r) (hr : 0 ≤ r.ret) :
    ∃ filePath imgSize,
      uploadSection env cfg o type img (env.md5Bits64 img) st = (.ok (filePath, imgSize), r.store) ∧
      replyTail n (env.md5Bits64 img) (env.md5 img) filePath imgSize out = .ok r.out := by
  rcases uploadImage_cases h with hsec | ⟨filePath, imgSize, hsec, htail | ⟨htail, -⟩⟩
  · exact absurd hr (Int32.not_le.mpr (uploadSection_error_neg hsec))
  · have hneg : r.ret < 0 := by
      rcases replyTail_error htail with h | h | h | h | h | h <;> rw [h] <;> decide
    exact absurd hr (Int32.not_le.mpr hneg)
  · exact ⟨filePath, imgSize, hsec, htail⟩

/-- **While `select` answers, a reply names a record**: a non-negative return of `server_main`
    printed the imgpath and imgsize of a record of the collection whose imgid is the image's. -/
theorem serverMain_reply_names_record {env : Env} {cfg : IdfsConfig} {o : Outcomes}
    {type : UInt16} {data : Bytes} {dataLen outSize : Int32} {st : Store} {r : MainResult}
    (h : serverMain env cfg o type data dataLen outSize st = .ok r) (hr : 0 ≤ r.ret)
    (hsel : o.selectFails = false) :
    ∃ img out, ∃ rec ∈ r.store.coll, rec.imgid = imgidOf env img ∧
      replyTail outSize.toNatClampNeg (env.md5Bits64 img) (env.md5 img) rec.imgpath rec.imgsize out =
        .ok r.out := by
  obtain ⟨-, -, ⟨hneg, -⟩ | ⟨out, img, -, -, hup⟩⟩ := serverMain_cases h
  · exact absurd hr (Int32.not_le.mpr hneg)
  obtain ⟨filePath, imgSize, hsec, htail⟩ := uploadImage_reply hup.symm hr
  refine ⟨img, out, ?_⟩
  rcases uploadSection_cases hsec with ⟨hex, hres, hst⟩ | ⟨-, -, hres, -⟩ | ⟨-, -, -, hres, -⟩ |
    ⟨-, -, -, -, hres, -⟩ | ⟨-, -, -, hins, hres, hst⟩
  · -- the id is known: `select` copied out a record that stays
    obtain ⟨rec, hmem, hid, hfound⟩ := mongoSelect_found [] [] hsel hex
    rw [hfound] at hres
    cases hres
    exact ⟨rec, hst ▸ hmem, hid, htail⟩
  · cases hres
  · cases hres
  · cases hres
  · -- the image was saved and decoded: the inserted record prints as the reply's fields
    cases hres
    rcases mongoInsert_cases o _ _ with ⟨herr, -⟩ | ⟨-, hcoll⟩
    · exact absurd herr hins
    rw [hst, hcoll]
    refine ⟨_, List.mem_append_right _ (List.mem_singleton_self _), cstr_qToString _, ?_⟩
    rw [replyTail_cstr]
    exact htail

set_option maxRecDepth 4000 in
theorem serverMain_reply_names_record_gif :
    ∃ r, serverMain gifEnv initCnfConfig noFailures 0 onePixelGif 43 4096 emptyStore = .ok r ∧
      0 ≤ r.ret ∧ ∃ img out, ∃ rec ∈ r.store.coll, rec.imgid = imgidOf gifEnv img ∧
        replyTail (Int32.toNatClampNeg 4096) (gifEnv.md5Bits64 img) (gifEnv.md5 img) rec.imgpath
          rec.imgsize out = .ok r.out :=
  ⟨_, rfl, by decide, @serverMain_reply_names_record gifEnv initCnfConfig noFailures 0 onePixelGif
    43 4096 emptyStore _ rfl (by decide) rfl⟩

/-! ## 3. A `select` that throws -/

/-- The store after the GIF's first upload: its record names its file. -/
def gifStore : Store :=
  (uploadSection gifEnv initCnfConfig noFailures 0 onePixelGif (gifEnv.md5Bits64 onePixelGif)
    emptyStore).2

/-- **A failed `select` is answered as a success**: on an id `exists` sees, a `select` that throws
    leaves `file_path` and `img_size` empty, and `server_main` returns the length of a reply
    whose imgpath and imgsize are empty, with the store as it was. -/
theorem selectFailure_reply_empty (env : Env) (cfg : IdfsConfig) {o : Outcomes} {type : UInt16}
    {data : Bytes} {dataLen outSize : Int32} {st : Store} {out out' : Bytes}
    (hd : 0 < dataLen) (ho : 0 < outSize) (htype : type < 5) (hsel : o.selectFails = true)
    (hex : mongoExists o st (imgidOf env (data.take dataLen.toNatClampNeg)) = true)
    (hhead : replyHead outSize.toNatClampNeg = .ok out)
    (htail : replyTail outSize.toNatClampNeg (env.md5Bits64 (data.take dataLen.toNatClampNeg))
      (env.md5 (data.take dataLen.toNatClampNeg)) [] [] out = .ok out') :
    serverMain env cfg o type data dataLen outSize st = .ok ⟨Int32.ofNat out'.length, out', st⟩ := by
  have hsec : uploadSection env cfg o type (data.take dataLen.toNatClampNeg)
      (env.md5Bits64 (data.take dataLen.toNatClampNeg)) st = (.ok ([], []), st) := by
    rw [uploadSection_known env cfg type _ hex]
    simp [mongoSelect, hsel]
  simp only [serverMain, decide_eq_true hd, decide_eq_true ho, qAssert_true, pure_bind,
    if_pos htype, hhead]
  simp only [uploadImage, hsec, htail, except_pure]

set_option maxRecDepth 4000 in
theorem selectFailure_reply_empty_gif :
    (∃ rec ∈ gifStore.coll, rec.imgid = imgidOf gifEnv onePixelGif ∧
      rec.imgpath = ascii "img005/786/1ef3711560725432.jpg") ∧
    serverMain gifEnv initCnfConfig { noFailures with selectFails := true } 0 onePixelGif 43 4096
        gifStore =
      .ok ⟨239, ascii ("<?xml version=\"1.0\" encoding=\"UTF-8\"?>\n<doc>\n<base>\n" ++
        "<imgid><![CDATA[2230250577104884786]]></imgid>\n" ++
        "<imgmd5><![CDATA[325472601571f31e1bf00674c368d335]]></imgmd5>\n" ++
        "<imgpath><![CDATA[]]></imgpath>\n<imgsize><![CDATA[]]></imgsize>\n</base>\n</doc>"),
        gifStore⟩ :=
  ⟨by decide, @selectFailure_reply_empty gifEnv initCnfConfig { noFailures with selectFails := true }
    0 onePixelGif 43 4096 gifStore _ _ (by decide) (by decide) (by decide) rfl (by decide) rfl rfl⟩

/-! ## 4. The store after a failure -/

/-- The files of `st'` are those of `st`, or those and one more, at a path where `st` has none. -/
def Store.AddsFile (st st' : Store) : Prop :=
  st'.files = st.files ∨ ∃ p c, st.files p = none ∧ st'.files = Function.update st.files p (some c)

theorem Store.AddsFile.of_files_eq_right {st st' st'' : Store} (h : st.AddsFile st')
    (h' : st''.files = st'.files) : st.AddsFile st'' := by
  rw [Store.AddsFile, h']
  exact h

/-- `save_image` adds at most the one file it opens, at a path where there was none. -/
theorem saveImage_addsFile (o : Outcomes) (path data : Bytes) (len : Int32) (st : Store) :
    st.AddsFile (saveImage o path data len st).2 := by
  unfold saveImage
  split_ifs with hlen hnone hfopen
  · exact .inl rfl
  · exact .inl rfl
  · -- the file is written, whole or cut by `fwrite` or by the flush in `fclose`
    cases o.fwriteCut <;> cases o.fcloseCut <;> exact .inr ⟨path, _, hnone, rfl⟩
  · exact .inl rfl

/-- **What the section changes**: at most one new file, and a new record only when it returns
    its fields. -/
theorem uploadSection_store {env : Env} {cfg : IdfsConfig} {o : Outcomes} {type : UInt16}
    {img : Bytes} {iid : UInt64} {st st' : Store} {res : Except Int32 (Bytes × Bytes)}
    (h : uploadSection env cfg o type img iid st = (res, st')) :
    st.AddsFile st' ∧
      (st'.coll = st.coll ∨ ((∃ v, res = .ok v) ∧ ∃ rec, st'.coll = st.coll ++ [rec])) := by
  rcases uploadSection_cases h with ⟨-, -, rfl⟩ | ⟨-, -, -, rfl⟩ | ⟨-, -, -, -, -, rfl⟩ |
    ⟨-, -, -, hins, -, rfl⟩ | ⟨-, -, -, hins, hres, rfl⟩
  · exact ⟨.inl rfl, .inl rfl⟩
  · exact ⟨saveImage_addsFile _ _ _ _ _, .inl (saveImage_coll _ _ _ _ _)⟩
  · exact ⟨saveImage_addsFile _ _ _ _ _, .inl (saveImage_coll _ _ _ _ _)⟩
  all_goals
    rcases mongoInsert_cases o _ _ with ⟨herr, hst⟩ | ⟨hok, hst⟩
  · rw [hst]
    exact ⟨saveImage_addsFile _ _ _ _ _, .inl (saveImage_coll _ _ _ _ _)⟩
  · exact absurd (hins.symm.trans hok) (by decide)
  · exact absurd herr hins
  · rw [hst]
    exact ⟨(saveImage_addsFile _ _ _ _ _).of_files_eq_right rfl,
      .inr ⟨⟨_, hres⟩, _, congrArg (· ++ _) (saveImage_coll _ _ _ _ _)⟩⟩

/-- **What a failed `server_main` leaves**: at most one new file, at a path where there was none,
    and the collection as it was, or with one new record when the reply did not fit after the
    insert (-58 … -63). -/
theorem serverMain_failure_frame {env : Env} {cfg : IdfsConfig} {o : Outcomes} {type : UInt16}
    {data : Bytes} {dataLen outSize : Int32} {st : Store} {r : MainResult}
    (h : serverMain env cfg o type data dataLen outSize st = .ok r) (hr : r.ret < 0) :
    st.AddsFile r.store ∧
      (r.store.coll = st.coll ∨ (-63 ≤ r.ret ∧ r.ret ≤ -58 ∧ ∃ rec, r.store.coll = st.coll ++ [rec])) := by
  obtain ⟨-, -, ⟨-, hst⟩ | ⟨out, img, -, -, hup⟩⟩ := serverMain_cases h
  · rw [hst]
    exact ⟨.inl rfl, .inl rfl⟩
  rcases uploadImage_cases hup.symm with hsec | ⟨filePath, imgSize, hsec, htail | ⟨htail, hret⟩⟩
  · obtain ⟨hfiles, hcoll | ⟨⟨v, hv⟩, -⟩⟩ := uploadSection_store hsec
    · exact ⟨hfiles, .inl hcoll⟩
    · cases hv
  · obtain ⟨hfiles, hcoll | ⟨-, hrec⟩⟩ := uploadSection_store hsec
    · exact ⟨hfiles, .inl hcoll⟩
    · have hcode : -63 ≤ r.ret ∧ r.ret ≤ -58 := by
        rcases replyTail_error htail with h | h | h | h | h | h <;> rw [h] <;> decide
      exact ⟨hfiles, .inr ⟨hcode.1, hcode.2, hrec⟩⟩
  · -- a written reply is shorter than out_size, so its length is not negative
    have hn : outSize.toNatClampNeg < 2 ^ 31 := by
      have := Int32.toInt_lt outSize
      have := Int32.toNat_toInt outSize
      omega
    have hint : r.ret.toInt = r.out.length := by
      rw [hret]
      exact Int32.toInt_ofNat_of_lt (Nat.lt_trans (replyTail_ok htail) hn)
    have hlt := Int32.lt_iff_toInt_lt.mp hr
    rw [hint] at hlt
    exact absurd hlt (by simp)

/-- The libraries as they answer for the five bytes `hello`: the MD5 is
    5d41402abc4b2a76b9719d911017c592, whose first eight bytes read as a little-endian `uint64_t`
    are `0x762a4bbc2a40415d`, and the decoder reads no image in them. -/
def textEnv : Env where
  md5Bits64 := fun _ => 0x762a4bbc2a40415d
  md5 := fun _ => ascii "5d41402abc4b2a76b9719d911017c592"
  imread := fun _ => none

theorem serverMain_failure_frame_text :
    ∃ r, serverMain textEnv initCnfConfig noFailures 0 (ascii "hello") 5 4096 emptyStore = .ok r ∧
      r.ret < 0 ∧ emptyStore.AddsFile r.store ∧
      (r.store.coll = emptyStore.coll ∨
        (-63 ≤ r.ret ∧ r.ret ≤ -58 ∧ ∃ rec, r.store.coll = emptyStore.coll ++ [rec])) :=
  ⟨_, rfl, by decide, @serverMain_failure_frame textEnv initCnfConfig noFailures 0 (ascii "hello")
    5 4096 emptyStore _ rfl (by decide)⟩

/-- **A payload that is not an image is saved and left behind**: five bytes of text uploaded as
    type 0 are written to their path, fail to decode, and `server_main` returns -56 with the file
    still there. -/
theorem notAnImage_leaves_file :
    ∃ r, serverMain textEnv initCnfConfig noFailures 0 (ascii "hello") 5 4096 emptyStore = .ok r ∧
      r.ret = -56 ∧
      emptyStore.files (ascii "/data1/img/img005/957/762a4bbc2a40415d.jpg") = none ∧
      r.store.files (ascii "/data1/img/img005/957/762a4bbc2a40415d.jpg") = some (ascii "hello") :=
  ⟨_, rfl, by decide, rfl, by decide⟩

end ImageDfs
