/-
  File:      ImageDfs/Common/Network.lean
  Subject:   A PAGE DOWNLOAD WITH LIBCURL: `QNetworkAccessManager::doHttpGet` and its write
             callback `processFunc` (qnetworkaccessmanager.cc), over every sequence of chunks
             libcurl delivers.

  `doHttpGet` points the manager at the caller's buffer (`ptr_page_`, `max_page_size_`), lets
  `curl_easy_perform` run, and returns `page_len_` when the response code is 200 and `-code`
  otherwise. `processFunc` appends each chunk to the buffer while the page stays below
  `max_page_size_`. libcurl is taken as documented: it hands the body over chunk by chunk and
  aborts the transfer as soon as the callback returns anything but the chunk's size.

  * `processFunc`, `curlPerform`, `doHttpGet` -- the callback, the transfer, the call;
  * `PageInv`, `pageInv_processFunc` -- after every callback the page holds the chunks taken so
    far and `page_len_ < max_page_size_`;
  * `doHttpGet_cases`, `doHttpGet_nonneg` -- the outcomes of a call, and what a result `n ≥ 0`
    means: the body of a transfer answered 200, shorter than the buffer and at its start, or a
    failed response-code query (`code` stays 0), which returns 0 whatever was downloaded.
-/
import ImageDfs.Basic
import ImageDfs.Lib.CInt

namespace ImageDfs

open LittleEndian

/-! ## 1. The model -/

/-- `NET_ERR`, `NET_ERR_PERFORM`, `NET_ERR_TIMEOUT`, `NET_ERR_PAGE_TOO_LARGE`
    (qnetworkaccessmanager.h). -/
def netErr : Int32 := -1
def netErrPerform : Int32 := -15
def netErrTimeout : Int32 := -17
def netErrPageTooLarge : Int32 := -18

/-- The `curl_easy_setopt` calls of `doHttpGet`, in order; the last, `CURLOPT_VERBOSE`, is
    compiled in by `-DVERBOSE_MODE`, which both configurations of build/Makefile set. -/
inductive SetoptStep where
  | url
  | httpGet
  | timeoutMs
  | writeFunction
  | writeData
  | sslVerifyPeer
  | sslVerifyHost
  | noSignal
  | verbose
  deriving DecidableEq

/-- The code `doHttpGet` returns when that call fails. -/
def SetoptStep.code : SetoptStep → Int32
  | .url => -2
  | .httpGet => -3
  | .timeoutMs => -8
  | .writeFunction => -9
  | .writeData => -10
  | .sslVerifyPeer => -11
  | .sslVerifyHost => -12
  | .noSignal => -13
  | .verbose => -14

/-- The fields of `QNetworkAccessManager` the write callback uses: the bytes of the caller's
    buffer at `ptr_page_`, `page_len_` and `max_page_size_`. -/
structure PageState where
  page : Bytes
  pageLen : Int32
  maxPageSize : Int32

/-- `QNetworkAccessManager::processFunc(ptr, size, nmemb, userdata)` on the `size*nmemb` bytes at
    `ptr` (`chunk`); `late` is whether the stopwatch is past `timeout_`. The value returned is
    the `int32_t` the function converts to `size_t`. -/
def processFunc (late : Bool) (chunk : Bytes) (m : PageState) : Int32 × PageState :=
  if late then (netErrTimeout, m)
  else
    let iSize := Int32.ofNat chunk.length
    if m.pageLen + iSize ≥ m.maxPageSize then (netErrPageTooLarge, m)
    else
      (iSize, { m with
        page := writeAt m.page m.pageLen.toNatClampNeg (chunk.take iSize.toNatClampNeg)
        pageLen := m.pageLen + iSize })

/-- `curl_easy_perform` with this callback, on the chunks of the body, each with whether it came
    late. libcurl compares the returned `size_t` with `size*nmemb`: a negative `int32_t` converts
    to at least `2^64 - 2^31`, so for a chunk shorter than `2^63` bytes the two agree exactly
    when the `int32_t` is the chunk's length. -/
def curlPerform : List (Bool × Bytes) → PageState → Bool × PageState
  | [], m => (true, m)
  | (late, chunk) :: cs, m =>
    let r := processFunc late chunk m
    if r.1.toInt = chunk.length then curlPerform cs r.2 else (false, r.2)

/-- What libcurl does on one call: which `curl_easy_setopt` fails first, the chunks of the body,
    whether the transfer fails on its own (network, libcurl's own timeout), and the response code
    `curl_easy_getinfo` gives (`none` when that call fails). -/
structure CurlOutcome where
  setopt : Option SetoptStep
  chunks : List (Bool × Bytes)
  transferFails : Bool
  responseCode : Option Nat

/-- **`QNetworkAccessManager::doHttpGet(pUrl, iTimeOut, pPage, iMaxPageSize)`** with `pUrl` and
    `pPage` not `NULL`: the code returned and the bytes of the buffer. When
    `curl_easy_getinfo` fails, `code` keeps its initial 0 and `-code` is 0. -/
def doHttpGet (o : CurlOutcome) (timeOut : Int32) (page : Bytes) (maxPageSize : Int32) :
    Int32 × Bytes :=
  if timeOut ≤ 0 ∨ maxPageSize ≤ 0 then (netErr, page)
  else match o.setopt with
  | some s => (s.code, page)
  | none =>
    let r := curlPerform o.chunks ⟨page, 0, maxPageSize⟩
    if !r.1 || o.transferFails then (netErrPerform, r.2.page)
    else match o.responseCode with
      | none => (0, r.2.page)
      | some code => if code = 200 then (r.2.pageLen, r.2.page) else (-Int32.ofNat code, r.2.page)

/-! ## 2. The callback -/

/-- The page after the chunks `body` were taken: `page_len_` is their length and below
    `max_page_size_`, they lie at the start of the buffer, and the buffer keeps its `size`
    bytes, at least `max_page_size_`. -/
structure PageInv (size : Nat) (body : Bytes) (m : PageState) : Prop where
  pageLen_eq : m.pageLen.toInt = body.length
  lt_max : m.pageLen.toInt < m.maxPageSize.toInt
  take_eq : m.page.take body.length = body
  length_eq : m.page.length = size
  max_le : m.maxPageSize.toNatClampNeg ≤ size

@[simp] theorem processFunc_maxPageSize (late : Bool) (chunk : Bytes) (m : PageState) :
    (processFunc late chunk m).2.maxPageSize = m.maxPageSize := by
  dsimp only [processFunc]
  split
  · rfl
  · split <;> rfl

/-- **Every callback keeps the page**: it takes the chunk, returning its length, or refuses it,
    returning an error code and leaving the page as it was. A chunk is short enough that no
    `int32_t` sum with it wraps. -/
theorem pageInv_processFunc {size : Nat} {body : Bytes} {m : PageState} (late : Bool)
    {chunk : Bytes} (hinv : PageInv size body m)
    (hc : chunk.length + m.maxPageSize.toNatClampNeg < 2 ^ 31) :
    (processFunc late chunk m).1.toInt = chunk.length ∧
        PageInv size (body ++ chunk) (processFunc late chunk m).2 ∨
      (processFunc late chunk m).1.toInt ≠ chunk.length ∧ (processFunc late chunk m).2 = m := by
  obtain ⟨hlen, hlt, htake, hsize, hmax⟩ := hinv
  have hmax' := CInt.toNatClampNeg_eq m.maxPageSize
  have hi : (Int32.ofNat chunk.length).toInt = chunk.length :=
    Int32.toInt_ofNat_of_lt (by omega)
  have hsum : (m.pageLen + Int32.ofNat chunk.length).toInt = body.length + chunk.length := by
    rw [CInt.toInt_add_of_range _ _ (by omega) (by omega), hlen, hi]
  dsimp only [processFunc]
  split
  · exact .inr ⟨by simp [netErrTimeout], rfl⟩
  · split
    · exact .inr ⟨by simp [netErrPageTooLarge], rfl⟩
    · rename_i hfits
      rw [ge_iff_le, Int32.le_iff_toInt_le, hsum, Int.not_le] at hfits
      have hoff : m.pageLen.toNatClampNeg = body.length := by
        rw [CInt.toNatClampNeg_eq, hlen, Int.toNat_natCast]
      have hwhole : chunk.take (Int32.ofNat chunk.length).toNatClampNeg = chunk := by
        rw [CInt.toNatClampNeg_eq, hi, Int.toNat_natCast, List.take_length]
      have hfit : body.length + chunk.length ≤ m.page.length := by omega
      refine .inl ⟨hi, ⟨?_, by simpa [hsum] using hfits, ?_, ?_, hmax⟩⟩
      · simpa using hsum
      · rw [hoff, hwhole, List.length_append, take_writeAt (by omega), htake]
      · rw [hoff, hwhole, writeAt_length hfit, hsize]

/-! ## 3. The transfer -/

/-- **The transfer keeps the page**: from a page holding `body`, `curl_easy_perform` leaves one
    holding `body` and the chunks taken, and when it succeeds these are all of them. -/
theorem pageInv_curlPerform {size : Nat} (cs : List (Bool × Bytes)) {body : Bytes}
    {m : PageState} (hinv : PageInv size body m)
    (hcs : ∀ c ∈ cs, c.2.length + m.maxPageSize.toNatClampNeg < 2 ^ 31) :
    ∃ taken, PageInv size (body ++ taken) (curlPerform cs m).2 ∧
      ((curlPerform cs m).1 = true → taken = (cs.map Prod.snd).flatten) := by
  induction cs generalizing body m with
  | nil => exact ⟨[], by simpa [curlPerform] using hinv, fun _ => rfl⟩
  | cons c cs ih =>
    obtain ⟨late, chunk⟩ := c
    rcases pageInv_processFunc late hinv (hcs _ List.mem_cons_self) with ⟨hok, hinv'⟩ | ⟨hne, hm⟩
    · have hrest : ∀ c ∈ cs, c.2.length +
          (processFunc late chunk m).2.maxPageSize.toNatClampNeg < 2 ^ 31 := fun c hc => by
        rw [processFunc_maxPageSize]; exact hcs c (List.mem_cons_of_mem _ hc)
      obtain ⟨taken, htaken, hall⟩ := ih hinv' hrest
      refine ⟨chunk ++ taken, ?_, fun h => ?_⟩
      · rw [curlPerform, if_pos hok, ← List.append_assoc]
        exact htaken
      · rw [curlPerform, if_pos hok] at h
        simp [hall h]
    · refine ⟨[], ?_, fun h => ?_⟩
      · rw [curlPerform, if_neg hne, hm, List.append_nil]
        exact hinv
      · rw [curlPerform, if_neg hne] at h
        exact absurd h Bool.false_ne_true

@[simp] theorem curlPerform_maxPageSize (cs : List (Bool × Bytes)) (m : PageState) :
    (curlPerform cs m).2.maxPageSize = m.maxPageSize := by
  induction cs generalizing m with
  | nil => rfl
  | cons c cs ih =>
    rw [curlPerform]
    split
    · rw [ih, processFunc_maxPageSize]
    · exact processFunc_maxPageSize _ _ _

/-! ## 4. The call -/

theorem SetoptStep.code_neg (s : SetoptStep) : s.code.toInt < 0 := by
  cases s <;> decide

/-- The page `doHttpGet` hands to libcurl: empty, below a positive `iMaxPageSize`. -/
theorem pageInv_start {page : Bytes} {maxPageSize : Int32} (hmax : 0 < maxPageSize)
    (hbuf : maxPageSize.toNatClampNeg ≤ page.length) :
    PageInv page.length [] ⟨page, 0, maxPageSize⟩ :=
  ⟨rfl, Int32.lt_iff_toInt_lt.mp hmax, rfl, rfl, hbuf⟩

/-- The three outcomes of `doHttpGet`: a negative code; status 200 with the whole body, shorter
    than `iMaxPageSize`, at the start of `pPage`; or 0 after a failed or zero status query.
    libcurl's chunks are short enough that no `int32_t` sum with one wraps (they are at most
    16 KiB), `pPage` has `iMaxPageSize` bytes, and a response code has fewer than ten digits. -/
theorem doHttpGet_cases (o : CurlOutcome) (timeOut : Int32) (page : Bytes)
    (maxPageSize : Int32) (hbuf : maxPageSize.toNatClampNeg ≤ page.length)
    (hchunks : ∀ c ∈ o.chunks, c.2.length + maxPageSize.toNatClampNeg < 2 ^ 31)
    (hcode : ∀ code, o.responseCode = some code → code < 2 ^ 31) :
    (doHttpGet o timeOut page maxPageSize).1.toInt < 0 ∨
      (o.responseCode = some 200 ∧
        (doHttpGet o timeOut page maxPageSize).1.toInt = (o.chunks.map Prod.snd).flatten.length ∧
        (o.chunks.map Prod.snd).flatten.length < maxPageSize.toInt ∧
        (doHttpGet o timeOut page maxPageSize).2.take (o.chunks.map Prod.snd).flatten.length =
          (o.chunks.map Prod.snd).flatten) ∨
      ((o.responseCode = none ∨ o.responseCode = some 0) ∧
        (doHttpGet o timeOut page maxPageSize).1 = 0) := by
  unfold doHttpGet
  by_cases hargs : timeOut ≤ 0 ∨ maxPageSize ≤ 0
  · rw [if_pos hargs]
    exact .inl (show netErr.toInt < 0 by decide)
  rw [if_neg hargs]
  have hmax : 0 < maxPageSize := by
    rw [not_or, Int32.not_le, Int32.not_le] at hargs
    exact hargs.2
  cases hset : o.setopt with
  | some s => exact .inl (SetoptStep.code_neg s)
  | none =>
    dsimp only
    obtain ⟨taken, hinv, hall⟩ := pageInv_curlPerform o.chunks (pageInv_start hmax hbuf) hchunks
    have hsize : (curlPerform o.chunks ⟨page, 0, maxPageSize⟩).2.maxPageSize = maxPageSize :=
      curlPerform_maxPageSize _ _
    generalize curlPerform o.chunks ⟨page, 0, maxPageSize⟩ = r at hinv hall hsize ⊢
    by_cases hperf : (!r.1 || o.transferFails) = true
    · rw [if_pos hperf]
      exact .inl (show netErrPerform.toInt < 0 by decide)
    rw [if_neg hperf]
    rw [Bool.or_eq_true, not_or, Bool.not_eq_true', Bool.not_eq_true] at hperf
    rw [hall (by simpa using hperf.1), List.nil_append] at hinv
    cases hc : o.responseCode with
    | none => exact .inr (.inr ⟨.inl rfl, rfl⟩)
    | some code =>
      dsimp only
      by_cases h200 : code = 200
      · subst h200
        exact .inr (.inl ⟨rfl, hinv.pageLen_eq, hinv.pageLen_eq ▸ hsize ▸ hinv.lt_max,
          hinv.take_eq⟩)
      · rw [if_neg h200]
        by_cases h0 : code = 0
        · subst h0
          exact .inr (.inr ⟨.inr rfl, rfl⟩)
        · refine .inl ?_
          rw [CInt.toInt_neg_ofNat (hcode code hc)]
          omega

/-- **What a result `n ≥ 0` of `doHttpGet` means.** Either the server answered 200, the whole
    body arrived, shorter than `iMaxPageSize`, and `pPage[0..n)` is that body; or the response
    code could not be read or was 0, and `n` is 0 whatever the body was. libcurl's chunks are
    short enough that no `int32_t` sum with one wraps (they are at most 16 KiB), `pPage` has
    `iMaxPageSize` bytes, and a response code has fewer than ten digits. -/
theorem doHttpGet_nonneg (o : CurlOutcome) (timeOut : Int32) (page : Bytes)
    (maxPageSize : Int32) (hbuf : maxPageSize.toNatClampNeg ≤ page.length)
    (hchunks : ∀ c ∈ o.chunks, c.2.length + maxPageSize.toNatClampNeg < 2 ^ 31)
    (hcode : ∀ code, o.responseCode = some code → code < 2 ^ 31)
    (hret : 0 ≤ (doHttpGet o timeOut page maxPageSize).1.toInt) :
    (o.responseCode = some 200 ∧
        (doHttpGet o timeOut page maxPageSize).1.toInt = (o.chunks.map Prod.snd).flatten.length ∧
        (o.chunks.map Prod.snd).flatten.length < maxPageSize.toInt ∧
        (doHttpGet o timeOut page maxPageSize).2.take (o.chunks.map Prod.snd).flatten.length =
          (o.chunks.map Prod.snd).flatten) ∨
      ((o.responseCode = none ∨ o.responseCode = some 0) ∧
        (doHttpGet o timeOut page maxPageSize).1 = 0) := by
  rcases doHttpGet_cases o timeOut page maxPageSize hbuf hchunks hcode with hneg | hok
  · exact absurd hret (Int.not_le.mpr hneg)
  · exact hok

/-- A transfer that delivered a byte of body but whose response code could not be read: the
    call returns 0, as for an empty page. -/
theorem doHttpGet_nonneg_no_code :
    (doHttpGet ⟨none, [(false, [7])], false, none⟩ 8000 [0, 0, 0, 0] 4).1 = 0 ∧
      (((none : Option Nat) = some 200 ∧
          (doHttpGet ⟨none, [(false, [7])], false, none⟩ 8000 [0, 0, 0, 0] 4).1.toInt =
            ([(false, [7])].map Prod.snd).flatten.length ∧
          ([(false, [7])].map Prod.snd).flatten.length < (4 : Int32).toInt ∧
          (doHttpGet ⟨none, [(false, [7])], false, none⟩ 8000 [0, 0, 0, 0] 4).2.take
              ([(false, [7])].map Prod.snd).flatten.length =
            ([(false, [7])].map Prod.snd).flatten) ∨
        (((none : Option Nat) = none ∨ (none : Option Nat) = some 0) ∧
          (doHttpGet ⟨none, [(false, [7])], false, none⟩ 8000 [0, 0, 0, 0] 4).1 = 0)) :=
  ⟨by decide, doHttpGet_nonneg ⟨none, [(false, [7])], false, none⟩ 8000 [0, 0, 0, 0] 4
    (by decide) (by decide) (fun _ h => nomatch h) (by decide)⟩

end ImageDfs
