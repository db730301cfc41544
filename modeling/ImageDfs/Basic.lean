/-
  File:      ImageDfs/Basic.lean
  Subject:   THE WORDS THE SERVER IS WRITTEN IN: byte strings, the `printf` conversions the code
             uses, `q_format` (qfunc.h), `q_to_string` and `Q_ASSERT` (qglobal.h).

  Every C string and buffer of the server is a list of bytes (`Bytes`); a literal of the source
  is its ASCII bytes (`ascii`). What `%s` prints of a `std::string` is its `c_str()`, the bytes
  before the first NUL (`cstr`).

  * `fmtU`, `fmtX`, `fmtD`, `fmt03d` -- `%u`/`%lu`, `%lx`, `%d` and `%03d`;
  * `qFormat` -- `q_format` as its retry loop computes it. The loop grows the heap buffer to
    `n + 1` bytes but keeps passing `sizeof(buf)` = 1024 as the capacity, so a text of 1024
    bytes or more comes back as its first 1023 bytes, the NUL `vsnprintf` wrote at index 1023,
    and `n - 1024` bytes of the `malloc`ed block that nothing wrote (the parameter `heap`);
    `qFormat_short` is the case every caller in the server is in when its text is short, and
    `qFormat_long` what comes back of a longer one;
  * `qSubstr` -- `q_substr`: both delimiters are searched from the start of the text, and the
    length `pos2-pos1-s1.length()` is a `size_t`, so it wraps when `s2` comes first;
    `qSubstr_out_of_order` compares it with `textBetween`, the text between the delimiters;
  * `qAssert` -- `Q_ASSERT`: a false condition prints the message and calls `abort()`. A function
    with asserts is modelled in `Except String`, the error being the assert's message.
-/
import Mathlib.Data.List.Basic
import Mathlib.Data.List.TakeWhile
import ImageDfs.Lib.LittleEndian
import ImageDfs.Lib.Search

namespace ImageDfs

/-- A C byte string or buffer. -/
abbrev Bytes := List UInt8

/-! ## 1. Literals and C strings -/

/-- The bytes of an ASCII literal of the source. -/
def ascii (s : String) : Bytes := s.toList.map (fun c => UInt8.ofNat c.toNat)

@[simp] theorem ascii_append (s t : String) : ascii (s ++ t) = ascii s ++ ascii t := by
  simp [ascii]

@[simp] theorem ascii_length (s : String) : (ascii s).length = s.length := by
  simp [ascii, String.length_toList]

/-- What `%s` prints of a buffer and what a `char*` argument passes on: the bytes before the
    first NUL (`std::string::c_str()`). -/
def cstr (b : Bytes) : Bytes := b.takeWhile (fun c => c != 0)

/-- A buffer without a NUL is its own C string. -/
theorem cstr_of_forall {b : Bytes} (h : ∀ c ∈ b, c ≠ 0) : cstr b = b := by
  unfold cstr
  rw [List.takeWhile_eq_self_iff]
  intro c hc
  simpa using h c hc

/-- A bound on every byte, checked by running `List.all`: with the whole of Mathlib in scope
    `decide` on the bounded statement itself runs over all of `UInt8`. -/
theorem forall_ne_of_all {l : Bytes} {b : UInt8} (h : l.all (· != b) = true) : ∀ c ∈ l, c ≠ b := by
  simpa using h

/-- Printing a C string again prints the same bytes. -/
@[simp] theorem cstr_cstr (b : Bytes) : cstr (cstr b) = cstr b :=
  cstr_of_forall fun _ hc => by simpa using List.mem_takeWhile_imp hc

/-! ## 2. The `printf` conversions -/

/-- `%u` and `%lu`: the decimal digits of a number. -/
def fmtU (n : Nat) : Bytes := ascii (String.ofList (Nat.toDigits 10 n))

/-- `%lx`: the lower-case hexadecimal digits of a number. -/
def fmtX (n : Nat) : Bytes := ascii (String.ofList (Nat.toDigits 16 n))

/-- `%d`: a sign for a negative number, then the digits of its magnitude. -/
def fmtD (x : Int) : Bytes := if x < 0 then ascii "-" ++ fmtU x.natAbs else fmtU x.toNat

/-- `%03d` of a number that is not negative: its digits, zero-padded on the left to three. -/
def fmt03d (n : Nat) : Bytes := List.replicate (3 - (fmtU n).length) (UInt8.ofNat 48) ++ fmtU n

/-- `q_to_string(uint64_t)`: the `ostringstream` text of the number, its decimal digits. -/
def qToString (n : UInt64) : Bytes := fmtU n.toNat

theorem fmtU_ne_nil (n : Nat) : fmtU n ≠ [] := by
  simp [fmtU, ascii, Nat.toDigits_ne_nil]

/-- The digits of a number are digits: no NUL and no slash among them. -/
theorem mem_fmtU {n : Nat} {c : UInt8} (h : c ∈ fmtU n) : 48 ≤ c.toNat ∧ c.toNat ≤ 57 := by
  simp only [fmtU, ascii, String.toList_ofList, List.mem_map] at h
  obtain ⟨d, hd, rfl⟩ := h
  have hd' := Nat.isDigit_of_mem_toDigits (by decide) (by decide) hd
  simp only [Char.isDigit, Bool.and_eq_true, decide_eq_true_eq] at hd'
  have h1 : d.toNat ≤ 57 := hd'.2
  have h2 : 48 ≤ d.toNat := hd'.1
  have hlt : d.toNat < 256 := by omega
  simp [Nat.mod_eq_of_lt hlt]
  omega

/-- A number's text has no NUL: its `c_str()` is all of it. -/
@[simp] theorem cstr_qToString (n : UInt64) : cstr (qToString n) = qToString n :=
  cstr_of_forall fun c hc h0 => by
    have h := (mem_fmtU hc).1
    subst h0
    simp at h

/-! ## 3. `q_format` -/

/-- `q_format(fmt, ...)` where `text` is what `vsnprintf` makes of `fmt` and the arguments (the
    whole text, of length `n`). A first `vsnprintf` into the 1024-byte stack buffer returns `n`;
    if `n < 1024` that buffer is the result. Otherwise the loop `malloc`s `n + 1` bytes and calls
    `vsnprintf(p, sizeof(buf), …)` again, which writes 1023 bytes and a NUL, and returns
    `std::string(p, n)`: the bytes of `p` past index 1023 are the block's own (`heap`). -/
def qFormat (heap : Nat → UInt8) (text : Bytes) : Bytes :=
  if text.length < 1024 then text
  else text.take 1023 ++ [0] ++ (List.range (text.length - 1024)).map (fun i => heap (1024 + i))

/-- A text shorter than the stack buffer comes back whole. -/
theorem qFormat_short (heap : Nat → UInt8) {text : Bytes} (h : text.length < 1024) :
    qFormat heap text = text := by
  simp [qFormat, h]

/-- `q_format` returns as many bytes as the text has. -/
theorem qFormat_length (heap : Nat → UInt8) (text : Bytes) :
    (qFormat heap text).length = text.length := by
  unfold qFormat
  split
  · rfl
  · simp only [List.length_append, List.length_take, List.length_cons, List.length_nil,
      List.length_map, List.length_range]
    omega

/-- **A text of 1024 bytes or more comes back cut**: its first 1023 bytes, then the NUL that
    `vsnprintf` put at index 1023, so that a text without a NUL never comes back whole. -/
theorem qFormat_long (heap : Nat → UInt8) (text : Bytes) (hlong : 1024 ≤ text.length) :
    (qFormat heap text).length = text.length ∧
      (qFormat heap text).take 1023 = text.take 1023 ∧
      (qFormat heap text)[1023]? = some 0 ∧
      (0 ∉ text → qFormat heap text ≠ text) := by
  have hq : qFormat heap text = text.take 1023 ++ [0] ++
      (List.range (text.length - 1024)).map (fun i => heap (1024 + i)) := by
    rw [qFormat, if_neg (by omega)]
  have hpre : (text.take 1023).length = 1023 := by simp; omega
  have hnul : (qFormat heap text)[1023]? = some 0 := by
    rw [hq, List.append_assoc, List.getElem?_append_right (by omega), hpre]
    rfl
  refine ⟨qFormat_length heap text, ?_, hnul, fun h0 heq => h0 ?_⟩
  · rw [hq, List.append_assoc, List.take_append_of_le_length (by omega), List.take_of_length_le
      (by omega)]
  · rw [heq] at hnul
    exact List.mem_of_getElem? hnul

theorem qFormat_long_1024 :
    1024 ≤ (List.replicate 1024 (65 : UInt8)).length ∧
      qFormat (fun _ => 0) (List.replicate 1024 65) ≠ List.replicate 1024 65 :=
  ⟨(List.length_replicate).ge, (qFormat_long (fun _ => 0) (List.replicate 1024 65)
    (List.length_replicate).ge).2.2.2 fun h => absurd (List.eq_of_mem_replicate h) (by decide)⟩

/-! ## 4. `q_substr` -/

/-- `q_substr(ss, s1, s2)`: the text from the end of the first `s1` for
    `pos2-pos1-s1.length()` bytes, `pos2` being the first `s2` in the whole text; the length is
    computed in `size_t` (modulo 2^64), and `substr` stops at the end of the text. -/
def qSubstr (ss s1 s2 : Bytes) : Bytes :=
  match Search.findFrom ss s1 0, Search.findFrom ss s2 0 with
  | some pos1, some pos2 =>
    (ss.drop (pos1 + s1.length)).take (((pos2 : Int) - pos1 - s1.length) % 2 ^ 64).toNat
  | _, _ => []

/-- What `q_substr` is meant to return: the text between the end of the first `s1` and the
    first `s2` that starts at or after that end; empty when either is missing. -/
def textBetween (ss s1 s2 : Bytes) : Bytes :=
  match Search.findFrom ss s1 0 with
  | some pos1 =>
    match Search.findFrom ss s2 (pos1 + s1.length) with
    | some pos2 => (ss.drop (pos1 + s1.length)).take (pos2 - (pos1 + s1.length))
    | none => []
  | none => []

/-- A `size_t` difference that went below zero is at least `2^64 - 2^63`: a `substr` of that
    many bytes is the rest of any string. -/
theorem take_wrapped_length {ss : Bytes} {a p l : Nat} (hss : ss.length < 2 ^ 63)
    (hb : p + l ≤ ss.length) (hab : a < p + l) :
    (ss.drop (p + l)).take (((a : Int) - p - l) % 2 ^ 64).toNat = ss.drop (p + l) := by
  apply List.take_of_length_le
  have hmod : ((a : Int) - p - l) % 2 ^ 64 = (a : Int) - p - l + 2 ^ 64 := by omega
  rw [List.length_drop, hmod]
  omega

/-- **`q_substr` with its delimiters out of order.** When the first `s2` starts before the end
    of the first `s1`, the `size_t` length `pos2-pos1-s1.length()` wraps and `q_substr` returns
    all of the text after `s1`; when every first `s2` comes after the first `s1`, it returns
    the text between them. -/
theorem qSubstr_out_of_order (ss s1 s2 : Bytes) (hss : ss.length < 2 ^ 63) :
    (∀ pos1 pos2, Search.findFrom ss s1 0 = some pos1 → Search.findFrom ss s2 0 = some pos2 →
        pos2 < pos1 + s1.length → qSubstr ss s1 s2 = ss.drop (pos1 + s1.length)) ∧
      ((∀ pos1 pos2, Search.findFrom ss s1 0 = some pos1 → Search.findFrom ss s2 0 = some pos2 →
          pos1 + s1.length ≤ pos2) → qSubstr ss s1 s2 = textBetween ss s1 s2) := by
  constructor
  · intro pos1 pos2 h1 h2 hlt
    simp only [qSubstr, h1, h2]
    exact take_wrapped_length hss (Search.findFrom_add_length_le h1) hlt
  · intro hord
    unfold qSubstr textBetween
    cases h1 : Search.findFrom ss s1 0 with
    | none => rfl
    | some pos1 =>
      dsimp only
      cases h2 : Search.findFrom ss s2 0 with
      | none =>
        -- no `s2` anywhere, so none after `s1` either
        cases h3 : Search.findFrom ss s2 (pos1 + s1.length) with
        | none => rfl
        | some p => simpa [h2] using Search.findFrom_zero_isSome h3
      | some pos2 =>
        have hle := hord pos1 pos2 h1 h2
        have hend := Search.findFrom_add_length_le h2
        rw [Search.findFrom_of_le h2 hle]
        dsimp only
        congr 1
        omega

/-- A `src` element preceded by a stray closing tag: the URL `q_substr` gives runs to the end of
    the request. -/
theorem qSubstr_out_of_order_src :
    qSubstr (ascii "]]></src><src><![CDATA[a]]></src>") (ascii "<src><![CDATA[")
        (ascii "]]></src>") = ascii "a]]></src>" ∧
      textBetween (ascii "]]></src><src><![CDATA[a]]></src>") (ascii "<src><![CDATA[")
        (ascii "]]></src>") = ascii "a" :=
  ⟨((qSubstr_out_of_order (ascii "]]></src><src><![CDATA[a]]></src>") (ascii "<src><![CDATA[")
      (ascii "]]></src>") (by decide)).1 9 0 (by decide) (by decide) (by decide)).trans
      (by decide), by decide⟩

/-! ## 5. `Q_ASSERT` -/

/-- `Q_ASSERT(cond, msg)`: nothing when `cond` holds; otherwise the process prints `msg` and
    calls `abort()`, which ends every thread of the server. -/
def qAssert (cond : Bool) (msg : String) : Except String Unit :=
  if cond then pure () else throw msg

@[simp] theorem qAssert_true (msg : String) : qAssert true msg = pure () := rfl

@[simp] theorem qAssert_false (msg : String) : qAssert false msg = .error msg := rfl

/-- A step that returned goes on with its value; an abort ends the function. -/
@[simp] theorem except_pure {ε α : Type} (a : α) : (pure a : Except ε α) = .ok a := rfl

@[simp] theorem except_ok_bind {ε α β : Type} (a : α) (f : α → Except ε β) :
    (Except.ok a >>= f) = f a := rfl

@[simp] theorem except_error_bind {ε α β : Type} (e : ε) (f : α → Except ε β) :
    (Except.error e >>= f) = .error e := rfl

/-- A sequence returns exactly when each step returns in turn. -/
theorem except_bind_eq_ok {ε α β : Type} {x : Except ε α} {f : α → Except ε β} {b : β} :
    (x >>= f) = .ok b ↔ ∃ a, x = .ok a ∧ f a = .ok b := by
  cases x <;> simp

/-- A sequence aborts exactly when one of its steps does. -/
theorem except_bind_eq_error {ε α β : Type} {x : Except ε α} {f : α → Except ε β} {e : ε} :
    (x >>= f) = .error e ↔ x = .error e ∨ ∃ a, x = .ok a ∧ f a = .error e := by
  cases x <;> simp

end ImageDfs
