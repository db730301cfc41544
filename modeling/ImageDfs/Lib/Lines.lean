/-
  File:      ImageDfs/Lib/Lines.lean
  Subject:   READING A STREAM LINE BY LINE into a bounded buffer, as `fgets` does, and trimming
             the end of a line.

  `fgets(buf, n + 1, fp)` copies the bytes up to and including the next separator, but at most
  `n` of them: a longer line comes out in pieces, and the next call goes on in the middle of it.
  Nothing here names a program:

  * `takeLine sep n s` -- what one call copies from the unread `s`; `chunks sep n s` -- what the
    calls copy until the end of the stream, each with room for `n + 1` elements;
  * `chunks_cons_of_long` -- a line longer than the room is cut after `n + 1` elements, and the
    next call goes on in the middle of it; `chunks_flatMap_lines` -- lines that fit are read one
    by one;
  * `chunks_eq_of_fits` -- when every piece a larger buffer reads fits, a smaller one reads the
    same pieces;
  * `lines sep s` -- the lines of `s` with their separators; `chunks_eq_lines` -- a reader whose
    room every line fits reads the lines;
  * `rdropWhile_cons`, `rdropWhile_drop`, `rdropWhile_dropWhile` -- trimming the end of a list,
    before or after dropping a prefix, or skipping elements that trimming would remove too.
-/
import Mathlib.Data.List.DropRight

namespace Lines

variable {α : Type} [DecidableEq α]

/-! ## 1. One call -/

/-- What one call with room for `n` elements copies from `s`: up to and including the first
    `sep`. -/
def takeLine (sep : α) : Nat → List α → List α
  | 0, _ => []
  | _, [] => []
  | n + 1, c :: cs => if c = sep then [c] else c :: takeLine sep n cs

theorem takeLine_prefix (sep : α) : ∀ (n : Nat) (s : List α), takeLine sep n s <+: s
  | 0, _ => List.nil_prefix
  | _ + 1, [] => List.nil_prefix
  | n + 1, c :: cs => by
    simp only [takeLine]
    split
    · exact List.prefix_cons_inj c |>.mpr List.nil_prefix
    · exact (List.prefix_cons_inj c).mpr ( takeLine_prefix sep n cs)

theorem takeLine_length_pos (sep : α) (n : Nat) (c : α) (cs : List α) :
    0 < (takeLine sep (n + 1) (c :: cs)).length := by
  simp only [takeLine]
  split <;> simp

/-- A line longer than the room is cut: the call copies the first `n` elements. -/
theorem takeLine_of_long (sep : α) {pre : List α} (hl : sep ∉ pre) :
    ∀ (n : Nat) (rest : List α), pre.length = n → takeLine sep n (pre ++ rest) = pre := by
  induction pre with
  | nil =>
    intro n rest hn
    subst hn
    simp [takeLine]
  | cons c cs ih =>
    intro n rest hn
    rw [List.length_cons] at hn
    subst hn
    have hc : c ≠ sep := fun h => hl (h ▸ List.mem_cons_self)
    have hcs : sep ∉ cs := fun h => hl (List.mem_cons_of_mem c h)
    simp only [List.cons_append, takeLine, if_neg hc]
    rw [ih hcs cs.length rest rfl]

/-- A line that fits is copied whole, with its separator. -/
theorem takeLine_line (sep : α) {l : List α} (hl : sep ∉ l) :
    ∀ (n : Nat) (rest : List α), l.length ≤ n → takeLine sep (n + 1) (l ++ sep :: rest) = l ++ [sep] := by
  induction l with
  | nil =>
    intro n rest _
    simp [takeLine]
  | cons c cs ih =>
    intro n rest hn
    obtain ⟨m, rfl⟩ : ∃ m, n = m + 1 := ⟨n - 1, by rw [List.length_cons] at hn; omega⟩
    have hc : c ≠ sep := fun h => hl (h ▸ List.mem_cons_self)
    have hcs : sep ∉ cs := fun h => hl (List.mem_cons_of_mem c h)
    simp only [List.cons_append, takeLine, if_neg hc]
    rw [ih hcs m rest (by rw [List.length_cons] at hn; omega)]

/-- A call with less room copies the same, when what the larger one copied fits in it. -/
theorem takeLine_eq_of_fits (sep : α) :
    ∀ (n m : Nat) (s : List α), (takeLine sep m s).length ≤ n → n ≤ m →
      takeLine sep n s = takeLine sep m s
  | 0, m, s, h, _ => by
    rw [Nat.le_zero, List.length_eq_zero_iff] at h
    rw [h, takeLine]
  | _ + 1, m, [], _, _ => by
    cases m <;> rfl
  | n + 1, 0, c :: cs, _, hnm => absurd hnm (by omega)
  | n + 1, m + 1, c :: cs, h, hnm => by
    simp only [takeLine] at h ⊢
    split
    · rfl
    · rename_i hc
      rw [if_neg hc, List.length_cons] at h
      rw [takeLine_eq_of_fits sep n m cs (by omega) (by omega)]

/-- Room past the end of the stream: how much does not matter. -/
theorem takeLine_eq_of_long_room (sep : α) :
    ∀ (n m : Nat) (s : List α), s.length < n → s.length < m → takeLine sep n s = takeLine sep m s
  | 0, _, _, h, _ => absurd h (Nat.not_lt_zero _)
  | _, 0, _, _, h => absurd h (Nat.not_lt_zero _)
  | _ + 1, _ + 1, [], _, _ => rfl
  | n + 1, m + 1, c :: cs, hn, hm => by
    rw [List.length_cons] at hn hm
    simp only [takeLine]
    rw [takeLine_eq_of_long_room sep n m cs (by omega) (by omega)]

/-! ## 2. The calls until the end -/

/-- The pieces that calls with room for `n + 1` elements copy from `s`, at most `fuel` calls. -/
def chunksFrom (sep : α) (n : Nat) : Nat → List α → List (List α)
  | 0, _ => []
  | _ + 1, [] => []
  | fuel + 1, c :: cs =>
    takeLine sep (n + 1) (c :: cs) ::
      chunksFrom sep n fuel ((c :: cs).drop (takeLine sep (n + 1) (c :: cs)).length)

/-- The pieces that calls with room for `n + 1` elements copy from `s` until its end. Each call
    copies at least one element, so `s.length` calls are enough. -/
def chunks (sep : α) (n : Nat) (s : List α) : List (List α) := chunksFrom sep n s.length s

/-- Enough calls: how many more does not matter. -/
theorem chunksFrom_eq (sep : α) (n : Nat) :
    ∀ (fuel fuel' : Nat) (s : List α), s.length ≤ fuel → s.length ≤ fuel' →
      chunksFrom sep n fuel s = chunksFrom sep n fuel' s := by
  intro fuel
  induction fuel with
  | zero =>
    intro fuel' s h _
    rw [Nat.le_zero, List.length_eq_zero_iff] at h
    subst h
    cases fuel' <;> rfl
  | succ fuel ih =>
    intro fuel' s h h'
    cases s with
    | nil => cases fuel' <;> rfl
    | cons c cs =>
      rw [List.length_cons] at h h'
      obtain ⟨fuel', rfl⟩ : ∃ k, fuel' = k + 1 := ⟨fuel' - 1, by omega⟩
      have hpos := takeLine_length_pos sep n c cs
      have hrest : ((c :: cs).drop (takeLine sep (n + 1) (c :: cs)).length).length ≤ cs.length := by
        simp only [List.length_drop, List.length_cons]
        omega
      rw [chunksFrom, chunksFrom, ih fuel' _ (by omega) (by omega)]

theorem chunksFrom_of_le (sep : α) (n fuel : Nat) (s : List α) (h : s.length ≤ fuel) :
    chunksFrom sep n fuel s = chunks sep n s :=
  chunksFrom_eq sep n fuel s.length s h le_rfl

@[simp] theorem chunks_nil (sep : α) (n : Nat) : chunks sep n ([] : List α) = [] := rfl

/-- One call, then the calls on what it left. -/
theorem chunks_cons (sep : α) (n : Nat) (c : α) (cs : List α) :
    chunks sep n (c :: cs) =
      takeLine sep (n + 1) (c :: cs) ::
        chunks sep n ((c :: cs).drop (takeLine sep (n + 1) (c :: cs)).length) := by
  have hpos := takeLine_length_pos sep n c cs
  unfold chunks
  rw [List.length_cons, chunksFrom, chunksFrom_of_le sep n cs.length _ (by simp; omega)]
  rfl

/-- What a piece holds comes from the stream. -/
theorem mem_of_mem_chunks (sep : α) (n : Nat) :
    ∀ (s : List α) {l : List α} {x : α}, l ∈ chunks sep n s → x ∈ l → x ∈ s
  | [], _, _, hl, _ => by simp at hl
  | c :: cs, l, x, hl, hx => by
    rw [chunks_cons, List.mem_cons] at hl
    rcases hl with rfl | hl
    · exact List.IsPrefix.subset ( takeLine_prefix sep _ _) hx
    · exact (List.drop_sublist _ _).subset (mem_of_mem_chunks sep n _ hl hx)
termination_by s => s.length
decreasing_by
  have := takeLine_length_pos sep n c cs
  simp only [List.length_drop, List.length_cons]
  omega

/-- **A longer line is cut**: the first call copies `n + 1` elements of it, and the next goes on
    in the middle of the line. -/
theorem chunks_cons_of_long (sep : α) {n : Nat} {pre : List α} (hl : sep ∉ pre)
    (hn : pre.length = n + 1) (rest : List α) :
    chunks sep n (pre ++ rest) = pre :: chunks sep n rest := by
  cases hl' : pre ++ rest with
  | nil => simp_all
  | cons c cs =>
    rw [chunks_cons, ← hl', takeLine_of_long sep hl (n + 1) rest hn]
    simp

/-- A line that fits is one call. -/
theorem chunks_append_line (sep : α) {n : Nat} {l : List α} (hl : sep ∉ l) (hn : l.length ≤ n)
    (rest : List α) : chunks sep n (l ++ sep :: rest) = (l ++ [sep]) :: chunks sep n rest := by
  cases hl' : l ++ sep :: rest with
  | nil => simp at hl'
  | cons c cs =>
    rw [chunks_cons, ← hl', takeLine_line sep hl n rest hn]
    simp

/-- **Lines that fit are read one by one.** -/
theorem chunks_flatMap_lines (sep : α) (n : Nat) :
    ∀ (ls : List (List α)), (∀ l ∈ ls, sep ∉ l ∧ l.length ≤ n) →
      chunks sep n (ls.flatMap (· ++ [sep])) = ls.map (· ++ [sep])
  | [], _ => rfl
  | l :: ls, h => by
    obtain ⟨hl, hn⟩ := h l List.mem_cons_self
    rw [List.flatMap_cons, List.append_assoc, List.singleton_append, chunks_append_line sep hl hn,
      chunks_flatMap_lines sep n ls fun l' hl' => h l' (List.mem_cons_of_mem _ hl'), List.map_cons]

/-- **A smaller buffer reads the same pieces** when every piece a larger one reads fits in it. -/
theorem chunks_eq_of_fits (sep : α) {n m : Nat} (hnm : n ≤ m) :
    ∀ (s : List α), (∀ l ∈ chunks sep m s, l.length ≤ n + 1) → chunks sep n s = chunks sep m s
  | [], _ => rfl
  | c :: cs, h => by
    have hfit := h _ (by rw [chunks_cons]; exact List.mem_cons_self)
    have hline := takeLine_eq_of_fits sep (n + 1) (m + 1) (c :: cs) hfit (by omega)
    have hpos := takeLine_length_pos sep m c cs
    have hrest : ∀ l ∈ chunks sep m ((c :: cs).drop (takeLine sep (m + 1) (c :: cs)).length),
        l.length ≤ n + 1 := fun l hl => h l (by rw [chunks_cons]; exact List.mem_cons_of_mem _ hl)
    rw [chunks_cons, chunks_cons, hline, chunks_eq_of_fits sep hnm _ hrest]
termination_by s => s.length
decreasing_by simp only [List.length_drop, List.length_cons]; omega

/-- Two readers with room past the end of the stream read the same pieces. -/
theorem chunks_eq_of_long_room (sep : α) (n m : Nat) :
    ∀ (s : List α), s.length ≤ n → s.length ≤ m → chunks sep n s = chunks sep m s
  | [], _, _ => rfl
  | c :: cs, hn, hm => by
    have hline := takeLine_eq_of_long_room sep (n + 1) (m + 1) (c :: cs) (by omega) (by omega)
    have hpos := takeLine_length_pos sep m c cs
    rw [chunks_cons, chunks_cons, hline,
      chunks_eq_of_long_room sep n m _ (by simp only [List.length_drop]; omega)
        (by simp only [List.length_drop]; omega)]
termination_by s => s.length
decreasing_by simp only [List.length_drop, List.length_cons]; omega

/-- The lines of `s`, each with its separator: what a reader with room for all of `s` copies. -/
def lines (sep : α) (s : List α) : List (List α) := chunks sep s.length s

/-- **A reader with room for `n + 1` elements reads the lines** when every line fits. -/
theorem chunks_eq_lines (sep : α) (n : Nat) (s : List α)
    (hfit : ∀ l ∈ lines sep s, l.length ≤ n + 1) : chunks sep n s = lines sep s := by
  by_cases hn : n ≤ s.length
  · exact chunks_eq_of_fits sep hn s hfit
  · exact chunks_eq_of_long_room sep n s.length s (by omega) le_rfl

/-- `findSome?` sees a function only on the elements of the list. -/
theorem findSome_congr {β γ : Type} {f g : β → Option γ} :
    ∀ {l : List β}, (∀ a ∈ l, f a = g a) → l.findSome? f = l.findSome? g
  | [], _ => rfl
  | a :: l, h => by
    rw [List.findSome?_cons, List.findSome?_cons, h a List.mem_cons_self,
      findSome_congr fun b hb => h b (List.mem_cons_of_mem a hb)]

/-! ## 3. Trimming the end -/

section Trim

variable {β : Type}

theorem rdropWhile_cons (p : β → Bool) (a : β) (l : List β) :
    (a :: l).rdropWhile p = if p a ∧ l.rdropWhile p = [] then [] else a :: l.rdropWhile p := by
  have hr : l.rdropWhile p = (l.reverse.dropWhile p).reverse := rfl
  rw [List.rdropWhile, List.reverse_cons, List.dropWhile_append, hr]
  by_cases h : l.reverse.dropWhile p = []
  · by_cases ha : p a <;> simp [h, ha]
  · simp [h]

/-- Dropping a prefix and trimming the end can be done in either order. -/
theorem rdropWhile_drop (q : β → Bool) :
    ∀ (n : Nat) (l : List β), (l.rdropWhile q).drop n = (l.drop n).rdropWhile q
  | 0, _ => rfl
  | _ + 1, [] => rfl
  | n + 1, a :: l => by
    rw [rdropWhile_cons, List.drop_succ_cons]
    split
    · rename_i h
      rw [List.drop_nil, ← rdropWhile_drop q n l, h.2, List.drop_nil]
    · rw [List.drop_succ_cons, rdropWhile_drop q n l]

/-- Skipping a prefix of `p`-elements and trimming the `q`-elements at the end can be done in
    either order, when every `p`-element is a `q`-element. -/
theorem rdropWhile_dropWhile {p q : β → Bool} (hpq : ∀ a, p a → q a) (l : List β) :
    (l.rdropWhile q).dropWhile p = (l.dropWhile p).rdropWhile q := by
  induction l with
  | nil => rfl
  | cons a l ih =>
    by_cases hpa : p a
    · rw [List.dropWhile_cons_of_pos hpa, rdropWhile_cons]
      by_cases hl : l.rdropWhile q = []
      · rw [if_pos ⟨hpq a hpa, hl⟩, ← ih, hl]
      · rw [if_neg (fun h => hl h.2), List.dropWhile_cons_of_pos hpa, ih]
    · rw [List.dropWhile_cons_of_neg hpa, rdropWhile_cons]
      split
      · rfl
      · exact List.dropWhile_cons_of_neg hpa

end Trim

end Lines
