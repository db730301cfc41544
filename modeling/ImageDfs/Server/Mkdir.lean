/-
  File:      ImageDfs/Server/Mkdir.lean
  Subject:   `QDir::mkdir` ITERATION BY ITERATION: which names it passes to the system's `mkdir`,
             in which order, and after how many rounds of its `Q_FOREVER` loop it returns.

  Section 1 of Initialize.lean walks the path a byte at a time. Here the loop is taken as the
  source writes it, one iteration per `::mkdir` call, over any system (`call` answers `true`
  for a directory made or `EEXIST`), and run on fuel (Lib/Loop.lean):

  * `mkdirTargets p` -- the prefixes of `p` that end just before a separator at index 1 or
    later, and `p` itself when it does not end with one, shortest first;
  * `MkdirInv` -- at the top of each iteration the names called so far, followed by the
    targets from `ptr` on, are all the targets;
  * `qdirMkdirRun_calls` -- with as many iterations as `p` has bytes the loop has returned; it
    called the targets in order up to the first call that failed, and returned `true` exactly
    when none failed, after calling all of them;
  * `qdirMkdirRun_sysMkdir` -- over the directories that exist, the loop returns what the walk
    of Initialize.lean returns, with the same directories afterwards.
-/
import ImageDfs.Server.Initialize
import ImageDfs.Lib.Loop

namespace ImageDfs

/-! ## 1. The loop -/

/-- The state of `QDir::mkdir` at the top of its `Q_FOREVER` loop: `ptr - dirpath`, the bytes of
    `dir_name`, the `::mkdir` calls made so far with what each answered, and the system. -/
structure MkdirState (σ : Type) where
  ptr : Nat
  dirName : Bytes
  calls : List (Bytes × Bool)
  sys : σ

variable {σ : Type}

/-- One iteration of the `Q_FOREVER` loop over `path`: the inner `while` copies the bytes up to
    the next separator or the end, `::mkdir` is called on `dir_name`, and an answer other than
    success or `EEXIST` returns `false`; otherwise a separator is copied, and
    `ptr - dirpath >= len` breaks out of the loop, to return `true`. -/
def mkdirIter (call : σ → Bytes → Bool × σ) (path : Bytes) (s : MkdirState σ) :
    (Bool × MkdirState σ) ⊕ MkdirState σ :=
  let comp := (path.drop s.ptr).takeWhile (fun c => !isSep c)
  let ptr := s.ptr + comp.length
  let dirName := s.dirName ++ comp
  let r := call s.sys dirName
  let calls := s.calls ++ [(dirName, r.1)]
  if r.1 = false then .inl (false, ⟨ptr, dirName, calls, r.2⟩)
  else
    let s' : MkdirState σ :=
      match path[ptr]? with
      | some c => ⟨ptr + 1, dirName ++ [c], calls, r.2⟩
      | none => ⟨ptr, dirName, calls, r.2⟩
    if path.length ≤ s'.ptr then .inl (true, s') else .inr s'

/-- The state before the loop: `if(*ptr=='\\'||*ptr=='/') *dir_ptr++=*ptr++;` copies a leading
    separator. -/
def mkdirStart (path : Bytes) (sys : σ) : MkdirState σ :=
  if path.head?.any isSep then ⟨1, path.take 1, [], sys⟩ else ⟨0, [], [], sys⟩

/-- `QDir::mkdir(dirpath)` with the system's `mkdir` as `call`, its `Q_FOREVER` loop run for at
    most `fuel` iterations: the return value and the state it returns from, `none` when the
    iterations run out. -/
def qdirMkdirRun (call : σ → Bytes → Bool × σ) (dirpath : Bytes) (sys : σ) (fuel : Nat) :
    Option (Bool × MkdirState σ) :=
  let path := cstr dirpath
  if path.length = 0 ∨ dirDefaultPathSize ≤ path.length then some (false, ⟨0, [], [], sys⟩)
  else
    let s := mkdirStart path sys
    -- `if(*ptr=='\0') return false;`
    if path.length ≤ s.ptr then some (false, s)
    else Loop.run (mkdirIter call path) fuel s

/-! ## 2. The targets -/

/-- Whether `QDir::mkdir` should call `mkdir` on the prefix of `p` of length `i`: it ends just
    before a separator at index 1 or later, or it is `p` and `p` does not end with a separator. -/
def IsTarget (p : Bytes) (i : Nat) : Bool :=
  (0 < i && i < p.length && isSep (p.getD i 0)) || (i == p.length && !isSep (p.getD (i - 1) 0))

/-- The names `QDir::mkdir(p)` should pass to `mkdir`, shortest first. -/
def mkdirTargets (p : Bytes) : List Bytes :=
  ((List.range (p.length + 1)).filter (IsTarget p)).map p.take

/-- The targets of length `k` or more. -/
def targetsFrom (p : Bytes) (k : Nat) : List Bytes :=
  ((List.range' k (p.length + 1 - k)).filter (IsTarget p)).map p.take

/-! ## 3. The targets, index by index -/

section Targets

variable {p : Bytes} {i : Nat}

theorem isTarget_zero (hp : 0 < p.length) : IsTarget p 0 = false := by
  simp [IsTarget, hp.ne]

theorem isTarget_of_sep (h0 : 0 < i) (hi : i < p.length) (h : isSep (p.getD i 0) = true) :
    IsTarget p i = true := by
  rw [IsTarget, h]
  simp [h0, hi]

theorem isTarget_of_not_sep (hi : i < p.length) (h : isSep (p.getD i 0) = false) :
    IsTarget p i = false := by
  rw [IsTarget, h]
  simp [hi.ne]

theorem isTarget_length (h : isSep (p.getD (p.length - 1) 0) = false) :
    IsTarget p p.length = true := by
  rw [IsTarget, h]
  simp

theorem isTarget_length_of_sep (h : isSep (p.getD (p.length - 1) 0) = true) :
    IsTarget p p.length = false := by
  rw [IsTarget, h]
  simp

theorem targetsFrom_zero (p : Bytes) : targetsFrom p 0 = mkdirTargets p := by
  rw [targetsFrom, mkdirTargets, List.range_eq_range', Nat.sub_zero]

/-- The targets from `k` on: the prefix of length `k` when it is one, then those from `k + 1`. -/
theorem targetsFrom_succ {k : Nat} (hk : k ≤ p.length) :
    targetsFrom p k = (if IsTarget p k then [p.take k] else []) ++ targetsFrom p (k + 1) := by
  have hn : p.length + 1 - k = p.length + 1 - (k + 1) + 1 := by omega
  rw [targetsFrom, hn, List.range'_succ, List.filter_cons]
  split <;> simp [targetsFrom]

theorem targetsFrom_end (p : Bytes) : targetsFrom p (p.length + 1) = [] := by
  simp [targetsFrom]

/-- Indices that are not targets are passed over. -/
theorem targetsFrom_skip {k j : Nat} (hkj : k ≤ j) (hj : j ≤ p.length)
    (h : ∀ i, k ≤ i → i < j → IsTarget p i = false) : targetsFrom p k = targetsFrom p j := by
  induction j, hkj using Nat.le_induction with
  | base => rfl
  | succ j hkj ih =>
    rw [ih (by omega) (fun i hki hij => h i hki (by omega)), targetsFrom_succ (by omega),
      h j hkj (by omega)]
    rfl

end Targets

/-! ## 4. One iteration -/

/-- What the inner `while` does from `k`: it stops at `j`, the next separator or the end of `p`;
    the prefix of length `j` is the next target, and the targets after it start past `j`. -/
theorem comp_spec {p : Bytes} {k : Nat} (hk : k < p.length)
    (hstart : 0 < k ∨ isSep (p.getD 0 0) = false) :
    let j := k + ((p.drop k).takeWhile (fun c => !isSep c)).length
    k ≤ j ∧ j ≤ p.length ∧ (∀ i, k ≤ i → i < j → isSep (p.getD i 0) = false) ∧
      (j < p.length → isSep (p.getD j 0) = true) ∧
      targetsFrom p k = p.take j :: targetsFrom p (j + 1) := by
  intro j
  have hjle : j ≤ p.length := Search.add_takeWhile_drop_le _ p k hk.le
  have hpass : ∀ i, k ≤ i → i < j → isSep (p.getD i 0) = false := fun i hki hij => by
    simpa using Search.getD_of_lt_takeWhile_drop (fun c => !isSep c) p k 0 hki hij
  have hstop : j < p.length → isSep (p.getD j 0) = true := fun hlt => by
    simpa using Search.getD_takeWhile_drop (fun c => !isSep c) p k 0 hlt
  have htarget : IsTarget p j = true := by
    rcases Nat.lt_or_ge j p.length with hlt | hge
    · -- a separator stops the scan; at index 0 only if the loop started on it
      have hpos : 0 < j := by
        rcases hstart with h | h
        · omega
        · refine Nat.pos_of_ne_zero fun h0 => ?_
          have hsep := hstop hlt
          rw [h0] at hsep
          cases hsep.symm.trans h
      exact isTarget_of_sep hpos hlt (hstop hlt)
    · -- the scan ran to the end, over the last byte
      have hend : j = p.length := by omega
      rw [hend]
      exact isTarget_length (hpass (p.length - 1) (by omega) (by omega))
  refine ⟨Nat.le_add_right _ _, hjle, hpass, hstop, ?_⟩
  rw [targetsFrom_skip (Nat.le_add_right _ _) hjle
      (fun i hki hij => isTarget_of_not_sep (by omega) (hpass i hki hij)),
    targetsFrom_succ hjle, htarget]
  rfl

variable {call : σ → Bytes → Bool × σ} {p : Bytes}

/-- What holds at the top of each iteration of the loop over `p`: `ptr` is inside `p`, and at
    index 0 only when that is not a separator; `dir_name` holds the bytes before `ptr`; every
    call so far succeeded, and the names called so far, followed by the targets from `ptr` on,
    are all the targets. -/
structure MkdirInv (p : Bytes) (s : MkdirState σ) : Prop where
  ptr_lt : s.ptr < p.length
  start : 0 < s.ptr ∨ isSep (p.getD 0 0) = false
  dirName_eq : s.dirName = p.take s.ptr
  calls_ok : ∀ c ∈ s.calls, c.2 = true
  targets : s.calls.map Prod.fst ++ targetsFrom p s.ptr = mkdirTargets p

/-- What `QDir::mkdir` returns with, against the targets of `p`: the names it called are the
    targets up to the first call that failed, and it returns `true` exactly when none failed,
    after calling all of them. -/
def MkdirPost (p : Bytes) (b : Bool × MkdirState σ) : Prop :=
  b.2.calls.map Prod.fst <+: mkdirTargets p ∧
    (b.1 = true ↔ b.2.calls.map Prod.fst = mkdirTargets p ∧ ∀ c ∈ b.2.calls, c.2 = true) ∧
    (b.1 = false → ∃ pre name, b.2.calls = pre ++ [(name, false)] ∧ ∀ c ∈ pre, c.2 = true)

theorem mkdirPost_true {s : MkdirState σ} (hcalls : s.calls.map Prod.fst = mkdirTargets p)
    (hok : ∀ c ∈ s.calls, c.2 = true) : MkdirPost p (true, s) :=
  ⟨hcalls ▸ List.prefix_refl _, iff_of_true rfl ⟨hcalls, hok⟩, fun h => by cases h⟩

theorem mkdirPost_false {s : MkdirState σ} {pre : List (Bytes × Bool)} {name : Bytes}
    (hcalls : s.calls = pre ++ [(name, false)]) (hpre : s.calls.map Prod.fst <+: mkdirTargets p)
    (hok : ∀ c ∈ pre, c.2 = true) : MkdirPost p (false, s) := by
  refine ⟨hpre, ?_, fun _ => ⟨pre, name, hcalls, hok⟩⟩
  have hlast : (name, false) ∈ s.calls := by simp [hcalls]
  simp only [Bool.false_eq_true, false_iff, not_and]
  exact fun _ hall => absurd (hall _ hlast) (by simp)

section Iter

variable {s : MkdirState σ}

theorem MkdirInv.calls_ok_concat (hs : MkdirInv p s) {name : Bytes} {ok : Bool}
    (hok : ok = true) : ∀ c ∈ s.calls ++ [(name, ok)], c.2 = true := by
  intro c hc
  rcases List.mem_append.mp hc with hc | hc
  · exact hs.calls_ok c hc
  · rw [List.mem_singleton.mp hc]
    exact hok

/-- The name one iteration passes to `mkdir`: the prefix up to where the inner `while` stopped. -/
theorem mkdirIter_dirName (hs : MkdirInv p s) :
    s.dirName ++ (p.drop s.ptr).takeWhile (fun c => !isSep c) =
      p.take (s.ptr + ((p.drop s.ptr).takeWhile (fun c => !isSep c)).length) := by
  rw [hs.dirName_eq]
  exact Search.take_append_takeWhile_drop _ p s.ptr

/-- **One iteration, by its outcome.** With `j` where the inner `while` stops, `mkdir` is called
    on the prefix of length `j`: a failure returns `false`; a success breaks out of the loop when
    at most a last separator is left, and otherwise goes on past the separator at `j`. -/
theorem mkdirIter_cases (hs : MkdirInv p s) {j : Nat}
    (hj : j = s.ptr + ((p.drop s.ptr).takeWhile (fun c => !isSep c)).length) :
    ((call s.sys (p.take j)).1 = false ∧
      mkdirIter call p s = .inl (false,
        ⟨j, p.take j, s.calls ++ [(p.take j, false)], (call s.sys (p.take j)).2⟩)) ∨
    ((call s.sys (p.take j)).1 = true ∧ p.length ≤ j + 1 ∧
      ∃ s', mkdirIter call p s = .inl (true, s') ∧
        s'.calls = s.calls ++ [(p.take j, true)] ∧ s'.sys = (call s.sys (p.take j)).2) ∨
    ((call s.sys (p.take j)).1 = true ∧ j + 1 < p.length ∧
      mkdirIter call p s = .inr
        ⟨j + 1, p.take (j + 1), s.calls ++ [(p.take j, true)], (call s.sys (p.take j)).2⟩) := by
  simp only [mkdirIter, mkdirIter_dirName hs, ← hj]
  generalize call s.sys (p.take j) = r
  obtain ⟨ok, sys'⟩ := r
  cases ok
  · simp
  rcases hget : p[j]? with _ | c
  · -- at the end of `p` nothing is copied, and the loop breaks
    have hlen : p.length ≤ j := List.getElem?_eq_none_iff.mp hget
    simp [hlen, show p.length ≤ j + 1 by omega]
  · -- the separator at `j` is copied
    have hcopy : p.take j ++ [c] = p.take (j + 1) := by
      rw [List.take_add_one, hget]
      rfl
    by_cases hend : p.length ≤ j + 1
    · simp [hend]
    · simp [hend, hcopy, Nat.lt_of_not_le hend]

/-- **One iteration that goes on** keeps the invariant and moves `ptr` forward. -/
theorem mkdirIter_next {s' : MkdirState σ} (hs : MkdirInv p s) (h : mkdirIter call p s = .inr s') :
    MkdirInv p s' ∧ p.length - 1 - s'.ptr < p.length - 1 - s.ptr := by
  obtain ⟨hkj, -, -, -, htf⟩ := comp_spec hs.ptr_lt hs.start
  set j := s.ptr + ((p.drop s.ptr).takeWhile (fun c => !isSep c)).length with hj
  rcases mkdirIter_cases hs hj with ⟨-, h'⟩ | ⟨-, -, _, h', -⟩ | ⟨-, hlt, h'⟩
  · rw [h'] at h
    cases h
  · rw [h'] at h
    cases h
  rw [h'] at h
  injection h with h
  subst h
  refine ⟨⟨hlt, Or.inl (Nat.succ_pos j), rfl, hs.calls_ok_concat rfl, ?_⟩, by dsimp only; omega⟩
  dsimp only
  rw [List.map_append, List.append_assoc, ← hs.targets, htf]
  rfl

/-- **One iteration that returns** has called the targets up to its own call, which failed, or
    all of them, which succeeded. -/
theorem mkdirIter_exit {b : Bool × MkdirState σ} (hs : MkdirInv p s)
    (h : mkdirIter call p s = .inl b) : MkdirPost p b := by
  obtain ⟨-, hjle, -, hstop, htf⟩ := comp_spec hs.ptr_lt hs.start
  set j := s.ptr + ((p.drop s.ptr).takeWhile (fun c => !isSep c)).length with hj
  have htargets : s.calls.map Prod.fst ++ p.take j :: targetsFrom p (j + 1) = mkdirTargets p := by
    rw [← htf]
    exact hs.targets
  rcases mkdirIter_cases hs hj with ⟨-, h'⟩ | ⟨-, hend, s', h', hcalls, -⟩ | ⟨-, -, h'⟩
  · -- an answer other than success or `EEXIST`: `return false`
    rw [h'] at h
    injection h with h
    subst h
    refine mkdirPost_false rfl ⟨targetsFrom p (j + 1), ?_⟩ hs.calls_ok
    rw [List.map_append, ← htargets]
    simp
  · rw [h'] at h
    injection h with h
    subst h
    -- no target is left once the loop breaks
    have hdone : targetsFrom p (j + 1) = [] := by
      rcases Nat.lt_or_ge j p.length with hlt | hge
      · have hlast : isSep (p.getD (p.length - 1) 0) = true := by
          rw [show p.length - 1 = j by omega]
          exact hstop hlt
        rw [show j + 1 = p.length by omega, targetsFrom_succ le_rfl,
          isTarget_length_of_sep hlast, targetsFrom_end]
        rfl
      · rw [show j = p.length by omega, targetsFrom_end]
    refine mkdirPost_true ?_ (hcalls ▸ hs.calls_ok_concat rfl)
    rw [hcalls, List.map_append, ← htargets, hdone]
    rfl
  · rw [h'] at h
    cases h

end Iter

/-! ## 5. The whole of `QDir::mkdir` -/

/-- The loop starts inside `p`, past a leading separator, with nothing called yet. -/
theorem mkdirStart_inv {p : Bytes} (sys : σ) (hpos : 0 < p.length)
    (hsep : ∀ c, p = [c] → isSep c = false) : MkdirInv p (mkdirStart p sys) := by
  rcases p with _ | ⟨c, rest⟩
  · simp at hpos
  by_cases hc : isSep c = true
  · -- a leading separator: the path goes on after it, and index 0 is no target
    have hrest : rest ≠ [] := fun h => by
      subst h
      rw [hsep c rfl] at hc
      cases hc
    have hstart : mkdirStart (c :: rest) sys = ⟨1, [c], [], sys⟩ := by
      simp [mkdirStart, hc]
    rw [hstart]
    refine ⟨?_, Or.inl Nat.one_pos, rfl, (fun _ h => nomatch h), ?_⟩
    · simpa using List.length_pos_of_ne_nil hrest
    · rw [List.map_nil, List.nil_append, ← targetsFrom_zero,
        targetsFrom_succ (k := 0) (Nat.zero_le _), isTarget_zero hpos]
      rfl
  · have hstart : mkdirStart (c :: rest) sys = ⟨0, [], [], sys⟩ := by
      simp [mkdirStart, hc]
    rw [hstart]
    exact ⟨hpos, Or.inr (by simpa using hc), rfl, (fun _ h => nomatch h), targetsFrom_zero _⟩

/-- A path of the right length that is not one separator goes to the loop. -/
theorem qdirMkdirRun_of_valid (call : σ → Bytes → Bool × σ) {dirpath : Bytes} (sys : σ)
    (fuel : Nat) (hpos : 0 < (cstr dirpath).length)
    (hmax : (cstr dirpath).length < dirDefaultPathSize)
    (hsep : ∀ c, cstr dirpath = [c] → isSep c = false) :
    qdirMkdirRun call dirpath sys fuel =
      Loop.run (mkdirIter call (cstr dirpath)) fuel (mkdirStart (cstr dirpath) sys) := by
  have hlt := (mkdirStart_inv sys hpos hsep).ptr_lt
  simp only [qdirMkdirRun]
  rw [if_neg (by omega), if_neg (by omega)]

/-- **`QDir::mkdir`, call by call.** For a path `p` of 1 to `DIR_DEFAULT_PATH_SIZE - 1` bytes
    that is not a single separator, and whatever the system answers: within `|p|` iterations
    the loop has returned; the names it passed to `mkdir` are the targets of `p`, shortest
    first, up to the first whose answer was neither success nor `EEXIST`; and it returns `true`
    exactly when it called every target and no call failed. -/
theorem qdirMkdirRun_calls (call : σ → Bytes → Bool × σ) (dirpath : Bytes) (sys : σ)
    (hpos : 0 < (cstr dirpath).length) (hmax : (cstr dirpath).length < dirDefaultPathSize)
    (hsep : ∀ c, cstr dirpath = [c] → isSep c = false) :
    ∃ r s, qdirMkdirRun call dirpath sys (cstr dirpath).length = some (r, s) ∧
      s.calls.map Prod.fst <+: mkdirTargets (cstr dirpath) ∧
      (r = true ↔ s.calls.map Prod.fst = mkdirTargets (cstr dirpath) ∧
        ∀ c ∈ s.calls, c.2 = true) ∧
      (r = false → ∃ pre name, s.calls = pre ++ [(name, false)] ∧ ∀ c ∈ pre, c.2 = true) := by
  have hexit : ∀ s b, MkdirInv (cstr dirpath) s → mkdirIter call (cstr dirpath) s = .inl b →
      MkdirPost (cstr dirpath) b := fun _ _ hs h => mkdirIter_exit hs h
  have hnext : ∀ s s', MkdirInv (cstr dirpath) s → mkdirIter call (cstr dirpath) s = .inr s' →
      MkdirInv (cstr dirpath) s' ∧
        (cstr dirpath).length - 1 - s'.ptr < (cstr dirpath).length - 1 - s.ptr :=
    fun _ _ hs h => mkdirIter_next hs h
  obtain ⟨b, hrun, hpost⟩ := Loop.run_spec _ hexit hnext (cstr dirpath).length _
    (mkdirStart_inv sys hpos hsep) (by omega)
  rw [← qdirMkdirRun_of_valid call sys _ hpos hmax hsep] at hrun
  exact ⟨b.1, b.2, hrun, hpost⟩

theorem qdirMkdirRun_calls_double_slash :
    ∃ r s, qdirMkdirRun (fun (_ : Unit) _ => (true, ())) (ascii "a//b") ()
        (cstr (ascii "a//b")).length = some (r, s) ∧
      s.calls.map Prod.fst <+: mkdirTargets (cstr (ascii "a//b")) ∧
      (r = true ↔ s.calls.map Prod.fst = mkdirTargets (cstr (ascii "a//b")) ∧
        ∀ c ∈ s.calls, c.2 = true) ∧
      (r = false → ∃ pre name, s.calls = pre ++ [(name, false)] ∧ ∀ c ∈ pre, c.2 = true) :=
  qdirMkdirRun_calls _ _ () (by decide) (by decide) (fun _ h => nomatch h)

/-- A call that fails ends the calls: with `mkdir("a")` refused, `QDir::mkdir("a/b")` never
    calls `mkdir("a/b")`, one of its targets. -/
theorem qdirMkdirRun_stops_at_failure :
    (qdirMkdirRun (fun (_ : Unit) name => (name != ascii "a", ())) (ascii "a/b") () 3).map
        (fun b => (b.1, b.2.calls)) = some (false, [(ascii "a", false)]) ∧
      mkdirTargets (ascii "a/b") = [ascii "a", ascii "a/b"] := by
  decide

/-! ## 6. Against the walk of Initialize.lean -/

section Walk

variable {f : MkdirSys} {p : Bytes} {dirs : List Bytes}

/-- The walk copies bytes that are not separators into `dir_name`. -/
theorem mkdirWalk_skip {k j : Nat} (hkj : k ≤ j) (hj : j ≤ p.length)
    (hpass : ∀ i, k ≤ i → i < j → isSep (p.getD i 0) = false) :
    mkdirWalk f (p.take k) (p.drop k) dirs = mkdirWalk f (p.take j) (p.drop j) dirs := by
  induction j, hkj using Nat.le_induction with
  | base => rfl
  | succ j hkj ih =>
    have hlt : j < p.length := by omega
    have hnot : isSep p[j] = false := by
      simpa [List.getD_eq_getElem?_getD, List.getElem?_eq_getElem hlt] using
        hpass j hkj (by omega)
    rw [ih (by omega) (fun i hki hij => hpass i hki (by omega)), List.drop_eq_getElem_cons hlt,
      List.take_add_one, List.getElem?_eq_getElem hlt]
    simp only [mkdirWalk, hnot, Bool.false_eq_true, ↓reduceIte]
    rfl

/-- At a separator the walk calls `mkdir` on the prefix before it, and goes on past the
    separator unless that call failed or the separator is the last byte. -/
theorem mkdirWalk_sep {j : Nat} (hlt : j < p.length) (hsep : isSep (p.getD j 0) = true) :
    mkdirWalk f (p.take j) (p.drop j) dirs =
      if (sysMkdir f (p.take j) dirs).1 = false then sysMkdir f (p.take j) dirs
      else if p.length ≤ j + 1 then sysMkdir f (p.take j) dirs
      else mkdirWalk f (p.take (j + 1)) (p.drop (j + 1)) (sysMkdir f (p.take j) dirs).2 := by
  have hsep' : isSep p[j] = true := by
    simpa [List.getD_eq_getElem?_getD, List.getElem?_eq_getElem hlt] using hsep
  rw [List.drop_eq_getElem_cons hlt]
  simp only [mkdirWalk, hsep', ↓reduceIte, List.drop_eq_nil_iff]
  rw [List.take_add_one, List.getElem?_eq_getElem hlt]
  rfl

theorem mkdirWalk_end : mkdirWalk f (p.take p.length) (p.drop p.length) dirs = sysMkdir f p dirs := by
  simp [mkdirWalk]

/-- The walk ends at `j`, where the loop breaks or returns: after a failed call, or with at
    most a last separator left. -/
theorem mkdirWalk_stop {j : Nat} (hjle : j ≤ p.length)
    (hstop : j < p.length → isSep (p.getD j 0) = true)
    (h : (sysMkdir f (p.take j) dirs).1 = false ∨ p.length ≤ j + 1) :
    mkdirWalk f (p.take j) (p.drop j) dirs = sysMkdir f (p.take j) dirs := by
  rcases Nat.lt_or_ge j p.length with hlt | hge
  · rw [mkdirWalk_sep hlt (hstop hlt)]
    rcases h with hr | hend
    · rw [if_pos hr]
    · by_cases hr : (sysMkdir f (p.take j) dirs).1 = false
      · rw [if_pos hr]
      · rw [if_neg hr, if_pos hend]
  · obtain rfl : j = p.length := by omega
    rw [mkdirWalk_end, List.take_length]

variable {s : MkdirState (List Bytes)}

/-- Over the directories that exist, an iteration that returns returns what the rest of the walk
    does. -/
theorem mkdirIter_walk_exit {b : Bool × MkdirState (List Bytes)} (hs : MkdirInv p s)
    (h : mkdirIter (fun d n => sysMkdir f n d) p s = .inl b) :
    (b.1, b.2.sys) = mkdirWalk f s.dirName (p.drop s.ptr) s.sys := by
  obtain ⟨hkj, hjle, hpass, hstop, -⟩ := comp_spec hs.ptr_lt hs.start
  set j := s.ptr + ((p.drop s.ptr).takeWhile (fun c => !isSep c)).length with hj
  rw [hs.dirName_eq, mkdirWalk_skip hkj hjle hpass]
  rcases mkdirIter_cases hs hj with ⟨hr, h'⟩ | ⟨hr, hend, s', h', -, hsys⟩ | ⟨-, -, h'⟩
  · rw [h'] at h
    injection h with h
    subst h
    rw [mkdirWalk_stop hjle hstop (Or.inl hr)]
    exact Prod.ext hr.symm rfl
  · rw [h'] at h
    injection h with h
    subst h
    rw [hsys, mkdirWalk_stop hjle hstop (Or.inr hend)]
    exact Prod.ext hr.symm rfl
  · rw [h'] at h
    cases h

/-- Over the directories that exist, an iteration that goes on leaves the rest of the walk as it
    was. -/
theorem mkdirIter_walk_next {s' : MkdirState (List Bytes)} (hs : MkdirInv p s)
    (h : mkdirIter (fun d n => sysMkdir f n d) p s = .inr s') :
    mkdirWalk f s'.dirName (p.drop s'.ptr) s'.sys = mkdirWalk f s.dirName (p.drop s.ptr) s.sys := by
  obtain ⟨hkj, hjle, hpass, hstop, -⟩ := comp_spec hs.ptr_lt hs.start
  set j := s.ptr + ((p.drop s.ptr).takeWhile (fun c => !isSep c)).length with hj
  rw [hs.dirName_eq, mkdirWalk_skip hkj hjle hpass]
  rcases mkdirIter_cases hs hj with ⟨-, h'⟩ | ⟨-, -, _, h', -⟩ | ⟨hr, hlt, h'⟩
  · rw [h'] at h
    cases h
  · rw [h'] at h
    cases h
  rw [h'] at h
  injection h with h
  subst h
  rw [mkdirWalk_sep (by omega) (hstop (by omega)), if_neg (by simp [hr]), if_neg (by omega)]

/-- Over the directories that exist, the loop returns what the walk returns from the same
    state, with the same directories afterwards. -/
theorem mkdirLoop_walk (hs : MkdirInv p s) {fuel : Nat} (hfuel : p.length - 1 - s.ptr < fuel) :
    (Loop.run (mkdirIter (fun d n => sysMkdir f n d) p) fuel s).map (fun b => (b.1, b.2.sys)) =
      some (mkdirWalk f s.dirName (p.drop s.ptr) s.sys) := by
  -- the invariant: `MkdirInv`, and the walk from the current state ends where the first one does
  have hexit : ∀ t b, (MkdirInv p t ∧
        mkdirWalk f t.dirName (p.drop t.ptr) t.sys = mkdirWalk f s.dirName (p.drop s.ptr) s.sys) →
      mkdirIter (fun d n => sysMkdir f n d) p t = .inl b →
      (b.1, b.2.sys) = mkdirWalk f s.dirName (p.drop s.ptr) s.sys :=
    fun _ _ ht h => (mkdirIter_walk_exit ht.1 h).trans ht.2
  have hnext : ∀ t t', (MkdirInv p t ∧
        mkdirWalk f t.dirName (p.drop t.ptr) t.sys = mkdirWalk f s.dirName (p.drop s.ptr) s.sys) →
      mkdirIter (fun d n => sysMkdir f n d) p t = .inr t' →
      (MkdirInv p t' ∧
        mkdirWalk f t'.dirName (p.drop t'.ptr) t'.sys = mkdirWalk f s.dirName (p.drop s.ptr) s.sys) ∧
        p.length - 1 - t'.ptr < p.length - 1 - t.ptr :=
    fun _ _ ht h => ⟨⟨(mkdirIter_next ht.1 h).1, (mkdirIter_walk_next ht.1 h).trans ht.2⟩,
      (mkdirIter_next ht.1 h).2⟩
  obtain ⟨b, hrun, hpost⟩ := Loop.run_spec _ hexit hnext fuel s ⟨hs, rfl⟩ hfuel
  rw [hrun, Option.map_some, hpost]

end Walk

/-- **The two models of `QDir::mkdir` agree**: over the directories that exist, the loop taken
    iteration by iteration returns what the walk of Initialize.lean returns, and leaves the
    same directories. -/
theorem qdirMkdirRun_sysMkdir (f : MkdirSys) (dirpath : Bytes) (dirs : List Bytes) :
    (qdirMkdirRun (fun d n => sysMkdir f n d) dirpath dirs (cstr dirpath).length).map
      (fun b => (b.1, b.2.sys)) = some (qdirMkdir f dirpath dirs) := by
  unfold qdirMkdirRun qdirMkdir
  dsimp only
  generalize cstr dirpath = p
  by_cases hrange : p.length = 0 ∨ dirDefaultPathSize ≤ p.length
  · rw [if_pos hrange, if_pos hrange]
    rfl
  rw [if_neg hrange, if_neg hrange]
  have hpos : 0 < p.length := by omega
  rcases p with _ | ⟨c, rest⟩
  · simp at hpos
  by_cases hc : isSep c = true
  · by_cases hrest : rest = []
    · -- a single separator: `if(*ptr=='\0') return false;`
      subst hrest
      simp [mkdirStart, hc]
    have hs := mkdirStart_inv dirs hpos (fun c' h => absurd (List.cons_eq_cons.mp h).2 hrest)
    rw [if_neg (Nat.not_le.mpr hs.ptr_lt), mkdirLoop_walk hs (by omega)]
    simp [mkdirStart, hc, hrest]
  · have hs := mkdirStart_inv dirs hpos (fun c' h => by
      rw [(List.cons_eq_cons.mp h).1] at hc
      simpa using hc)
    rw [if_neg (Nat.not_le.mpr hs.ptr_lt), mkdirLoop_walk hs (by omega)]
    simp [mkdirStart, hc]

end ImageDfs
