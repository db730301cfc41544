/-
  File:      ImageDfs/Protocol/Socket.lean
  Subject:   A CONNECTION AND THE TWO TRANSFER LOOPS of qglobal.h: `q_recvbuf`, `q_sendbuf`,
             `q_close_socket`.

  A connection (`Conn`) holds the bytes the peer sent that the server has not read (`inbox`),
  the bytes the server sent (`outbox`), and whether it is closed. How the kernel splits a stream
  into the returns of successive `recv` and `send` calls is not the code's to choose: `Conn`
  carries it as two functions (`recvGrant`, `sendGrant`), and a call that returns normally moves
  at least one byte and at most what was asked for and is there (`moved`). A call that returns
  `-1`, an error of the socket, is not modelled: every result about the server is about calls
  that return normally.

  * `xferLoop` -- the `do … while(retval>0 && finlen<in_buflen)` loop both functions share;
  * `xferLoop_eq` -- **whatever the kernel grants**, the loop moves `min need avail` bytes and
    succeeds exactly when `need ≤ avail`; in particular a request of 0 bytes succeeds at once;
  * `qRecvbuf_of_le`, `qRecvbuf_of_lt`, `qSendbuf_of_le` -- the three facts callers use.
-/
import ImageDfs.Basic

namespace ImageDfs

/-! ## 1. The loop -/

/-- The bytes one `recv` or `send` call moves when the kernel offers `grant`, `len` are asked
    for and `avail` are there: at least one, at most `len` and `avail` (none when either is 0,
    which for `recv` is the end of the stream). -/
def moved (grant len avail : Nat) : Nat := min (max grant 1) (min len avail)

theorem moved_le_len (grant len avail : Nat) : moved grant len avail ≤ len := by
  unfold moved; omega

theorem moved_le_avail (grant len avail : Nat) : moved grant len avail ≤ avail := by
  unfold moved; omega

/-- The loop of `q_recvbuf` and `q_sendbuf`: `need` more bytes are wanted from `src`, `got` are
    in. One call moves `r` bytes; the loop goes on while `r > 0` and bytes are still wanted, and
    then reports success iff nothing is wanted any more (`finlen == in_buflen`). -/
def xferLoop (grant : List UInt8 → Nat → Nat) (need : Nat) (src got : Bytes) :
    Bool × Bytes × Bytes :=
  let r := moved (grant src need) need src.length
  if 0 < r ∧ r < need then xferLoop grant (need - r) (src.drop r) (got ++ src.take r)
  else (decide (r = need), src.drop r, got ++ src.take r)
termination_by need
decreasing_by omega

theorem moved_eq_zero {grant len avail : Nat} (h : moved grant len avail = 0) :
    len = 0 ∨ avail = 0 := by
  unfold moved at h; omega

/-- **The transfer loop does not depend on how the kernel splits the stream**: it moves the
    first `min need avail` bytes and succeeds exactly when they are all there. -/
theorem xferLoop_eq (grant : List UInt8 → Nat → Nat) (need : Nat) (src got : Bytes) :
    xferLoop grant need src got =
      (decide (need ≤ src.length), src.drop need, got ++ src.take need) := by
  induction need using Nat.strong_induction_on generalizing src got with
  | _ need ih =>
    rw [xferLoop]
    -- one call moves `r` bytes; either the loop goes on with `need - r` or it ends here
    have hle := moved_le_len (grant src need) need src.length
    have hav := moved_le_avail (grant src need) need src.length
    have hz := @moved_eq_zero (grant src need) need src.length
    generalize moved (grant src need) need src.length = r at hle hav hz ⊢
    split
    · rename_i hgo
      rw [ih (need - r) (by omega)]
      have e1 : need - r ≤ (src.drop r).length ↔ need ≤ src.length := by
        rw [List.length_drop]; omega
      have e2 : (src.drop r).drop (need - r) = src.drop need := by
        rw [List.drop_drop, Nat.add_sub_cancel' (by omega)]
      have e3 : src.take r ++ (src.drop r).take (need - r) = src.take need := by
        rw [← List.take_add, Nat.add_sub_cancel' (by omega)]
      simp only [e1, e2, List.append_assoc, e3]
    · rename_i hstop
      rcases Nat.eq_zero_or_pos r with h0 | hpos
      · -- nothing moved: nothing was wanted, or the stream is at its end
        subst h0
        rcases hz rfl with hn | hs
        · subst hn; simp
        · have : src = [] := List.eq_nil_of_length_eq_zero hs
          subst this
          simp only [List.length_nil, Nat.le_zero, List.drop_nil, List.take_nil, List.append_nil,
            eq_comm]
      · -- everything wanted moved in this call
        have hr : r = need := by omega
        subst hr
        simp [hav]

/-! ## 2. A connection -/

/-- One accepted connection, seen from the server. -/
structure Conn where
  /-- Bytes the peer sent that the server has not read yet. -/
  inbox : Bytes
  /-- Bytes the server has sent, in order. -/
  outbox : Bytes
  /-- How the kernel splits the incoming stream into `recv` returns. -/
  recvGrant : List UInt8 → Nat → Nat
  /-- How the kernel splits an outgoing buffer into `send` returns. -/
  sendGrant : List UInt8 → Nat → Nat
  closed : Bool

/-- A buffer with its first bytes overwritten by `got`. -/
def overwrite (buf got : Bytes) : Bytes := got ++ buf.drop got.length

/-- `q_recvbuf(sock, buf, n)`: 0 when `n` bytes came in, -1 otherwise; the bytes that came in
    are at the start of `buf` either way. -/
def qRecvbuf (c : Conn) (buf : Bytes) (n : Nat) : Int32 × Conn × Bytes :=
  let (ok, rest, got) := xferLoop c.recvGrant n c.inbox []
  (if ok then 0 else -1, { c with inbox := rest }, overwrite buf got)

/-- `q_sendbuf(sock, buf, n)`: the first `n` bytes of `buf` go out; 0 when all of them did. -/
def qSendbuf (c : Conn) (buf : Bytes) (n : Nat) : Int32 × Conn :=
  let (ok, _, sent) := xferLoop c.sendGrant n (buf.take n) []
  (if ok then 0 else -1, { c with outbox := c.outbox ++ sent })

/-- `q_close_socket`. -/
def qCloseSocket (c : Conn) : Conn := { c with closed := true }

/-- **`q_recvbuf` of `n` bytes that are there** reads exactly them. -/
theorem qRecvbuf_of_le {c : Conn} {n : Nat} (buf : Bytes) (h : n ≤ c.inbox.length) :
    qRecvbuf c buf n = (0, { c with inbox := c.inbox.drop n }, overwrite buf (c.inbox.take n)) := by
  simp [qRecvbuf, xferLoop_eq, h]

/-- **`q_recvbuf` of more bytes than the peer sent** fails, having read all of them. -/
theorem qRecvbuf_of_lt {c : Conn} {n : Nat} (buf : Bytes) (h : c.inbox.length < n) :
    qRecvbuf c buf n = (-1, { c with inbox := [] }, overwrite buf c.inbox) := by
  have h1 : ¬ n ≤ c.inbox.length := by omega
  have h2 : c.inbox.drop n = [] := List.drop_eq_nil_of_le (by omega)
  have h3 : c.inbox.take n = c.inbox := List.take_of_length_le (by omega)
  simp [qRecvbuf, xferLoop_eq, h1, h2, h3]

/-- **`q_sendbuf` of bytes the buffer holds** sends exactly them and succeeds. -/
theorem qSendbuf_of_le {c : Conn} {buf : Bytes} {n : Nat} (h : n ≤ buf.length) :
    qSendbuf c buf n = (0, { c with outbox := c.outbox ++ buf.take n }) := by
  simp [qSendbuf, xferLoop_eq, h, List.take_take]

@[simp] theorem overwrite_length {buf got : Bytes} (h : got.length ≤ buf.length) :
    (overwrite buf got).length = buf.length := by
  simp [overwrite]; omega

@[simp] theorem overwrite_nil (buf : Bytes) : overwrite buf [] = buf := rfl

end ImageDfs
