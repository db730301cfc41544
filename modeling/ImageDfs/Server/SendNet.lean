/-
  File:      ImageDfs/Server/SendNet.lean
  Subject:   THE NETWORK SIDE OF QTcpServer::send_thread: each record the decoding loop reads is
             sent to `send-ip:send-port` by a `for(;;)` loop that retries until the peer answers
             a `replyHeader` with the right version, a positive length and status 0.

  A turn of the loop connects, sets the time-out, sends the `base_header.length` payload bytes of
  the thread's buffer, and reads the `replyHeader`; any failure closes the socket, sleeps, and
  starts a new turn. The next record is read only after an accepted reply; a record that does
  not decode ends the pass with the records before it sent. The peer's side is what each
  connection received, and whether the thread took the reply as an acknowledgement:

  * `SendTry`, `replyAccepted`, `sendTurn`, `sendRecord` -- one turn and the loop of one record,
    on the `Retry` loop of `Lib/Retry.lean`;
  * `sendNetLoop`, `sendThreadNet` -- the decoding loop of `Server/SendThread.lean` with each
    record sent as it is read;
  * `sendNetLoop_eq` -- which is the retry loop over the records the decoding loop reads;
  * `sendThreadNet_isSome` -- the loop of a pass ends when its turns acknowledge every record it
    reads (`AcksRecords`);
  * `sendThread_delivers_log` -- **from a log `write_data_file` wrote, the peer acknowledges the
    payloads written, each once and in order**, and no connection carries anything but a prefix
    of one of them;
  * `sendRecord_resends_after_lost_reply` -- a record whose reply is lost or refused after it
    went out whole is sent whole again: the peer receives it at least twice.
-/
import ImageDfs.Server.SendThread
import ImageDfs.Lib.Retry

namespace ImageDfs

open LittleEndian

/-! ## 1. One record -/

/-- What one turn of the `for(;;)` loop of `send_thread` meets, in the order it makes its calls:
    `q_connect_socket` or `q_set_overtime` fails, `q_sendbuf` fails after `sent` bytes went
    out, `q_recvbuf` of the `replyHeader` fails, or the 32 bytes of a reply came in. -/
inductive SendTry where
  | connectFails
  | overtimeFails
  | sendFails (sent : Nat)
  | recvFails
  | reply (bs : Bytes)
  deriving DecidableEq

/-- The three checks of the reply, on the fields of a `replyHeader` cast onto its bytes:
    `version` at 0, `length` at 8, `status` at 28. -/
def replyAccepted (bs : Bytes) : Bool :=
  getU64 (slice bs 0 8) == tcpHeaderVersion && decide (0 < getI32 (slice bs 8 4)) &&
    getI32 (slice bs 28 4) == 0

/-- One turn for the record `payload`: what the peer received on the connection, and whether
    the loop `break`s. -/
def sendTurn (payload : Bytes) : SendTry → Bytes × Bool
  | .connectFails => ([], false)
  | .overtimeFails => ([], false)
  | .sendFails sent => (payload.take sent, false)
  | .recvFails => (payload, false)
  | .reply bs => (payload, replyAccepted bs)

/-- The `for(;;)` loop of one record. -/
def sendRecord (payload : Bytes) (ts : List SendTry) : Option (List (Bytes × Bool)) :=
  Retry.run (sendTurn payload) ts

/-! ## 2. The records of a read file -/

/-- The decoding loop of `send_thread` (`decodeLoop`) with each record sent as soon as it is
    read, record `i` with the turns `tss[i]`: what every connection received. -/
def sendNetLoop (bufSize : Int32) : Nat → Bytes → List (List SendTry) → Option (List (Bytes × Bool))
  | 0, _, _ => some []
  | fuel + 1, file, tss =>
    if file = [] then some []
    else match readRecord sendThreadChecks bufSize file with
      -- `throw`: the `catch` renames the file, and nothing more is sent
      | .error _ => some []
      | .ok (_, r, rest) =>
        match tss with
        | [] => none
        | ts :: tss =>
          (sendRecord r.2 ts).bind fun c => (sendNetLoop bufSize fuel rest tss).map (c ++ ·)

/-- The pass over the read file `file`. -/
def sendThreadNet (bufSize : Int32) (file : Bytes) (tss : List (List SendTry)) :
    Option (List (Bytes × Bool)) :=
  sendNetLoop bufSize file.length file tss

/-- **Sending as the records are read is the retry loop over the records read.** -/
theorem sendNetLoop_eq (bufSize : Int32) :
    ∀ (fuel : Nat) (file : Bytes) (tss : List (List SendTry)),
      sendNetLoop bufSize fuel file tss =
        Retry.runAll sendTurn ((decodeLoop sendThreadChecks bufSize fuel file).records.map Prod.snd)
          tss := by
  intro fuel
  -- induction on the fuel, as `decodeLoop` recurses
  induction fuel with
  | zero => intro file tss; rfl
  | succ fuel ih =>
    intro file tss
    by_cases hne : file = []
    · subst hne
      simp [sendNetLoop, decodeLoop, Retry.runAll]
    rw [sendNetLoop, if_neg hne, decodeLoop_succ fuel hne]
    rcases readRecord sendThreadChecks bufSize file with ⟨reads, e⟩ | ⟨read, r, rest⟩
    · rfl
    · cases tss with
      | nil => rfl
      | cons ts tss =>
        dsimp only
        rw [List.map_cons, Retry.runAll_cons, ih rest tss]
        rfl

/-- The turns acknowledge every record the decoding loop of `send_thread` reads of `file`: one
    list of turns for each, with an accepted reply in it. -/
def AcksRecords (bufSize : Int32) (file : Bytes) (tss : List (List SendTry)) : Prop :=
  ((sendThreadRead bufSize file).records.map Prod.snd).length ≤ tss.length ∧
    ∀ q ∈ ((sendThreadRead bufSize file).records.map Prod.snd).zip tss,
      ∃ bs, SendTry.reply bs ∈ q.2 ∧ replyAccepted bs = true

/-- **The network loop of a pass ends** when its turns acknowledge every record it reads. -/
theorem sendThreadNet_isSome {bufSize : Int32} {file : Bytes} {tss : List (List SendTry)}
    (h : AcksRecords bufSize file tss) : (sendThreadNet bufSize file tss).isSome := by
  rw [sendThreadNet, sendNetLoop_eq, ← sendThreadRead]
  exact @Retry.runAll_isSome Bytes SendTry Bytes sendTurn _ tss h.1 fun q hq => by
    obtain ⟨bs, hbs, hacc⟩ := h.2 q hq
    exact ⟨.reply bs, hbs, hacc⟩

/-! ## 3. What the peer gets -/

theorem sendTurn_acked {payload : Bytes} {t : SendTry} (h : (sendTurn payload t).2 = true) :
    (sendTurn payload t).1 = payload := by
  cases t <;> simp_all [sendTurn]

theorem sendTurn_prefix (payload : Bytes) (t : SendTry) : (sendTurn payload t).1 <+: payload := by
  cases t with
  | connectFails => exact List.nil_prefix
  | overtimeFails => exact List.nil_prefix
  | sendFails sent => exact List.take_prefix _ _
  | recvFails => exact List.prefix_refl _
  | reply bs => exact List.prefix_refl _

/-- What the loop of `send_thread` reads from a log is what was written into it. -/
theorem sendThreadRead_logOf {bufSize : Int32} {ps : List Bytes}
    (hps : ∀ p ∈ ps, Decodable bufSize p) (hlog : (logOf ps).length < 2 ^ 63) :
    (sendThreadRead bufSize (logOf ps)).records.map Prod.snd = ps := by
  have h := decodeRecords_sendThreadRead bufSize (logOf ps).length (logOf ps) le_rfl hlog
  rw [decodeRecords_logOf bufSize ps hps] at h
  unfold sendThreadRead
  split at h
  · exact (Except.ok.inj h).symm
  · exact absurd h nofun

/-- **End to end, from the writers to the peer.** For a read file that is a log `write_data_file`
    wrote of payloads the send thread's buffer takes, and turns in which every record meets an
    accepted reply, the pass ends; the payloads the peer acknowledged are the ones written, each
    once and in order; and every connection carried a prefix of one of them, nothing else. -/
theorem sendThread_delivers_log (bufSize : Int32) (ps : List Bytes)
    (hps : ∀ p ∈ ps, Decodable bufSize p) (hlog : (logOf ps).length < 2 ^ 63)
    (tss : List (List SendTry)) (hlen : ps.length ≤ tss.length)
    (hack : ∀ q ∈ ps.zip tss, ∃ bs, SendTry.reply bs ∈ q.2 ∧ replyAccepted bs = true) :
    ∃ conns, sendThreadNet bufSize (logOf ps) tss = some conns ∧
      (conns.filter (·.2)).map Prod.fst = ps ∧ ∀ c ∈ conns, ∃ p ∈ ps, c.1 <+: p := by
  have hrun : sendThreadNet bufSize (logOf ps) tss = Retry.runAll sendTurn ps tss := by
    rw [sendThreadNet, sendNetLoop_eq, ← sendThreadRead, sendThreadRead_logOf hps hlog]
  -- the records the pass reads are the payloads, and the turns acknowledge each
  have hacks : AcksRecords bufSize (logOf ps) tss := by
    rw [AcksRecords, sendThreadRead_logOf hps hlog]
    exact ⟨hlen, hack⟩
  obtain ⟨conns, hconns⟩ := Option.isSome_iff_exists.mp (sendThreadNet_isSome hacks)
  rw [hrun] at hconns
  refine ⟨conns, hrun.trans hconns, ?_, ?_⟩
  · have h := Retry.runAll_acked id (fun p t ht => sendTurn_acked ht) ps tss conns hconns
    rwa [List.map_id] at h
  · intro c hc
    obtain ⟨p, hp, t, rfl⟩ := Retry.mem_runAll ps tss conns hconns c hc
    exact ⟨p, hp, sendTurn_prefix p t⟩

/-- A `replyHeader` the send thread accepts: the version, length 20, status 0. -/
def acceptedReply : Bytes :=
  ReplyHeader.bytes ⟨tcpHeaderVersion, 20, List.replicate 14 0, by decide, 1, 0⟩

/-- Two records, the reply to the first lost once. -/
theorem sendThread_delivers_log_two :
    ∃ conns, sendThreadNet tcpDefaultBufferSize (logOf [ascii "abc", ascii "de"])
        [[.recvFails, .reply acceptedReply], [.reply acceptedReply]] = some conns ∧
      (conns.filter (·.2)).map Prod.fst = [ascii "abc", ascii "de"] ∧
      ∀ c ∈ conns, ∃ p ∈ [ascii "abc", ascii "de"], c.1 <+: p :=
  sendThread_delivers_log _ _ (by decide) (by decide) _ (by decide) fun q hq => by
    simp only [List.zip_cons_cons, List.zip_nil_right, List.mem_cons, List.not_mem_nil,
      or_false] at hq
    rcases hq with rfl | rfl
    · exact ⟨_, List.mem_cons_of_mem _ List.mem_cons_self, by decide⟩
    · exact ⟨_, List.mem_cons_self, by decide⟩

/-- **A lost reply makes a duplicate.** When a turn sends the record whole and its reply does not
    come in or is refused, the loop sends the record again: the peer receives it whole at least
    twice, once unacknowledged. -/
theorem sendRecord_resends_after_lost_reply (payload : Bytes) (t : SendTry) (ts : List SendTry)
    (rs : List (Bytes × Bool))
    (ht : t = .recvFails ∨ ∃ bs, t = .reply bs ∧ replyAccepted bs = false)
    (h : sendRecord payload (t :: ts) = some rs) :
    2 ≤ rs.countP (fun r => r.1 = payload) := by
  have hturn : sendTurn payload t = (payload, false) := by
    rcases ht with rfl | ⟨bs, rfl, hbs⟩
    · rfl
    · simp [sendTurn, hbs]
  rw [sendRecord, Retry.run, hturn] at h
  dsimp only at h
  rw [if_neg Bool.false_ne_true] at h
  obtain ⟨rs', h', rfl⟩ := Option.map_eq_some_iff.mp h
  -- the acknowledged turn after it carried the whole record too
  obtain ⟨⟨t', -, hack, hfil⟩, -⟩ := Retry.run_acked h'
  have hmem : (payload, true) ∈ rs' := by
    have := List.mem_filter.mp (hfil ▸ List.mem_singleton_self (sendTurn payload t'))
    rw [← sendTurn_acked hack, ← hack]
    exact this.1
  have hpos : 0 < rs'.countP (fun r => r.1 = payload) :=
    List.countP_pos_iff.mpr ⟨_, hmem, by simp⟩
  rw [List.countP_cons_of_pos (by simp)]
  omega

/-- The reply to `"abc"` lost once. -/
example :
    sendRecord (ascii "abc") [.recvFails, .reply acceptedReply] =
        some [(ascii "abc", false), (ascii "abc", true)] ∧
      2 ≤ [(ascii "abc", false), (ascii "abc", true)].countP (fun r => r.1 = ascii "abc") := by
  have h : sendRecord (ascii "abc") [.recvFails, .reply acceptedReply] =
      some [(ascii "abc", false), (ascii "abc", true)] := by decide
  exact ⟨h, sendRecord_resends_after_lost_reply _ _ _ _ (.inl rfl) h⟩

end ImageDfs
