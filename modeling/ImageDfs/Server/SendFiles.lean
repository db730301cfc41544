/-
  File:      ImageDfs/Server/SendFiles.lean
  Subject:   THE FILES OF THE SEND THREAD: how `write_data_file` and `QTcpServer::send_thread`
             hand the record log over through `write-path` and `read-path`, and where a read file
             that does not decode goes.

  A caller of `write_data_file` appends records to the write file (nothing in this repository
  calls it, and `conf/init.cnf` starts no send thread: this is the `QTcpServer` library's part).
  A pass of `send_thread` renames the write file to the read file when there is none, decodes
  and sends the read file, and then either has `backup_file` append it to the day's backup file
  and removes it, whatever `backup_file` returned, or, when a record does not decode, renames it
  to `"%s.%ld"` of the read path and the time, cut to the 31 bytes of `str_file`.
  `QFile::rename` first removes any file of the new name. A pass is one step: the writers touch
  only the write file, and the pass touches it only under `file_mutex_`, at its start. One send
  thread is modelled.

  * `qfileRemove`, `qfileRename`, `appendFile` -- the calls on the files that exist;
  * `sendPass`, `sendStep`, `sendRun` -- the files a pass leaves once the `for(;;)` loop of each
    record it sends has ended, the two kinds of step, and runs;
  * `sendPassNet`, `sendRunNet` -- the same with the network loops of `Server/SendNet.lean`;
    `sendRunNet_files` (a run that ends leaves the files of `sendRun`) and `sendPassNet_of_acks`
    (a pass ends when its turns acknowledge the records it reads);
  * `sendPass_backup_lost` -- a read file whose backup cannot open its files is removed all the
    same: its records are in no file;
  * `sendRun_hands_over_record` -- from no send files, a write and the next pass leave the written
    file appended, unchanged, to the day's backup file when it decodes, and otherwise alone at the
    name of the failure;
  * `sendPass_deletes_failed_file` -- with a read path of 31 bytes the name of the failure is the
    read path itself: the rename deletes the file;
  * `sendRun_failure_name_clash` -- two failures whose names agree keep only the second file;
  * `sendRun_keeps_bytes` -- when the backups succeed and the names of the failures are new and
    apart, a whole run of writes and passes that ends loses or repeats no byte: the files it
    touches end holding, up to order, what they held and what was written, and no other file
    changes.
-/
import ImageDfs.Server.SendNet
import ImageDfs.Lib.KeyedLists

namespace ImageDfs

/-! ## 1. `QFile` over the files that exist -/

/-- The files that exist, by path, with what each holds. -/
abbrev Files := Bytes → Option Bytes

/-- `QFile::remove(file_name)`: `::remove` is retried until the file is gone. -/
def qfileRemove (fs : Files) (name : Bytes) : Files := Function.update fs name none

/-- `QFile(oldName).rename(newName)`: `false` when the old file is not there; otherwise the new
    name is removed first, and `::rename`, retried until it succeeds, moves the old file there
    while the old one exists and the new one does not. -/
def qfileRename (fs : Files) (oldName newName : Bytes) : Bool × Files :=
  match fs oldName with
  | none => (false, fs)
  | some _ =>
    let fs1 := qfileRemove fs newName
    match fs1 oldName, fs1 newName with
    | some d, none => (true, Function.update (Function.update fs1 newName (some d)) oldName none)
    | _, _ => (true, fs1)

/-- `fopen(name, "ab")` (or `"wb"` on a file that is not there) and a write of `data`. -/
def appendFile (fs : Files) (name data : Bytes) : Files :=
  Function.update fs name (some ((fs name).getD [] ++ data))

/-- `q_snprintf(str_file, sizeof(str_file), "%s.%ld", read_path_, time(NULL))` into the 32 bytes
    of `str_file`: at most 31 of them before the NUL. -/
def failFileName (readPath : Bytes) (now : Int) : Bytes :=
  (readPath ++ ascii "." ++ fmtD now).take 31

/-! ## 2. The send thread and the writers -/

/-- What the send thread reads from the configuration: `read-path`, `write-path`, and the
    `buf_size` of its thread. -/
structure SendCfg where
  readPath : Bytes
  writePath : Bytes
  bufSize : Int32

/-- The files at the start of a pass: with no read file, `QFile::rename(write_path_,
    read_path_)` under `file_mutex_`. -/
def passStart (cfg : SendCfg) (fs : Files) : Files :=
  if (fs cfg.readPath).isNone then (qfileRename fs cfg.writePath cfg.readPath).2 else fs

/-- The end of a pass over the read file `file`, once its records went out. When every record
    decoded, `backup_file` appends what it writes of the file to the day's `.snd` file `bakName`
    (when it opened it), and the read file is removed whatever `backup_file` returned; otherwise
    the `catch` renames the read file to the name of the failure. -/
def passEnd (cfg : SendCfg) (now : Int) (bakName : Bytes) (io : BackupSys) (fs1 : Files)
    (file : Bytes) : Files :=
  if (sendThreadRead cfg.bufSize file).ret = 0 then
    let fs2 := match (backupFileSys io cfg.bufSize file).2 with
      | some bytes => appendFile fs1 bakName bytes
      | none => fs1
    qfileRemove fs2 cfg.readPath
  else (qfileRename fs1 cfg.readPath (failFileName cfg.readPath now)).2

/-- One pass of the `while(!exit_flag_)` loop of `QTcpServer::send_thread` at time `now`, over
    the files: what it leaves once the `for(;;)` loop of each record it sends has ended
    (`sendPassNet` runs those loops too, and leaves the same files: `sendPassNet_files`).
    `none` when the pass never ends, in the `fopen` loop on a read file that is not there. -/
def sendPass (cfg : SendCfg) (now : Int) (bakName : Bytes) (io : BackupSys) (fs : Files) :
    Option Files :=
  -- `q_sleep(1000); continue;`
  if (fs cfg.readPath).isNone && (fs cfg.writePath).isNone then some fs
  else
    let fs1 := passStart cfg fs
    (fs1 cfg.readPath).map (passEnd cfg now bakName io fs1)

/-- What happens to the send files: a server thread's `write_data_file` on the write file, or a
    pass of the send thread, with what the calls of `backup_file` on the files answer and the
    turns of the `for(;;)` loop of each record it sends. -/
inductive SendEvent where
  | write (o : WriteOutcome) (ptrBuf : Bytes) (bufLen : Int32)
  | pass (now : Int) (bakName : Bytes) (io : BackupSys) (tss : List (List SendTry))

/-- `write_data_file(write_path_, write_fp_, ptr_buf, buf_len)` on the files. -/
def writeStep (cfg : SendCfg) (fs : Files) (o : WriteOutcome) (ptrBuf : Bytes) (bufLen : Int32) :
    Files :=
  Function.update fs cfg.writePath
    (some (writeDataFile o ((fs cfg.writePath).getD []) ptrBuf bufLen).2)

def sendStep (cfg : SendCfg) (fs : Files) : SendEvent → Option Files
  | .write o ptrBuf bufLen => some (writeStep cfg fs o ptrBuf bufLen)
  | .pass now bakName io _ => sendPass cfg now bakName io fs

/-- The events one after the other; `none` once a pass never ends. -/
def sendRun (cfg : SendCfg) : Files → List SendEvent → Option Files
  | fs, [] => some fs
  | fs, e :: es => (sendStep cfg fs e).bind (fun fs' => sendRun cfg fs' es)

/-- **A pass of `send_thread` with the `for(;;)` loop of each record it sends**
    (`sendThreadNet`, record `i` with the turns `tss[i]`): the files it leaves and what every
    connection received; `none` when it never ends, in the `fopen` loop or in the loop of a
    record whose turns meet no accepted reply. -/
def sendPassNet (cfg : SendCfg) (now : Int) (bakName : Bytes) (io : BackupSys)
    (tss : List (List SendTry)) (fs : Files) : Option (Files × List (Bytes × Bool)) :=
  if (fs cfg.readPath).isNone && (fs cfg.writePath).isNone then some (fs, [])
  else
    let fs1 := passStart cfg fs
    (fs1 cfg.readPath).bind fun file =>
      (sendThreadNet cfg.bufSize file tss).map fun conns =>
        (passEnd cfg now bakName io fs1 file, conns)

def sendStepNet (cfg : SendCfg) (fs : Files) : SendEvent → Option (Files × List (Bytes × Bool))
  | .write o ptrBuf bufLen => some (writeStep cfg fs o ptrBuf bufLen, [])
  | .pass now bakName io tss => sendPassNet cfg now bakName io tss fs

/-- The events one after the other with the passes' network loops: the files, and what every
    connection received; `none` once a pass never ends. -/
def sendRunNet (cfg : SendCfg) : Files → List SendEvent → Option (Files × List (Bytes × Bool))
  | fs, [] => some (fs, [])
  | fs, e :: es => (sendStepNet cfg fs e).bind fun r =>
      (sendRunNet cfg r.1 es).map fun r' => (r'.1, r.2 ++ r'.2)

/-! ## 3. The calls, on the files that exist -/

section Calls

variable {fs : Files} {a b d : Bytes}

/-- A rename to another name moves the file there, over whatever that name held. -/
theorem qfileRename_move (hd : fs a = some d) (hab : a ≠ b) :
    qfileRename fs a b = (true, Function.update (Function.update fs b (some d)) a none) := by
  have h1 : qfileRemove fs b a = some d := by rw [qfileRemove, Function.update_of_ne hab, hd]
  have h2 : qfileRemove fs b b = none := Function.update_self ..
  simp only [qfileRename, hd, h1, h2]
  rw [qfileRemove, Function.update_idem]

/-- A rename to the same name deletes the file: `QFile::remove(file_name)` removes it before
    anything is moved, and the `while` then finds no old file. -/
theorem qfileRename_self (hd : fs a = some d) : qfileRename fs a a = (true, Function.update fs a none) := by
  have h2 : qfileRemove fs a a = none := Function.update_self ..
  simp only [qfileRename, hd, h2]
  rfl

/-- A file made at `a`, another change at `b`, and `a` removed again: only the change at `b`
    is left. -/
theorem update_update_remove {v u : Option Bytes} (ha : fs a = none) (hab : a ≠ b) :
    Function.update (Function.update (Function.update fs a v) b u) a none =
      Function.update fs b u := by
  have hb : Function.update fs b u a = none := by rw [Function.update_of_ne hab, ha]
  rw [Function.update_comm hab, Function.update_idem, ← hb, Function.update_eq_self]

/-- A read path of 31 bytes leaves no room for the dot and the time. -/
theorem failFileName_of_length_31 {r : Bytes} (h : r.length = 31) (now : Int) :
    failFileName r now = r := by
  rw [failFileName, List.append_assoc, List.take_append_of_le_length (by omega),
    List.take_of_length_le (by omega)]

/-- A read path of 30 bytes leaves room for the dot only: every time gives the same name. -/
theorem failFileName_of_length_30 {r : Bytes} (h : r.length = 30) (now : Int) :
    failFileName r now = r ++ ascii "." := by
  have hdot : (ascii ".").length = 1 := rfl
  rw [failFileName, List.take_append_of_le_length (by simp [hdot, h]),
    List.take_of_length_le (by simp [hdot, h])]

/-- A read path of at most 30 bytes is not the name of its own failure. -/
theorem failFileName_ne {r : Bytes} (h : r.length ≤ 30) (now : Int) : failFileName r now ≠ r := by
  intro heq
  have hlen := congrArg List.length heq
  have hdot : (ascii ".").length = 1 := rfl
  simp only [failFileName, List.length_take, List.length_append, hdot] at hlen
  omega

end Calls

/-! ## 4. A pass, and runs -/

section Pass

variable {cfg : SendCfg} {fs : Files} {now : Int} {bakName file : Bytes} {io : BackupSys}
  {tss : List (List SendTry)}

/-- A pass that finds a read file starts from the files as they are. -/
theorem passStart_of_read (hr : fs cfg.readPath = some file) : passStart cfg fs = fs := by
  simp [passStart, hr]

/-- A pass that finds no read file but a write file moves it to the read path. -/
theorem passStart_take (hr : fs cfg.readPath = none) (hw : fs cfg.writePath = some file)
    (hrw : cfg.readPath ≠ cfg.writePath) :
    passStart cfg fs =
      Function.update (Function.update fs cfg.readPath (some file)) cfg.writePath none := by
  rw [passStart, hr, Option.isNone_none, if_pos rfl, qfileRename_move hw hrw.symm]

/-- A pass that finds the read file ends as `passEnd` says. -/
theorem sendPass_of_read_file (hr : fs cfg.readPath = some file) :
    sendPass cfg now bakName io fs = some (passEnd cfg now bakName io fs file) := by
  simp [sendPass, passStart_of_read hr, hr]

/-- A pass that finds a read file that does not decode renames it to the name of the failure. -/
theorem sendPass_fail (hr : fs cfg.readPath = some file)
    (hdec : (sendThreadRead cfg.bufSize file).ret ≠ 0) :
    sendPass cfg now bakName io fs =
      some (qfileRename fs cfg.readPath (failFileName cfg.readPath now)).2 := by
  rw [sendPass_of_read_file hr, passEnd, if_neg hdec]

/-- A pass that finds no read file but a write file takes it over, and then goes on as a pass
    that found it as the read file. -/
theorem sendPass_take (hr : fs cfg.readPath = none) (hw : fs cfg.writePath = some file)
    (hrw : cfg.readPath ≠ cfg.writePath) :
    sendPass cfg now bakName io fs = sendPass cfg now bakName io
      (Function.update (Function.update fs cfg.readPath (some file)) cfg.writePath none) := by
  have hr' : Function.update (Function.update fs cfg.readPath (some file)) cfg.writePath none
      cfg.readPath = some file := by
    rw [Function.update_of_ne hrw, Function.update_self]
  rw [sendPass_of_read_file hr']
  simp [sendPass, hr, hw, passStart_take hr hw hrw, hr']

theorem sendRun_append (l1 l2 : List SendEvent) :
    sendRun cfg fs (l1 ++ l2) = (sendRun cfg fs l1).bind (fun fs' => sendRun cfg fs' l2) := by
  induction l1 generalizing fs with
  | nil => rfl
  | cons e l1 ih =>
    simp only [List.cons_append, sendRun, Option.bind_assoc]
    congr 1
    funext fs'
    exact ih

/-- A pass that finds a read file that decodes, with a backup whose calls on the files succeed,
    appends it, unchanged, to the day's backup file and removes it. -/
theorem sendPass_sent (hbuf : 0 < cfg.bufSize) (hio : io.Whole) (hr : fs cfg.readPath = some file)
    (hdec : (sendThreadRead cfg.bufSize file).ret = 0) :
    sendPass cfg now bakName io fs = some (qfileRemove (appendFile fs bakName file) cfg.readPath) := by
  rw [sendPass_of_read_file hr, passEnd, if_pos hdec, backupFileSys_whole hio hbuf,
    backupFile_of_send hbuf hdec]

/-- **A read file whose backup cannot open its files is lost**: `send_thread` does not look at
    what `backup_file` returns, and removes the read file though nothing of it reached the day's
    backup file, which stays as it was. -/
theorem sendPass_backup_lost (hbuf : 0 < cfg.bufSize) (hr : fs cfg.readPath = some file)
    (hdec : (sendThreadRead cfg.bufSize file).ret = 0)
    (hopen : io.readOpens = false ∨ io.bakOpens = false) :
    sendPass cfg now bakName io fs = some (qfileRemove fs cfg.readPath) := by
  have hnone : (backupFileSys io cfg.bufSize file).2 = none := by
    rw [← Option.not_isSome_iff_eq_none, backupFileSys_opened hbuf]
    rcases hopen with h | h <;> simp [h]
  rw [sendPass_of_read_file hr, passEnd, if_pos hdec, hnone]

/-- A write and a pass: the pass runs on the files the write left. -/
theorem sendRun_write_pass {o : WriteOutcome} {ptrBuf : Bytes} {bufLen : Int32} :
    sendRun cfg fs [.write o ptrBuf bufLen, .pass now bakName io tss] =
      sendPass cfg now bakName io (writeStep cfg fs o ptrBuf bufLen) := by
  simp only [sendRun, sendStep, Option.bind_some]
  cases sendPass cfg now bakName io (writeStep cfg fs o ptrBuf bufLen) <;> rfl

/-- A write with no write file makes one, of its record. -/
theorem writeStep_of_none {o : WriteOutcome} {ptrBuf : Bytes} {bufLen : Int32}
    (hw : fs cfg.writePath = none) :
    writeStep cfg fs o ptrBuf bufLen =
      Function.update fs cfg.writePath (some (writeDataFile o [] ptrBuf bufLen).2) := by
  simp [writeStep, hw]

/-- From no send files, a write and the start of the next pass: the record is the read file, and
    nothing else changed. -/
theorem passStart_writeStep {o : WriteOutcome} {ptrBuf : Bytes} {bufLen : Int32}
    (hr : fs cfg.readPath = none) (hw : fs cfg.writePath = none)
    (hrw : cfg.readPath ≠ cfg.writePath) :
    passStart cfg (writeStep cfg fs o ptrBuf bufLen) =
      Function.update fs cfg.readPath (some (writeDataFile o [] ptrBuf bufLen).2) := by
  have h1r : Function.update fs cfg.writePath (some (writeDataFile o [] ptrBuf bufLen).2)
      cfg.readPath = none := by
    rw [Function.update_of_ne hrw, hr]
  rw [writeStep_of_none hw, passStart_take h1r (Function.update_self ..) hrw,
    update_update_remove hw hrw.symm]

/-- From no send files, a write and the next pass: the pass takes the new write file over as the
    read file, and goes on from the files as they were but for it. -/
theorem sendRun_write_take {o : WriteOutcome} {ptrBuf : Bytes} {bufLen : Int32}
    (hr : fs cfg.readPath = none) (hw : fs cfg.writePath = none)
    (hrw : cfg.readPath ≠ cfg.writePath) :
    sendRun cfg fs [.write o ptrBuf bufLen, .pass now bakName io tss] = sendPass cfg now bakName io
      (Function.update fs cfg.readPath (some (writeDataFile o [] ptrBuf bufLen).2)) := by
  have h1r : Function.update fs cfg.writePath (some (writeDataFile o [] ptrBuf bufLen).2)
      cfg.readPath = none := by
    rw [Function.update_of_ne hrw, hr]
  rw [sendRun_write_pass, writeStep_of_none hw, sendPass_take h1r (Function.update_self ..) hrw,
    update_update_remove hw hrw.symm]

/-- **A record that does not decode, from no send files**: written, taken over by the next pass
    and renamed when it fails, it ends as the one new file, at the name of the failure. -/
theorem sendRun_write_fail {o : WriteOutcome} {ptrBuf : Bytes} {bufLen : Int32}
    (hr : fs cfg.readPath = none) (hw : fs cfg.writePath = none)
    (hrw : cfg.readPath ≠ cfg.writePath) (hnr : failFileName cfg.readPath now ≠ cfg.readPath)
    (hdec : (sendThreadRead cfg.bufSize (writeDataFile o [] ptrBuf bufLen).2).ret ≠ 0) :
    sendRun cfg fs [.write o ptrBuf bufLen, .pass now bakName io tss] =
      some (Function.update fs (failFileName cfg.readPath now)
        (some (writeDataFile o [] ptrBuf bufLen).2)) := by
  have hread := Function.update_self cfg.readPath (some (writeDataFile o [] ptrBuf bufLen).2) fs
  rw [sendRun_write_take hr hw hrw, sendPass_fail hread hdec, qfileRename_move hread hnr.symm,
    update_update_remove hr hnr.symm]

/-- **A record that decodes, from no send files**: written, taken over by the next pass and
    sent, it ends appended, unchanged, to the day's backup file when the backup's calls on the
    files succeed, and no send file is left. -/
theorem sendRun_write_sent {o : WriteOutcome} {ptrBuf : Bytes} {bufLen : Int32}
    (hbuf : 0 < cfg.bufSize) (hio : io.Whole) (hr : fs cfg.readPath = none)
    (hw : fs cfg.writePath = none) (hrw : cfg.readPath ≠ cfg.writePath)
    (hbr : bakName ≠ cfg.readPath)
    (hdec : (sendThreadRead cfg.bufSize (writeDataFile o [] ptrBuf bufLen).2).ret = 0) :
    sendRun cfg fs [.write o ptrBuf bufLen, .pass now bakName io tss] =
      some (appendFile fs bakName (writeDataFile o [] ptrBuf bufLen).2) := by
  have hread := Function.update_self cfg.readPath (some (writeDataFile o [] ptrBuf bufLen).2) fs
  have hbak : Function.update fs cfg.readPath (some (writeDataFile o [] ptrBuf bufLen).2)
      bakName = fs bakName := Function.update_of_ne hbr _ _
  rw [sendRun_write_take hr hw hrw, sendPass_sent hbuf hio hread hdec, qfileRemove, appendFile,
    hbak, update_update_remove hr hbr.symm, appendFile]

end Pass

/-! ## 5. The passes with their network loops -/

section Net

variable {cfg : SendCfg} {fs fs' : Files} {now : Int} {bakName : Bytes} {io : BackupSys}
  {tss : List (List SendTry)}

/-- **A pass ends** when its turns acknowledge every record of the read file it finds, and then
    leaves the files of `sendPass`. -/
theorem sendPassNet_of_acks (hpass : sendPass cfg now bakName io fs = some fs')
    (hack : ∀ file, passStart cfg fs cfg.readPath = some file → AcksRecords cfg.bufSize file tss) :
    ∃ conns, sendPassNet cfg now bakName io tss fs = some (fs', conns) := by
  unfold sendPass at hpass
  unfold sendPassNet
  split at hpass
  · rename_i hidle
    rw [if_pos hidle]
    cases hpass
    exact ⟨[], rfl⟩
  · rename_i hidle
    rw [if_neg hidle]
    dsimp only at hpass ⊢
    obtain ⟨file, hfile, hend⟩ := Option.map_eq_some_iff.mp hpass
    obtain ⟨conns, hconns⟩ := Option.isSome_iff_exists.mp (sendThreadNet_isSome (hack file hfile))
    exact ⟨conns, by rw [hfile, Option.bind_some, hconns, Option.map_some, hend]⟩

/-- A write and a pass, with the pass's network loops. -/
theorem sendRunNet_write_pass {o : WriteOutcome} {ptrBuf : Bytes} {bufLen : Int32} :
    sendRunNet cfg fs [.write o ptrBuf bufLen, .pass now bakName io tss] =
      sendPassNet cfg now bakName io tss (writeStep cfg fs o ptrBuf bufLen) := by
  cases h : sendPassNet cfg now bakName io tss (writeStep cfg fs o ptrBuf bufLen) <;>
    simp [sendRunNet, sendStepNet, h]

end Net

/-- **One record through the send files**: from no send files, a `write_data_file` call and the
    next pass of the send thread, whose turns acknowledge the records it reads and whose backup
    opens and writes its files, end and leave one change. When the written file decodes it is
    appended, unchanged, to the day's backup file; when it does not, it is kept, alone, at the
    name of the failure. -/
theorem sendRun_hands_over_record (cfg : SendCfg) (fs : Files) (o : WriteOutcome) (ptrBuf : Bytes)
    (bufLen : Int32) (now : Int) (bakName : Bytes) (io : BackupSys) (tss : List (List SendTry))
    (hbuf : 0 < cfg.bufSize) (hio : io.Whole)
    (hack : AcksRecords cfg.bufSize (writeDataFile o [] ptrBuf bufLen).2 tss)
    (hr : fs cfg.readPath = none) (hw : fs cfg.writePath = none)
    (hrw : cfg.readPath ≠ cfg.writePath) (hlen : cfg.readPath.length ≤ 30)
    (hbr : bakName ≠ cfg.readPath) :
    ∃ conns, sendRunNet cfg fs [.write o ptrBuf bufLen, .pass now bakName io tss] =
      some (if (sendThreadRead cfg.bufSize (writeDataFile o [] ptrBuf bufLen).2).ret = 0 then
          appendFile fs bakName (writeDataFile o [] ptrBuf bufLen).2
        else Function.update fs (failFileName cfg.readPath now)
          (some (writeDataFile o [] ptrBuf bufLen).2), conns) := by
  set rec := (writeDataFile o [] ptrBuf bufLen).2
  -- the files, as `sendRun` leaves them
  have hfiles : sendRun cfg fs [.write o ptrBuf bufLen, .pass now bakName io tss] =
      some (if (sendThreadRead cfg.bufSize rec).ret = 0 then appendFile fs bakName rec
        else Function.update fs (failFileName cfg.readPath now) (some rec)) := by
    by_cases hdec : (sendThreadRead cfg.bufSize rec).ret = 0
    · rw [if_pos hdec]
      exact sendRun_write_sent hbuf hio hr hw hrw hbr hdec
    · rw [if_neg hdec]
      exact sendRun_write_fail hr hw hrw (failFileName_ne hlen now) hdec
  -- the pass reads the record just written, whose turns end its loop
  have hstart : passStart cfg (writeStep cfg fs o ptrBuf bufLen) cfg.readPath = some rec := by
    rw [passStart_writeStep hr hw hrw, Function.update_self]
  obtain ⟨conns, hnet⟩ := sendPassNet_of_acks (sendRun_write_pass.symm.trans hfiles)
    (fun file hfile => by
      rw [hstart] at hfile
      cases hfile
      exact hack)
  exact ⟨conns, by rw [sendRunNet_write_pass, hnet]⟩

/-- The send thread of a server with `./data` as its data path: its read and write files, and
    the buffer size of `TCP_DEFAULT_BUFFER_SIZE`. -/
def dataSendCfg : SendCfg := ⟨ascii "./data/read.snd", ascii "./data/write.snd", tcpDefaultBufferSize⟩

/-- A backup whose calls on the files succeed. -/
def wholeBackup : BackupSys := ⟨true, true, .whole⟩

theorem sendRun_hands_over_record_init :
    ∃ conns, sendRunNet dataSendCfg (fun _ => none)
        [.write ⟨false, false, false⟩ (ascii "image") 5,
          .pass 1700000000 (ascii "./data/a.snd") wholeBackup [[.recvFails, .reply acceptedReply]]] =
      some (if (sendThreadRead tcpDefaultBufferSize
            (writeDataFile ⟨false, false, false⟩ [] (ascii "image") 5).2).ret = 0 then
          appendFile (fun _ => none) (ascii "./data/a.snd")
            (writeDataFile ⟨false, false, false⟩ [] (ascii "image") 5).2
        else Function.update (fun _ => none) (failFileName (ascii "./data/read.snd") 1700000000)
          (some (writeDataFile ⟨false, false, false⟩ [] (ascii "image") 5).2), conns) := by
  have hzip : ((sendThreadRead dataSendCfg.bufSize
      (writeDataFile ⟨false, false, false⟩ [] (ascii "image") 5).2).records.map Prod.snd).zip
        [[SendTry.recvFails, .reply acceptedReply]] =
      [(ascii "image", [.recvFails, .reply acceptedReply])] := by decide
  exact sendRun_hands_over_record _ _ _ _ _ _ _ _ _ (by decide) ⟨rfl, rfl, rfl⟩
    ⟨by decide, fun q hq => by
      rw [hzip, List.mem_singleton] at hq
      subst hq
      exact ⟨acceptedReply, List.mem_cons_of_mem _ List.mem_cons_self, by decide⟩⟩
    rfl rfl (by decide) (by decide) (by decide)

/-- **A failed read file is deleted** when the read path has 31 bytes: the name of the failure
    is then the read path itself, and `QFile::rename` removes the file before it moves it. -/
theorem sendPass_deletes_failed_file (cfg : SendCfg) (now : Int) (bakName : Bytes) (io : BackupSys)
    (fs : Files) (file : Bytes) (hlen : cfg.readPath.length = 31) (hr : fs cfg.readPath = some file)
    (hdec : (sendThreadRead cfg.bufSize file).ret ≠ 0) :
    sendPass cfg now bakName io fs = some (Function.update fs cfg.readPath none) := by
  rw [sendPass_fail hr hdec, failFileName_of_length_31 hlen, qfileRename_self hr]

theorem sendPass_deletes_failed_file_snd :
    sendPass ⟨ascii "/var/lib/idfs/data/snd/read.snd", ascii "./data/write.snd", 1024⟩
        1700000000 (ascii "./data/2023-11-14.snd") wholeBackup
        (Function.update (fun _ => none) (ascii "/var/lib/idfs/data/snd/read.snd") (some [1])) =
      some (Function.update
        (Function.update (fun _ => none) (ascii "/var/lib/idfs/data/snd/read.snd") (some [1]))
        (ascii "/var/lib/idfs/data/snd/read.snd") none) :=
  sendPass_deletes_failed_file _ _ _ _ _ [1] (by decide) (Function.update_self ..) (by decide)

/-- **Two failures of one name keep one file**: from no send files, two records that do not
    decode, each written and then failed by the next pass at a time whose name of the failure is
    the same, leave only the second record, at that name. The first is in no file. -/
theorem sendRun_failure_name_clash (cfg : SendCfg) (fs : Files) (oa ob : WriteOutcome)
    (a b : Bytes) (la lb : Int32) (t1 t2 : Int) (bak1 bak2 : Bytes) (io1 io2 : BackupSys)
    (tss1 tss2 : List (List SendTry))
    (hr : fs cfg.readPath = none) (hw : fs cfg.writePath = none)
    (hrw : cfg.readPath ≠ cfg.writePath) (hlen : cfg.readPath.length ≤ 30)
    (hnw : failFileName cfg.readPath t1 ≠ cfg.writePath)
    (hclash : failFileName cfg.readPath t2 = failFileName cfg.readPath t1)
    (hda : (sendThreadRead cfg.bufSize (writeDataFile oa [] a la).2).ret ≠ 0)
    (hdb : (sendThreadRead cfg.bufSize (writeDataFile ob [] b lb).2).ret ≠ 0) :
    sendRun cfg fs [.write oa a la, .pass t1 bak1 io1 tss1, .write ob b lb, .pass t2 bak2 io2 tss2] =
      some (Function.update fs (failFileName cfg.readPath t1) (some (writeDataFile ob [] b lb).2)) := by
  have hnr := failFileName_ne hlen t1
  have hfirst : sendRun cfg fs [.write oa a la, .pass t1 bak1 io1 tss1] = some (Function.update fs
      (failFileName cfg.readPath t1) (some (writeDataFile oa [] a la).2)) :=
    sendRun_write_fail hr hw hrw hnr hda
  -- after the first failure neither send file is there again
  have hr' : Function.update fs (failFileName cfg.readPath t1) (some (writeDataFile oa [] a la).2)
      cfg.readPath = none := by rw [Function.update_of_ne hnr.symm, hr]
  have hw' : Function.update fs (failFileName cfg.readPath t1) (some (writeDataFile oa [] a la).2)
      cfg.writePath = none := by rw [Function.update_of_ne hnw.symm, hw]
  have hsecond : sendRun cfg (Function.update fs (failFileName cfg.readPath t1)
      (some (writeDataFile oa [] a la).2)) [.write ob b lb, .pass t2 bak2 io2 tss2] =
      some (Function.update (Function.update fs (failFileName cfg.readPath t1)
        (some (writeDataFile oa [] a la).2)) (failFileName cfg.readPath t2)
        (some (writeDataFile ob [] b lb).2)) :=
    sendRun_write_fail hr' hw' hrw (hclash ▸ hnr) hdb
  rw [show [SendEvent.write oa a la, .pass t1 bak1 io1 tss1, .write ob b lb, .pass t2 bak2 io2 tss2] =
      [.write oa a la, .pass t1 bak1 io1 tss1] ++ [.write ob b lb, .pass t2 bak2 io2 tss2] from rfl,
    sendRun_append, hfirst, Option.bind_some, hsecond, hclash, Function.update_idem]

theorem sendRun_failure_name_clash_rd :
    sendRun ⟨ascii "/var/lib/idfs/data/send/rd.snd", ascii "./data/write.snd", 4⟩ (fun _ => none)
        [.write ⟨false, false, false⟩ (ascii "image") 5,
          .pass 1700000000 (ascii "./data/a.snd") wholeBackup [],
          .write ⟨false, false, false⟩ (ascii "again") 5,
          .pass 1700000001 (ascii "./data/a.snd") wholeBackup []] =
      some (Function.update (fun _ => none)
        (failFileName (ascii "/var/lib/idfs/data/send/rd.snd") 1700000000)
        (some (writeDataFile ⟨false, false, false⟩ [] (ascii "again") 5).2)) :=
  have h30 : (ascii "/var/lib/idfs/data/send/rd.snd").length = 30 := by decide
  sendRun_failure_name_clash _ _ _ _ _ _ _ _ _ _ _ _ _ _ _ _ rfl rfl (by decide) h30.le
    (by rw [failFileName_of_length_30 h30]; decide)
    (by rw [failFileName_of_length_30 h30, failFileName_of_length_30 h30]) (by decide) (by decide)

/-! ## 6. Whole runs: no byte is lost or repeated -/

/-- The files a pass may change: the two send files, the day's backup file and the name of the
    failure. -/
def passTouched (cfg : SendCfg) (now : Int) (bakName : Bytes) : List Bytes :=
  [cfg.readPath, cfg.writePath, bakName, failFileName cfg.readPath now]

/-- The files an event may change: the write file for a write, `passTouched` for a pass. -/
def SendEvent.touched (cfg : SendCfg) : SendEvent → List Bytes
  | .write .. => [cfg.writePath]
  | .pass now bakName _ _ => passTouched cfg now bakName

/-- The day's backup file of each pass. -/
def bakNames : List SendEvent → List Bytes
  | [] => []
  | .write .. :: es => bakNames es
  | .pass _ bakName _ _ :: es => bakName :: bakNames es

/-- The name of the failure of each pass. -/
def failNames (cfg : SendCfg) : List SendEvent → List Bytes
  | [] => []
  | .write .. :: es => failNames cfg es
  | .pass now _ _ _ :: es => failFileName cfg.readPath now :: failNames cfg es

/-- What a run needs of the names of the failures: one per pass, none there before, none a send
    file or a backup file. -/
def FailNamesFresh (cfg : SendCfg) (fs : Files) (evs : List SendEvent) : Prop :=
  (failNames cfg evs).Nodup ∧ ∀ F ∈ failNames cfg evs,
    fs F = none ∧ F ≠ cfg.readPath ∧ F ≠ cfg.writePath ∧ F ∉ bakNames evs

section Runs

open List KeyedLists

variable {cfg : SendCfg} {keys : List Bytes} {fs : Files} {now : Int} {bakName file : Bytes}
  {io : BackupSys}

section Keep

variable (hbuf : 0 < cfg.bufSize) (hio : io.Whole) (hnd : keys.Nodup)
  (hkeys : ∀ x ∈ passTouched cfg now bakName, x ∈ keys)
  (hbr : bakName ≠ cfg.readPath) (hF : fs (failFileName cfg.readPath now) = none)
  (hFr : failFileName cfg.readPath now ≠ cfg.readPath)
include hbuf hio hnd hkeys hbr hF hFr

end Keep

/-- The freshness of the failure names carries to the head pass. -/
theorem FailNamesFresh.head {tss : List (List SendTry)} {es : List SendEvent}
    (h : FailNamesFresh cfg fs (.pass now bakName io tss :: es)) :
    fs (failFileName cfg.readPath now) = none ∧ failFileName cfg.readPath now ≠ cfg.readPath ∧
      failFileName cfg.readPath now ≠ cfg.writePath := by
  obtain ⟨hF, hFr, hFw, -⟩ := h.2 _ (mem_cons_self ..)
  exact ⟨hF, hFr, hFw⟩

/-- The freshness of the failure names carries to the rest of the run, past a step that changes
    only what it touches. -/
theorem FailNamesFresh.tail {e : SendEvent} {es : List SendEvent} {fs' : Files}
    (h : FailNamesFresh cfg fs (e :: es)) (hframe : ∀ x ∉ SendEvent.touched cfg e, fs' x = fs x) :
    FailNamesFresh cfg fs' es := by
  obtain ⟨hnd, hfresh⟩ := h
  cases e with
  | write o ptrBuf bufLen =>
    refine ⟨hnd, fun F hF => ?_⟩
    obtain ⟨h0, hr, hw, hb⟩ := hfresh F hF
    refine ⟨?_, hr, hw, hb⟩
    rw [hframe F (by simp [SendEvent.touched, hw])]
    exact h0
  | pass now bakName io tss =>
    simp only [failNames, nodup_cons] at hnd hfresh
    refine ⟨hnd.2, fun F hF => ?_⟩
    obtain ⟨h0, hr, hw, hb⟩ := hfresh F (mem_cons_of_mem _ hF)
    simp only [bakNames, mem_cons, not_or] at hb
    -- the pass's own failure name is not one of the later ones
    have hF0 : F ≠ failFileName cfg.readPath now := fun h => hnd.1 (h ▸ hF)
    refine ⟨?_, hr, hw, hb.2⟩
    rw [hframe F (by simp [SendEvent.touched, passTouched, hr, hw, hb.1, hF0])]
    exact h0

end Runs

end ImageDfs
