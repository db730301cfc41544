/-
  File:      ImageDfs/Server/Service.lean
  Subject:   THE PROGRAM AROUND THE SERVER: `main` of main.cc hands `argv` to `QService::main`
             (qservice.cc), which picks the option, forks with `-d`, sets the process title,
             and runs `IDFSService::init` (`QTcpServer::init` on `../conf/init.cnf`) and `run`
             (`QTcpServer::start`, which reads standard input until a line asks to quit);
             then `main` returns and `idfs` is destroyed.

  `setproctitle` builds `"niuxl: worker process "` and the arguments, separated by spaces, with
  `strcat` into `char title[1<<10]`, and copies it over `argv[0]` with `strcpy`. Nothing checks
  the room in either place. With `-d`, `daemonize` forks and ends the caller; the child writes
  its pid file and goes on as `-r` does. A process is followed to its end: an `exit`, a return
  from `main` into the destructor of `idfs`, or a write past `title`. Of the output, the
  standard error is kept; `author` and `version` print to the standard output only:

  * `serviceOption`, `setproctitle`, `qserviceMain` -- the option, the title, and
    `QService::main` for any service, as the processes it leaves (`ServiceRun`: the one the
    shell started, and the one `fork` made in it);
  * `daemonBranch`, `createPidFile` -- `daemonize` and the pid file, in a process by what
    `fork` returned to it;
  * `idfsService`, `mainEnd`, `programMain` -- `IDFSService`, the destruction of `idfs` that
    follows a return from `QService::main`, and `main` of main.cc;
  * `serverStart` -- the pieces `fgets(line, sizeof(line), stdin)` reads until one starts with
    `'q'` or is `"quit"`;
  * `setproctitle_eq` -- the title is built whole when it fits `title`, and the first byte
    written past `title` is `title[1024]` otherwise;
  * `idfsService_run_exit` -- **with `-r`, past a title that fits, the process ends in the
    destructor of `idfs`, whatever `init` did; with `-d` the shell's process exits with
    `EXIT_SUCCESS` even when `fork` fails**;
  * `setproctitle_spills_past_arguments` -- the title and its NUL cover the argument strings
    and the 22 bytes after them;
  * `serverStart_stops_inside_line` -- a line of more than 1023 bytes whose 1024th is `'q'`
    stops the server, though it does not start with `'q'`.
-/
import ImageDfs.Basic
import ImageDfs.Lib.Strcat
import ImageDfs.Lib.Lines

namespace ImageDfs

/-! ## 1. `QService::main` -/

/-- `EXIT_SUCCESS` and `EXIT_FAILURE`. -/
def exitSuccess : Int32 := 0
def exitFailure : Int32 := 1

/-- `SERVICE_PREFIX` and `SERVICE_TYPE_WORKER` (qservice.h), the defaults of `setproctitle`. -/
def servicePrefix : Bytes := ascii "niuxl"
def serviceTypeWorker : Bytes := ascii "worker process"

/-- `sizeof(title)` in `setproctitle`: `1<<10`. -/
def titleSize : Nat := 1024

/-- The options `QService::main` knows, by `strcmp` of `argv[1]`. -/
inductive ServiceOption where
  | author
  | daemon
  | help
  | run
  | version
  | invalid
  deriving DecidableEq, Repr

def serviceOption (arg : Bytes) : ServiceOption :=
  if arg = ascii "-a" ∨ arg = ascii "--author" then .author
  else if arg = ascii "-d" ∨ arg = ascii "--daemon" then .daemon
  else if arg = ascii "-h" ∨ arg = ascii "--help" then .help
  else if arg = ascii "-r" ∨ arg = ascii "--run" then .run
  else if arg = ascii "-v" ∨ arg = ascii "--version" then .version
  else .invalid

/-- The loop `for(int32_t i=0; i<argc; ++i)` of `setproctitle`: `strcat` of each argument, and
    of a space after every one but the last. -/
def titleArgs (title : Bytes) : List Bytes → Except Nat Bytes
  | [] => .ok title
  | [a] => Strcat.strcat titleSize title a
  | a :: b :: rest =>
    (Strcat.strcat titleSize title a).bind fun t =>
      (Strcat.strcat titleSize t (ascii " ")).bind fun t => titleArgs t (b :: rest)

/-- `QService::setproctitle(argc, argv, pfx, procType)`: the title it builds in `title` and
    copies over `argv[0]`, or the index of the first byte it writes past `title`. -/
def setproctitle (argv : List Bytes) (pfx procType : Bytes) : Except Nat Bytes :=
  (Strcat.strcatAll titleSize [] [pfx, ascii ":", ascii " ", procType, ascii " "]).bind fun t =>
    titleArgs t argv

/-- The two lines of an option `QService::main` does not take. -/
def invalidOptionText : Bytes :=
  ascii ":invalid option\n" ++ ascii "Try " ++ [39] ++ ascii "--help" ++ [39] ++
    ascii " for more information!\n"

/-- What `help()` prints on the standard error. -/
def helpText : Bytes :=
  ascii "Usage:\n" ++ ascii "Options:\n" ++
    ascii "-a,--author        Show author information...\n" ++
    ascii "-d,--daemon        Run as a daemon...\n" ++
    ascii "-h,--help          Show help message...\n" ++
    ascii "-r,--run           Run this program...\n" ++
    ascii "-v,--version       Show porgram version...\n"

def initErrorText : Bytes := ascii "QService: init error!\n"
def runErrorText : Bytes := ascii "QService: run error!\n"

/-- A service as `QService::main` drives it: the virtual `init`, `run` and `destroy` of the
    object, each with its result and the object's state after it (`run` of `IDFSService` does
    not read `argc` and `argv`, and neither does this). -/
structure Service (σ : Type) where
  init : σ → Int32 × σ
  run : σ → Int32 × σ
  destroy : σ → Int32 × σ

/-- How `QService::main` ends in one process: it returns `code` to `main`, with the object's
    state; or `exit(code)` inside `daemonize` ends the process, and no destructor of `main`'s
    objects runs; or `setproctitle` writes past `title`, after which nothing is known. The
    bytes are what the process printed on its standard error. -/
inductive ServiceEnd (σ : Type) where
  | ret (code : Int32) (stderr : Bytes) (obj : σ)
  | exit (code : Int32) (stderr : Bytes)
  | titleOverrun (index : Nat)
  deriving DecidableEq, Repr

/-- The same end, seen from a process whose standard error is /dev/null. -/
def ServiceEnd.toDevNull {σ : Type} : ServiceEnd σ → ServiceEnd σ
  | .ret code _ obj => .ret code [] obj
  | .exit code _ => .exit code []
  | .titleOverrun i => .titleOverrun i

variable {σ : Type}

/-- The branches of `-d` and `-r` once the process title is set: `init`, `run` and `destroy`,
    each of which ends the program on a result other than 0. -/
def runService (svc : Service σ) (obj : σ) : ServiceEnd σ :=
  let (r, obj) := svc.init obj
  if r ≠ 0 then .ret exitFailure initErrorText obj
  else
    let (r, obj) := svc.run obj
    if r ≠ 0 then .ret exitFailure runErrorText obj
    else
      let (r, obj) := svc.destroy obj
      -- the message of a failed `destroy` is the one of `run`
      if r ≠ 0 then .ret exitFailure runErrorText obj
      else .ret exitSuccess [] obj

/-- `setproctitle(argc, argv)`, then `runService`. -/
def titledRun (svc : Service σ) (argv : List Bytes) (obj : σ) : ServiceEnd σ :=
  match setproctitle argv servicePrefix serviceTypeWorker with
  | .error i => .titleOverrun i
  | .ok _ => runService svc obj

/-- What `::fork()` does in `daemonize`: it makes a child, whose pid, positive, the caller gets
    while the child gets 0; or it fails, and the caller gets -1. -/
inductive Fork where
  | made (pid : Int32) (pos : 0 < pid)
  | failed

/-- The value `::fork()` returns to the process that called it. -/
def Fork.callerPid : Fork → Int32
  | .made pid _ => pid
  | .failed => -1

/-- The answers of the system to `daemonize` and `createPidFile`. -/
structure DaemonSys where
  fork : Fork
  /-- `getpid()` of the process the shell started. -/
  shellPid : Int32
  /-- `open("/dev/null", O_RDWR, 0)` in the child returns a descriptor. -/
  devNullOpens : Bool
  /-- `fopen(SERVICE_PIDFILE, "w")` in the child returns a stream. -/
  pidFileOpens : Bool

/-- `SERVICE_PIDFILE` (qservice.h). -/
def servicePidfile : Bytes := ascii "/var/run/niuxl.pid"

/-- `createPidFile()` in a process of pid `pid`: the file at `SERVICE_PIDFILE` and the text
    `"%d\n"` written to it, when `fopen` opens it. -/
def createPidFile (opens : Bool) (pid : Int32) : Option (Bytes × Bytes) :=
  if opens then some (servicePidfile, fmtD pid.toInt ++ ascii "\n") else none

/-- What one process does in `QService::main`: how it ends, and the pid file it wrote. -/
structure ProcessRun (α : Type) where
  ends : α
  pidFile : Option (Bytes × Bytes)
  deriving DecidableEq, Repr

/-- What `QService::main` leaves: the process the shell started and the process `fork` made in
    it, when it made one. -/
structure ServiceRun (α : Type) where
  shell : ProcessRun α
  forked : Option (ProcessRun α)
  deriving DecidableEq, Repr

def ServiceRun.map {α β : Type} (f : α → β) (r : ServiceRun α) : ServiceRun β :=
  ⟨⟨f r.shell.ends, r.shell.pidFile⟩, r.forked.map fun p => ⟨f p.ends, p.pidFile⟩⟩

/-- The `-d` branch in a process to which `::fork()` returned `forkRet`: `daemonize()` ends it
    with `exit(EXIT_SUCCESS)` on any value but 0 (the test is `if((pid=::fork()))`, so the -1
    of a failed `fork` ends the caller too and `else if(pid<0)` is never reached); the child,
    which gets 0, turns its standard streams to /dev/null when it can open it, writes its pid
    file, and goes on as `-r` does. -/
def daemonBranch (sys : DaemonSys) (svc : Service σ) (argv : List Bytes) (obj : σ)
    (forkRet pid : Int32) : ProcessRun (ServiceEnd σ) :=
  if forkRet ≠ 0 then ⟨.exit exitSuccess [], none⟩
  else
    let ends := titledRun svc argv obj
    ⟨if sys.devNullOpens then ends.toDevNull else ends, createPidFile sys.pidFileOpens pid⟩

/-- A run of `QService::main` in which `fork` makes no process. -/
def ServiceRun.alone {α : Type} (a : α) : ServiceRun α := ⟨⟨a, none⟩, none⟩

/-- **`QService::main(argc, argv)`** on the object `obj` of the service `svc`. -/
def qserviceMain (sys : DaemonSys) (svc : Service σ) (argv : List Bytes) (obj : σ) :
    ServiceRun (ServiceEnd σ) :=
  match argv with
  | _ :: arg :: _ =>
    match serviceOption arg with
    | .author => .alone (.ret exitSuccess [] obj)
    | .help => .alone (.ret exitSuccess helpText obj)
    | .version => .alone (.ret exitSuccess [] obj)
    | .run => .alone (titledRun svc argv obj)
    | .daemon =>
      ⟨daemonBranch sys svc argv obj sys.fork.callerPid sys.shellPid,
        match sys.fork with
        | .made pid _ => some (daemonBranch sys svc argv obj 0 pid)
        | .failed => none⟩
    | .invalid => .alone (.ret exitFailure invalidOptionText obj)
  | _ => .alone (.ret exitFailure invalidOptionText obj)

/-- What `QTcpServer::init("../conf/init.cnf")` leaves `IDFSService::init`: its result, and
    whether it got as far as allocating `chunk_queue_`, which every run that returns `TCP_OK`
    does. -/
structure IdfsInit where
  ret : Int32
  chunkQueue : Bool
  ok_chunkQueue : ¬ ret < 0 → chunkQueue = true

/-- `IDFSService` of main.cc, whose state is whether `chunk_queue_` points to a queue (the
    constructor of `QTcpServer` leaves it `NULL`): `init` is -1 when `QTcpServer::init` returned
    a negative `ret` and 0 otherwise; `run` and `destroy` return 0. -/
def idfsService (init : IdfsInit) : Service Bool where
  init := fun _ => (if init.ret < 0 then -1 else 0, init.chunkQueue)
  run := fun q => (0, q)
  destroy := fun q => (0, q)

/-- How a process of the program ends. -/
inductive ProcessEnd where
  | exit (code : Int32) (stderr : Bytes)
  | segfault (stderr : Bytes)
  | abort (stderr : Bytes)
  | titleOverrun (index : Nat)
  deriving DecidableEq, Repr

/-- `main` of main.cc once `idfs.main` has ended in a process. A return destroys `idfs`, and
    `~QTcpServer` never gets through: it calls `chunk_queue_->pop_non_blocking`, which locks the
    queue's mutex, through the `NULL` the constructor left when `init` did not allocate the
    queue (a fault); otherwise it reaches `free_server_info`, whose call of the pure virtual
    `release()` during the base's destruction ends in `std::terminate`. An `exit` inside
    `daemonize` runs no destructor of `idfs`. -/
def mainEnd : ServiceEnd Bool → ProcessEnd
  | .ret _ stderr chunkQueue => if chunkQueue then .abort stderr else .segfault stderr
  | .exit code stderr => .exit code stderr
  | .titleOverrun i => .titleOverrun i

/-- **`main` of main.cc**: `IDFSService idfs; return idfs.main(argc, argv);`, in the process
    the shell started and in the one `fork` made. -/
def programMain (sys : DaemonSys) (argv : List Bytes) (init : IdfsInit) : ServiceRun ProcessEnd :=
  (qserviceMain sys (idfsService init) argv false).map mainEnd

/-! ## 2. `QTcpServer::start` -/

/-- The test of the loop of `start`: `line[0]=='q' || strcmp(line, "quit")==0`. -/
def quitLine (line : Bytes) : Bool := line.head? == some 0x71 || cstr line == ascii "quit"

/-- The pieces read up to and including the first that asks to quit. -/
def readUntilQuit : List Bytes → List Bytes
  | [] => []
  | l :: ls => if quitLine l then [l] else l :: readUntilQuit ls

/-- `QTcpServer::start`: what `while(fgets(line, sizeof(line), stdin))` reads of the standard
    input before it stops, each call copying at most 1023 bytes. -/
def serverStart (stdin : Bytes) : List Bytes := readUntilQuit (Lines.chunks 0x0A 1022 stdin)

/-! ## 3. The title -/

/-- The title `setproctitle` builds: `"pfx: procType "` and the arguments, separated by
    spaces. -/
def titleText (argv : List Bytes) (pfx procType : Bytes) : Bytes :=
  pfx ++ ascii ": " ++ procType ++ ascii " " ++ (ascii " ").intercalate argv

section Title

open Strcat

theorem titleArgs_eq (title : Bytes) :
    ∀ argv : List Bytes, titleArgs title argv = strcatAll titleSize title (argv.intersperse (ascii " "))
  | [] => rfl
  | [a] => by
    rw [titleArgs, List.intersperse_singleton, strcatAll_cons]
    cases strcat titleSize title a <;> rfl
  | a :: b :: rest => by
    rw [titleArgs, List.intersperse_cons_cons, strcatAll_cons]
    cases strcat titleSize title a with
    | error i => rfl
    | ok t =>
      dsimp only [Except.bind]
      rw [strcatAll_cons]
      cases strcat titleSize t (ascii " ") with
      | error i => rfl
      | ok t' => exact titleArgs_eq t' (b :: rest)

theorem titleText_length (argv : List Bytes) (pfx procType : Bytes) :
    (titleText argv pfx procType).length =
      pfx.length + procType.length + 3 + ((argv.intersperse (ascii " ")).map List.length).sum := by
  simp only [titleText, List.intercalate, List.length_append, List.length_flatten]
  simp [ascii]
  omega

/-- **The title is built whole when it fits `title`**; otherwise the first byte written past
    `title` is `title[1024]`. -/
theorem setproctitle_eq (argv : List Bytes) (pfx procType : Bytes) :
    setproctitle argv pfx procType =
      if (titleText argv pfx procType).length < titleSize then .ok (titleText argv pfx procType)
      else .error titleSize := by
  have hsplit : setproctitle argv pfx procType = strcatAll titleSize []
      ([pfx, ascii ":", ascii " ", procType, ascii " "] ++ argv.intersperse (ascii " ")) := by
    rw [setproctitle, strcatAll_append]
    congr 1
    funext t
    exact titleArgs_eq t argv
  have htext : (List.flatten ([pfx, ascii ":", ascii " ", procType, ascii " "] ++
      argv.intersperse (ascii " "))) = titleText argv pfx procType := by
    simp [titleText, List.intercalate, ascii]
  rw [hsplit, strcatAll_eq titleSize _ [] (by decide), List.nil_append, htext, List.length_nil,
    Nat.zero_add]

theorem sum_length_intersperse (sep : Bytes) :
    ∀ argv : List Bytes, ((argv.intersperse sep).map List.length).sum =
      (argv.map List.length).sum + (argv.length - 1) * sep.length
  | [] => by simp
  | [a] => by simp
  | a :: b :: rest => by
    rw [List.intersperse_cons_cons, List.map_cons, List.map_cons, List.sum_cons, List.sum_cons,
      sum_length_intersperse sep (b :: rest)]
    simp only [List.map_cons, List.sum_cons, List.length_cons]
    rw [Nat.add_sub_cancel, Nat.add_sub_cancel, Nat.succ_mul]
    omega

/-- The room the argument strings take in memory, each with its NUL. -/
theorem sum_length_add_one (argv : List Bytes) :
    (argv.map fun a => a.length + 1).sum = (argv.map List.length).sum + argv.length := by
  induction argv with
  | nil => rfl
  | cons a argv ih =>
    simp only [List.map_cons, List.sum_cons, List.length_cons, ih]
    omega

/-- The title of `IDFSService`: 22 bytes, then the arguments and the spaces between them. -/
theorem titleText_service_length (argv : List Bytes) :
    (titleText argv servicePrefix serviceTypeWorker).length =
      22 + (argv.map List.length).sum + (argv.length - 1) := by
  rw [titleText_length, sum_length_intersperse]
  simp [servicePrefix, serviceTypeWorker, ascii]
  omega

end Title

/-! ## 4. The program -/

theorem Fork.callerPid_ne_zero (f : Fork) : f.callerPid ≠ 0 := by
  cases f with
  | made pid pos =>
    intro h
    rw [Fork.callerPid] at h
    rw [h] at pos
    exact absurd pos (by decide)
  | failed => decide

/-- `IDFSService` once its title is set: `init` decides, and a successful one has allocated
    `chunk_queue_`. -/
theorem runService_idfs (init : IdfsInit) (obj : Bool) :
    runService (idfsService init) obj =
      if init.ret < 0 then .ret exitFailure initErrorText init.chunkQueue
      else .ret exitSuccess [] true := by
  by_cases h : init.ret < 0
  · simp [runService, idfsService, h]
  · simp [runService, idfsService, h, init.ok_chunkQueue h]

theorem titledRun_eq (svc : Service σ) (argv : List Bytes) (obj : σ) :
    titledRun svc argv obj =
      if (titleText argv servicePrefix serviceTypeWorker).length < titleSize then runService svc obj
      else .titleOverrun titleSize := by
  rw [titledRun, setproctitle_eq]
  split_ifs <;> rfl

/-- How a process of the program that runs the server ends, with its standard error on
    /dev/null or not: past the title, `QService::main` returns and the destructor of `idfs`
    faults or aborts. -/
theorem mainEnd_titledRun (init : IdfsInit) (argv : List Bytes) (devNull : Bool) :
    mainEnd (if devNull then (titledRun (idfsService init) argv false).toDevNull
        else titledRun (idfsService init) argv false) =
      if 22 + (argv.map List.length).sum + (argv.length - 1) < titleSize then
        (if init.ret < 0 then
          (if init.chunkQueue then .abort (if devNull then [] else initErrorText)
          else .segfault (if devNull then [] else initErrorText))
        else .abort [])
      else .titleOverrun titleSize := by
  rw [titledRun_eq, titleText_service_length, runService_idfs]
  by_cases hfit : 22 + (argv.map List.length).sum + (argv.length - 1) < titleSize
  · by_cases hinit : init.ret < 0 <;> cases devNull <;> cases init.chunkQueue <;>
      simp [hfit, hinit, mainEnd, ServiceEnd.toDevNull]
  · cases devNull <;> simp [hfit, mainEnd, ServiceEnd.toDevNull]

/-- **What `-r` and `-d` do.** Past a title that fits (22 bytes, the arguments and a space
    between each two), `QService::main` returns `EXIT_FAILURE` with its message when
    `QTcpServer::init` failed and `EXIT_SUCCESS` otherwise, but the process never exits with
    it: the destruction of `idfs` faults when `init` stopped before allocating `chunk_queue_`
    and aborts otherwise. Longer arguments make `setproctitle` write past `title[1<<10]`. With
    `-d` the process the shell started exits with `EXIT_SUCCESS` and prints nothing, whether or
    not `fork` made a child; the child, when there is one, writes its pid to
    `/var/run/niuxl.pid` when it can open it, and ends as a `-r` process does, its standard
    error on /dev/null when it could open that. -/
theorem idfsService_run_exit (sys : DaemonSys) (prog opt : Bytes) (rest : List Bytes)
    (init : IdfsInit) :
    let ends (msg : Bytes) : ProcessEnd :=
      if 22 + ((prog :: opt :: rest).map List.length).sum + (rest.length + 1) < titleSize then
        (if init.ret < 0 then (if init.chunkQueue then .abort msg else .segfault msg)
        else .abort [])
      else .titleOverrun titleSize
    (opt ∈ [ascii "-r", ascii "--run"] →
      programMain sys (prog :: opt :: rest) init = .alone (ends initErrorText)) ∧
    (opt ∈ [ascii "-d", ascii "--daemon"] →
      programMain sys (prog :: opt :: rest) init =
        ⟨⟨.exit exitSuccess [], none⟩,
          match sys.fork with
          | .made pid _ =>
            some ⟨ends (if sys.devNullOpens then [] else initErrorText),
              createPidFile sys.pidFileOpens pid⟩
          | .failed => none⟩) := by
  intro ends
  have hends : ∀ devNull : Bool,
      mainEnd (if devNull then (titledRun (idfsService init) (prog :: opt :: rest) false).toDevNull
        else titledRun (idfsService init) (prog :: opt :: rest) false) =
        ends (if devNull then [] else initErrorText) := by
    intro devNull
    rw [mainEnd_titledRun]
    cases devNull <;> rfl
  refine ⟨fun hopt => ?_, fun hopt => ?_⟩
  · have hsvc : serviceOption opt = .run := by
      simp only [List.mem_cons, List.not_mem_nil, or_false] at hopt
      rcases hopt with rfl | rfl <;> decide
    simp only [programMain, qserviceMain, hsvc]
    exact congrArg ServiceRun.alone (hends false)
  · have hsvc : serviceOption opt = .daemon := by
      simp only [List.mem_cons, List.not_mem_nil, or_false] at hopt
      rcases hopt with rfl | rfl <;> decide
    -- the shell's process leaves `daemonize` by `exit`; the child goes on
    simp only [programMain, qserviceMain, hsvc, ServiceRun.map, daemonBranch,
      if_pos (Fork.callerPid_ne_zero sys.fork)]
    cases sys.fork with
    | made pid pos =>
      simp only [Option.map_some, ne_eq, not_true_eq_false, if_false]
      rw [hends]
      rfl
    | failed => rfl

/-- `idfs -r` when `QTcpServer::init` fails before it allocates `chunk_queue_` (the
    configuration file cannot be read, say): the message, then the fault. And `idfs -d` when
    `fork` fails: the program exits with `EXIT_SUCCESS`, and nothing runs the server. -/
theorem idfsService_run_exit_initFails :
    programMain ⟨.failed, 1, true, true⟩ [ascii "idfs", ascii "-r"]
        ⟨-1, false, fun h => absurd (by decide) h⟩ = .alone (.segfault initErrorText) ∧
      programMain ⟨.failed, 1, true, true⟩ [ascii "idfs", ascii "-d"]
        ⟨-1, false, fun h => absurd (by decide) h⟩ = .alone (.exit exitSuccess []) :=
  ⟨((idfsService_run_exit ⟨.failed, 1, true, true⟩ _ _ [] ⟨-1, false, fun h => absurd (by decide) h⟩).1
      (by decide)).trans (by decide),
    (idfsService_run_exit ⟨.failed, 1, true, true⟩ _ _ [] ⟨-1, false, fun h => absurd (by decide) h⟩).2
      (by decide)⟩

/-- The argument strings as the kernel lays them out for `main`: one after the other, each with
    its NUL, `argv[0]` pointing to the first byte. -/
def argvBlock (argv : List Bytes) : Bytes := (argv.map (· ++ [0])).flatten

/-- `QService::setproctitle` with its `strcpy(argv[0], title)`: the argument strings and the
    bytes `after` them (on Linux, the environment strings) once the title and its NUL are copied
    from `argv[0]` on, or the index of the first byte written past `title`. -/
def setproctitleArgv (argv : List Bytes) (after : Bytes) : Except Nat Bytes :=
  (setproctitle argv servicePrefix serviceTypeWorker).map fun title =>
    LittleEndian.writeAt (argvBlock argv ++ after) 0 (title ++ [0])

theorem argvBlock_length (argv : List Bytes) :
    (argvBlock argv).length = (argv.map List.length).sum + argv.length := by
  rw [argvBlock, List.length_flatten, List.map_map, ← sum_length_add_one]
  simp [Function.comp_def]

/-- **The title spills past the arguments.** When the title fits `title`, `strcpy` writes it
    and its NUL over the argument strings and the 22 bytes that follow them: what stood there
    (on Linux, the start of the environment strings) is lost. -/
theorem setproctitle_spills_past_arguments (argv : List Bytes) (after : Bytes)
    (hargv : argv ≠ [])
    (hfit : (titleText argv servicePrefix serviceTypeWorker).length < titleSize) :
    setproctitleArgv argv after =
        .ok (titleText argv servicePrefix serviceTypeWorker ++ [0] ++ after.drop 22) ∧
      (titleText argv servicePrefix serviceTypeWorker ++ [0]).length = (argvBlock argv).length + 22 := by
  have hpos : 0 < argv.length := List.length_pos_iff.mpr hargv
  have hlen : (titleText argv servicePrefix serviceTypeWorker ++ [0]).length =
      (argvBlock argv).length + 22 := by
    rw [List.length_append, titleText_service_length, argvBlock_length, List.length_singleton]
    omega
  refine ⟨?_, hlen⟩
  rw [setproctitleArgv, setproctitle_eq, if_pos hfit]
  -- the copy covers the argument strings and 22 bytes more
  show Except.ok (LittleEndian.writeAt _ 0 _) = _
  rw [LittleEndian.writeAt, hlen, List.take_zero, List.nil_append, Nat.zero_add,
    List.drop_length_add_append]

/-- `idfs -r` over the environment strings `"HOME=/root"` and `"PATH=/usr/local/bin:/usr/bin"`:
    the title takes the place of the first and of the head of the second. -/
theorem setproctitle_spills_past_arguments_run :
    setproctitleArgv [ascii "idfs", ascii "-r"]
        (ascii "HOME=/root" ++ [0] ++ ascii "PATH=/usr/local/bin:/usr/bin" ++ [0]) =
        .ok (ascii "niuxl: worker process idfs -r" ++ [0] ++ ascii "ocal/bin:/usr/bin" ++ [0]) ∧
      (titleText [ascii "idfs", ascii "-r"] servicePrefix serviceTypeWorker ++ [0]).length =
        (argvBlock [ascii "idfs", ascii "-r"]).length + 22 := by
  obtain ⟨h, hlen⟩ := setproctitle_spills_past_arguments [ascii "idfs", ascii "-r"]
    (ascii "HOME=/root" ++ [0] ++ ascii "PATH=/usr/local/bin:/usr/bin" ++ [0]) (by decide)
    (by decide)
  exact ⟨h.trans (by decide), hlen⟩

/-- **A long line can stop the server.** `fgets` cuts a line of more than 1023 bytes, and the
    next call reads on from its 1024th byte: when that byte is `'q'`, `start` returns after the
    second piece, though the line does not start with `'q'`. -/
theorem serverStart_stops_inside_line (pre rest : Bytes) (hlen : pre.length = 1023)
    (hsep : 0x0A ∉ pre) (hquit : quitLine pre = false) :
    serverStart (pre ++ 0x71 :: rest) = [pre, Lines.takeLine 0x0A 1023 (0x71 :: rest)] := by
  have hq : quitLine (Lines.takeLine 0x0A 1023 (0x71 :: rest)) = true := by
    simp [quitLine, Lines.takeLine]
  rw [serverStart, Lines.chunks_cons_of_long 0x0A hsep hlen, Lines.chunks_cons, readUntilQuit,
    hquit, if_neg (by decide), readUntilQuit, hq, if_pos rfl]

/-- A line of 1023 `'a'`s and then `"quit"`. -/
theorem serverStart_stops_inside_line_a :
    serverStart (List.replicate 1023 0x61 ++ 0x71 :: ascii "uit\n") =
      [List.replicate 1023 0x61, Lines.takeLine 0x0A 1023 (0x71 :: ascii "uit\n")] :=
  serverStart_stops_inside_line _ _ (List.length_replicate ..)
    (fun h => absurd (List.mem_replicate.mp h).2 (by decide)) (by decide +kernel)

end ImageDfs
