import Libtx.Aiocb.Waiter
import Libtx.Timer.Frames
import Libtx.Timer.Rings

/-! The readers of `txcat.cpp` and `txget.cpp`: `update_stdio` reads a descriptor until it would
block, writes to `stdout` what it has read, and stops its loop at the end of the file.

The loop has the epoll backend and any other tasks, pollers and objects. `main` keeps the
`stdio_task` in its own frame, so no other code names its task or its object. -/

namespace Libtx

open Intrusive

inductive Reading where
  | data (bytes : List UInt8)
  | failed (errno : Errno)
  deriving DecidableEq, Repr

def Reading.bytes : Reading → List UInt8
  | .data bytes => bytes
  | .failed _ => []

def Reading.len : Reading → Int
  | .data bytes => bytes.length
  | .failed _ => -1

/-- `errno` after the call; one that succeeds leaves what it finds. -/
def Reading.errno : Reading → Errno
  | .data _ => .other
  | .failed errno => errno

def Reading.blocks (reading : Reading) : Bool := decide (reading = .failed .eagain)

inductive Program where
  | txcat
  | txget
  deriving DecidableEq, Repr

structure StdioTask (L T F : Type) where
  program : Program
  file : F
  task : T
  up : L

/-- `opened` tells whether `main` has set the reader up. `received` are the bytes that `read`
has returned, `asked` those of the request that `write` has taken, and `ended` tells whether the
reader has stopped its loop; no operation reads the last three. -/
structure Stdio (L T W P F : Type) where
  poller : EpollPoller L T W P F
  opened : Bool
  sent : Bool
  stdout : List UInt8
  received : List UInt8
  asked : List UInt8
  ended : Bool

variable {L T W P F : Type}

def Stdio.start (program : Program) (poller : EpollPoller L T W P F) : Stdio L T W P F where
  poller := poller
  opened := false
  sent := decide (program = .txcat)
  stdout := []
  received := []
  asked := []
  ended := false

def Stdio.setPoller (s : Stdio L T W P F) (poller : EpollPoller L T W P F) : Stdio L T W P F :=
  { s with poller := poller }

def Stdio.setWorld (s : Stdio L T W P F) (world : World L T W P F) : Stdio L T W P F :=
  s.setPoller { s.poller with world := world }

def Stdio.readable [DecidableEq F] (s : Stdio L T W P F) (own : StdioTask L T F) : Bool :=
  (s.poller.filp own.file).txFlags.able .input

variable [DecidableEq F]

/-- `tx_outcb_write` where the backend has no `tx_sendout`; `wrote` is what `write` answers. -/
def txOutcbWriteFd (s : EpollPoller L T W P F) (filp : F) (wrote : Int) (errno : Errno) :
    EpollPoller L T W P F :=
  txOutcbUpdate s filp wrote errno

variable [DecidableEq T]

def Poller.taskInit {B : Type} (s : Poller L T W P F B) (task : T) (up : L) : Poller L T W P F B :=
  { s with world := { s.world with
    task := Function.update s.world.task task (txTaskInit (s.world.task task) up) } }

variable [DecidableEq L] [DecidableEq W] [DecidableEq P]

def Stdio.await (own : StdioTask L T F) (arm : Option Errno) (s : Stdio L T W P F) :
    Option (Stdio L T W P F) :=
  (txAincbActive (epollOps arm) s.poller own.file (some own.task)).map s.setPoller

def Stdio.read (own : StdioTask L T F) (s : Stdio L T W P F) (reading : Reading) : Stdio L T W P F :=
  { s with
    poller := txAincbUpdate s.poller own.file reading.len reading.errno
    received := s.received ++ reading.bytes }

def updateStdioLoop (own : StdioTask L T F) (arm : Option Errno) :
    Stdio L T W P F → List Reading → Option (Stdio L T W P F)
  | _, [] => none
  | s, reading :: rest =>
      let read := s.read own reading
      if read.readable own = false then read.await own arm
      else if reading.len ≤ 0 then
        -- the end of the file, or an error other than EAGAIN
        let stopped := read.setWorld (txLoopStop read.poller.world (read.poller.world.task own.task).txLoop)
        some { stopped with ended := true }
      else updateStdioLoop own arm { read with stdout := read.stdout ++ reading.bytes } rest

/-- What a callback meets: `write` takes `wrote` bytes of the request or fails. -/
structure StdioAnswers where
  request : List UInt8
  wrote : Int
  errno : Errno
  arm : Option Errno
  readings : List Reading

/-- `update_stdio`; the length that `tx_outcb_write` returns is not looked at. -/
def updateStdio (own : StdioTask L T F) (s : Stdio L T W P F) (answers : StdioAnswers) :
    Option (Stdio L T W P F) :=
  if s.sent = false then
    let requested :=
      { s with
        poller := txOutcbWriteFd s.poller own.file answers.wrote answers.errno
        asked := answers.request.take answers.wrote.toNat
        sent := true }
    if requested.readable own = false then requested.await own answers.arm
    else updateStdioLoop own answers.arm requested answers.readings
  else updateStdioLoop own answers.arm s answers.readings

/-- What `main` does before `tx_loop_main`. `fd` is `STDIN_FILE_FD` or the connected socket,
`attach` and `arm` are what `epoll_ctl` answers. -/
def stdioMain (own : StdioTask L T F) (fd : Int) (attach arm : Option Errno) (s : Stdio L T W P F) :
    Option (Stdio L T W P F) :=
  (txAiocbInit (epollOps attach) s.poller own.file fd).bind fun attached =>
    let inited := attached.taskInit own.task own.up
    let prepared := match own.program with
      | .txcat => some inited
      | .txget => txOutcbPrepare (epollOps arm) inited own.file (some own.task)
    prepared.bind fun prepared =>
      ({ s with poller := prepared, opened := true }).await own arm

def PollAction.object {E : Type} : PollAction L T W P F E → Option F
  | .init filp _ _ | .listen filp _ _ | .fini filp _ | .poll _ filp _ | .active _ filp _ _
  | .cancel _ filp _ | .update _ filp _ _ | .connect filp _ _ _ => some filp
  | .polling _ | .loop _ => none

def PollAction.waiter {E : Type} : PollAction L T W P F E → Option T
  | .active _ _ task _ | .connect _ _ task _ => task
  | _ => none

inductive StdioUse (L T W P F : Type) where
  | loop (use : LoopUse L T W P F)
  | poller (action : PollAction L T W P F (EpollReport F))
  | main (fd : Int) (attach arm : Option Errno)
  | update (answers : StdioAnswers)

def Stdio.act (own : StdioTask L T F) (s : Stdio L T W P F) :
    StdioUse L T W P F → Option (Stdio L T W P F)
  | .loop use =>
      -- where the loop calls the reader's task the action is `update`
      if use.about = some own.task then none
      else (useLoop s.poller.world use).bind fun next =>
        if use.tests.any (fun up => inCall next up own.task) then none else some (s.setWorld next)
  | .poller (.loop _) => none
  | .poller action =>
      if action.object = some own.file ∨ action.waiter = some own.task then none
      else (epollAct s.poller action).map s.setPoller
  | .main fd attach arm => if s.opened then none else stdioMain own fd attach arm s
  | .update answers =>
      (passTest s.poller.world own.up).bind fun called =>
        if inCall called own.up own.task then
          (updateStdio own (s.setWorld called) answers).map fun returned =>
            returned.setWorld (returned.poller.world.setMain own.up
              ((returned.poller.world.main own.up).map (fun frame => ⟨frame.firstRun, none⟩)))
        else none

def Attachable (kernel : Epoll F) (fd : Int) (attach : Option Errno) : Prop :=
  attach = none ∧ (fd ≠ -1 → kernel fd = none) ∨ attach = some .eperm

/-- No other code stops the loop and no other poller holds it. The calls of `epoll_ctl` succeed,
but for one that attaches the reader, and `epoll_wait` returns what it can. -/
def Stdio.Proper (own : StdioTask L T F) (s : Stdio L T W P F) : StdioUse L T W P F → Prop
  | .loop use => use.Live s.poller.world ∧ use ≠ .stop own.up ∧
      ∀ next, useLoop s.poller.world use = some next → (next.loop s.poller.up).txHolder = s.poller.holder
  | .poller action => Libtx.Proper Reported s.poller action ∧ Succeeds s.poller action
  | .main fd attach arm => Attachable s.poller.backend.kernel fd attach ∧ arm = none ∧
      (s.poller.filp own.file).live = false ∧ (s.poller.world.task own.task).txFlags.idle = true
  | .update answers => answers.arm = none

end Libtx
