import Mathlib.Logic.Function.Basic
import Mathlib.Data.List.Basic

/-! The threads of `netcat-win32.cpp`: each takes completions from one port and runs `callback`.

A step is one system call, or one access to the memory that the threads share, so the steps of
the threads and of the system interleave in any order. What a system call answers is an
argument. -/

namespace Libtx

def THREAD_COUNT : Nat := 2

def MAX_BUFF_SIZE : Nat := 8192

/-- The ways to build it without `ENABLE_DATA_COPY`, under which both threads copy to `_dummy`: with no
option, with `DISABLE_NONBLOCK` or with `ENABLE_ZERO_COPY`. -/
inductive CatBuild where
  | plain
  | disableNonblock
  | enableZeroCopy
  deriving DecidableEq, Repr

inductive IoData where
  | recv
  | send
  deriving DecidableEq, Repr

inductive IoAction where
  | zeroRead
  | coolRead
  | byteWrite
  deriving DecidableEq, Repr

/-- An overlapped operation that has been started: `WSARecv` with its `len`, `WSASend` with its
`len` and the bytes of it that have gone. -/
inductive Operation where
  | wsaRecv (len : Nat)
  | wsaSend (len gone : Nat)
  deriving DecidableEq, Repr

inductive Packet where
  | io (data : IoData) (ok : Bool) (transfer : Nat)
  | quit
  deriving DecidableEq, Repr

/-- Where a thread stands in `callback`; `nRet` is as in the source. -/
inductive Point where
  | switch (nRet : Nat)
  | recvFirst
  | writeFile (nRet : Nat)
  | recvMore
  | postRecv
  | startRecv
  | readFile
  | postSend (len : Nat)
  | startSend (len : Nat)
  deriving DecidableEq, Repr

/-- `leave` tells whether the thread leaves its loop after `do_post_quit`. -/
inductive Worker where
  | waiting
  | callback (data : IoData) (point : Point)
  | quitting (left : Nat) (leave : Bool)
  | leaving
  deriving DecidableEq, Repr

inductive Received where
  | data (bytes : List UInt8)
  | wouldBlock
  | failed
  deriving DecidableEq, Repr

/-- `taken` are the bytes that came into a block's buffer: those received from the socket, or
those read from the standard input. `given` are the bytes that left it: those written to the
standard output, or those that the socket took. `quits` tells whether a `do_post_quit` has begun
and `refused` whether an operation could not be started. No step reads these four. -/
structure NetcatWin32 (Th : Type) where
  operation : IoData → List Operation
  port : List Packet
  worker : Th → Worker
  action : IoData → IoAction
  aiobuf : IoData → List UInt8
  exited : Bool
  taken : IoData → List UInt8
  given : IoData → List UInt8
  quits : Bool
  refused : Bool

inductive CatStep (Th : Type) where
  | transmit (data : IoData) (count : Nat)
  | complete (data : IoData) (answer : Option (List UInt8))
  | dequeue (th : Th) (place : Nat)
  | failed (th : Th)
  | switch (th : Th)
  | recv (th : Th) (answer : Received)
  | writeFile (th : Th) (transfer : Option Nat)
  | readFile (th : Th) (answer : Option (List UInt8))
  | mark (th : Th)
  | start (th : Th) (started : Bool)
  | postQuit (th : Th)
  | exitProcess (th : Th)

variable {Th : Type}

def CatBuild.recvAction : CatBuild → IoAction
  | .enableZeroCopy => .zeroRead
  | _ => .coolRead

def CatBuild.recvLen : CatBuild → Nat
  | .enableZeroCopy => 0
  | _ => MAX_BUFF_SIZE

def fill (buffer bytes : List UInt8) : List UInt8 := bytes ++ buffer.drop bytes.length

def NetcatWin32.start (build : CatBuild) (buffer : IoData → List UInt8) : NetcatWin32 Th where
  operation := fun data => match data with
    | .recv => [.wsaRecv build.recvLen]
    | .send => [.wsaSend 0 0]
  port := []
  worker := fun _ => .waiting
  action := fun data => match data with
    | .recv => build.recvAction
    | .send => .byteWrite
  aiobuf := buffer
  exited := false
  taken := fun _ => []
  given := fun _ => []
  quits := false
  refused := false

def NetcatWin32.take (s : NetcatWin32 Th) (data : IoData) (bytes : List UInt8) : NetcatWin32 Th :=
  { s with
    aiobuf := Function.update s.aiobuf data (fill (s.aiobuf data) bytes)
    taken := Function.update s.taken data (s.taken data ++ bytes) }

def NetcatWin32.give (s : NetcatWin32 Th) (data : IoData) (skip count : Nat) : NetcatWin32 Th :=
  { s with
    given := Function.update s.given data (s.given data ++ ((s.aiobuf data).drop skip).take count) }

def NetcatWin32.setOperation (s : NetcatWin32 Th) (data : IoData) (operation : List Operation) :
    NetcatWin32 Th :=
  { s with operation := Function.update s.operation data operation }

def NetcatWin32.post (s : NetcatWin32 Th) (packet : Packet) : NetcatWin32 Th :=
  { s with port := s.port ++ [packet] }

variable [DecidableEq Th]

def NetcatWin32.setWorker (s : NetcatWin32 Th) (th : Th) (worker : Worker) : NetcatWin32 Th :=
  { s with worker := Function.update s.worker th worker }

def NetcatWin32.quit (s : NetcatWin32 Th) (th : Th) (leave : Bool) : NetcatWin32 Th :=
  { s.setWorker th (.quitting THREAD_COUNT leave) with quits := true }

def NetcatWin32.loop (s : NetcatWin32 Th) (th : Th) (data : IoData) (nRet : Nat) : NetcatWin32 Th :=
  if 0 < nRet then s.setWorker th (.callback data (.writeFile nRet)) else s.quit th false

/-- The switch of `callback`; its `assert` fails where a zero read comes with bytes. -/
def NetcatWin32.switch (s : NetcatWin32 Th) (th : Th) (data : IoData) (nRet : Nat) :
    Option (NetcatWin32 Th) :=
  match s.action data with
  | .zeroRead => if nRet = 0 then some (s.setWorker th (.callback data .recvFirst)) else none
  | .coolRead => some (s.loop th data nRet)
  | .byteWrite => some (s.setWorker th (.callback data .readFile))

/-- The two calls of `recv`, which differ by what they do when there is nothing to receive -/
def NetcatWin32.recv (s : NetcatWin32 Th) (th : Th) (data : IoData) (blocked : NetcatWin32 Th) :
    Received → Option (NetcatWin32 Th)
  | .data bytes =>
      if bytes.length ≤ MAX_BUFF_SIZE then some ((s.take data bytes).loop th data bytes.length) else none
  | .wouldBlock => some blocked
  | .failed => some (s.quit th false)

def NetcatWin32.written (build : CatBuild) (s : NetcatWin32 Th) (th : Th) (data : IoData) (nRet : Nat) :
    Option Nat → Option (NetcatWin32 Th)
  | none => some (s.quit th false)
  | some transfer =>
      if nRet < transfer then none
      else if transfer < nRet then some ((s.give data 0 transfer).quit th false)
      else
        let next := match build with
          | .disableNonblock => .postRecv
          | _ => .recvMore
        some ((s.give data 0 transfer).setWorker th (.callback data next))

def NetcatWin32.input (s : NetcatWin32 Th) (th : Th) (data : IoData) :
    Option (List UInt8) → Option (NetcatWin32 Th)
  | none => some (s.quit th false)
  | some bytes =>
      if MAX_BUFF_SIZE < bytes.length then none
      else if bytes = [] then some (s.quit th false)
      else some ((s.take data bytes).setWorker th (.callback data (.postSend bytes.length)))

/-- `WSARecv` and `WSASend`; when they fail nobody looks at what `do_post_recv` and `do_post_send`
return. -/
def NetcatWin32.begin (s : NetcatWin32 Th) (th : Th) (data : IoData) (operation : Operation)
    (started : Bool) : NetcatWin32 Th :=
  let returned := s.setWorker th .waiting
  if started then returned.setOperation data (s.operation data ++ [operation])
  else { returned with refused := true }

def NetcatWin32.complete (s : NetcatWin32 Th) (data : IoData) (answer : Option (List UInt8)) :
    Option (NetcatWin32 Th) :=
  match s.operation data, answer with
  | .wsaRecv len :: rest, some bytes =>
      if bytes.length ≤ len then
        some (((s.take data bytes).setOperation data rest).post (.io data true bytes.length))
      else none
  | .wsaSend len gone :: rest, some _ =>
      if gone = len then some ((s.setOperation data rest).post (.io data true len)) else none
  | _ :: rest, none => some ((s.setOperation data rest).post (.io data false 0))
  | [], _ => none

def NetcatWin32.transmit (s : NetcatWin32 Th) (data : IoData) (count : Nat) : Option (NetcatWin32 Th) :=
  match s.operation data with
  | .wsaSend len gone :: rest =>
      if gone + count ≤ len then
        some ((s.give data gone count).setOperation data (.wsaSend len (gone + count) :: rest))
      else none
  | _ => none

/-- `GetQueuedCompletionStatus` in the loop of `WorkerThread` -/
def NetcatWin32.dequeue (s : NetcatWin32 Th) (th : Th) (place : Nat) : Option (NetcatWin32 Th) :=
  (s.port[place]?).map fun packet =>
    let taken := { s with port := s.port.eraseIdx place }
    match packet with
    | .io data true transfer => taken.setWorker th (.callback data (.switch transfer))
    | .io _ false _ => taken.quit th true
    | .quit => taken.setWorker th .leaving

def NetcatWin32.running (build : CatBuild) (s : NetcatWin32 Th) : CatStep Th → Option (NetcatWin32 Th)
  | .transmit data count => s.transmit data count
  | .complete data answer => s.complete data answer
  | .dequeue th place => if s.worker th = .waiting then s.dequeue th place else none
  | .failed th => if s.worker th = .waiting then some (s.quit th true) else none
  | .switch th => match s.worker th with
      | .callback data (.switch nRet) => s.switch th data nRet
      | _ => none
  | .recv th answer => match s.worker th with
      | .callback data .recvFirst => s.recv th data (s.quit th false) answer
      | .callback data .recvMore => s.recv th data (s.setWorker th (.callback data .postRecv)) answer
      | _ => none
  | .writeFile th transfer => match s.worker th with
      | .callback data (.writeFile nRet) => s.written build th data nRet transfer
      | _ => none
  | .readFile th answer => match s.worker th with
      | .callback data .readFile => s.input th data answer
      | _ => none
  | .mark th => match s.worker th with
      | .callback data .postRecv =>
          some { s.setWorker th (.callback data .startRecv) with
            action := Function.update s.action data build.recvAction }
      | .callback data (.postSend len) =>
          some { s.setWorker th (.callback data (.startSend len)) with
            action := Function.update s.action data .byteWrite }
      | _ => none
  | .start th started => match s.worker th with
      | .callback data .startRecv => some (s.begin th data (.wsaRecv build.recvLen) started)
      | .callback data (.startSend len) => some (s.begin th data (.wsaSend len 0) started)
      | _ => none
  | .postQuit th => match s.worker th with
      | .quitting (left + 1) leave => some ((s.post .quit).setWorker th (.quitting left leave))
      | .quitting 0 leave => some (s.setWorker th (if leave then .leaving else .waiting))
      | _ => none
  | .exitProcess th => if s.worker th = .leaving then some { s with exited := true } else none

def NetcatWin32.act (build : CatBuild) (s : NetcatWin32 Th) (step : CatStep Th) :
    Option (NetcatWin32 Th) :=
  if s.exited then none else s.running build step

end Libtx
