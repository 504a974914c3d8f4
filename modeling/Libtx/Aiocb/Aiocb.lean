import Libtx.Loop.Task

/-! The objects of `tx_aiocb.cpp`, the poller they share and the loop it polls for.

The operations of every object are those of `_generic_fops`. A failed `TX_ASSERT` ends the
program; the checks that only print a warning change nothing and are left out. What a system
call answers is an argument: none when it succeeds. -/

namespace Libtx

inductive Errno where
  | eagain
  | einprogress
  | eperm
  | eexist
  | enoent
  | other
  deriving DecidableEq, Repr

inductive Side where
  | input
  | output
  deriving DecidableEq, Repr

def Side.other : Side → Side
  | .input => .output
  | .output => .input

/-- `poll` is `TX_POLLIN` and `TX_POLLOUT`, `able` is `TX_READABLE` and `TX_WRITABLE`. -/
@[ext] structure AioFlags where
  listen : Bool
  poll : Side → Bool
  able : Side → Bool
  attached : Bool
  detached : Bool

@[ext] structure TxAiocb (T : Type) where
  txFd : Int
  txFlags : AioFlags
  txFilter : Side → Option T

/-- `F` holds the addresses of objects, which are also the reasons of tasks. `calls` lists
the activations of waiters in order; no operation reads it. -/
structure Poller (L T W P F B : Type) where
  world : World L T W P F
  filp : F → TxAiocb T
  backend : B
  calls : List (T × F)

variable {L T W P F B K E S : Type}

structure TxPollOp (S F : Type) where
  txPollout : S → F → Option S
  txAttach : S → F → Option S
  txPollin : S → F → Option S
  txDetach : S → F → Option S

def TxPollOp.txPoll (ops : TxPollOp S F) : Side → S → F → Option S
  | .input => ops.txPollin
  | .output => ops.txPollout

def TxAiocb.live (file : TxAiocb T) : Bool := file.txFlags.attached && !file.txFlags.detached

def TxAiocb.fresh (fd : Int) : TxAiocb T where
  txFd := fd
  txFlags := ⟨false, fun _ => false, fun side => decide (side = .output), false, false⟩
  txFilter := fun _ => none

def txAiocbFini (ops : TxPollOp (Poller L T W P F B) F) (s : Poller L T W P F B) (filp : F) :
    Option (Poller L T W P F B) :=
  if (s.filp filp).txFd = -1 then some s else ops.txDetach s filp

def MAX_EVENTS : Nat := 10

/-- What `tx_epoll_t` and `tx_kqueue_t` hold; `kernel` is what the system keeps for them. -/
structure Backend (T P K : Type) where
  address : P
  epollRefcnt : Int
  pollTask : T
  kernel : K

def Poller.up (s : Poller L T W P F (Backend T P K)) : L := (s.world.task s.backend.pollTask).txLoop

def Poller.holder (s : Poller L T W P F (Backend T P K)) : Option P := (s.world.loop s.up).txHolder

def Poller.count (s : Poller L T W P F (Backend T P K)) (change : Int) :
    Poller L T W P F (Backend T P K) :=
  { s with backend := { s.backend with epollRefcnt := s.backend.epollRefcnt + change } }

def Poller.setKernel (s : Poller L T W P F (Backend T P K)) (kernel : K) :
    Poller L T W P F (Backend T P K) :=
  { s with backend := { s.backend with kernel := kernel } }

section Objects

variable [DecidableEq F]

def Poller.setFilp (s : Poller L T W P F B) (filp : F) (change : TxAiocb T → TxAiocb T) :
    Poller L T W P F B :=
  { s with filp := Function.update s.filp filp (change (s.filp filp)) }

def Poller.setFlags (s : Poller L T W P F B) (filp : F) (change : AioFlags → AioFlags) :
    Poller L T W P F B :=
  s.setFilp filp (fun file => { file with txFlags := change file.txFlags })

def Poller.setPoll (s : Poller L T W P F B) (filp : F) (side : Side) (value : Bool) :
    Poller L T W P F B :=
  s.setFlags filp (fun flags => { flags with poll := Function.update flags.poll side value })

def Poller.setAble (s : Poller L T W P F B) (filp : F) (side : Side) (value : Bool) :
    Poller L T W P F B :=
  s.setFlags filp (fun flags => { flags with able := Function.update flags.able side value })

def Poller.setFilter (s : Poller L T W P F B) (filp : F) (side : Side) (task : Option T) :
    Poller L T W P F B :=
  s.setFilp filp (fun file => { file with txFilter := Function.update file.txFilter side task })

def txUpdate (side : Side) (s : Poller L T W P F B) (filp : F) (len : Int) (errno : Errno) :
    Poller L T W P F B :=
  if len ≥ 0 then s
  else if errno = .eagain then s.setAble filp side false
  else s

def txOutcbUpdate (s : Poller L T W P F B) (filp : F) (len : Int) (errno : Errno) :
    Poller L T W P F B :=
  txUpdate .output s filp len errno

def txAincbUpdate (s : Poller L T W P F B) (filp : F) (len : Int) (errno : Errno) :
    Poller L T W P F B :=
  txUpdate .input s filp len errno

def txAiocbInit (ops : TxPollOp (Poller L T W P F B) F) (s : Poller L T W P F B) (filp : F) (fd : Int) :
    Option (Poller L T W P F B) :=
  let written := s.setFilp filp (fun _ => TxAiocb.fresh fd)
  if fd = -1 then some written else ops.txAttach written filp

def txListenInit (ops : TxPollOp (Poller L T W P F B) F) (s : Poller L T W P F B) (filp : F) (fd : Int) :
    Option (Poller L T W P F B) :=
  (txAiocbInit ops s filp fd).map
    (fun next => next.setFlags filp (fun flags => { flags with listen := true }))

variable [DecidableEq T]

def genericCancel (side : Side) (s : Poller L T W P F B) (filp : F) (verify : Option T) :
    Poller L T W P F B :=
  if verify = (s.filp filp).txFilter side then s.setFilter filp side none else s

def genericCancelOut (s : Poller L T W P F B) (filp : F) (verify : Option T) : Poller L T W P F B :=
  genericCancel .output s filp verify

def genericCancelIn (s : Poller L T W P F B) (filp : F) (verify : Option T) : Poller L T W P F B :=
  genericCancel .input s filp verify

def txOutcbCancel (s : Poller L T W P F B) (filp : F) (task : Option T) : Poller L T W P F B :=
  genericCancelOut s filp task

def txAincbStop (s : Poller L T W P F B) (filp : F) (task : Option T) : Poller L T W P F B :=
  genericCancelIn s filp task

end Objects

section Tasks

variable [DecidableEq L] [DecidableEq T] [DecidableEq W]

def taskActiveBy (s : Poller L T W P F B) (task : Option T) (filp : F) : Poller L T W P F B :=
  { s with
    world := txTaskActive s.world task (some filp)
    calls := s.calls ++ task.toList.map (fun task => (task, filp)) }

variable [DecidableEq F]

/-- The slot is written only when it holds another task, which leaves the same value. -/
def genericActive (ops : TxPollOp (Poller L T W P F B) F) (side : Side) (s : Poller L T W P F B)
    (filp : F) (task : Option T) : Option (Poller L T W P F B) :=
  if (s.filp filp).txFlags.able side then some (taskActiveBy s task filp)
  else
    let waiting := s.setFilter filp side task
    if (s.filp filp).txFlags.poll side then some waiting else ops.txPoll side waiting filp

def genericActiveOut (ops : TxPollOp (Poller L T W P F B) F) (s : Poller L T W P F B) (filp : F)
    (task : Option T) : Option (Poller L T W P F B) :=
  genericActive ops .output s filp task

def genericActiveIn (ops : TxPollOp (Poller L T W P F B) F) (s : Poller L T W P F B) (filp : F)
    (task : Option T) : Option (Poller L T W P F B) :=
  genericActive ops .input s filp task

/-- The argument `flags` of the source is not read. -/
def txOutcbPrepare (ops : TxPollOp (Poller L T W P F B) F) (s : Poller L T W P F B) (filp : F)
    (task : Option T) : Option (Poller L T W P F B) :=
  genericActiveOut ops s filp task

def txAincbActive (ops : TxPollOp (Poller L T W P F B) F) (s : Poller L T W P F B) (filp : F)
    (task : Option T) : Option (Poller L T W P F B) :=
  genericActiveIn ops s filp task

def txAiocbConnect (ops : TxPollOp (Poller L T W P F B) F) (s : Poller L T W P F B) (filp : F)
    (error : Option Errno) (task : Option T) : Option (Poller L T W P F B) :=
  if error = some .einprogress then
    genericActiveOut ops (s.setFlags filp (fun flags => { flags with able := fun _ => false })) filp task
  else
    let written := s.setAble filp .output true
    let read := if error = none then written else written.setAble filp .input true
    some (taskActiveBy read task filp)

def Poller.hold [DecidableEq P] (s : Poller L T W P F (Backend T P K)) :
    Poller L T W P F (Backend T P K) :=
  if 0 < s.backend.epollRefcnt ∧ s.holder = none then
    { s with world := setHolder s.world s.up (some s.backend.address) }
  else s

def Poller.release [DecidableEq P] (s : Poller L T W P F (Backend T P K)) :
    Poller L T W P F (Backend T P K) :=
  if s.holder = some s.backend.address ∧ s.backend.epollRefcnt = 0 then
    { s with world := setHolder s.world s.up none }
  else s

def Poller.relink (s : Poller L T W P F (Backend T P K)) : Poller L T W P F (Backend T P K) :=
  { s with world := txPollActive s.world s.backend.pollTask }

/-- What users of a poller and its loop do. `loop` is any step of the loop or its other tasks. -/
inductive PollAction (L T W P F E : Type) where
  | init (filp : F) (fd : Int) (answer : Option Errno)
  | listen (filp : F) (fd : Int) (answer : Option Errno)
  | fini (filp : F) (answer : Option Errno)
  | poll (side : Side) (filp : F) (answer : Option Errno)
  | active (side : Side) (filp : F) (task : Option T) (answer : Option Errno)
  | cancel (side : Side) (filp : F) (verify : Option T)
  | update (side : Side) (filp : F) (len : Int) (errno : Errno)
  | connect (filp : F) (error : Option Errno) (task : Option T) (answer : Option Errno)
  | polling (events : List E)
  | loop (next : World L T W P F)

def Poller.act (ops : Option Errno → TxPollOp (Poller L T W P F B) F)
    (polling : Poller L T W P F B → List E → Poller L T W P F B) (s : Poller L T W P F B) :
    PollAction L T W P F E → Option (Poller L T W P F B)
  | .init filp fd answer => txAiocbInit (ops answer) s filp fd
  | .listen filp fd answer => txListenInit (ops answer) s filp fd
  | .fini filp answer => txAiocbFini (ops answer) s filp
  | .poll .input filp answer => (ops answer).txPollin s filp
  | .poll .output filp answer => (ops answer).txPollout s filp
  | .active .input filp task answer => txAincbActive (ops answer) s filp task
  | .active .output filp task answer => txOutcbPrepare (ops answer) s filp task
  | .cancel .input filp verify => some (txAincbStop s filp verify)
  | .cancel .output filp verify => some (txOutcbCancel s filp verify)
  | .update .input filp len errno => some (txAincbUpdate s filp len errno)
  | .update .output filp len errno => some (txOutcbUpdate s filp len errno)
  | .connect filp error task answer => txAiocbConnect (ops answer) s filp error task
  | .polling events => some (polling s events)
  | .loop next => some { s with world := next }

end Tasks

end Libtx
