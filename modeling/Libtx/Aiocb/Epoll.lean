import Libtx.Aiocb.Aiocb

/-! The backend of `tx_epoll.cpp`, built without `DISABLE_MULTI_POLLER`, and the epoll
instance it talks to. -/

namespace Libtx

structure EpollEvent (F : Type) where
  mask : Side → Bool
  oneshot : Bool
  ptr : F

/-- What an epoll instance keeps for a descriptor; a report takes a oneshot mask away. -/
structure Registration (F : Type) where
  event : EpollEvent F
  disarmed : Bool

abbrev Epoll (F : Type) := Int → Option (Registration F)

inductive EpollOp where
  | add
  | mod
  | del
  deriving DecidableEq, Repr

variable {L T W P F : Type}

def Registration.armed (registration : Registration F) (side : Side) : Bool :=
  registration.event.mask side && !registration.disarmed

/-- `answer` is a failure that the arguments do not explain. -/
def epollCtl (answer : Option Errno) (kernel : Epoll F) (op : EpollOp) (fd : Int) (event : EpollEvent F) :
    Except Errno (Epoll F) :=
  match answer, op, kernel fd with
  | some errno, _, _ => .error errno
  | none, .add, none => .ok (Function.update kernel fd (some ⟨event, false⟩))
  | none, .add, some _ => .error .eexist
  | none, .mod, some _ => .ok (Function.update kernel fd (some ⟨event, false⟩))
  | none, .del, some _ => .ok (Function.update kernel fd none)
  | none, _, none => .error .enoent

/-- One element of `events`: `fd` is the descriptor it is about, `answer` what the system
says when the object is armed again. -/
structure EpollReport (F : Type) where
  fd : Int
  ptr : F
  mask : Side → Bool
  epollhup : Bool
  epollerr : Bool
  answer : Option Errno

def epollWait (kernel : Epoll F) (reports : List (EpollReport F)) : Epoll F := fun fd =>
  (kernel fd).map (fun registration =>
    if registration.event.oneshot ∧ fd ∈ reports.map EpollReport.fd then
      { registration with disarmed := true }
    else registration)

abbrev EpollPoller (L T W P F : Type) := Poller L T W P F (Backend T P (Epoll F))

variable [DecidableEq L] [DecidableEq P] [DecidableEq F]

def txEpollPoll (answer : Option Errno) (side : Side) (s : EpollPoller L T W P F) (filp : F) :
    Option (EpollPoller L T W P F) :=
  let file := s.filp filp
  if file.txFlags.poll side = false then
    if file.live then
      let event : EpollEvent F := ⟨Function.update file.txFlags.poll side true, true, filp⟩
      match epollCtl answer s.backend.kernel .mod file.txFd event with
      | .ok kernel =>
          let counted := (s.setKernel kernel).count (if file.txFlags.poll side.other then 0 else 1)
          some (counted.setPoll filp side true).hold
      | .error _ => some s.hold
    else none
  else some s.hold

def txEpollPollout (answer : Option Errno) (s : EpollPoller L T W P F) (filp : F) :
    Option (EpollPoller L T W P F) :=
  txEpollPoll answer .output s filp

def txEpollPollin (answer : Option Errno) (s : EpollPoller L T W P F) (filp : F) :
    Option (EpollPoller L T W P F) :=
  txEpollPoll answer .input s filp

omit [DecidableEq L] [DecidableEq P] in
def txEpollAttach (answer : Option Errno) (s : EpollPoller L T W P F) (filp : F) :
    EpollPoller L T W P F :=
  let file := s.filp filp
  if file.txFlags.attached = file.txFlags.detached then
    let event : EpollEvent F := ⟨fun _ => false, false, filp⟩
    match epollCtl answer s.backend.kernel .add file.txFd event with
    | .ok kernel =>
        (s.setKernel kernel).setFlags filp
          (fun flags => { flags with detached := false, attached := true })
    | .error .eperm => s.setFlags filp (fun flags => { flags with able := fun _ => true })
    | .error _ => s
  else s

def txEpollDelete (answer : Option Errno) (s : EpollPoller L T W P F) (filp : F) :
    EpollPoller L T W P F :=
  let file := s.filp filp
  if file.live then
    let event : EpollEvent F := ⟨fun _ => false, false, filp⟩
    match epollCtl answer s.backend.kernel .del file.txFd event with
    | .ok kernel => (s.setKernel kernel).setFlags filp (fun flags => { flags with detached := true })
    | .error _ => s
  else s

/-- The flags of the armed directions stay set. -/
def txEpollDetach (answer : Option Errno) (s : EpollPoller L T W P F) (filp : F) :
    EpollPoller L T W P F :=
  let deleted := txEpollDelete answer s filp
  if (s.filp filp).txFlags.poll .input ∨ (s.filp filp).txFlags.poll .output then
    (deleted.count (-1)).release
  else deleted

def epollOps (answer : Option Errno) : TxPollOp (EpollPoller L T W P F) F where
  txPollout := txEpollPollout answer
  txAttach := fun s filp => some (txEpollAttach answer s filp)
  txPollin := txEpollPollin answer
  txDetach := fun s filp => some (txEpollDetach answer s filp)

omit [DecidableEq L] [DecidableEq P] in
/-- The flags it sets are those it has just read. -/
def txEpollPollit (answer : Option Errno) (s : EpollPoller L T W P F) (filp : F) :
    EpollPoller L T W P F :=
  let file := s.filp filp
  let event : EpollEvent F := ⟨file.txFlags.poll, true, filp⟩
  match epollCtl answer s.backend.kernel .mod file.txFd event with
  | .ok kernel => (s.setKernel kernel).count 1
  | .error _ => s

variable [DecidableEq T] [DecidableEq W]

def Poller.wake {B : Type} (s : Poller L T W P F B) (side : Side) (filp : F) : Poller L T W P F B :=
  (taskActiveBy s ((s.filp filp).txFilter side) filp).setFilter filp side none

/-- The branch of `tx_epoll_polling` for one direction; the waiter is activated between
the two writes of the flags. -/
def txEpollServe (side : Side) (s : EpollPoller L T W P F) (filp : F) : EpollPoller L T W P F :=
  let cleared := s.setPoll filp side false
  let activated := taskActiveBy cleared ((s.filp filp).txFilter side) filp
  (activated.setAble filp side true).setFilter filp side none

def txEpollHangup (s : EpollPoller L T W P F) (filp : F) : EpollPoller L T W P F :=
  let cleared := s.setFlags filp
    (fun flags => { flags with poll := fun _ => false, able := fun _ => true })
  (cleared.wake .output filp).wake .input filp

def txEpollEvents (s : EpollPoller L T W P F) (report : EpollReport F) : EpollPoller L T W P F :=
  let written := if report.mask .output then txEpollServe .output s report.ptr else s
  if report.mask .input then txEpollServe .input written report.ptr else written

def txEpollPollingOne (s : EpollPoller L T W P F) (report : EpollReport F) : EpollPoller L T W P F :=
  let counted := s.count (-1)
  if report.epollhup ∨ report.epollerr then txEpollHangup counted report.ptr
  else
    let served := txEpollEvents counted report
    let flags := (served.filp report.ptr).txFlags
    if flags.poll .input ∨ flags.poll .output then txEpollPollit report.answer served report.ptr
    else served

/-- `reports` is what `epoll_wait` returns; it is empty when the wait fails. -/
def txEpollPolling (s : EpollPoller L T W P F) (reports : List (EpollReport F)) :
    EpollPoller L T W P F :=
  let waited := s.setKernel (epollWait s.backend.kernel reports)
  let served := reports.foldl txEpollPollingOne waited
  served.release.relink

def epollAct (s : EpollPoller L T W P F) :
    PollAction L T W P F (EpollReport F) → Option (EpollPoller L T W P F) :=
  s.act epollOps txEpollPolling

end Libtx
