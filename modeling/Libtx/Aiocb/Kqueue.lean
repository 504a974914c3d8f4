import Libtx.Aiocb.Aiocb

/-! The backend of `tx_kqueue.cpp`, built without `DISABLE_MULTI_POLLER`, and the kqueue it
talks to. -/

namespace Libtx

/-- The filters registered for a descriptor: `EVFILT_READ` and `EVFILT_WRITE`, each with the
object that it reports. All of them are `EV_ONESHOT`. -/
abbrev Kqueue (F : Type) := Int → Side → Option F

inductive Change (F : Type) where
  | add (udata : F)
  | delete

structure KqueueReport (F : Type) where
  fd : Int
  filter : Side
  udata : F
  deriving DecidableEq, Repr

variable {L T W P F : Type}

def Kqueue.set (kernel : Kqueue F) (fd : Int) (side : Side) (udata : Option F) : Kqueue F :=
  Function.update kernel fd (Function.update (kernel fd) side udata)

def keventEach (kernel : Kqueue F) (fd : Int) : List (Side × Change F) → Option Errno × Kqueue F
  | [] => (none, kernel)
  | (side, .add udata) :: rest => keventEach (kernel.set fd side (some udata)) fd rest
  | (side, .delete) :: rest =>
      match kernel fd side with
      | none => (some .enoent, kernel)
      | some _ => keventEach (kernel.set fd side none) fd rest

/-- `kevent` with changes to the filters of one descriptor. `answer` is a failure that the
arguments do not explain. -/
def kevent (answer : Option Errno) (kernel : Kqueue F) (fd : Int) (changes : List (Side × Change F)) :
    Option Errno × Kqueue F :=
  match answer with
  | some errno => (some errno, kernel)
  | none => keventEach kernel fd changes

def kqueueWait (kernel : Kqueue F) (reports : List (KqueueReport F)) : Kqueue F := fun fd side =>
  if (fd, side) ∈ reports.map (fun report => (report.fd, report.filter)) then none else kernel fd side

abbrev KqueuePoller (L T W P F : Type) := Poller L T W P F (Backend T P (Kqueue F))

def TxAiocb.deletes (file : TxAiocb T) : List (Side × Change F) :=
  ([Side.input, .output].filter file.txFlags.poll).map (fun side => (side, .delete))

variable [DecidableEq L] [DecidableEq P] [DecidableEq F]

def txKqueuePoll (answer : Option Errno) (side : Side) (s : KqueuePoller L T W P F) (filp : F) :
    Option (KqueuePoller L T W P F) :=
  let file := s.filp filp
  if file.txFlags.poll side = false then
    if file.live then
      match kevent answer s.backend.kernel file.txFd [(side, .add filp)] with
      | (none, kernel) => some (((s.setKernel kernel).count 1).setPoll filp side true).hold
      | (some _, kernel) => some (s.setKernel kernel).hold
    else none
  else some s.hold

def txKqueuePollout (answer : Option Errno) (s : KqueuePoller L T W P F) (filp : F) :
    Option (KqueuePoller L T W P F) :=
  txKqueuePoll answer .output s filp

def txKqueuePollin (answer : Option Errno) (s : KqueuePoller L T W P F) (filp : F) :
    Option (KqueuePoller L T W P F) :=
  txKqueuePoll answer .input s filp

omit [DecidableEq L] [DecidableEq P] in
def txKqueueAttach (s : KqueuePoller L T W P F) (filp : F) : KqueuePoller L T W P F :=
  let flags := (s.filp filp).txFlags
  if flags.attached = flags.detached then
    s.setFlags filp (fun flags => { flags with attached := true, detached := false })
  else s

/-- The kernel part of `tx_kqueue_detach`: one call takes away every filter of the object. -/
def txKqueueDelete (answer : Option Errno) (s : KqueuePoller L T W P F) (filp : F) :
    KqueuePoller L T W P F :=
  let file := s.filp filp
  if file.live then
    let called := if (file.deletes : List (Side × Change F)).isEmpty then (none, s.backend.kernel)
      else kevent answer s.backend.kernel file.txFd file.deletes
    match called with
    | (none, kernel) => (s.setKernel kernel).setFlags filp (fun flags => { flags with detached := true })
    | (some _, kernel) => s.setKernel kernel
  else s

/-- One reference is given back, whatever number of filters was taken away. -/
def txKqueueDetach (answer : Option Errno) (s : KqueuePoller L T W P F) (filp : F) :
    KqueuePoller L T W P F :=
  let deleted := txKqueueDelete answer s filp
  if (s.filp filp).txFlags.poll .input ∨ (s.filp filp).txFlags.poll .output then
    (deleted.count (-1)).release
  else deleted

def kqueueOps (answer : Option Errno) : TxPollOp (KqueuePoller L T W P F) F where
  txPollout := txKqueuePollout answer
  txAttach := fun s filp => some (txKqueueAttach s filp)
  txPollin := txKqueuePollin answer
  txDetach := fun s filp => some (txKqueueDetach answer s filp)

variable [DecidableEq T] [DecidableEq W]

def txKqueuePollingOne (s : KqueuePoller L T W P F) (report : KqueueReport F) : KqueuePoller L T W P F :=
  let filp := report.udata
  let side := report.filter
  let counted := s.count (-1)
  let activated := taskActiveBy counted ((s.filp filp).txFilter side) filp
  ((activated.setAble filp side true).setFilter filp side none).setPoll filp side false

def txKqueuePolling (s : KqueuePoller L T W P F) (reports : List (KqueueReport F)) :
    KqueuePoller L T W P F :=
  let waited := s.setKernel (kqueueWait s.backend.kernel reports)
  let served := reports.foldl txKqueuePollingOne waited
  served.release.relink

def kqueueAct (s : KqueuePoller L T W P F) :
    PollAction L T W P F (KqueueReport F) → Option (KqueuePoller L T W P F) :=
  s.act kqueueOps txKqueuePolling

end Libtx
