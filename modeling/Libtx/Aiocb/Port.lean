import Libtx.Aiocb.Epoll

/-! The backend of `tx_completion_port.cpp`, and the completion port it waits on.

An object that is attached has a `tx_overlapped_t`, which stays allocated while an operation
of it is in flight. The port holds the operations that were started and not yet told; it
tells each once. What a system call answers is an argument, as is the address that `new`
gives. The copy of the data to send and the extension functions are left out. `tx_outcb_update`
is not called in this build. -/

namespace Libtx

inductive Start where
  | done
  | pending
  | failed
  deriving DecidableEq, Repr

structure TxOverlapped (F : Type) where
  txRefcnt : Int
  txNewfd : Int
  txFilp : Option F
  deriving DecidableEq, Repr

/-- `txPrivp` is the field of the objects, `lapped` what stands at an address, none where
nothing is allocated, and `inflight` what the port still has to tell: an address and
whether it is `tx_send` or `tx_recv`. `created` and `deleted` list the uses of `new` and
`delete`; no operation reads them. -/
structure Port (T F O : Type) where
  portPoll : T
  portList : List O
  txPrivp : F → Option O
  lapped : O → Option (TxOverlapped F)
  inflight : List (O × Side)
  created : List O
  deleted : List O

abbrev PortPoller (L T W P F O : Type) := Poller L T W P F (Port T F O)

variable {L T W P F O : Type}

def Poller.onPort (s : PortPoller L T W P F O) (change : Port T F O → Port T F O) :
    PortPoller L T W P F O :=
  { s with backend := change s.backend }

def Poller.olaped (s : PortPoller L T W P F O) (filp : F) : Option (O × TxOverlapped F) :=
  (s.backend.txPrivp filp).bind fun address =>
    (s.backend.lapped address).map fun olaped => (address, olaped)

section Memory

variable [DecidableEq O]

def Poller.setLapped (s : PortPoller L T W P F O) (address : O) (olaped : TxOverlapped F) :
    PortPoller L T W P F O :=
  s.onPort (fun port => { port with lapped := Function.update port.lapped address (some olaped) })

def Poller.ref (s : PortPoller L T W P F O) (address : O) (olaped : TxOverlapped F) (side : Side) :
    PortPoller L T W P F O :=
  (s.setLapped address { olaped with txRefcnt := olaped.txRefcnt + 1 }).onPort
    (fun port => { port with inflight := (address, side) :: port.inflight })

def Poller.deleteLapped (s : PortPoller L T W P F O) (address : O) : PortPoller L T W P F O :=
  s.onPort (fun port =>
    { port with
      portList := port.portList.erase address
      lapped := Function.update port.lapped address none
      deleted := port.deleted ++ [address] })

def Poller.unref (s : PortPoller L T W P F O) (address : O) (olaped : TxOverlapped F) :
    PortPoller L T W P F O :=
  if olaped.txRefcnt - 1 = 0 then s.deleteLapped address
  else s.setLapped address { olaped with txRefcnt := olaped.txRefcnt - 1 }

end Memory

section Objects

variable [DecidableEq F]

def Poller.setPrivp (s : PortPoller L T W P F O) (filp : F) (address : Option O) :
    PortPoller L T W P F O :=
  s.onPort (fun port => { port with txPrivp := Function.update port.txPrivp filp address })

def txCompletionPortAttach [DecidableEq O] (fresh : O) (s : PortPoller L T W P F O) (filp : F) :
    PortPoller L T W P F O :=
  let file := s.filp filp
  if file.txFlags.attached = false ∧ file.txFlags.detached = false then
    let flagged := s.setFlags filp (fun flags => { flags with attached := true })
    let linked := (flagged.setPrivp filp (some fresh)).onPort (fun port =>
      { port with portList := fresh :: port.portList, created := port.created ++ [fresh] })
    linked.setLapped fresh ⟨1, -1, some filp⟩
  else s

def txCompletionPortDetach [DecidableEq O] (s : PortPoller L T W P F O) (filp : F) :
    Option (PortPoller L T W P F O) :=
  if (s.filp filp).live then
    (s.olaped filp).map fun olaped =>
      let flagged := s.setFlags filp (fun flags => { flags with detached := true })
      (flagged.setPrivp filp none).unref olaped.1 { olaped.2 with txFilp := none }
  else some s

/-- `tx_completion_port_pollout` arms nothing. -/
def txCompletionPortPollout (s : PortPoller L T W P F O) (filp : F) : Option (PortPoller L T W P F O) :=
  if (s.filp filp).txFlags.poll .output = false then
    if (s.filp filp).live then some s else none
  else some s

def txCompletionPortAccept [DecidableEq O] (s : PortPoller L T W P F O) (filp : F) :
    Option (Int × PortPoller L T W P F O) :=
  let flags := (s.filp filp).txFlags
  if flags.listen = true ∧ flags.able .input = true then
    (s.olaped filp).map fun olaped =>
      let read := s.setAble filp .input false
      (olaped.2.txNewfd, read.setLapped olaped.1 { olaped.2 with txNewfd := -1 })
  else some (-1, s)

end Objects

section Tasks

variable [DecidableEq L] [DecidableEq T] [DecidableEq W] [DecidableEq F]

def portServe (side : Side) (s : PortPoller L T W P F O) (filp : F) : PortPoller L T W P F O :=
  ((s.setPoll filp side false).setAble filp side true).wake side filp

variable [DecidableEq O]

def portStart (side : Side) (s : PortPoller L T W P F O) (filp : F) (address : O)
    (olaped : TxOverlapped F) : Option (PortPoller L T W P F O) :=
  let flagged := match side with
    | .output => s.setAble filp .output false
    | .input => s
  if olaped.txRefcnt + 1 < 4 then some ((flagged.setPoll filp side true).ref address olaped side) else none

/-- `sent` is what `send` answers, `memlock` is `TX_MEMLOCK`. -/
def txCompletionPortSendout (answer : Start) (sent : Int) (memlock : Bool) (len : Nat)
    (s : PortPoller L T W P F O) (filp : F) : Option (Int × PortPoller L T W P F O) :=
  if (s.filp filp).txFlags.poll .output = false then
    if (s.filp filp).live = true ∧ 0 < len then
      if 0 < sent then some (sent, s)
      else (s.olaped filp).bind fun olaped =>
        if memlock = true ∨ len ≤ 8192 then
          if answer = .failed then some (-1, portServe .output s filp)
          else (portStart .output s filp olaped.1 olaped.2).map fun next => ((len : Int), next)
        else some (-1, s)
    else none
  else some (-1, s)

def txOutcbWrite (answer : Start) (sent : Int) (memlock : Bool) (len : Nat) (s : PortPoller L T W P F O)
    (filp : F) : Option (Int × PortPoller L T W P F O) :=
  txCompletionPortSendout answer sent memlock (if len < 8192 then len else 8192) s filp

def WSAEINPROGRESS : Int := 10036

def txCompletionPortConnect (answer : Start) (s : PortPoller L T W P F O) (filp : F) :
    Option (Int × PortPoller L T W P F O) :=
  if (s.filp filp).txFlags.poll .output = false then
    if (s.filp filp).live then
      (s.olaped filp).bind fun olaped =>
        match answer with
        | .failed => some (-1, s)
        | .done => (portStart .output s filp olaped.1 olaped.2).map fun next => (0, next)
        | .pending => (portStart .output s filp olaped.1 olaped.2).map fun next => (-WSAEINPROGRESS, next)
    else none
  else some (-1, s)

/-- `newfd` is the socket for `AcceptEx`, which always starts. -/
def txCompletionPortPollin (answer : Start) (newfd : Int) (s : PortPoller L T W P F O) (filp : F) :
    Option (PortPoller L T W P F O) :=
  let flags := (s.filp filp).txFlags
  if flags.poll .input = false then
    if (s.filp filp).live then
      (s.olaped filp).bind fun olaped =>
        if flags.listen then portStart .input s filp olaped.1 { olaped.2 with txNewfd := newfd }
        else if answer = .failed then
          if olaped.2.txRefcnt < 4 then some (portServe .input s filp) else none
        else portStart .input s filp olaped.1 olaped.2
    else none
  else some s

/-- `handle_overlapped`; none where the completion is of an object that was deleted. -/
def handleOverlapped (s : PortPoller L T W P F O) (address : O) (side : Side) :
    Option (PortPoller L T W P F O) :=
  (s.backend.lapped address).map fun olaped =>
    let counted := s.unref address olaped
    if olaped.txRefcnt - 1 = 0 then counted
    else
      match olaped.txFilp with
      | none => counted
      | some filp => portServe side counted filp

def portTell (s : PortPoller L T W P F O) (told : O × Side) : Option (PortPoller L T W P F O) :=
  if told ∈ s.backend.inflight then
    handleOverlapped (s.onPort (fun port => { port with inflight := port.inflight.erase told })) told.1
      told.2
  else none

def txCompletionPortPolling (s : PortPoller L T W P F O) (tells : List (O × Side)) :
    Option (PortPoller L T W P F O) :=
  (tells.foldlM portTell s).map fun told =>
    { told with world := txPollActive told.world told.backend.portPoll }

/-- What the system answers in one call: to an operation that it starts, the socket for
`AcceptEx`, and the address that `new` gives. -/
structure PortAnswer (O : Type) where
  start : Start
  newfd : Int
  fresh : O

def portOps (answer : PortAnswer O) : TxPollOp (PortPoller L T W P F O) F where
  txPollout := txCompletionPortPollout
  txAttach := fun s filp => some (txCompletionPortAttach answer.fresh s filp)
  txPollin := txCompletionPortPollin answer.start answer.newfd
  txDetach := txCompletionPortDetach

def portAiocbConnect (answer : PortAnswer O) (s : PortPoller L T W P F O) (filp : F) (task : Option T) :
    Option (Int × PortPoller L T W P F O) :=
  (txCompletionPortConnect answer.start s filp).bind fun connected =>
    (genericActiveOut (portOps answer) connected.2 filp task).map fun next => (connected.1, next)

inductive PortAction (L T W P F O : Type) where
  | init (filp : F) (fd : Int) (answer : PortAnswer O)
  | listen (filp : F) (fd : Int) (answer : PortAnswer O)
  | fini (filp : F) (answer : PortAnswer O)
  | sendout (filp : F) (answer : Start) (sent : Int) (memlock : Bool) (len : Nat)
  | write (filp : F) (answer : Start) (sent : Int) (memlock : Bool) (len : Nat)
  | connect (filp : F) (answer : Start)
  | aioConnect (filp : F) (task : Option T) (answer : PortAnswer O)
  | poll (side : Side) (filp : F) (answer : PortAnswer O)
  | active (side : Side) (filp : F) (task : Option T) (answer : PortAnswer O)
  | cancel (side : Side) (filp : F) (verify : Option T)
  | update (filp : F) (len : Int) (errno : Errno)
  | accept (filp : F)
  | polling (tells : List (O × Side))
  | loop (next : World L T W P F)

/-- `tx_aiocb_init` also clears `tx_privp`. -/
def portAct (s : PortPoller L T W P F O) : PortAction L T W P F O → Option (PortPoller L T W P F O)
  | .init filp fd answer => txAiocbInit (portOps answer) (s.setPrivp filp none) filp fd
  | .listen filp fd answer => txListenInit (portOps answer) (s.setPrivp filp none) filp fd
  | .fini filp answer => txAiocbFini (portOps answer) s filp
  | .sendout filp answer sent memlock len =>
      (txCompletionPortSendout answer sent memlock len s filp).map Prod.snd
  | .write filp answer sent memlock len => (txOutcbWrite answer sent memlock len s filp).map Prod.snd
  | .connect filp answer => (txCompletionPortConnect answer s filp).map Prod.snd
  | .aioConnect filp task answer => (portAiocbConnect answer s filp task).map Prod.snd
  | .poll side filp answer => (portOps answer).txPoll side s filp
  | .active .input filp task answer => txAincbActive (portOps answer) s filp task
  | .active .output filp task answer => txOutcbPrepare (portOps answer) s filp task
  | .cancel .input filp verify => some (txAincbStop s filp verify)
  | .cancel .output filp verify => some (txOutcbCancel s filp verify)
  | .update filp len errno => some (txAincbUpdate s filp len errno)
  | .accept filp => (txCompletionPortAccept s filp).map Prod.snd
  | .polling tells => txCompletionPortPolling s tells
  | .loop next => some { s with world := next }

end Tasks

end Libtx
