import Libtx.Aiocb.Completion

/-! The bytes that `tx_outcb_write` takes with a completion port: some leave the socket at once,
and others are copied to `tx_cache`, from where the system sends them while `WSASend` is in flight.

The system reads the buffer of an operation whenever it likes until it tells the completion. It
may tell one before all bytes have gone; the connection is then broken. -/

namespace Libtx

variable {L T W P F O : Type}

/-- The `WSABUF` of an operation in flight: `memory` is none where its bytes are in `tx_cache`, and
`transfered` of them have gone. -/
structure WsaBuf where
  memory : Option (List UInt8)
  len : Nat
  transfered : Nat
  deriving DecidableEq, Repr

def WsaBuf.empty : WsaBuf := ⟨none, 0, 0⟩

/-- A completion port, with what the memory of each address has in `tx_cache`. `accepted` are the
bytes that callers were told to be taken, `wire` those that have left the socket, `listening`
tells whether the memory is of a listening object and `broken` whether bytes were lost with its
connection; no call reads the last four. -/
structure Outgoing (L T W P F O : Type) where
  poller : PortPoller L T W P F O
  txCache : O → List UInt8
  wsaBuf : O → WsaBuf
  accepted : O → List UInt8
  wire : O → List UInt8
  listening : O → Bool
  broken : O → Bool

def Outgoing.setPoller (s : Outgoing L T W P F O) (poller : PortPoller L T W P F O) : Outgoing L T W P F O :=
  { s with poller := poller }

def Outgoing.buffer (s : Outgoing L T W P F O) (address : O) : List UInt8 :=
  ((s.wsaBuf address).memory.getD (s.txCache address)).take (s.wsaBuf address).len

def Outgoing.rest (s : Outgoing L T W P F O) (address : O) : List UInt8 :=
  (s.buffer address).drop (s.wsaBuf address).transfered

/-- What users of the port, and the system, do. `port` is any other call. -/
inductive OutgoingAction (L T W P F O : Type) where
  | port (action : PortAction L T W P F O)
  | sendout (filp : F) (answer : Start) (sent : Int) (memlock : Bool) (buf : List UInt8)
  | write (filp : F) (answer : Start) (sent : Int) (memlock : Bool) (buf : List UInt8)
  | transfer (address : O) (count : Nat)
  | addresses (address : O) (bytes : List UInt8)

section Code

variable [DecidableEq O]

def Outgoing.copy (s : Outgoing L T W P F O) (address : O) (buf : List UInt8) : Outgoing L T W P F O :=
  { s with txCache := Function.update s.txCache address (buf ++ (s.txCache address).drop buf.length) }

def Outgoing.accept (s : Outgoing L T W P F O) (address : O) (bytes : List UInt8) : Outgoing L T W P F O :=
  { s with accepted := Function.update s.accepted address (s.accepted address ++ bytes) }

def Outgoing.emit (s : Outgoing L T W P F O) (address : O) (bytes : List UInt8) : Outgoing L T W P F O :=
  { s with wire := Function.update s.wire address (s.wire address ++ bytes) }

def Outgoing.setBuf (s : Outgoing L T W P F O) (address : O) (wbuf : WsaBuf) : Outgoing L T W P F O :=
  { s with wsaBuf := Function.update s.wsaBuf address wbuf }

def zeroCache : List UInt8 := List.replicate 8192 0

def Outgoing.born (s : Outgoing L T W P F O) (address : O) (listening : Bool) : Outgoing L T W P F O :=
  { s with
    txCache := Function.update s.txCache address zeroCache
    wsaBuf := Function.update s.wsaBuf address WsaBuf.empty
    accepted := Function.update s.accepted address []
    wire := Function.update s.wire address []
    listening := Function.update s.listening address listening
    broken := Function.update s.broken address false }

local instance instLawfulSides : LawfulBEq (O × Side) :=
  inferInstance

def Outgoing.told (s : Outgoing L T W P F O) (tells : List (O × Side)) : Outgoing L T W P F O :=
  { s with
    wsaBuf := fun address => if (address, Side.output) ∈ tells then WsaBuf.empty else s.wsaBuf address
    broken := fun address =>
      s.broken address || (decide ((address, Side.output) ∈ tells) && decide (s.rest address ≠ [])) }

/-- The memory that a call gets from `new`, and whether it is for a listening object. -/
def PortAction.births : PortAction L T W P F O → Option (O × Bool)
  | .init _ fd answer => if fd = -1 then none else some (answer.fresh, false)
  | .listen _ fd answer => if fd = -1 then none else some (answer.fresh, true)
  | _ => none

def PortAction.tells : PortAction L T W P F O → List (O × Side)
  | .polling tells => tells
  | _ => []

def Outgoing.bears (s : Outgoing L T W P F O) (action : PortAction L T W P F O) : Outgoing L T W P F O :=
  match action.births with
  | none => s
  | some (address, listening) => s.born address listening

variable [DecidableEq L] [DecidableEq T] [DecidableEq W] [DecidableEq F]

def Outgoing.wsaSend (answer : Start) (memory : Option (List UInt8)) (buf : List UInt8)
    (s : Outgoing L T W P F O) (filp : F) (olaped : O × TxOverlapped F) : Option (Int × Outgoing L T W P F O) :=
  if answer = .failed then some (-1, s.setPoller (portServe .output s.poller filp))
  else (portStart .output s.poller filp olaped.1 olaped.2).map fun next =>
    ((buf.length : Int), ((s.setPoller next).setBuf olaped.1 ⟨memory, buf.length, 0⟩).accept olaped.1 buf)

def outgoingSendout (answer : Start) (sent : Int) (memlock : Bool) (buf : List UInt8)
    (s : Outgoing L T W P F O) (filp : F) : Option (Int × Outgoing L T W P F O) :=
  if (s.poller.filp filp).txFlags.poll .output = false then
    if (s.poller.filp filp).live = true ∧ 0 < buf.length then
      if 0 < sent then
        match s.poller.backend.txPrivp filp with
        | none => some (sent, s)
        | some address => some (sent, (s.accept address (buf.take sent.toNat)).emit address (buf.take sent.toNat))
      else (s.poller.olaped filp).bind fun olaped =>
        if memlock = true then s.wsaSend answer (some buf) buf filp olaped
        else if buf.length ≤ 8192 then (s.copy olaped.1 buf).wsaSend answer none buf filp olaped
        else some (-1, s)
    else none
  else some (-1, s)

def outgoingWrite (answer : Start) (sent : Int) (memlock : Bool) (buf : List UInt8) (s : Outgoing L T W P F O)
    (filp : F) : Option (Int × Outgoing L T W P F O) :=
  outgoingSendout answer sent memlock (buf.take (if buf.length < 8192 then buf.length else 8192)) s filp

def outgoingAct (s : Outgoing L T W P F O) : OutgoingAction L T W P F O → Option (Outgoing L T W P F O)
  | .port (.sendout _ _ _ _ _) | .port (.write _ _ _ _ _) => none
  | .port action => (portAct s.poller action).map fun next => ((s.bears action).told action.tells).setPoller next
  | .sendout filp answer sent memlock buf => (outgoingSendout answer sent memlock buf s filp).map Prod.snd
  | .write filp answer sent memlock buf => (outgoingWrite answer sent memlock buf s filp).map Prod.snd
  | .transfer address count =>
      if (address, Side.output) ∈ s.poller.backend.inflight ∧ count ≤ (s.rest address).length then
        some ((s.emit address ((s.rest address).take count)).setBuf address
          { s.wsaBuf address with transfered := (s.wsaBuf address).transfered + count })
      else none
  | .addresses address bytes =>
      if s.listening address = true ∧ (address, Side.input) ∈ s.poller.backend.inflight ∧
          bytes.length ≤ 2 * (28 + 16) then
        some (s.copy address bytes)
      else none

/-- `send` takes a front of what it is given, and a listening socket sends nothing. -/
def Outgoing.Sendable (s : Outgoing L T W P F O) (filp : F) (answer : Start) (sent : Int) (len : Nat) : Prop :=
  sent ≤ len ∧ ∀ address, s.poller.backend.txPrivp filp = some address → s.listening address = true →
    answer = .failed ∧ sent ≤ 0

def Outgoing.Proper (s : Outgoing L T W P F O) : OutgoingAction L T W P F O → Prop
  | .port action => PortProper s.poller action
  | .sendout filp answer sent _ buf => s.Sendable filp answer sent buf.length
  | .write filp answer sent _ buf => s.Sendable filp answer sent (min buf.length 8192)
  | .transfer _ _ | .addresses _ _ => True

end Code

end Libtx
