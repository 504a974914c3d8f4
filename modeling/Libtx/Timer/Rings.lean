import Libtx.Intrusive.Search
import Libtx.Timer.Teardown

/-! The timer rings of all loops: `tx_timer_ring_get` walks the queue of a loop for a task whose
call is `tx_timer_polling`, and makes a ring where it finds none.

A ring is named by the task of its poll, which no user of the interface can name. The phony and
the tailer of a loop never carry that call. -/

namespace Libtx

open Intrusive

structure Addresses (T P R K : Type) where
  ring : T → P
  timer : K → R

def Addresses.callout {T P R K : Type} (addresses : Addresses T P R K) (poll : T) : Callout T P R K :=
  ⟨poll, addresses.ring poll, addresses.timer⟩

/-- `polls` tells which tasks carry the call `tx_timer_polling`. `gets` lists for each loop what
its calls of `tx_timer_ring_get` have returned, in order; no operation reads it. -/
structure Rings (L T W P R K : Type) where
  world : World L T W P R
  polls : T → Bool
  ring : T → TxTimerRing K
  polled : T → Nat
  timer : K → TxTimer
  txRing : K → Option T
  txTask : K → Option T
  txTicks : UInt32
  calls : List K
  clock : Nat
  gets : L → List (Option T)

inductive RingsUse (L T W P R K : Type) where
  | loop (use : LoopUse L T W P R)
  | taskInit (task : T) (up : L)
  | getticks (reading : Nat)
  | ringGet (up : L) (fuel : Nat) (fresh : T) (reading : Nat)
  | initLoop (timer : K) (up : L) (task : Option T) (fuel : Nat) (fresh : T) (reading : Nat)
  | init (timer : K) (provider task : Option T)
  | reset (timer : K) (umilsec : UInt32)
  | stop (timer : K)
  | drain (timer : K)
  | polling (poll : T) (reading : Nat) (slept : Option Nat)

variable {L T W P R K : Type}

def Rings.start (memory : Rings L T W P R K) (loopOf : T → L) : Rings L T W P R K :=
  { memory with
    world := World.start memory.world loopOf
    polls := fun _ => false
    timer := fun _ => ⟨true, 0⟩
    txTask := fun _ => none
    gets := fun _ => [] }

/-- `container_of`, where the call is `tx_timer_polling` -/
def pollingTask (polls : T → Bool) : Node L T → Option T
  | .task task => if polls task then some task else none
  | _ => none

def Rings.find (s : Rings L T W P R K) (up : L) (fuel : Nat) : Option (Option T) :=
  s.world.heap.search (pollingTask s.polls) fuel (.taskq up)

def LoopUse.tests : LoopUse L T W P R → Option L
  | .test up => some up
  | _ => none

/-- The loop is in a call of `tx_timer_polling`. -/
def serves (polls : T → Bool) (s : World L T W P R) (up : L) : Bool :=
  (s.main up).any (fun frame => frame.calling.any polls)

def Rings.focus (s : Rings L T W P R K) (poll : T) : RingLoop L T W P R K where
  world := s.world
  timers := ⟨s.ring poll, s.timer, s.txTicks, s.calls, s.clock, s.polled poll⟩
  txTask := s.txTask
  deleted := false
  touched := false

variable [DecidableEq T]

def Rings.put (s : Rings L T W P R K) (poll : T) (next : RingLoop L T W P R K) : Rings L T W P R K :=
  { s with
    world := next.world
    polls := Function.update s.polls poll (!next.deleted)
    ring := Function.update s.ring poll next.timers.ring
    polled := Function.update s.polled poll next.timers.polled
    timer := next.timers.timer
    txTicks := next.timers.txTicks
    calls := next.timers.calls
    clock := next.timers.clock }

variable [DecidableEq L] [DecidableEq W]

/-- `tx_timer_ring_new` in the memory of `fresh`; a ring that its loop refuses is deleted. -/
def Rings.create (addresses : Addresses T P R K) (s : Rings L T W P R K) (up : L) (fresh : T)
    (reading : Nat) : Rings L T W P R K :=
  let made : RingLoop L T W P R K := ringNew (addresses.callout fresh) s.world up reading
  { s with
    world := made.world
    polls := Function.update s.polls fresh (!made.deleted)
    ring := Function.update s.ring fresh made.timers.ring
    polled := Function.update s.polled fresh made.timers.polled
    txTicks := made.timers.txTicks
    clock := made.timers.clock }

def txTimerRingGet (addresses : Addresses T P R K) (s : Rings L T W P R K) (up : L) (fuel : Nat)
    (fresh : T) (reading : Nat) : Option (Rings L T W P R K × Option T) :=
  (s.find up fuel).map fun found =>
    match found with
    | some ring => (s, some ring)
    | none =>
        let made := s.create addresses up fresh reading
        (made, if made.polls fresh then some fresh else none)

def Rings.note (s : Rings L T W P R K) (up : L) (got : Option T) : Rings L T W P R K :=
  { s with gets := Function.update s.gets up (s.gets up ++ [got]) }

variable [DecidableEq K]

def Rings.init (s : Rings L T W P R K) (timer : K) (provider task : Option T) :
    Option (Rings L T W P R K) :=
  if (s.timer timer).idle = true ∧ task.any s.polls = false then
    some { s with
      timer := Function.update s.timer timer ⟨true, 0⟩
      txRing := Function.update s.txRing timer provider
      txTask := Function.update s.txTask timer task }
  else none

variable [DecidableEq P]

/-- An operation on a timer, and through it on its ring; a null or deleted ring has none. -/
def Rings.onRing (addresses : Addresses T P R K) (s : Rings L T W P R K) (timer : K)
    (use : RingUse L T W P R K) : Option (Rings L T W P R K) :=
  (s.txRing timer).bind fun ring =>
    if s.polls ring = true then
      ((s.focus ring).act (addresses.callout ring) use).map (s.put ring)
    else none

def Rings.act (addresses : Addresses T P R K) (s : Rings L T W P R K) :
    RingsUse L T W P R K → Option (Rings L T W P R K)
  | .loop use =>
      -- no user names the task of a ring, and where the loop calls one the action is `polling`
      if use.about.any s.polls = true then none
      else (useLoop s.world use).bind fun next =>
        if use.tests.any (serves s.polls next) = true then none else some { s with world := next }
  | .taskInit task up =>
      if (s.world.task task).txFlags.idle = true ∧ s.polls task = false then
        some { s with world := { s.world with
          task := Function.update s.world.task task (txTaskInit (s.world.task task) up) } }
      else none
  | .getticks reading => some { s with txTicks := UInt32.ofNat reading, clock := reading }
  | .ringGet up fuel fresh reading =>
      (txTimerRingGet addresses s up fuel fresh reading).map fun got => got.1.note up got.2
  | .initLoop timer up task fuel fresh reading =>
      (txTimerRingGet addresses s up fuel fresh reading).bind fun got =>
        (got.1.note up got.2).init timer got.2 task
  | .init timer provider task => s.init timer provider task
  | .reset timer umilsec => s.onRing addresses timer (.reset timer umilsec)
  | .stop timer =>
      if (s.timer timer).idle = true then some s else s.onRing addresses timer (.stop timer)
  | .drain timer =>
      if (s.timer timer).idle = true then some s else s.onRing addresses timer (.drain timer)
  | .polling poll reading slept =>
      if s.polls poll = true then
        ((s.focus poll).polling (addresses.callout poll) reading slept).map (s.put poll)
      else none

structure Rings.Free (s : Rings L T W P R K) (fresh : T) : Prop where
  unlinked : (s.world.task fresh).txFlags.idle = true
  unused : s.polls fresh = false
  unnamed : ∀ timer, s.txTask timer ≠ some fresh

/-- The loop is not stopped, a new ring is made in free memory and no wakeup meets a task of a
stopped loop. -/
def Rings.Proper (up : L) (s : Rings L T W P R K) : RingsUse L T W P R K → Prop
  | .loop (.stop other) => other ≠ up
  | .loop (.wakeup taskq _ _) => ∀ task, Holds s.world.heap (.waitq taskq) (.task task) →
      (s.world.loop (s.world.task task).txLoop).txStop = false
  | .ringGet up fuel fresh _ => s.find up fuel = some none → s.Free fresh
  | .initLoop _ up _ fuel fresh _ => s.find up fuel = some none → s.Free fresh
  | _ => True

end Libtx
