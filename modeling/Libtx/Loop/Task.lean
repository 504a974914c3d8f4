import Libtx.Intrusive.Linked
import Libtx.Rounds.Queue
import Mathlib.Logic.Relation
import Mathlib.Tactic.Simps.Basic

/-! Tasks, wait queues and loops: the operations of `tx_loop.cpp` and `tx_poll.cpp`
on a heap of intrusive links.

A task, the tailer of a loop and the phony of a running `tx_loop_main` are all
`tx_task_t` objects that can stand on a `tx_task_q`. `tx_loop_main` is cut at its
loop test and at the calls of callbacks, so that a callback is any sequence of
operations. The checks that only print a warning change nothing and are left out. -/

namespace Libtx

open Intrusive

inductive Head (L W : Type) where
  | taskq (up : L)
  | waitq (taskq : W)
  deriving DecidableEq, Repr

inductive Node (L T : Type) where
  | task (task : T)
  | tailer (up : L)
  | phony (up : L)
  deriving DecidableEq, Repr

structure TaskFlags where
  idle : Bool
  busy : Bool
  pending : Bool
  userMark : Bool
  deriving DecidableEq, Repr

structure TxTask (L R : Type) where
  txFlags : TaskFlags
  txReason : Option R
  txLoop : L

structure TxLoop (P T : Type) where
  txBusy : BitVec 32
  txStop : Bool
  txBreak : Bool
  txActives : BitVec 32
  txUpcount : BitVec 32
  txHolder : Option P
  txCurrent : Option T

/-- The local variables of a `tx_loop_main` that has not returned. `calling` is the
task whose callback it is in, or none when it is at its loop test. -/
structure Frame (T : Type) where
  firstRun : Bool
  calling : Option T
  deriving DecidableEq, Repr

/-- `history` lists what happened on the queue of each loop; no operation reads it. -/
structure World (L T W P R : Type) where
  heap : Heap (Head L W) (Node L T)
  task : T → TxTask L R
  loop : L → TxLoop P T
  main : L → Option (Frame T)
  history : L → List (Rounds.Event T)

variable {L T W P R : Type}

/-- `tx_task_init` and `tx_poll_init`; the links and the reason keep what the memory held. -/
def txTaskInit (task : TxTask L R) (loop : L) : TxTask L R :=
  { task with txLoop := loop, txFlags := ⟨true, false, false, false⟩ }

def txLoopNew : TxLoop P T := ⟨0, false, false, 0, 0, none, none⟩

/-- Every loop is new, every wait queue initialised and every task initialised for the
loop that `loopOf` gives; the links of the tasks are whatever `memory` held. -/
def World.start (memory : World L T W P R) (loopOf : T → L) : World L T W P R where
  heap :=
    { lhFirst := fun
        | .taskq up => some (.tailer up)
        | .waitq _ => none
      leNext := fun
        | .tailer _ => none
        | node => memory.heap.leNext node
      lePrev := fun
        | .tailer up => .first (.taskq up)
        | node => memory.heap.lePrev node }
  task := fun task => txTaskInit (memory.task task) (loopOf task)
  loop := fun _ => txLoopNew
  main := fun _ => none
  history := fun _ => []

variable [DecidableEq T]

@[simps -fullyApplied] def World.setFlags (s : World L T W P R) (task : T)
    (change : TaskFlags → TaskFlags) : World L T W P R :=
  let changed := { s.task task with txFlags := change (s.task task).txFlags }
  { s with task := Function.update s.task task changed }

@[simps -fullyApplied] def World.setReason (s : World L T W P R) (task : T)
    (reason : Option R) : World L T W P R :=
  { s with task := Function.update s.task task { s.task task with txReason := reason } }

variable [DecidableEq L]

@[simps -fullyApplied] def World.setLoop (s : World L T W P R) (up : L)
    (change : TxLoop P T → TxLoop P T) : World L T W P R :=
  { s with loop := Function.update s.loop up (change (s.loop up)) }

@[simps -fullyApplied] def World.setMain (s : World L T W P R) (up : L)
    (frame : Option (Frame T)) : World L T W P R :=
  { s with main := Function.update s.main up frame }

@[simps -fullyApplied] def World.note (s : World L T W P R) (up : L)
    (event : Rounds.Event T) : World L T W P R :=
  { s with history := Function.update s.history up (s.history up ++ [event]) }

@[simps -fullyApplied] def World.onHeap (s : World L T W P R)
    (change : Heap (Head L W) (Node L T) → Heap (Head L W) (Node L T)) : World L T W P R :=
  { s with heap := change s.heap }

omit [DecidableEq T] in
@[simp] theorem update_stops (loop : L → TxLoop P T) (up other : L) (value : TxLoop P T)
    (same : value.txStop = (loop up).txStop) :
    (Function.update loop up value other).txStop = (loop other).txStop := by
  by_cases own : other = up
  · simp [own, same]
  · simp [own]

def txTaskMark (s : World L T W P R) (task : T) : World L T W P R :=
  s.setFlags task (fun flags => { flags with userMark := true })

def txLoopBreak (s : World L T W P R) (up : L) : World L T W P R :=
  s.setLoop up (fun loop => { loop with txBreak := true })

def txLoopStop (s : World L T W P R) (up : L) : World L T W P R :=
  s.setLoop up (fun loop => { loop with txStop := true })

omit [DecidableEq L] [DecidableEq T] in
/-- `verify` is the caller's own address; the holder never blocks on itself. -/
def txLoopTimeout [DecidableEq P] (up : TxLoop P T) (verify : Option P) : Int :=
  if up.txBusy &&& 3 ≠ 0 ∧ 0 < up.txActives.toInt then 0
  else if up.txBreak then 0
  else if up.txHolder = none then 10000
  else if up.txHolder = verify then 10000
  else 0

variable [DecidableEq W]

def txTaskDrop (s : World L T W P R) (task : Option T) : World L T W P R :=
  match task with
  | none => s
  | some task =>
      if (s.task task).txFlags.idle = false then
        let cleared := s.setFlags task (fun flags => { flags with pending := false, busy := false })
        let removed := cleared.onHeap (fun heap => heap.listRemove (.task task))
        let dropped := removed.setFlags task (fun flags => { flags with idle := true })
        dropped.note (s.task task).txLoop (.discard task (s.task task).txFlags.busy)
      else s

/-- A stopped loop takes no task, and a busy task keeps its place and its reason. -/
def txTaskActive (s : World L T W P R) (task : Option T) (reason : Option R) : World L T W P R :=
  match task with
  | none => s
  | some task =>
      let up := (s.task task).txLoop
      if (s.loop up).txStop = false ∧ (s.task task).txFlags.busy = false then
        let dropped := txTaskDrop s (some task)
        let linked := dropped.onHeap (fun heap => heap.listInsertBefore (.tailer up) (.task task))
        let marked := linked.setFlags task (fun flags => { flags with idle := false, busy := true })
        let reasoned := marked.setReason task reason
        let counted := reasoned.setLoop up (fun loop =>
          { loop with txActives := loop.txActives + 1, txBusy := loop.txBusy ||| 1 })
        counted.note up (.activate task)
      else s

def txTaskRecord (s : World L T W P R) (taskq : W) (task : T) : World L T W P R :=
  let dropped := txTaskDrop s (some task)
  let linked := dropped.onHeap (fun heap => heap.listInsertHead (.waitq taskq) (.task task))
  linked.setFlags task (fun flags => { flags with pending := true, idle := false })

/-- The loop of `tx_task_wakeup` from the element `cur` on; `next` is read before the
element is activated. -/
def txTaskWakeupFrom (reason : Option R) :
    Nat → World L T W P R → Option (Node L T) → Option (World L T W P R)
  | _, s, none => some s
  | fuel + 1, s, some (.task task) =>
      let next := s.heap.leNext (.task task)
      txTaskWakeupFrom reason fuel
        (txTaskActive (s.setFlags task (fun flags => { flags with pending := false })) (some task) reason)
        next
  | _, _, some _ => none

def txTaskWakeup (fuel : Nat) (s : World L T W P R) (taskq : W) (reason : Option R) :
    Option (World L T W P R) :=
  (txTaskWakeupFrom reason fuel s (s.heap.lhFirst (.waitq taskq))).map
    (fun woken => woken.onHeap (fun heap => heap.listInit (.waitq taskq)))

def txPollActive (s : World L T W P R) (poll : T) : World L T W P R :=
  let up := (s.task poll).txLoop
  if (s.loop up).txStop = false ∧ (s.task poll).txFlags.idle = true then
    let linked := s.onHeap (fun heap => heap.listInsertBefore (.tailer up) (.task poll))
    let marked := linked.setFlags poll (fun flags => { flags with idle := false })
    let counted := marked.setLoop up (fun loop => { loop with txBusy := loop.txBusy ||| 0 })
    counted.note up (.link poll)
  else s

def txLoopMainEnter (s : World L T W P R) (up : L) : World L T W P R :=
  let linked := s.onHeap (fun heap => heap.listInsertBefore (.tailer up) (.phony up))
  (linked.setMain up (some ⟨true, none⟩)).note up .enter

def txLoopMainLeave (s : World L T W P R) (up : L) : World L T W P R :=
  (s.onHeap (fun heap => heap.listRemove (.phony up))).setMain up none

/-- The phony's turn: the round ends, and with it the run when a break is asked for. -/
def txLoopMainPhony (s : World L T W P R) (up : L) : World L T W P R :=
  let linked := s.onHeap (fun heap => heap.listInsertBefore (.tailer up) (.phony up))
  let counted := linked.setLoop up (fun loop =>
    { loop with
      txActives := if loop.txBusy &&& 1 ≠ 0 then loop.txActives else 0
      txBusy := loop.txBusy <<< 1
      txUpcount := loop.txUpcount + 1 })
  if (s.loop up).txBreak then
    let broken := counted.setLoop up (fun loop => { loop with txBreak := false })
    (txLoopMainLeave broken up).note up (.turn true)
  else (counted.setMain up (some ⟨false, none⟩)).note up (.turn false)

def txLoopMainCall (s : World L T W P R) (up : L) (task : T) (firstRun : Bool) : World L T W P R :=
  let busy := (s.task task).txFlags.busy
  let marked := s.setFlags task (fun flags => { flags with busy := false, idle := true, userMark := false })
  let counted := marked.setLoop up (fun loop =>
    { loop with
      txActives := if busy then loop.txActives - 1 else loop.txActives
      txCurrent := some task })
  (counted.setMain up (some ⟨firstRun, some task⟩)).note up (.serve task busy)

/-- What `tx_loop_main` must not take off its queue. -/
inductive Fault where
  | nullHead
  | tailer
  | foreignPhony
  deriving DecidableEq, Repr

def txLoopMainTest (s : World L T W P R) (up : L) (firstRun : Bool) : Except Fault (World L T W P R) :=
  if (s.loop up).txStop = false ∨ firstRun = true then
    match s.heap.lhFirst (.taskq up) with
    | none => .error .nullHead
    | some (.tailer _) => .error .tailer
    | some (.phony other) =>
        if other = up then
          .ok (txLoopMainPhony (s.onHeap (fun heap => heap.listRemove (.phony up))) up)
        else .error .foreignPhony
    | some (.task task) =>
        .ok (txLoopMainCall (s.onHeap (fun heap => heap.listRemove (.task task))) up task firstRun)
  else .ok ((txLoopMainLeave s up).note up .halt)

def setHolder (s : World L T W P R) (up : L) (holder : Option P) : World L T W P R :=
  s.setLoop up (fun loop => { loop with txHolder := holder })

/-- One operation of the interface, or one stretch of a running `tx_loop_main`. Nothing
but `tx_loop_main` itself is bound to a place: the interface may be used before it runs,
between two runs and inside any callback. -/
inductive Step : World L T W P R → World L T W P R → Prop where
  | active (s : World L T W P R) (task : Option T) (reason : Option R) :
      Step s (txTaskActive s task reason)
  | drop (s : World L T W P R) (task : Option T) : Step s (txTaskDrop s task)
  | record (s : World L T W P R) (taskq : W) (task : T) : Step s (txTaskRecord s taskq task)
  | wakeup (s woken : World L T W P R) (taskq : W) (reason : Option R) (fuel : Nat)
      (result : txTaskWakeup fuel s taskq reason = some woken)
      (live : ∀ task, Holds s.heap (.waitq taskq) (.task task) →
        (s.loop (s.task task).txLoop).txStop = false) : Step s woken
  | pollActive (s : World L T W P R) (poll : T) : Step s (txPollActive s poll)
  | mark (s : World L T W P R) (task : T) : Step s (txTaskMark s task)
  | breaks (s : World L T W P R) (up : L) : Step s (txLoopBreak s up)
  | stop (s : World L T W P R) (up : L) : Step s (txLoopStop s up)
  | holder (s : World L T W P R) (up : L) (holder : Option P) : Step s (setHolder s up holder)
  | enter (s : World L T W P R) (up : L) (left : s.main up = none) : Step s (txLoopMainEnter s up)
  | test (s next : World L T W P R) (up : L) (firstRun : Bool)
      (atTest : s.main up = some ⟨firstRun, none⟩)
      (passed : txLoopMainTest s up firstRun = .ok next) : Step s next
  | returned (s : World L T W P R) (up : L) (firstRun : Bool) (task : T)
      (inCall : s.main up = some ⟨firstRun, some task⟩) : Step s (s.setMain up (some ⟨firstRun, none⟩))

def Reachable (s : World L T W P R) : Prop :=
  ∃ memory loopOf, Relation.ReflTransGen Step (World.start memory loopOf) s

end Libtx
