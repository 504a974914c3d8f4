import Libtx.Loop.Membership
import Libtx.Runs.Partial

namespace Libtx

open Intrusive

def MAX_STACK_DEPTH : Nat := 10

def STACK_WAIT_VALUE : Int := 0

def STACK_NONE_VALUE : Int := 1

def STACK_CODE_VALUE : Int := 2

structure TxTaskBall (C D : Type) where
  txUflag : Int
  txData : Option D
  txCall : Option C
  deriving DecidableEq, Repr

structure TxTaskStack (C D : Type) where
  txTop : Nat
  txFlag : Int
  txCode : Int
  txUflag : Int
  txBalls : Nat → TxTaskBall C D

inductive StackAction (C D : Type) where
  | push (call : Option C) (ctx : Option D)
  | pop0
  | pop1 (code : Int)
  | write (uflag : Int)
  deriving DecidableEq, Repr

variable {C D : Type}

/-- `tx_task_stack_init`; every other field keeps what the memory held. -/
def txTaskStackInit (memory : TxTaskStack C D) : TxTaskStack C D := { memory with txTop := 0 }

def TxTaskStack.setBall (s : TxTaskStack C D) (top : Nat) (ball : TxTaskBall C D) : TxTaskStack C D :=
  { s with txBalls := Function.update s.txBalls top ball }

def TxTaskStack.clearBall (s : TxTaskStack C D) (top : Nat) : TxTaskStack C D :=
  s.setBall top { s.txBalls top with txData := none, txCall := none }

def txTaskStackPush (s : TxTaskStack C D) (call : Option C) (ctx : Option D) :
    Option (TxTaskStack C D) :=
  let top := s.txTop
  if top + 1 < MAX_STACK_DEPTH then
    let saved := { s with txTop := top + 1, txFlag := STACK_WAIT_VALUE }.setBall top ⟨s.txUflag, ctx, call⟩
    some { saved with txUflag := 0 }
  else none

def txTaskStackPop (flag code : Int) (s : TxTaskStack C D) : Option (TxTaskStack C D) :=
  let top := s.txTop - 1
  if 0 < top then
    let cleared := { s with txTop := top }.clearBall top
    some { cleared with txUflag := (cleared.txBalls top).txUflag, txFlag := flag, txCode := code }
  else none

def txTaskStackPop0 (s : TxTaskStack C D) : Option (TxTaskStack C D) :=
  txTaskStackPop STACK_NONE_VALUE 0 s

def txTaskStackPop1 (s : TxTaskStack C D) (code : Int) : Option (TxTaskStack C D) :=
  txTaskStackPop STACK_CODE_VALUE code s

def TxTaskStack.act (s : TxTaskStack C D) : StackAction C D → Option (TxTaskStack C D)
  | .push call ctx => txTaskStackPush s call ctx
  | .pop0 => txTaskStackPop0 s
  | .pop1 code => txTaskStackPop1 s code
  | .write uflag => some { s with txUflag := uflag }

def txTaskStackPops : Nat → TxTaskStack C D → Option (TxTaskStack C D)
  | 0, s => some s
  | n + 1, s => (txTaskStackPop0 s).bind (txTaskStackPops n)

section Raise

variable {L T W P R : Type} [DecidableEq L] [DecidableEq T] [DecidableEq W]

/-- `sched` is `tx_sched`, the task that the stack belongs to. -/
def txTaskStackRaise (world : World L T W P R) (sched : T) (s : TxTaskStack C D) (reason : Option R) :
    Option (TxTaskStack C D × World L T W P R) :=
  if 0 < s.txTop then
    let cleared := (List.range' 1 (s.txTop - 1)).foldl TxTaskStack.clearBall s
    let woken := txTaskActive world (some sched) reason
    some ({ cleared with
      txUflag := (cleared.txBalls 0).txUflag
      txFlag := STACK_NONE_VALUE
      txCode := 0
      txTop := 1 }, woken)
  else none

/-- Raising leaves what popping down to the first frame leaves, and activates the task. -/
def RaisesAsPops (world : World L T W P R) (sched : T) (s : TxTaskStack C D) (reason : Option R) : Prop :=
  ∃ popped raised woken, txTaskStackPops (s.txTop - 1) s = some popped ∧
    txTaskStackRaise world sched s reason = some (raised, woken) ∧
    raised.txTop = popped.txTop ∧ raised.txUflag = popped.txUflag ∧
    raised.txBalls 0 = popped.txBalls 0 ∧
    (woken.task sched).txFlags.busy = true ∧
    Holds woken.heap (.taskq (woken.task sched).txLoop) (.task sched)

end Raise

/-- What the stack stands for: the frames, each with its own flag and the last one first,
and the flag that was in use before the first frame. -/
structure TaskFrames (C D : Type) where
  below : Int
  frames : List (TxTaskBall C D)

def flagOf (below : Int) : List (TxTaskBall C D) → Int
  | [] => below
  | frame :: _ => frame.txUflag

def TaskFrames.write (f : TaskFrames C D) (uflag : Int) : TaskFrames C D :=
  match f.frames with
  | [] => { f with below := uflag }
  | frame :: rest => { f with frames := { frame with txUflag := uflag } :: rest }

def TaskFrames.pop (f : TaskFrames C D) : Option (TaskFrames C D) :=
  match f.frames with
  | _ :: frame :: rest => some { f with frames := frame :: rest }
  | _ => none

def TaskFrames.act (f : TaskFrames C D) : StackAction C D → Option (TaskFrames C D)
  | .push call ctx => some { f with frames := ⟨0, ctx, call⟩ :: f.frames }
  | .pop0 => f.pop
  | .pop1 _ => f.pop
  | .write uflag => some (f.write uflag)

/-- Each slot holds the call and the data of its frame, and the flag of the frame below it. -/
def Saved (balls : Nat → TxTaskBall C D) (below : Int) : List (TxTaskBall C D) → Prop
  | [] => True
  | frame :: rest => balls rest.length = { frame with txUflag := flagOf below rest } ∧ Saved balls below rest

structure Stacked (s : TxTaskStack C D) (f : TaskFrames C D) : Prop where
  top : s.txTop = f.frames.length
  uflag : s.txUflag = flagOf f.below f.frames
  saved : Saved s.txBalls f.below f.frames

theorem saved_frame (balls others : Nat → TxTaskBall C D) (below : Int) (frames : List (TxTaskBall C D))
    (same : ∀ slot, slot < frames.length → others slot = balls slot) (saved : Saved balls below frames) :
    Saved others below frames := by
  induction frames with
  | nil => trivial
  | cons frame rest ih =>
      have last : rest.length < (frame :: rest).length := Nat.lt_succ_self rest.length
      exact ⟨(same rest.length last).trans saved.1,
        ih (fun slot lower => same slot (Nat.lt_trans lower last)) saved.2⟩

theorem setBall_other (s : TxTaskStack C D) (top slot : Nat) (ball : TxTaskBall C D) (apart : slot ≠ top) :
    (s.setBall top ball).txBalls slot = s.txBalls slot := Function.update_of_ne apart _ _

structure Pushed (s : TxTaskStack C D) (call : Option C) (ctx : Option D) (next : TxTaskStack C D) : Prop where
  top : next.txTop = s.txTop + 1
  uflag : next.txUflag = 0
  balls : next.txBalls = Function.update s.txBalls s.txTop ⟨s.txUflag, ctx, call⟩

structure Popped (flag code : Int) (s next : TxTaskStack C D) : Prop where
  many : 0 < s.txTop - 1
  top : next.txTop = s.txTop - 1
  uflag : next.txUflag = (s.txBalls (s.txTop - 1)).txUflag
  balls : next.txBalls = (s.clearBall (s.txTop - 1)).txBalls
  flag : next.txFlag = flag
  code : next.txCode = code

theorem push_spec (s next : TxTaskStack C D) (call : Option C) (ctx : Option D)
    (pushed : txTaskStackPush s call ctx = some next) : Pushed s call ctx next := by
  unfold txTaskStackPush at pushed
  dsimp only at pushed
  split at pushed
  · injection pushed with same
    subst same
    exact ⟨rfl, rfl, rfl⟩
  · cases pushed

theorem pop_spec (flag code : Int) (s next : TxTaskStack C D)
    (popped : txTaskStackPop flag code s = some next) : Popped flag code s next := by
  unfold txTaskStackPop at popped
  dsimp only at popped
  split at popped
  · rename_i many
    injection popped with same
    subst same
    exact ⟨many, rfl, by simp [TxTaskStack.clearBall, TxTaskStack.setBall], rfl, rfl, rfl⟩
  · cases popped

theorem Stacked.push {s next : TxTaskStack C D} {f : TaskFrames C D} (stacked : Stacked s f)
    (call : Option C) (ctx : Option D) (pushed : txTaskStackPush s call ctx = some next) :
    Stacked next { f with frames := ⟨0, ctx, call⟩ :: f.frames } := by
  have after := push_spec s next call ctx pushed
  refine ⟨after.top.trans (congrArg (· + 1) stacked.top), after.uflag, ?_, ?_⟩
  · simp [after.balls, stacked.top, stacked.uflag]
  · apply saved_frame s.txBalls _ f.below f.frames _ stacked.saved
    intro slot lower
    rw [after.balls]
    exact Function.update_of_ne (stacked.top ▸ Nat.ne_of_lt lower) _ _

theorem Stacked.pop {s next : TxTaskStack C D} {f : TaskFrames C D} (flag code : Int)
    (stacked : Stacked s f) (popped : txTaskStackPop flag code s = some next) :
    ∃ rest, f.pop = some rest ∧ Stacked next rest := by
  have after := pop_spec flag code s next popped
  have many := after.many
  obtain ⟨below, frames⟩ := f
  have top : s.txTop = frames.length := stacked.top
  match frames, stacked, top with
  | [], _, top => simp [top] at many
  | [frame], _, top => simp [top] at many
  | frame :: under :: rest, stacked, top =>
      have slot : s.txTop - 1 = (under :: rest).length := congrArg (· - 1) top
      have held := stacked.saved.1
      rw [← slot] at held
      refine ⟨⟨below, under :: rest⟩, rfl, after.top.trans slot, ?_, ?_⟩
      · rw [after.uflag, held]
      · apply saved_frame s.txBalls _ below (under :: rest) _ stacked.saved.2
        intro other lower
        rw [after.balls]
        exact setBall_other _ (s.txTop - 1) other _ (slot ▸ Nat.ne_of_lt lower)

theorem Stacked.write {s : TxTaskStack C D} {f : TaskFrames C D} (stacked : Stacked s f) (uflag : Int) :
    Stacked { s with txUflag := uflag } (f.write uflag) := by
  obtain ⟨below, frames⟩ := f
  cases frames with
  | nil => exact ⟨stacked.top, rfl, trivial⟩
  | cons frame rest => exact ⟨stacked.top, rfl, stacked.saved⟩

theorem Stacked.act {s next : TxTaskStack C D} {f : TaskFrames C D} (stacked : Stacked s f)
    (action : StackAction C D) (step : s.act action = some next) :
    ∃ after, f.act action = some after ∧ Stacked next after := by
  cases action with
  | push call ctx => exact ⟨_, rfl, stacked.push call ctx step⟩
  | pop0 => exact stacked.pop _ _ step
  | pop1 code => exact stacked.pop _ code step
  | write uflag =>
      injection step with same
      exact ⟨_, rfl, same ▸ stacked.write uflag⟩

theorem stacked_run (s last : TxTaskStack C D) (f : TaskFrames C D) (stacked : Stacked s f)
    (actions : List (StackAction C D)) (ended : Runs.run TxTaskStack.act s actions = some last) :
    ∃ after, Runs.run TaskFrames.act f actions = some after ∧ Stacked last after := by
  induction actions generalizing s f with
  | nil =>
      injection ended with same
      exact ⟨f, rfl, same ▸ stacked⟩
  | cons action actions ih =>
      obtain ⟨next, step, rest⟩ := (Runs.run_cons s last action actions).mp ended
      obtain ⟨mid, taken, held⟩ := stacked.act action step
      obtain ⟨after, run, finish⟩ := ih next mid held rest
      exact ⟨after, (Runs.run_cons f after action actions).mpr ⟨mid, taken, run⟩, finish⟩

theorem Stacked.pops {s : TxTaskStack C D} (below : Int) (front : List (TxTaskBall C D))
    (bottom : TxTaskBall C D) (stacked : Stacked s ⟨below, front ++ [bottom]⟩) :
    ∃ popped, txTaskStackPops (s.txTop - 1) s = some popped ∧ popped.txTop = 1 ∧
      popped.txUflag = bottom.txUflag ∧ popped.txBalls 0 = s.txBalls 0 := by
  induction front generalizing s with
  | nil =>
      have top : s.txTop = 1 := stacked.top
      rw [top]
      exact ⟨s, rfl, top, stacked.uflag, rfl⟩
  | cons frame front ih =>
      have top : s.txTop = front.length + 2 := by
        rw [stacked.top]
        simp
      have many : 0 < s.txTop - 1 := by omega
      have popped : ∃ next, txTaskStackPop0 s = some next ∧ next.txTop = s.txTop - 1 ∧
          next.txBalls 0 = s.txBalls 0 := by
        refine ⟨_, if_pos many, rfl, ?_⟩
        exact setBall_other _ (s.txTop - 1) 0 _ (Nat.ne_of_lt many)
      obtain ⟨next, first, lower, kept⟩ := popped
      obtain ⟨rest, shorter, held⟩ := stacked.pop _ _ first
      have same : rest = ⟨below, front ++ [bottom]⟩ := by
        cases front with
        | nil => exact (Option.some.inj shorter).symm
        | cons under front => exact (Option.some.inj shorter).symm
      obtain ⟨last, run, ended, uflag, slot⟩ := ih (same ▸ held)
      refine ⟨last, ?_, ended, uflag, slot.trans kept⟩
      have again : s.txTop - 1 = (next.txTop - 1) + 1 := by omega
      rw [again, txTaskStackPops, first]
      exact run

theorem clearBalls_first (slots : List Nat) (upper : 0 ∉ slots) (s : TxTaskStack C D) :
    (slots.foldl TxTaskStack.clearBall s).txBalls 0 = s.txBalls 0 := by
  induction slots generalizing s with
  | nil => rfl
  | cons slot slots ih =>
      rw [List.mem_cons, not_or] at upper
      calc ((slot :: slots).foldl TxTaskStack.clearBall s).txBalls 0
          = (s.clearBall slot).txBalls 0 := ih upper.2 (s.clearBall slot)
        _ = s.txBalls 0 := setBall_other s slot 0 _ upper.1

theorem Stacked.raise {L T W P R : Type} [DecidableEq L] [DecidableEq T] [DecidableEq W]
    {s : TxTaskStack C D} (below : Int) (front : List (TxTaskBall C D)) (bottom : TxTaskBall C D)
    (stacked : Stacked s ⟨below, front ++ [bottom]⟩) (world : World L T W P R) (sched : T)
    (reason : Option R) :
    ∃ raised, txTaskStackRaise world sched s reason =
        some (raised, txTaskActive world (some sched) reason) ∧
      raised.txTop = 1 ∧ raised.txUflag = below ∧ raised.txBalls 0 = s.txBalls 0 := by
  have top : s.txTop = front.length + 1 := by
    rw [stacked.top]
    simp
  have filled : 0 < s.txTop := by omega
  have upper : 0 ∉ List.range' 1 (s.txTop - 1) := by simp
  have first := clearBalls_first (List.range' 1 (s.txTop - 1)) upper s
  have saved : (s.txBalls 0).txUflag = below := by
    have held := stacked.saved
    clear stacked top filled upper first
    induction front with
    | nil => exact congrArg TxTaskBall.txUflag held.1
    | cons frame front ih => exact ih held.2
  refine ⟨_, if_pos filled, rfl, ?_, first⟩
  rw [first]
  exact saved

section Unwind

variable {L T W P R : Type} [DecidableEq L] [DecidableEq T] [DecidableEq W]

/-- Raising unwinds the stack as popping does if and only if the flag from before the first
frame is the flag of the first frame. -/
theorem stack_raise (memory s : TxTaskStack C D) (actions : List (StackAction C D))
    (reached : Runs.run TxTaskStack.act (txTaskStackInit memory) actions = some s) (filled : 1 ≤ s.txTop)
    (world : World L T W P R) (reachable : Reachable world) (sched : T)
    (live : (world.loop (world.task sched).txLoop).txStop = false) (reason : Option R) :
    ∃ f bottom, Runs.run TaskFrames.act ⟨memory.txUflag, []⟩ actions = some f ∧
      f.frames.getLast? = some bottom ∧
      (RaisesAsPops world sched s reason ↔ f.below = bottom.txUflag) := by
  obtain ⟨⟨below, frames⟩, run, stacked⟩ :=
    stacked_run (txTaskStackInit memory) s ⟨memory.txUflag, []⟩ ⟨rfl, rfl, trivial⟩ actions reached
  rcases List.eq_nil_or_concat' frames with none | ⟨front, bottom, split⟩
  · have top := stacked.top
    rw [none] at top
    exact absurd (top ▸ filled) (by simp)
  · subst split
    refine ⟨_, bottom, run, List.getLast?_concat, ?_⟩
    obtain ⟨popped, pops, one, flag, slot⟩ := stacked.pops below front bottom
    obtain ⟨raised, raises, top, restored, first⟩ := stacked.raise below front bottom world sched reason
    obtain ⟨v, refines⟩ := refines_reachable world reachable
    obtain ⟨busy, holds⟩ := refines.activated sched reason live
    constructor
    · rintro ⟨other, again, woken, same, result, _, equal, _⟩
      rw [pops] at same
      rw [raises] at result
      injection same with same
      injection result with result
      have left : again = raised := (congrArg Prod.fst result).symm
      subst same left
      rw [← restored, equal, flag]
    · intro equal
      exact ⟨popped, raised, _, pops, raises, top.trans one.symm, restored.trans (equal.trans flag.symm),
        first.trans slot.symm, busy, holds⟩

end Unwind

def twoFrames : TxTaskStack Unit Unit :=
  { txTop := 2
    txFlag := STACK_WAIT_VALUE
    txCode := 0
    txUflag := 0
    txBalls := Function.update (Function.update (fun _ => ⟨0, none, none⟩) 0 ⟨0, none, some ()⟩)
      1 ⟨5, none, some ()⟩ }

def emptyStack : TxTaskStack Unit Unit := ⟨0, 0, 0, 0, fun _ => ⟨0, none, none⟩⟩

def twoPushes : List (StackAction Unit Unit) := [.push (some ()) none, .write 5, .push (some ()) none]

theorem stack_raise_two :
    ∃ f bottom, Runs.run TaskFrames.act ⟨0, []⟩ twoPushes = some f ∧ f.frames.getLast? = some bottom ∧
      (RaisesAsPops pairStart true twoFrames none ↔ f.below = bottom.txUflag) :=
  stack_raise emptyStack twoFrames twoPushes rfl (by decide) pairStart
    ⟨_, _, Relation.ReflTransGen.refl⟩ true rfl none

theorem stack_flag_lost :
    Runs.run TxTaskStack.act (txTaskStackInit emptyStack) twoPushes = some twoFrames ∧
      ¬ RaisesAsPops pairStart true twoFrames none := by
  refine ⟨rfl, ?_⟩
  rintro ⟨popped, raised, woken, pops, raises, _, flag, _⟩
  have five : popped.txUflag = 5 := (Option.some.inj pops) ▸ rfl
  have zero : 0 = raised.txUflag := congrArg (fun pair => pair.1.txUflag) (Option.some.inj raises)
  rw [five, ← zero] at flag
  exact absurd flag (by decide)

end Libtx
