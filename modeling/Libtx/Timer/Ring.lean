import Mathlib.Logic.Function.Basic
import Mathlib.Algebra.Group.Nat.Defs
import Mathlib.Algebra.Ring.Int.Defs

/-! The timer ring of `tx_timer.cpp`: two wheels of lists, the list of long timers and the
polling function that advances them.

Ring ticks are 64 bits wide; `tx_ticks`, intervals and the readings of the clock are 32
bits wide. A list is drained here by clearing its head and treating the captured elements
in order. The ring's own poll stays linked: its loop is not stopped. -/

namespace Libtx

/-- The minor and the major wheel, whose fields in the source differ by `mi` and `ma` only. -/
inductive Hand where
  | mi
  | ma
  deriving DecidableEq, Repr

def Hand.step : Hand → UInt64
  | .mi => 15
  | .ma => 750

def Hand.size : Hand → UInt64
  | .mi => 50
  | .ma => 60

inductive Bucket where
  | wheel (hand : Hand) (slot : Nat)
  | st
  deriving DecidableEq, Repr

structure TxTimer where
  idle : Bool
  interval : UInt32
  deriving DecidableEq, Repr

structure TxTimerRing (T : Type) where
  txStTick : UInt64
  tick : Hand → UInt64
  wheel : Hand → UInt64
  timers : Bucket → List T

/-- `calls` lists the timers whose task was activated, in order. `clock` is the exact
reading that `txTicks` holds the low bits of, `polled` the one of the last polling or of
the ring's creation; no operation reads these three. -/
structure Timers (T : Type) where
  ring : TxTimerRing T
  timer : T → TxTimer
  txTicks : UInt32
  calls : List T
  clock : Nat
  polled : Nat

variable {T : Type}

def asInt (value : UInt32) : Int := value.toInt32.toInt

def txGetticks (s : Timers T) (reading : Nat) : Timers T :=
  { s with txTicks := UInt32.ofNat reading, clock := reading }

def txTimerRingNew (reading : Nat) : Timers T where
  ring :=
    { txStTick := (UInt32.ofNat reading).toUInt64
      tick := fun _ => (UInt32.ofNat reading).toUInt64
      wheel := fun _ => 0
      timers := fun _ => [] }
  timer := fun _ => ⟨true, 0⟩
  txTicks := UInt32.ofNat reading
  calls := []
  clock := reading
  polled := reading

def Timers.onTimers (s : Timers T) (change : (Bucket → List T) → Bucket → List T) : Timers T :=
  { s with ring := { s.ring with timers := change s.ring.timers } }

variable [DecidableEq T]

def Timers.setTimer (s : Timers T) (timer : T) (value : TxTimer) : Timers T :=
  { s with timer := Function.update s.timer timer value }

def Timers.setIdle (s : Timers T) (timer : T) : Timers T :=
  s.setTimer timer { s.timer timer with idle := true }

def Timers.listInsertHead (s : Timers T) (bucket : Bucket) (timer : T) : Timers T :=
  s.onTimers (fun timers => Function.update timers bucket (timer :: timers bucket))

def Timers.listRemove (s : Timers T) (timer : T) : Timers T :=
  s.onTimers (fun timers bucket => (timers bucket).filter (fun other => decide (other ≠ timer)))

def Timers.listInit (s : Timers T) (bucket : Bucket) : Timers T :=
  s.onTimers (fun timers => Function.update timers bucket [])

def txTaskActiveBy (s : Timers T) (timer : T) : Timers T := { s with calls := s.calls ++ [timer] }

omit [DecidableEq T] in
/-- Where `tx_timer_reset` links a timer. The subtractions and the quotients are 64 bits wide. -/
def txTimerBucket (ring : TxTimerRing T) (interval : UInt32) : Bucket :=
  let miWheel := (interval.toUInt64 - ring.tick .mi) / Hand.mi.step
  let miWheel := if miWheel = 0 then 1 else miWheel
  let maWheel := (interval.toUInt64 - ring.tick .ma) / Hand.ma.step
  if miWheel < Hand.mi.size then .wheel .mi ((ring.wheel .mi + miWheel) % Hand.mi.size).toNat
  else if maWheel < Hand.ma.size then .wheel .ma ((ring.wheel .ma + maWheel) % Hand.ma.size).toNat
  else .st

def txTimerResetIdle (s : Timers T) (timer : T) (umilsec : UInt32) : Timers T :=
  let interval := s.txTicks + umilsec
  (s.setTimer timer ⟨false, interval⟩).listInsertHead (txTimerBucket s.ring interval) timer

def txTimerReset (s : Timers T) (timer : T) (umilsec : UInt32) : Timers T :=
  if (s.timer timer).idle then txTimerResetIdle s timer umilsec
  else txTimerResetIdle ((s.listRemove timer).setIdle timer) timer umilsec

def txTimerDrain (s : Timers T) (timer : T) : Timers T :=
  if (s.timer timer).idle = false then
    txTaskActiveBy ((s.listRemove timer).setIdle timer) timer
  else s

def txTimerStop (s : Timers T) (timer : T) : Timers T :=
  if (s.timer timer).idle = false then (s.setIdle timer).listRemove timer else s

def txTimerPollingEach (ticks : UInt32) (s : Timers T) (cur : T) : Timers T :=
  let interval := (s.timer cur).interval
  if asInt (interval - ticks - 15) < 0 then txTaskActiveBy (s.setIdle cur) cur
  else txTimerReset (s.setIdle cur) cur (interval - ticks)

def txTimerPollingList (ticks : UInt32) (s : Timers T) (bucket : Bucket) : Timers T :=
  (s.ring.timers bucket).foldl (txTimerPollingEach ticks) (s.listInit bucket)

def Timers.advance (s : Timers T) (hand : Hand) : Timers T :=
  { s with
    ring :=
      { s.ring with
        tick := Function.update s.ring.tick hand (s.ring.tick hand + hand.step)
        wheel := Function.update s.ring.wheel hand (s.ring.wheel hand + 1) } }

def txTimerPollingTurn (hand : Hand) (ticks : UInt32) (s : Timers T) : Timers T :=
  txTimerPollingList ticks (s.advance hand)
    (.wheel hand (((s.advance hand).ring.wheel hand) % hand.size).toNat)

/-- What the loop test of a wheel converts to `int`. -/
def Timers.lag (s : Timers T) (hand : Hand) (ticks : UInt32) : UInt32 :=
  (ticks.toUInt64 - s.ring.tick hand - hand.step).toUInt32

section Fields

variable (s : Timers T) (timer : T) (bucket : Bucket) (ticks umilsec : UInt32)

theorem timer_resetIdle : (txTimerResetIdle s timer umilsec).timer =
    Function.update s.timer timer ⟨false, s.txTicks + umilsec⟩ := rfl

theorem timers_resetIdle : (txTimerResetIdle s timer umilsec).ring.timers =
    Function.update s.ring.timers (txTimerBucket s.ring (s.txTicks + umilsec))
      (timer :: s.ring.timers (txTimerBucket s.ring (s.txTicks + umilsec))) := rfl

@[simp] theorem tick_reset : (txTimerReset s timer umilsec).ring.tick = s.ring.tick := by
  unfold txTimerReset
  split <;> rfl

@[simp] theorem tick_pollingEach :
    (txTimerPollingEach ticks s timer).ring.tick = s.ring.tick := by
  simp only [txTimerPollingEach]
  split
  · rfl
  · exact tick_reset (s.setIdle timer) timer _

theorem tick_foldl (captured : List T) :
    (captured.foldl (txTimerPollingEach ticks) s).ring.tick = s.ring.tick := by
  induction captured generalizing s with
  | nil => rfl
  | cons cur rest ih => rw [List.foldl_cons, ih, tick_pollingEach]

@[simp] theorem tick_pollingList :
    (txTimerPollingList ticks s bucket).ring.tick = s.ring.tick :=
  tick_foldl (s.listInit bucket) ticks (s.ring.timers bucket)

end Fields

theorem asInt_eq (value : UInt32) :
    asInt value = if value.toNat < 2 ^ 31 then (value.toNat : Int) else value.toNat - 2 ^ 32 := by
  have cases := BitVec.toInt_eq_toNat_cond value.toBitVec
  have same : value.toBitVec.toNat = value.toNat := rfl
  rw [same] at cases
  calc asInt value = value.toBitVec.toInt := rfl
    _ = _ := cases
    _ = _ := by
      split <;> split <;> omega

theorem asInt_nonneg (value : UInt32) : 0 ≤ asInt value ↔ value.toNat < 2 ^ 31 := by
  have bound := value.toNat_lt
  rw [asInt_eq]
  split <;> omega

omit [DecidableEq T] in
theorem lag_tick (hand : Hand) (ticks : UInt32) (s next : Timers T)
    (tick : next.ring.tick hand = s.ring.tick hand + hand.step) :
    next.lag hand ticks = s.lag hand ticks - hand.step.toUInt32 := by
  simp only [Timers.lag, tick, UInt64.toUInt32_sub, UInt64.toUInt32_add]
  grind

theorem lag_turn (hand : Hand) (ticks : UInt32) (s : Timers T) :
    (txTimerPollingTurn hand ticks s).lag hand ticks = s.lag hand ticks - hand.step.toUInt32 := by
  apply lag_tick
  simp [txTimerPollingTurn, Timers.advance]

def txTimerPollingWheel (hand : Hand) (ticks : UInt32) (s : Timers T) : Timers T :=
  if 0 ≤ asInt (s.lag hand ticks) then txTimerPollingWheel hand ticks (txTimerPollingTurn hand ticks s)
  else s
termination_by (asInt (s.lag hand ticks) + 750).toNat
decreasing_by
  rename_i late
  rw [lag_turn]
  have bound := (asInt_nonneg _).mp late
  have size := (s.lag hand ticks).toNat_lt
  rw [asInt_eq, asInt_eq, if_pos bound, UInt32.toNat_sub]
  cases hand
  · have step : (Hand.mi.step.toUInt32).toNat = 15 := rfl
    rw [step]
    split <;> omega
  · have step : (Hand.ma.step.toUInt32).toNat = 750 := rfl
    rw [step]
    split <;> omega

def Timers.setStTick (s : Timers T) (ticks : UInt32) : Timers T :=
  { s with ring := { s.ring with txStTick := ticks.toUInt64 } }

/-- The scan of the long timers, once `MIN_ST_TIMER` has passed since the last one. -/
def txTimerPollingSt (ticks : UInt32) (s : Timers T) : Timers T :=
  if 0 ≤ asInt (ticks.toUInt64 - s.ring.txStTick - 45000).toUInt32 then
    txTimerPollingList ticks (s.setStTick ticks) .st
  else s

omit [DecidableEq T] in
def Timers.open (s : Timers T) (reading : Nat) : Timers T :=
  { txGetticks s reading with polled := reading }

/-- `slept` is the reading taken after the pause, when `tx_loop_timeout` allows one. -/
def txTimerPolling (s : Timers T) (reading : Nat) (slept : Option Nat) : Timers T :=
  let ticks := UInt32.ofNat reading
  let s := txTimerPollingWheel .mi ticks (s.open reading)
  let s := txTimerPollingWheel .ma ticks s
  let s := txTimerPollingSt ticks s
  match slept with
  | none => s
  | some reading => txGetticks s reading

inductive Action (T : Type) where
  | getticks (reading : Nat)
  | reset (timer : T) (umilsec : UInt32)
  | stop (timer : T)
  | drain (timer : T)
  | polling (reading : Nat) (slept : Option Nat)
  deriving DecidableEq, Repr

def Timers.act (s : Timers T) : Action T → Timers T
  | .getticks reading => txGetticks s reading
  | .reset timer umilsec => txTimerReset s timer umilsec
  | .stop timer => txTimerStop s timer
  | .drain timer => txTimerDrain s timer
  | .polling reading slept => txTimerPolling s reading slept

def Timers.run (s : Timers T) (actions : List (Action T)) : Timers T := actions.foldl Timers.act s

def Allowed (ok : Timers T → Action T → Prop) : Timers T → List (Action T) → Prop
  | _, [] => True
  | s, action :: actions => ok s action ∧ Allowed ok (s.act action) actions

instance allowedDecidable (ok : Timers T → Action T → Prop) [∀ s action, Decidable (ok s action)] :
    ∀ s actions, Decidable (Allowed ok s actions)
  | _, [] => .isTrue trivial
  | s, action :: actions =>
      have := allowedDecidable ok (s.act action) actions
      inferInstanceAs (Decidable (ok s action ∧ Allowed ok (s.act action) actions))

end Libtx
