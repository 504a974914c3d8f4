import Libtx.Timer.OnTime

namespace Libtx

variable {T : Type}

/-- A timer of a wheel waits as many slots ahead as its deadline is steps ahead of the tick. -/
structure Slotted (s : Timers T) : Prop where
  minor : ∀ slot timer, timer ∈ s.ring.timers (.wheel .mi slot) →
    let tick := (s.ring.tick .mi).toNat
    let interval := (s.timer timer).interval.toNat
    ∃ k, 1 ≤ k ∧ k ≤ 49 ∧ slot = ((s.ring.wheel .mi).toNat + k) % 50 ∧
      (tick + 15 * k ≤ interval ∧ interval < tick + 15 * (k + 1) ∨ k = 1 ∧ interval < tick + 15)
  major : ∀ slot timer, timer ∈ s.ring.timers (.wheel .ma slot) →
    let tick := (s.ring.tick .ma).toNat
    let interval := (s.timer timer).interval.toNat
    ∃ k, 1 ≤ k ∧ k ≤ 59 ∧ slot = ((s.ring.wheel .ma).toNat + k) % 60 ∧
      tick + 750 * k ≤ interval ∧ interval < tick + 750 * (k + 1)

/-- Where the wheels stand after a polling at `reading`, against where they stood before. -/
structure InStep (s next : Timers T) (reading : Nat) : Prop where
  caught : ∀ hand, (next.ring.tick hand).toNat ≤ reading ∧
    reading - (next.ring.tick hand).toNat < hand.span
  order : (next.ring.tick .ma).toNat ≤ (next.ring.tick .mi).toNat
  advance : ∀ hand, (s.ring.tick hand).toNat ≤ (next.ring.tick hand).toNat ∧
    (next.ring.wheel hand).toNat = (s.ring.wheel hand).toNat +
      ((next.ring.tick hand).toNat - (s.ring.tick hand).toNat) / hand.span

section Steps

variable {base : Nat} {s next : Timers T}

theorem Grid.slotted (grid : Grid base s) : Slotted s where
  minor := by
    intro slot timer member tick interval
    obtain ⟨ahead, _, k, near, far, place, low, high⟩ := grid.due .mi slot timer member
    simp only [Hand.span, Hand.slots] at far place low high
    refine ⟨k, near, by omega, place, ?_⟩
    by_cases soon : interval < tick + 15
    · right
      omega
    · left
      omega
  major := by
    intro slot timer member tick interval
    obtain ⟨_, ahead, k, near, far, place, low, high⟩ := grid.due .ma slot timer member
    have later : tick + 750 ≤ interval := ahead rfl
    simp only [Hand.span, Hand.slots] at far place low high
    rw [max_eq_left later] at low high
    exact ⟨k, near, by omega, place, low, high⟩

theorem Grid.advanced (grid : Grid base s) (later : Grid base next) (hand : Hand)
    (forward : (s.ring.tick hand).toNat < (next.ring.tick hand).toNat + hand.span) :
    (s.ring.tick hand).toNat ≤ (next.ring.tick hand).toNat ∧
      (next.ring.wheel hand).toNat = (s.ring.wheel hand).toNat +
        ((next.ring.tick hand).toNat - (s.ring.tick hand).toNat) / hand.span := by
  have before := grid.aligned hand
  have after := later.aligned hand
  cases hand with
  | mi =>
      simp only [Hand.span] at before after forward ⊢
      omega
  | ma =>
      simp only [Hand.span] at before after forward ⊢
      omega

variable [DecidableEq T]

theorem Timed.in_step (timed : Timed base s) (reading : Nat) (slept : Option Nat)
    (later : s.clock ≤ reading) (soon : reading < s.polled + 2 ^ 30) (small : reading < 2 ^ 32) :
    InStep s (txTimerPolling s reading slept) reading := by
  obtain ⟨passes, caught, _⟩ := timed.passes reading later soon small
  have grid := passes.catching.grid
  have clock : (s.polledAt reading).clock = reading := passes.clock
  have stepped : InStep s (s.polledAt reading) reading := by
    constructor
    · intro hand
      have reached := grid.reached hand
      have near := caught hand
      omega
    · exact grid.order
    · intro hand
      have behind := timed.grid.reached hand
      have near := caught hand
      exact timed.grid.advanced grid hand (by omega)
  rw [polling_eq]
  cases slept with
  | none => exact stepped
  | some last => exact ⟨stepped.caught, stepped.order, stepped.advance⟩

end Steps

variable [DecidableEq T]

/-- Along a run of short distances every timer of a wheel is in the slot for its deadline, and
at each polling both loops end with the wheels in step. -/
theorem wheels_in_step (base : Nat) (small : base < 2 ^ 32) (actions : List (Action T))
    (short : Allowed Short (txTimerRingNew base) actions) :
    let s := (txTimerRingNew base).run actions
    Slotted s ∧ ∀ reading slept, Short s (.polling reading slept) →
      let ticks := UInt32.ofNat reading
      let turned := txTimerPollingWheel .mi ticks (s.open reading)
      let next := s.act (.polling reading slept)
      (∃ turns, CatchesUp .mi ticks turns (s.open reading) turned) ∧
        (∃ turns, CatchesUp .ma ticks turns turned (txTimerPollingWheel .ma ticks turned)) ∧
        InStep s next reading ∧ Slotted next := by
  intro s
  have timed : Timed base s := timed_run base _ (timed_new base small) actions short
  refine ⟨timed.grid.slotted, ?_⟩
  intro reading slept distance ticks turned next
  have after : Timed base next := timed.act (.polling reading slept) distance
  obtain ⟨later, soon, bound, _⟩ := distance
  exact ⟨wheel_ends .mi ticks (s.open reading), wheel_ends .ma ticks turned,
    timed.in_step reading slept later soon bound, after.grid.slotted⟩

theorem wheels_in_step_sample :
    InStep ((txTimerRingNew 0 : Timers Unit).run [.reset () 1000])
      (((txTimerRingNew 0 : Timers Unit).run [.reset () 1000]).act (.polling 120 none)) 120 := by
  have stepped := wheels_in_step 0 (by decide) [.reset () 1000]
    (by decide : Allowed Short (txTimerRingNew 0 : Timers Unit) [.reset () 1000])
  exact (stepped.2 120 none (by decide)).2.2.1

end Libtx
