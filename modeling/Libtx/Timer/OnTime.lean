import Libtx.Timer.Grid

namespace Libtx

variable {T : Type}

/-- No reading and no deadline reaches 2^32, readings never decrease, and the ring is
polled less than 2^30 ms after its creation or its last polling. -/
def Short (s : Timers T) : Action T → Prop
  | .getticks reading => s.clock ≤ reading ∧ reading < 2 ^ 32
  | .reset _ umilsec => s.clock + umilsec.toNat < 2 ^ 32
  | .stop _ => True
  | .drain _ => True
  | .polling reading slept => s.clock ≤ reading ∧ reading < s.polled + 2 ^ 30 ∧ reading < 2 ^ 32 ∧
      ∀ later ∈ slept, reading ≤ later ∧ later < 2 ^ 32

instance (s : Timers T) (action : Action T) : Decidable (Short s action) :=
  match action with
  | .getticks reading => inferInstanceAs (Decidable (s.clock ≤ reading ∧ reading < 2 ^ 32))
  | .reset _ umilsec => inferInstanceAs (Decidable (s.clock + umilsec.toNat < 2 ^ 32))
  | .stop _ => .isTrue trivial
  | .drain _ => .isTrue trivial
  | .polling reading slept => inferInstanceAs (Decidable (s.clock ≤ reading ∧
      reading < s.polled + 2 ^ 30 ∧ reading < 2 ^ 32 ∧
        ∀ later ∈ slept, reading ≤ later ∧ later < 2 ^ 32))

/-- What holds between two actions: the last polling left no wheel a whole step behind. -/
structure Timed (base : Nat) (s : Timers T) : Prop where
  grid : Grid base s
  placed : Placed [] s
  past : s.polled ≤ s.clock
  caught : ∀ hand, s.polled < (s.ring.tick hand).toNat + hand.span
  scanned : s.ring.txStTick.toNat ≤ s.polled ∧ s.polled < s.ring.txStTick.toNat + 45000

def inWheel : Bucket → Prop
  | .wheel _ _ => True
  | .st => False

theorem timed_new (base : Nat) (small : base < 2 ^ 32) : Timed base (txTimerRingNew base : Timers T) := by
  have reading : (UInt32.ofNat base).toNat = base := UInt32.toNat_ofNat_of_lt small
  have wide : (UInt32.ofNat base).toUInt64.toNat = base := by rw [UInt32.toNat_toUInt64, reading]
  have zero : (0 : UInt64).toNat = 0 := rfl
  constructor
  · constructor <;> simp [txTimerRingNew, reading, wide, zero]
  · exact placed_new base
  · exact Nat.le_refl base
  · intro hand
    cases hand <;> simp [txTimerRingNew, wide, Hand.span]
  · simp [txTimerRingNew, wide]

section Poll

variable {base : Nat} {ticks : UInt32} {s : Timers T}

theorem Catching.lag (catching : Catching base ticks s) (hand : Hand) :
    0 ≤ asInt (s.lag hand ticks) ↔ (s.ring.tick hand).toNat + hand.span ≤ s.clock := by
  have reading := catching.grid.reading
  have reached := catching.grid.reached hand
  have near := catching.near hand
  rw [catching.ticks] at reading
  rw [lag_iff ticks hand (by omega) (by omega), reading]

theorem Grid.major_behind (grid : Grid base s) (caught : s.clock < (s.ring.tick .mi).toNat + 15)
    (behind : (s.ring.tick .ma).toNat + 750 ≤ s.clock) :
    (s.ring.tick .ma).toNat + 750 ≤ (s.ring.tick .mi).toNat := by
  have minor := grid.aligned .mi
  have major := grid.aligned .ma
  simp only [Hand.span] at minor major
  omega

theorem Timed.open (timed : Timed base s) (reading : Nat) (later : s.clock ≤ reading)
    (soon : reading < s.polled + 2 ^ 30) (small : reading < 2 ^ 32) :
    Catching base (UInt32.ofNat reading) (s.open reading) where
  grid := by
    have same : (UInt32.ofNat reading).toNat = reading := UInt32.toNat_ofNat_of_lt small
    refine ⟨same, timed.grid.aligned, ?_, timed.grid.order, timed.grid.due⟩
    intro hand
    exact Nat.le_trans (timed.grid.reached hand) later
  placed := timed.placed.same _ rfl rfl
  ticks := rfl
  near := by
    intro hand
    have caught := timed.caught hand
    change reading < (s.ring.tick hand).toNat + 2 ^ 30 + 750
    cases hand <;> simp only [Hand.span] at caught <;> omega

theorem Timed.getticks (timed : Timed base s) (reading : Nat) (later : s.clock ≤ reading)
    (small : reading < 2 ^ 32) : Timed base (txGetticks s reading) where
  grid := by
    refine ⟨UInt32.toNat_ofNat_of_lt small, timed.grid.aligned, ?_, timed.grid.order, timed.grid.due⟩
    intro hand
    exact Nat.le_trans (timed.grid.reached hand) later
  placed := timed.placed.same _ rfl rfl
  past := Nat.le_trans timed.past later
  caught := timed.caught
  scanned := timed.scanned

variable [DecidableEq T]

theorem Catching.turn (catching : Catching base ticks s) (hand : Hand)
    (behind : (s.ring.tick hand).toNat + hand.span ≤ s.clock)
    (order : hand = .ma → (s.ring.tick .ma).toNat + 750 ≤ (s.ring.tick .mi).toNat) :
    Catching base ticks (txTimerPollingTurn hand ticks s) := by
  have small := catching.grid.small
  have advanced := catching.grid.advance hand behind order
  have placed : Placed [] (s.advance hand) := catching.placed.same _ rfl rfl
  have tick : ∀ other, (s.ring.tick other).toNat ≤ ((s.advance hand).ring.tick other).toNat := by
    intro other
    rw [toNat_tick_advance s small]
    omega
  have framed := framed_list ticks (s.advance hand) (s.nextBucket hand)
  rw [pollingTurn_eq hand ticks s small]
  refine ⟨?_, placed.list ticks _, framed.ticks.trans catching.ticks, ?_⟩
  · have same : ((s.advance hand).listInit (s.nextBucket hand)).txTicks = ticks := catching.ticks
    have near := catching.near .ma
    have kept := advanced.foldl ((s.advance hand).ring.timers (s.nextBucket hand))
      (placed.listInit (s.nextBucket hand)) (Nat.lt_of_lt_of_le near (by
        have forward := tick .ma
        change _ ≤ ((s.advance hand).ring.tick .ma).toNat + 2 ^ 30 + 750
        omega))
    rw [same] at kept
    exact kept
  · intro other
    have near := catching.near other
    have forward := tick other
    rw [framed.tick, framed.clock]
    change s.clock < _
    omega

theorem tick_turn (hand other : Hand) (ticks : UInt32) (s : Timers T) (apart : other ≠ hand) :
    (txTimerPollingTurn hand ticks s).ring.tick other = s.ring.tick other := by
  have framed := framed_list ticks (s.advance hand)
    (.wheel hand (((s.advance hand).ring.wheel hand) % hand.size).toNat)
  rw [txTimerPollingTurn, framed.tick, tick_advance, if_neg apart]

theorem turn_frame (hand : Hand) (ticks : UInt32) (s : Timers T) :
    (txTimerPollingTurn hand ticks s).clock = s.clock ∧
      (txTimerPollingTurn hand ticks s).polled = s.polled ∧
      (txTimerPollingTurn hand ticks s).ring.txStTick = s.ring.txStTick := by
  have framed := framed_list ticks (s.advance hand)
    (.wheel hand (((s.advance hand).ring.wheel hand) % hand.size).toNat)
  exact ⟨framed.clock, framed.polled, framed.stTick⟩

theorem Catching.follow_turn (catching : Catching base ticks s) (hand : Hand)
    (behind : (s.ring.tick hand).toNat + hand.span ≤ s.clock)
    (order : hand = .ma → s.clock < (s.ring.tick .mi).toNat + 15)
    (timer : T) (interval : UInt32) (count : Nat)
    (follows : Follows inWheel (interval.toNat < s.clock + 15) timer interval count [] s) :
    Follows inWheel (interval.toNat < s.clock + 15) timer interval count []
      (txTimerPollingTurn hand ticks s) := by
  have small := catching.grid.small
  have reading := catching.grid.reading
  rw [catching.ticks] at reading
  have near := catching.near hand
  have placed : Placed [] (s.advance hand) := catching.placed.same _ rfl rfl
  have follows : Follows inWheel (interval.toNat < s.clock + 15) timer interval count [] (s.advance hand) :=
    follows.same _ rfl rfl rfl
  rw [pollingTurn_eq hand ticks s small]
  have held : timer ∈ (s.advance hand).ring.timers (s.nextBucket hand) →
      ((s.advance hand).timer timer).interval = interval →
      (s.ring.tick hand).toNat ≤ interval.toNat ∧
        interval.toNat < (s.ring.tick hand).toNat + hand.span + hand.span ∧
        (hand = .ma → (s.ring.tick hand).toNat + 750 ≤ interval.toNat) := by
    intro member own
    have slot := catching.grid.due hand _ timer member
    have same : (s.timer timer).interval = interval := own
    rw [same] at slot
    have next := Wheel.due_next _ _ _ _ _ _ slot.2.2 rfl
    exact ⟨slot.1, lt_of_le_of_lt (le_max_left _ _) next, slot.2.1⟩
  have test : timer ∈ (s.advance hand).ring.timers (s.nextBucket hand) →
      ((s.advance hand).timer timer).interval = interval →
      (Fires ticks interval ↔ interval.toNat < s.clock + 15) := by
    intro member own
    have range := held member own
    rw [← reading]
    apply fires_near
    · cases hand <;> simp only [Hand.span] at range behind <;> omega
    · cases hand <;> simp only [Hand.span] at range behind <;> omega
  apply follows.list placed ticks catching.ticks (s.nextBucket hand) (fun _ _ allowed => allowed)
  · intro member own fires
    exact (test member own).mp fires
  · intro member own waits
    have range := held member own
    have late := mt (test member own).mpr waits
    cases hand with
    | mi =>
        simp only [Hand.span] at range behind
        omega
    | ma =>
        have minor := catching.grid.major_behind (order rfl) behind
        have reached := catching.grid.reached .mi
        have wide : (s.advance .ma).ring.Small := (catching.grid.advance .ma behind (fun _ => minor)).small
        have covers : (s.advance .ma).ring.covers .mi interval.toNat := by
          have tick : (s.advance .ma).ring.tick .mi = s.ring.tick .mi := by simp [tick_advance]
          rw [TxTimerRing.covers, tick]
          simp only [Hand.span, Hand.slots] at range ⊢
          omega
        rw [bucket_mi _ interval wide covers]
        trivial

/-- What a part of a polling does between two states with the same reading: a timer in a
wheel stays in one or is activated when it is due. -/
structure Passes (base : Nat) (ticks : UInt32) (s next : Timers T) : Prop where
  catching : Catching base ticks next
  clock : next.clock = s.clock
  polled : next.polled = s.polled
  follows : ∀ timer interval count,
    Follows inWheel (interval.toNat < s.clock + 15) timer interval count [] s →
    Follows inWheel (interval.toNat < s.clock + 15) timer interval count [] next

theorem Passes.trans {middle next : Timers T} (first : Passes base ticks s middle)
    (second : Passes base ticks middle next) : Passes base ticks s next where
  catching := second.catching
  clock := second.clock.trans first.clock
  polled := second.polled.trans first.polled
  follows := by
    intro timer interval count follows
    have between := first.follows timer interval count follows
    rw [← first.clock] at between ⊢
    exact second.follows timer interval count between

theorem Catching.passes_turn (catching : Catching base ticks s) (hand : Hand)
    (behind : (s.ring.tick hand).toNat + hand.span ≤ s.clock)
    (order : hand = .ma → s.clock < (s.ring.tick .mi).toNat + 15) :
    Passes base ticks s (txTimerPollingTurn hand ticks s) where
  catching := by
    apply catching.turn hand behind
    intro major
    subst major
    exact catching.grid.major_behind (order rfl) behind
  clock := (turn_frame hand ticks s).1
  polled := (turn_frame hand ticks s).2.1
  follows := catching.follow_turn hand behind order

theorem Catching.passes_wheel (catching : Catching base ticks s) (hand : Hand)
    (order : hand = .ma → s.clock < (s.ring.tick .mi).toNat + 15) :
    let next := txTimerPollingWheel hand ticks s
    Passes base ticks s next ∧ next.ring.txStTick = s.ring.txStTick ∧
      (∀ other, other ≠ hand → next.ring.tick other = s.ring.tick other) ∧
      s.clock < (next.ring.tick hand).toNat + hand.span := by
  have loop := wheel_rule hand ticks
    (fun next => Passes base ticks s next ∧ next.ring.txStTick = s.ring.txStTick ∧
      ∀ other, other ≠ hand → next.ring.tick other = s.ring.tick other)
    (by
      rintro next ⟨passes, scan, others⟩ late
      have behind := (passes.catching.lag hand).mp late
      have minor : hand = .ma → next.clock < (next.ring.tick .mi).toNat + 15 := by
        intro major
        subst major
        rw [passes.clock, others .mi (by decide)]
        exact order rfl
      refine ⟨passes.trans (passes.catching.passes_turn hand behind minor),
        (turn_frame hand ticks next).2.2.trans scan, ?_⟩
      intro other apart
      rw [tick_turn hand other ticks next apart, others other apart])
    s ⟨⟨catching, rfl, rfl, fun _ _ _ follows => follows⟩, rfl, fun _ _ => rfl⟩
  obtain ⟨⟨passes, scan, others⟩, done⟩ := loop
  refine ⟨passes, scan, others, ?_⟩
  have still := mt (passes.catching.lag hand).mpr (by omega)
  have clock := passes.clock
  omega

/-- The test of the scan asks whether 45 s have passed since the last one. -/
theorem scan_iff (ticks : UInt32) (last : UInt64) (reached : last.toNat ≤ ticks.toNat)
    (near : ticks.toNat < last.toNat + 2 ^ 31) :
    0 ≤ asInt (ticks.toUInt64 - last - 45000).toUInt32 ↔ last.toNat + 45000 ≤ ticks.toNat := by
  have bound := ticks.toNat_lt
  have step : (45000 : UInt64).toNat = 45000 := rfl
  rw [asInt_nonneg, UInt64.toNat_toUInt32, UInt64.toNat_sub, UInt64.toNat_sub,
    UInt32.toNat_toUInt64, step]
  omega

theorem Catching.passes_scan (catching : Catching base ticks s)
    (last : s.ring.txStTick.toNat ≤ s.clock ∧ s.clock < s.ring.txStTick.toNat + 2 ^ 31) :
    let next := txTimerPollingSt ticks s
    Passes base ticks s next ∧ next.ring.tick = s.ring.tick ∧ next.ring.txStTick.toNat =
      if s.ring.txStTick.toNat + 45000 ≤ s.clock then s.clock else s.ring.txStTick.toNat := by
  have reading := catching.grid.reading
  rw [catching.ticks] at reading
  have test := scan_iff ticks s.ring.txStTick (by omega) (by omega)
  rw [reading] at test
  by_cases scans : s.ring.txStTick.toNat + 45000 ≤ s.clock
  · simp only [txTimerPollingSt, if_pos (test.mpr scans), if_pos scans]
    have framed := framed_list ticks (s.setStTick ticks) .st
    have placed : Placed [] (s.setStTick ticks) := catching.placed.same _ rfl rfl
    have grid : Grid base (s.setStTick ticks) :=
      catching.grid.fewer _ rfl rfl rfl rfl (fun _ _ member => ⟨member, rfl⟩)
    have drained := (grid.listInit .st).foldl ((s.setStTick ticks).ring.timers .st)
      (placed.listInit .st) (catching.near .ma)
    have own : ((s.setStTick ticks).listInit .st).txTicks = ticks := catching.ticks
    rw [own] at drained
    refine ⟨⟨⟨drained, placed.list ticks .st, framed.ticks.trans own, ?_⟩, framed.clock,
      framed.polled, ?_⟩, framed.tick, ?_⟩
    · intro hand
      rw [framed.clock, framed.tick]
      exact catching.near hand
    · intro other interval count follows
      have before : Follows inWheel (interval.toNat < s.clock + 15) other interval count []
          (s.setStTick ticks) := follows.same _ rfl rfl rfl
      have absent : other ∉ (s.setStTick ticks).ring.timers .st := by
        intro member
        rcases before with waits | fired
        · obtain ⟨place, allowed, linked⟩ := waits.linked
          rw [placed.apart place .st other linked member] at allowed
          exact allowed
        · exact ((placed.idle other).mp fired.2.idle).2 .st member
      apply before.list placed ticks own .st (fun _ _ allowed => allowed)
      · exact fun member _ _ => absurd member absent
      · exact fun member _ _ => absurd member absent
    · rw [framed.stTick]
      exact (UInt32.toNat_toUInt64 ticks).trans reading
  · simp only [txTimerPollingSt, if_neg (mt test.mp scans), if_neg scans]
    exact ⟨⟨catching, rfl, rfl, fun _ _ _ follows => follows⟩, trivial, trivial⟩

def Timers.turnedAt (s : Timers T) (reading : Nat) : Timers T :=
  txTimerPollingWheel .ma (UInt32.ofNat reading)
    (txTimerPollingWheel .mi (UInt32.ofNat reading) (s.open reading))

/-- The state that the loops and the scan of a polling leave -/
def Timers.polledAt (s : Timers T) (reading : Nat) : Timers T :=
  txTimerPollingSt (UInt32.ofNat reading) (s.turnedAt reading)

theorem Timed.turned (timed : Timed base s) (reading : Nat) (later : s.clock ≤ reading)
    (soon : reading < s.polled + 2 ^ 30) (small : reading < 2 ^ 32) :
    Passes base (UInt32.ofNat reading) (s.open reading) (s.turnedAt reading) ∧
      (s.turnedAt reading).ring.txStTick = s.ring.txStTick ∧
      ∀ hand, reading < ((s.turnedAt reading).ring.tick hand).toNat + hand.span := by
  have opened := timed.open reading later soon small
  obtain ⟨minor, minorScan, _, minorCaught⟩ := opened.passes_wheel .mi (by simp)
  have minorClock : (txTimerPollingWheel .mi (UInt32.ofNat reading) (s.open reading)).clock = reading :=
    minor.clock
  obtain ⟨major, majorScan, majorOthers, majorCaught⟩ := minor.catching.passes_wheel .ma
    (fun _ => by rw [minorClock]; exact minorCaught)
  refine ⟨minor.trans major, majorScan.trans minorScan, ?_⟩
  intro hand
  cases hand with
  | mi =>
      have same := majorOthers .mi (by decide)
      rw [Timers.turnedAt, same]
      exact minorCaught
  | ma =>
      rw [minorClock] at majorCaught
      exact majorCaught

theorem Timed.passes (timed : Timed base s) (reading : Nat) (later : s.clock ≤ reading)
    (soon : reading < s.polled + 2 ^ 30) (small : reading < 2 ^ 32) :
    Passes base (UInt32.ofNat reading) (s.open reading) (s.polledAt reading) ∧
      (∀ hand, reading < ((s.polledAt reading).ring.tick hand).toNat + hand.span) ∧
      (s.polledAt reading).ring.txStTick.toNat =
        if s.ring.txStTick.toNat + 45000 ≤ reading then reading else s.ring.txStTick.toNat := by
  have scanned := timed.scanned
  have past := timed.past
  obtain ⟨turned, unscanned, caught⟩ := timed.turned reading later soon small
  have clock : (s.turnedAt reading).clock = reading := turned.clock
  obtain ⟨scan, ticks, last⟩ := turned.catching.passes_scan (by
    rw [unscanned, clock]
    omega)
  rw [clock, unscanned] at last
  refine ⟨turned.trans scan, ?_, last⟩
  intro hand
  rw [Timers.polledAt, ticks]
  exact caught hand

theorem polling_eq (s : Timers T) (reading : Nat) (slept : Option Nat) :
    txTimerPolling s reading slept =
      match slept with
      | none => s.polledAt reading
      | some last => txGetticks (s.polledAt reading) last := rfl

theorem Timed.polling (timed : Timed base s) (reading : Nat) (slept : Option Nat)
    (later : s.clock ≤ reading) (soon : reading < s.polled + 2 ^ 30) (small : reading < 2 ^ 32)
    (pause : ∀ last ∈ slept, reading ≤ last ∧ last < 2 ^ 32) :
    Timed base (txTimerPolling s reading slept) := by
  obtain ⟨passes, caught, last⟩ := timed.passes reading later soon small
  have scanned := timed.scanned
  have clock : (s.polledAt reading).clock = reading := passes.clock
  have polled : (s.polledAt reading).polled = reading := passes.polled
  have timed : Timed base (s.polledAt reading) := by
    refine ⟨passes.catching.grid, passes.catching.placed, by omega, ?_, ?_⟩
    · rw [polled]
      exact caught
    · rw [polled, last]
      have past := timed.past
      split <;> omega
  rw [polling_eq]
  cases slept with
  | none => exact timed
  | some after =>
      have bound := pause after rfl
      exact timed.getticks after (by omega) bound.2

theorem Timed.follow_polling (timed : Timed base s) (reading : Nat) (slept : Option Nat)
    (later : s.clock ≤ reading) (soon : reading < s.polled + 2 ^ 30) (small : reading < 2 ^ 32)
    (timer : T) (interval : UInt32) (count : Nat) (waits : Waits inWheel timer interval count [] s) :
    Follows inWheel (interval.toNat < reading + 15) timer interval count []
      (txTimerPolling s reading slept) := by
  have passes := (timed.passes reading later soon small).1
  have opened : Waits inWheel timer interval count [] (s.open reading) := waits.same _ rfl rfl rfl
  have follows := passes.follows timer interval count (Or.inl opened)
  rw [polling_eq]
  cases slept with
  | none => exact follows
  | some after => exact follows.same _ rfl rfl rfl

theorem Timed.wait_polling (timed : Timed base s) (reading : Nat) (slept : Option Nat)
    (later : s.clock ≤ reading) (soon : reading < s.polled + 2 ^ 30) (small : reading < 2 ^ 32)
    (timer : T) (interval : UInt32) (count : Nat) (early : reading + 15 ≤ interval.toNat)
    (waits : Waits inWheel timer interval count [] s) :
    Waits inWheel timer interval count [] (txTimerPolling s reading slept) := by
  rcases timed.follow_polling reading slept later soon small timer interval count waits with kept | fired
  · exact kept
  · exact absurd fired.1 (by omega)

theorem Timed.not_due (timed : Timed base s) (timer : T) (interval : UInt32) (count : Nat)
    (waits : Waits inWheel timer interval count [] s) : s.polled < interval.toNat + 15 := by
  obtain ⟨bucket, allowed, member⟩ := waits.linked
  cases bucket with
  | st => exact absurd allowed id
  | wheel hand slot =>
      have held := timed.grid.due hand slot timer member
      have caught := timed.caught hand
      rw [waits.interval] at held
      cases hand with
      | mi =>
          have low := held.1
          simp only [Hand.span] at caught
          omega
      | ma =>
          have low := held.2.1 rfl
          simp only [Hand.span] at caught
          omega

theorem polled_polling (s : Timers T) (reading : Nat) (slept : Option Nat) (timed : Timed base s)
    (later : s.clock ≤ reading) (soon : reading < s.polled + 2 ^ 30) (small : reading < 2 ^ 32) :
    (txTimerPolling s reading slept).polled = reading := by
  have passes := (timed.passes reading later soon small).1
  rw [polling_eq]
  cases slept with
  | none => exact passes.polled
  | some after => exact passes.polled

theorem Timed.fire_polling (timed : Timed base s) (reading : Nat) (slept : Option Nat)
    (later : s.clock ≤ reading) (soon : reading < s.polled + 2 ^ 30) (small : reading < 2 ^ 32)
    (pause : ∀ last ∈ slept, reading ≤ last ∧ last < 2 ^ 32)
    (timer : T) (interval : UInt32) (count : Nat) (due : interval.toNat + 15 ≤ reading)
    (waits : Waits inWheel timer interval count [] s) :
    Rests timer (count + 1) (txTimerPolling s reading slept) := by
  rcases timed.follow_polling reading slept later soon small timer interval count waits with kept | fired
  · have next := timed.polling reading slept later soon small pause
    have early := next.not_due timer interval count kept
    rw [polled_polling s reading slept timed later soon small] at early
    exact absurd early (by omega)
  · exact fired.2

theorem Timed.resetIdle (timed : Timed base s) (timer : T) (umilsec : UInt32)
    (idle : (s.timer timer).idle = true) (small : s.clock + umilsec.toNat < 2 ^ 32) :
    Timed base (txTimerResetIdle s timer umilsec) where
  grid := by
    apply timed.grid.resetIdle timed.placed timer umilsec idle
    have reading := timed.grid.reading
    have reached := timed.grid.reached .mi
    rw [UInt32.toNat_add, reading, Nat.mod_eq_of_lt small]
    omega
  placed := timed.placed.resetIdle timer umilsec idle
  past := timed.past
  caught := timed.caught
  scanned := timed.scanned

theorem Timed.remove (timed : Timed base s) (timer : T) (linked : (s.timer timer).idle = false) :
    Timed base ((s.listRemove timer).setIdle timer) where
  grid := (timed.grid.listRemove timer).setIdle timer
  placed := (timed.placed.listRemove timer linked).setIdle timer
  past := timed.past
  caught := timed.caught
  scanned := timed.scanned

theorem Timed.act (timed : Timed base s) (action : Action T) (short : Short s action) :
    Timed base (s.act action) := by
  cases action with
  | getticks reading => exact timed.getticks reading short.1 short.2
  | reset timer umilsec =>
      simp only [Timers.act, txTimerReset]
      split
      · rename_i idle
        exact timed.resetIdle timer umilsec idle short
      · rename_i linked
        exact (timed.remove timer (by simpa using linked)).resetIdle timer umilsec
          (idle_setIdle _ timer) short
  | stop timer =>
      simp only [Timers.act, txTimerStop]
      split
      · rename_i linked
        exact timed.remove timer linked
      · exact timed
  | drain timer =>
      simp only [Timers.act, txTimerDrain]
      split
      · rename_i linked
        have removed := timed.remove timer linked
        exact ⟨removed.grid.active timer, removed.placed.same _ rfl rfl, removed.past, removed.caught,
          removed.scanned⟩
      · exact timed
  | polling reading slept =>
      obtain ⟨later, soon, small, pause⟩ := short
      exact timed.polling reading slept later soon small pause

end Poll

variable [DecidableEq T]

theorem timed_run (base : Nat) (s : Timers T) (timed : Timed base s) (actions : List (Action T))
    (short : Allowed Short s actions) : Timed base (s.run actions) :=
  run_rule Short (Timed base) (fun _ action allowed held => held.act action allowed) s actions short timed

theorem follow_run (base : Nat) (s : Timers T) (timed : Timed base s) (timer : T) (interval : UInt32)
    (count : Nat) (waits : Waits inWheel timer interval count [] s) (actions : List (Action T))
    (short : Allowed Short s actions) (alone : ∀ action ∈ actions, ¬ action.Touches timer) :
    Timed base (s.run actions) ∧
      (Waits inWheel timer interval count [] (s.run actions) ∨ Rests timer (count + 1) (s.run actions)) := by
  apply run_rule (fun s action => Short s action ∧ ¬ action.Touches timer)
    (fun next => Timed base next ∧
      (Waits inWheel timer interval count [] next ∨ Rests timer (count + 1) next))
  · rintro next action ⟨short, untouched⟩ ⟨timed, waits | fired⟩
    · refine ⟨timed.act action short, waits.act action untouched ?_⟩
      intro reading slept same
      subst same
      have follows := timed.follow_polling reading slept short.1 short.2.1 short.2.2.1 timer interval
        count waits
      exact follows.imp_right (fun fired => fired.2)
    · exact ⟨timed.act action short, Or.inr (fired.act timed.placed action untouched)⟩
  · exact allowed_both Short _ s actions short (allowed_every _ s actions alone)
  · exact ⟨timed, Or.inl waits⟩

/-- A timer in a wheel, left alone by the user, is activated at most once, not by a polling
that is 15 ms early or earlier, and at the latest by one that is 15 ms late. -/
theorem wheel_on_time (base : Nat) (small : base < 2 ^ 32) (actions more : List (Action T))
    (short : Allowed Short (txTimerRingNew base) (actions ++ more)) (timer : T) (hand : Hand) (slot : Nat)
    (linked : timer ∈ ((txTimerRingNew base).run actions).ring.timers (.wheel hand slot))
    (alone : ∀ action ∈ more, ¬ action.Touches timer) :
    let s := (txTimerRingNew base).run actions
    let deadline := (s.timer timer).interval.toNat
    (s.run more).calls.count timer ≤ s.calls.count timer + 1 ∧
      ∀ before reading slept after, more = before ++ .polling reading slept :: after →
        (reading + 15 ≤ deadline → ((s.run before).act (.polling reading slept)).calls.count timer =
          (s.run before).calls.count timer) ∧
        (deadline + 15 ≤ reading → ((s.run before).act (.polling reading slept)).calls.count timer =
          s.calls.count timer + 1) := by
  intro s deadline
  obtain ⟨first, second⟩ := (allowed_append Short _ actions more).mp short
  have timed : Timed base s := timed_run base _ (timed_new base small) actions first
  have waits : Waits inWheel timer (s.timer timer).interval (s.calls.count timer) [] s :=
    ⟨rfl, rfl, Or.inr ⟨.wheel hand slot, trivial, linked⟩⟩
  constructor
  · rcases (follow_run base s timed timer _ _ waits more second alone).2 with kept | fired
    · rw [kept.count]
      omega
    · rw [fired.count]
  · intro before reading slept after split
    subst split
    obtain ⟨until_poll, rest⟩ := (allowed_append Short s before _).mp second
    obtain ⟨later, soon, bound, pause⟩ := rest.1
    have untouched : ∀ action ∈ before, ¬ action.Touches timer :=
      fun action member => alone action (List.mem_append_left _ member)
    obtain ⟨timed, waits | fired⟩ := follow_run base s timed timer _ _ waits before until_poll untouched
    · constructor
      · intro early
        have kept := timed.wait_polling reading slept later soon bound timer _ _ early waits
        exact kept.count.trans waits.count.symm
      · intro due
        exact (timed.fire_polling reading slept later soon bound pause timer _ _ due waits).count
    · have still := fired.polling timed.placed reading slept
      constructor
      · exact fun _ => still.count.trans fired.count.symm
      · exact fun _ => still.count

theorem wheel_on_time_sample :
    (((txTimerRingNew 0 : Timers Unit).run [.reset () 100]).act (.polling 120 none)).calls.count () =
      1 := by
  have short : Allowed Short (txTimerRingNew 0 : Timers Unit) [.reset () 100, .polling 120 none] := by
    decide
  have onTime := wheel_on_time 0 (by decide) [.reset () 100] [.polling 120 none] short () .mi 6
    (by decide) (by simp [Action.Touches])
  exact (onTime.2 [] 120 none [] rfl).2 (by decide)

end Libtx
