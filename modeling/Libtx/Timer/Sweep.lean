import Libtx.Timer.Early
import Libtx.Timer.Once

namespace Libtx

variable {T : Type}

def Timers.Turns (s : Timers T) (hand : Hand) (ticks : UInt32) (k : Nat) : Prop :=
  ∀ j, j ≤ k → 0 ≤ asInt (s.lag hand ticks - UInt32.ofNat j * hand.step.toUInt32)

/-- A polling at `ticks` drains the list. -/
def Swept (s : Timers T) (ticks : UInt32) : Bucket → Prop
  | .wheel hand slot => ∃ k, s.Turns hand ticks k ∧
      slot = ((s.ring.wheel hand + UInt64.ofNat (k + 1)) % hand.size).toNat
  | .st => 0 ≤ asInt (ticks.toUInt64 - s.ring.txStTick - 45000).toUInt32

/-- A polling at `reading` activates the task of the timer. -/
def Due (s : Timers T) (reading : Nat) (timer : T) : Prop :=
  Fires (UInt32.ofNat reading) (s.timer timer).interval ∧
    ∃ bucket, timer ∈ s.ring.timers bucket ∧ Swept s (UInt32.ofNat reading) bucket

section Sweep

variable {ticks : UInt32} {s : Timers T} {timer : T} {interval : UInt32} {count : Nat}

theorem swept_late (hand : Hand) (ticks : UInt32) (s : Timers T) (slot : Nat)
    (swept : Swept s ticks (.wheel hand slot)) : 0 ≤ asInt (s.lag hand ticks) := by
  obtain ⟨k, turns, _⟩ := swept
  simpa using turns 0 (Nat.zero_le k)

theorem swept_open (s : Timers T) (reading : Nat) (bucket : Bucket) :
    Swept (s.open reading) ticks bucket ↔ Swept s ticks bucket := by
  cases bucket <;> rfl

variable [DecidableEq T]

theorem wheel_turn (hand : Hand) (ticks : UInt32) (s : Timers T) :
    (txTimerPollingTurn hand ticks s).ring.wheel hand = s.ring.wheel hand + 1 := by
  have framed := framed_list ticks (s.advance hand)
    (.wheel hand (((s.advance hand).ring.wheel hand) % hand.size).toNat)
  rw [txTimerPollingTurn, framed.wheel, wheel_advance, if_pos rfl]

theorem turns_turn (hand : Hand) (ticks : UInt32) (s : Timers T) (k : Nat)
    (late : 0 ≤ asInt (s.lag hand ticks)) :
    s.Turns hand ticks (k + 1) ↔ (txTimerPollingTurn hand ticks s).Turns hand ticks k := by
  have later (j : Nat) : (txTimerPollingTurn hand ticks s).lag hand ticks -
      UInt32.ofNat j * hand.step.toUInt32 =
      s.lag hand ticks - UInt32.ofNat (j + 1) * hand.step.toUInt32 := by
    rw [lag_turn, UInt32.ofNat_add]
    grind
  constructor
  · intro turns j bound
    rw [later]
    exact turns (j + 1) (by omega)
  · intro turns j bound
    cases j with
    | zero => simpa using late
    | succ j =>
        rw [← later]
        exact turns j (by omega)

theorem swept_turn (hand : Hand) (ticks : UInt32) (s : Timers T) (slot : Nat)
    (late : 0 ≤ asInt (s.lag hand ticks)) :
    Swept s ticks (.wheel hand slot) ↔
      slot = ((s.ring.wheel hand + 1) % hand.size).toNat ∨
        Swept (txTimerPollingTurn hand ticks s) ticks (.wheel hand slot) := by
  have shift (k : Nat) : s.ring.wheel hand + UInt64.ofNat (k + 1 + 1) =
      (txTimerPollingTurn hand ticks s).ring.wheel hand + UInt64.ofNat (k + 1) := by
    rw [wheel_turn, UInt64.ofNat_add (k + 1) 1]
    grind
  constructor
  · intro swept
    obtain ⟨k, turns, here⟩ := swept
    cases k with
    | zero => exact Or.inl here
    | succ k =>
        rw [shift] at here
        exact Or.inr ⟨k, (turns_turn hand ticks s k late).mp turns, here⟩
  · intro either
    rcases either with here | ⟨k, turns, here⟩
    · refine ⟨0, ?_, here⟩
      intro j bound
      have first : j = 0 := by omega
      simpa [first] using late
    · rw [← shift] at here
      exact ⟨k + 1, (turns_turn hand ticks s k late).mpr turns, here⟩

theorem ticks_wheel (hand : Hand) (ticks : UInt32) (s : Timers T) :
    (txTimerPollingWheel hand ticks s).txTicks = s.txTicks :=
  (wheel_rule hand ticks (fun next => next.txTicks = s.txTicks)
    (fun next same _ => (ticks_turn hand ticks next).trans same) s rfl).1

def Waiting (timer : T) (interval : UInt32) (count : Nat) (bucket : Bucket) (s : Timers T) : Prop :=
  Waits (fun place => place = bucket) timer interval count [] s

theorem Waiting.list {bucket : Bucket} (waiting : Waiting timer interval count bucket s)
    (placed : Placed [] s) (same : s.txTicks = ticks) (fires : Fires ticks interval) (drained : Bucket) :
    (drained = bucket → Rests timer (count + 1) (txTimerPollingList ticks s drained)) ∧
      (drained ≠ bucket → Waiting timer interval count bucket (txTimerPollingList ticks s drained)) := by
  constructor
  · intro own
    subst own
    have follows : Follows (fun _ => False) True timer interval count []
        (txTimerPollingList ticks s drained) :=
      Follows.list (Or.inl waiting) placed ticks same drained (fun _ apart here => apart here)
        (fun _ _ _ => trivial) (fun _ _ waits => waits fires)
    rcases follows with waits | fired
    · obtain ⟨_, never, _⟩ := waits.linked
      exact never.elim
    · exact fired.2
  · intro apart
    have absent : timer ∉ s.ring.timers drained := by
      intro member
      have waits : Waits (fun place => place = bucket) timer interval count [] s := waiting
      have here := placed.linked_one waits member
      exact apart here
    have follows : Follows (fun place => place = bucket) False timer interval count []
        (txTimerPollingList ticks s drained) :=
      Follows.list (Or.inl waiting) placed ticks same drained (fun _ _ here => here)
        (fun member _ _ => absurd member absent) (fun member _ _ => absurd member absent)
    exact follows.resolve_right (fun fired => fired.1)

theorem Waiting.wheel (hand : Hand) {bucket : Bucket} (waiting : Waiting timer interval count bucket s)
    (placed : Placed [] s) (same : s.txTicks = ticks) (fires : Fires ticks interval) :
    ((∃ slot, bucket = .wheel hand slot) ∧ Swept s ticks bucket →
        Rests timer (count + 1) (txTimerPollingWheel hand ticks s)) ∧
      (¬ ((∃ slot, bucket = .wheel hand slot) ∧ Swept s ticks bucket) →
        Waiting timer interval count bucket (txTimerPollingWheel hand ticks s)) := by
  fun_induction txTimerPollingWheel hand ticks s with
  | case1 s late ih =>
      have advanced : Placed [] (s.advance hand) := placed.same _ rfl rfl
      have still : Waiting timer interval count bucket (s.advance hand) := waiting.same _ rfl rfl rfl
      have slot : (s.advance hand).ring.wheel hand = s.ring.wheel hand + 1 := by
        rw [wheel_advance, if_pos rfl]
      have drain := still.list advanced same fires
        (.wheel hand (((s.advance hand).ring.wheel hand) % hand.size).toNat)
      rw [slot] at drain
      have turn : txTimerPollingTurn hand ticks s = txTimerPollingList ticks (s.advance hand)
          (.wheel hand ((s.ring.wheel hand + 1) % hand.size).toNat) := by
        rw [txTimerPollingTurn, slot]
      rw [← turn] at drain
      have turned := placed.turn hand ticks
      by_cases own : (.wheel hand ((s.ring.wheel hand + 1) % hand.size).toNat : Bucket) = bucket
      · have rests := (drain.1 own).wheel turned hand ticks
        refine ⟨fun _ => rests, ?_⟩
        intro never
        subst own
        exact absurd ⟨⟨_, rfl⟩, (swept_turn hand ticks s _ late).mpr (Or.inl rfl)⟩ never
      · have rest := ih (drain.2 own) turned ((ticks_turn hand ticks s).trans same)
        have equal : (∃ slot, bucket = .wheel hand slot) ∧ Swept s ticks bucket ↔
            (∃ slot, bucket = .wheel hand slot) ∧ Swept (txTimerPollingTurn hand ticks s) ticks bucket := by
          apply and_congr_right
          intro inWheel
          obtain ⟨slot, here⟩ := inWheel
          subst here
          have apart : slot ≠ ((s.ring.wheel hand + 1) % hand.size).toNat :=
            fun same => own (same ▸ rfl)
          rw [swept_turn hand ticks s slot late]
          exact or_iff_right apart
        rw [equal]
        exact rest
  | case2 s early =>
      refine ⟨?_, fun _ => waiting⟩
      intro swept
      obtain ⟨⟨slot, here⟩, inside⟩ := swept
      subst here
      exact absurd (swept_late hand ticks s slot inside) early

theorem swept_apart (hand : Hand) (ticks : UInt32) (s : Timers T) (bucket : Bucket)
    (apart : ¬ ∃ slot, bucket = .wheel hand slot) :
    Swept (txTimerPollingWheel hand ticks s) ticks bucket ↔ Swept s ticks bucket := by
  have kept := (wheel_rule hand ticks
    (fun next => (∀ other, other ≠ hand →
        next.ring.tick other = s.ring.tick other ∧ next.ring.wheel other = s.ring.wheel other) ∧
      next.ring.txStTick = s.ring.txStTick)
    (by
      intro next held _
      refine ⟨?_, (turn_frame hand ticks next).2.2.trans held.2⟩
      intro other apart
      have framed := framed_list ticks (next.advance hand)
        (.wheel hand (((next.advance hand).ring.wheel hand) % hand.size).toNat)
      have tick := tick_turn hand other ticks next apart
      have wheel : (txTimerPollingTurn hand ticks next).ring.wheel other = next.ring.wheel other := by
        rw [txTimerPollingTurn, framed.wheel, wheel_advance, if_neg apart]
      exact ⟨tick.trans (held.1 other apart).1, wheel.trans (held.1 other apart).2⟩)
    s ⟨fun _ _ => ⟨rfl, rfl⟩, rfl⟩).1
  cases bucket with
  | wheel other slot =>
      have differs : other ≠ hand := fun same => apart ⟨slot, same ▸ rfl⟩
      have fields := kept.1 other differs
      simp only [Swept, Timers.Turns, Timers.lag, fields.1, fields.2]
  | st => simp only [Swept, kept.2]

theorem Waiting.scan {bucket : Bucket} (waiting : Waiting timer interval count bucket s)
    (placed : Placed [] s) (same : s.txTicks = ticks) (fires : Fires ticks interval) :
    (bucket = .st ∧ Swept s ticks bucket → Rests timer (count + 1) (txTimerPollingSt ticks s)) ∧
      (¬ (bucket = .st ∧ Swept s ticks bucket) →
        Waiting timer interval count bucket (txTimerPollingSt ticks s)) := by
  by_cases due : 0 ≤ asInt (ticks.toUInt64 - s.ring.txStTick - 45000).toUInt32
  · have scan : txTimerPollingSt ticks s = txTimerPollingList ticks (s.setStTick ticks) .st := if_pos due
    have marked : Placed [] (s.setStTick ticks) := placed.same _ rfl rfl
    have still : Waiting timer interval count bucket (s.setStTick ticks) := waiting.same _ rfl rfl rfl
    have drain := still.list marked same fires .st
    rw [scan]
    refine ⟨fun swept => drain.1 swept.1.symm, ?_⟩
    intro never
    apply drain.2
    intro own
    subst own
    exact never ⟨rfl, due⟩
  · have scan : txTimerPollingSt ticks s = s := if_neg due
    rw [scan]
    refine ⟨?_, fun _ => waiting⟩
    intro swept
    obtain ⟨here, inside⟩ := swept
    subst here
    exact absurd inside due

theorem polledAt_quiet (s : Timers T) (reading : Nat)
    (wheels : ∀ hand, ¬ 0 ≤ asInt (s.lag hand (UInt32.ofNat reading)))
    (scan : ¬ Swept s (UInt32.ofNat reading) .st) : s.polledAt reading = s.open reading := by
  have still (hand : Hand) :
      txTimerPollingWheel hand (UInt32.ofNat reading) (s.open reading) = s.open reading := by
    rw [txTimerPollingWheel]
    exact if_neg (wheels hand)
  rw [Timers.polledAt, Timers.turnedAt, still, still, txTimerPollingSt]
  exact if_neg scan

/-- A timer whose test asks for it is activated by a polling exactly when its list is swept. -/
theorem Waiting.polled {bucket : Bucket} (waiting : Waiting timer interval count bucket s)
    (placed : Placed [] s) (reading : Nat) (fires : Fires (UInt32.ofNat reading) interval) :
    (Swept s (UInt32.ofNat reading) bucket → Rests timer (count + 1) (s.polledAt reading)) ∧
      (¬ Swept s (UInt32.ofNat reading) bucket →
        Waiting timer interval count bucket (s.polledAt reading)) := by
  have opened : Placed [] (s.open reading) := placed.same _ rfl rfl
  have start : Waiting timer interval count bucket (s.open reading) := waiting.same _ rfl rfl rfl
  have read : (s.open reading).txTicks = UInt32.ofNat reading := rfl
  have minor := start.wheel .mi opened read fires
  have minorRead := ticks_wheel .mi (UInt32.ofNat reading) (s.open reading)
  have minorPlaced := opened.wheel .mi (UInt32.ofNat reading)
  have majorPlaced := minorPlaced.wheel .ma (UInt32.ofNat reading)
  have majorRead := ticks_wheel .ma (UInt32.ofNat reading)
    (txTimerPollingWheel .mi (UInt32.ofNat reading) (s.open reading))
  rw [swept_open] at minor
  by_cases inMinor : (∃ slot, bucket = .wheel .mi slot) ∧ Swept s (UInt32.ofNat reading) bucket
  · have rests := ((minor.1 inMinor).wheel minorPlaced .ma _).scan majorPlaced (UInt32.ofNat reading)
    exact ⟨fun _ => rests, fun unswept => absurd inMinor.2 unswept⟩
  · have major := (minor.2 inMinor).wheel .ma minorPlaced (minorRead.trans read) fires
    by_cases minorList : ∃ slot, bucket = .wheel .mi slot
    · -- its list is in the minor wheel, which has not swept it
      have unswept : ¬ Swept s (UInt32.ofNat reading) bucket := fun swept => inMinor ⟨minorList, swept⟩
      have notMajor : ¬ ∃ slot, bucket = .wheel .ma slot := by
        obtain ⟨slot, here⟩ := minorList
        simp [here]
      have notLong : bucket ≠ .st := by
        obtain ⟨slot, here⟩ := minorList
        simp [here]
      have scanned := (major.2 (fun inMajor => notMajor inMajor.1)).scan majorPlaced
        (majorRead.trans (minorRead.trans read)) fires
      exact ⟨fun swept => absurd swept unswept, fun _ => scanned.2 (fun long => notLong long.1)⟩
    · rw [swept_apart .mi _ _ bucket minorList, swept_open] at major
      by_cases majorList : ∃ slot, bucket = .wheel .ma slot
      · have notLong : bucket ≠ .st := by
          obtain ⟨slot, here⟩ := majorList
          simp [here]
        constructor
        · intro swept
          exact (major.1 ⟨majorList, swept⟩).scan majorPlaced (UInt32.ofNat reading)
        · intro unswept
          have scanned := (major.2 (fun inMajor => unswept inMajor.2)).scan majorPlaced
            (majorRead.trans (minorRead.trans read)) fires
          exact scanned.2 (fun long => notLong long.1)
      · have scanned := (major.2 (fun inMajor => majorList inMajor.1)).scan majorPlaced
          (majorRead.trans (minorRead.trans read)) fires
        rw [swept_apart .ma _ _ bucket majorList, swept_apart .mi _ _ bucket minorList,
          swept_open] at scanned
        have long : bucket = .st := by
          cases bucket with
          | wheel hand slot =>
              cases hand with
              | mi => exact absurd ⟨slot, rfl⟩ minorList
              | ma => exact absurd ⟨slot, rfl⟩ majorList
          | st => rfl
        exact ⟨fun swept => scanned.1 ⟨long, swept⟩, fun unswept => scanned.2 (fun both => unswept both.2)⟩

theorem polling_idle (placed : Placed [] s) (reading : Nat) (slept : Option Nat) :
    ((txTimerPolling s reading slept).timer timer).idle = true ↔
      (s.timer timer).idle = true ∨ Due s reading timer := by
  have flags : (txTimerPolling s reading slept).timer = (s.polledAt reading).timer := by
    rw [polling_eq]
    cases slept <;> rfl
  have after : Placed [] (s.polledAt reading) := placed.polling reading none
  rw [flags]
  cases armed : (s.timer timer).idle with
  | true =>
      have rests : Rests timer (s.calls.count timer) s := ⟨armed, rfl⟩
      have still : Rests timer (s.calls.count timer) (s.polledAt reading) :=
        rests.polling placed reading none
      simpa using still.idle
  | false =>
      obtain ⟨bucket, member⟩ := placed.linked timer armed
      have waiting : Waiting timer (s.timer timer).interval (s.calls.count timer) bucket s :=
        ⟨rfl, rfl, Or.inr ⟨bucket, rfl, member⟩⟩
      have busy (next : Timers T) (held : Placed [] next) (here : Bucket → Prop) (interval : UInt32)
          (count : Nat) (waits : Waits here timer interval count [] next) :
          (next.timer timer).idle ≠ true := by
        intro idle
        obtain ⟨place, _, linked⟩ := waits.linked
        exact ((held.idle timer).mp idle).2 place linked
      have due : Due s reading timer ↔ Fires (UInt32.ofNat reading) (s.timer timer).interval ∧
          Swept s (UInt32.ofNat reading) bucket := by
        constructor
        · intro due
          obtain ⟨fires, other, linked, swept⟩ := due
          exact ⟨fires, placed.apart other bucket timer linked member ▸ swept⟩
        · intro both
          exact ⟨both.1, bucket, member, both.2⟩
      rw [due]
      by_cases fires : Fires (UInt32.ofNat reading) (s.timer timer).interval
      · have polled := waiting.polled placed reading fires
        by_cases swept : Swept s (UInt32.ofNat reading) bucket
        · simp [(polled.1 swept).idle, fires, swept]
        · simp [busy _ after _ _ _ (polled.2 swept), swept]
      · have armed : Armed timer (s.calls.count timer) s :=
          ⟨(s.timer timer).interval, Or.inl ⟨rfl, rfl, Or.inr ⟨bucket, trivial, member⟩⟩⟩
        obtain ⟨interval, waits | ⟨_, fired⟩⟩ := armed.polling placed reading none
        · have still : ((s.polledAt reading).timer timer).idle ≠ true := busy _ after _ _ _ waits
          simp [still, fires]
        · have count := calls_polling s reading none timer fires
          have more := fired.count
          omega

end Sweep

end Libtx
