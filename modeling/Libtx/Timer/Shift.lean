import Libtx.Timer.Early

/-! Two rings that live through the same calls under clocks that differ by a constant. The
signed tests of the polling see differences only; the 64-bit distances of `tx_timer_reset`
are those of the readings as long as no deadline passes 2^32 under one clock alone. -/

namespace Libtx

variable {T : Type}

def Action.shift (shift : Nat) : Action T → Action T
  | .getticks reading => .getticks (reading + shift)
  | .polling reading slept => .polling (reading + shift) (slept.map (fun later => later + shift))
  | action => action

/-- Readings never decrease, delays are below 2^30 and pollings less than 2^30 ms apart. -/
def Paced (s : Timers T) : Action T → Prop
  | .getticks reading => s.clock ≤ reading
  | .reset _ umilsec => umilsec.toNat < 2 ^ 30
  | .stop _ => True
  | .drain _ => True
  | .polling reading slept => s.clock ≤ reading ∧ reading < s.polled + 2 ^ 30 ∧
      ∀ later ∈ slept, reading ≤ later

instance (s : Timers T) (action : Action T) : Decidable (Paced s action) :=
  match action with
  | .getticks reading => inferInstanceAs (Decidable (s.clock ≤ reading))
  | .reset _ umilsec => inferInstanceAs (Decidable (umilsec.toNat < 2 ^ 30))
  | .stop _ => .isTrue trivial
  | .drain _ => .isTrue trivial
  | .polling reading slept => inferInstanceAs (Decidable (s.clock ≤ reading ∧
      reading < s.polled + 2 ^ 30 ∧ ∀ later ∈ slept, reading ≤ later))

/-- A deadline, counted from the tick at which the ring of either clock was created, passes 2^32
equally often under both clocks; or at least once under each, and the wheels are not left behind. -/
def Unsplit (base shift : Nat) (s : Timers T) : Action T → Prop
  | .reset _ umilsec =>
      let after := s.clock - base + umilsec.toNat
      (base % 2 ^ 32 + after) / 2 ^ 32 = ((base + shift) % 2 ^ 32 + after) / 2 ^ 32 ∨
        2 ^ 32 ≤ base % 2 ^ 32 + after ∧ 2 ^ 32 ≤ (base + shift) % 2 ^ 32 + after ∧
          s.clock < s.polled + 2 ^ 30 ∧ s.clock < base + 2 ^ 62
  | .polling reading _ => reading < base + 2 ^ 62
  | _ => True

instance (base shift : Nat) (s : Timers T) (action : Action T) :
    Decidable (Unsplit base shift s action) :=
  match action with
  | .reset _ umilsec => inferInstanceAs (Decidable (
      (base % 2 ^ 32 + (s.clock - base + umilsec.toNat)) / 2 ^ 32 =
          ((base + shift) % 2 ^ 32 + (s.clock - base + umilsec.toNat)) / 2 ^ 32 ∨
        2 ^ 32 ≤ base % 2 ^ 32 + (s.clock - base + umilsec.toNat) ∧
          2 ^ 32 ≤ (base + shift) % 2 ^ 32 + (s.clock - base + umilsec.toNat) ∧
            s.clock < s.polled + 2 ^ 30 ∧ s.clock < base + 2 ^ 62))
  | .polling reading _ => inferInstanceAs (Decidable (reading < base + 2 ^ 62))
  | .getticks _ => .isTrue trivial
  | .stop _ => .isTrue trivial
  | .drain _ => .isTrue trivial

def SameDeadline (base shift clock : Nat) (first second : UInt32) : Prop :=
  ∃ after, first = UInt32.ofNat (base + after) ∧ second = UInt32.ofNat (base + shift + after) ∧
    (2 ^ 32 ≤ base % 2 ^ 32 + after ↔ 2 ^ 32 ≤ (base + shift) % 2 ^ 32 + after) ∧
    base + after < clock + 2 ^ 30

structure Shifted (base shift : Nat) (todo : List T) (s t : Timers T) : Prop where
  timers : t.ring.timers = s.ring.timers
  wheel : t.ring.wheel = s.ring.wheel
  idle : ∀ timer, (t.timer timer).idle = (s.timer timer).idle
  calls : t.calls = s.calls
  clock : base ≤ s.clock ∧ t.clock = s.clock + shift
  ticks : s.txTicks = UInt32.ofNat s.clock ∧ t.txTicks = UInt32.ofNat t.clock
  first : ∀ hand, (s.ring.tick hand).toNat = base % 2 ^ 32 + hand.span * (s.ring.wheel hand).toNat
  second : ∀ hand,
    (t.ring.tick hand).toNat = (base + shift) % 2 ^ 32 + hand.span * (s.ring.wheel hand).toNat
  reached : ∀ hand, base + hand.span * (s.ring.wheel hand).toNat ≤ s.clock
  scan : t.ring.txStTick.toUInt32 = s.ring.txStTick.toUInt32 + UInt32.ofNat shift
  deadline : ∀ timer, (timer ∈ todo ∨ ∃ bucket, timer ∈ s.ring.timers bucket) →
    SameDeadline base shift s.clock (s.timer timer).interval (t.timer timer).interval

structure Near (base : Nat) (s : Timers T) : Prop where
  wheels : ∀ hand, s.clock < base + hand.span * (s.ring.wheel hand).toNat + 2 ^ 30 + 750
  young : s.clock < base + 2 ^ 62

section Sim

variable {base shift : Nat} {todo : List T} {s t : Timers T}

theorem Shifted.ticks_eq (shifted : Shifted base shift todo s t) :
    t.txTicks = s.txTicks + UInt32.ofNat shift := by
  rw [shifted.ticks.1, shifted.ticks.2, shifted.clock.2, UInt32.ofNat_add]

theorem SameDeadline.interval_eq {clock : Nat} {first second : UInt32}
    (same : SameDeadline base shift clock first second) : second = first + UInt32.ofNat shift := by
  obtain ⟨after, one, two, _, _⟩ := same
  rw [one, two, Nat.add_right_comm, UInt32.ofNat_add]

theorem fires_shift (ticks interval amount : UInt32) :
    Fires (ticks + amount) (interval + amount) ↔ Fires ticks interval := by
  have same : interval + amount - (ticks + amount) - 15 = interval - ticks - 15 := by grind
  unfold Fires
  rw [same]

theorem Shifted.small (shifted : Shifted base shift todo s t) (near : Near base s) :
    s.ring.Small ∧ t.ring.Small := by
  have young := near.young
  constructor
  · intro hand
    have first := shifted.first hand
    have reached := shifted.reached hand
    cases hand <;> simp only [Hand.span] at first reached <;> omega
  · intro hand
    have second := shifted.second hand
    have reached := shifted.reached hand
    rw [shifted.wheel]
    cases hand <;> simp only [Hand.span] at second reached <;> omega

/-- The distance of a deadline from a wheel is the same in both rings while both deadlines have
wrapped equally often. -/
theorem away_same (first second : UInt32) (one two : UInt64) (left right after turned wraps : Nat)
    (interval : first.toNat + 2 ^ 32 * wraps = left + after)
    (other : second.toNat + 2 ^ 32 * wraps = right + after)
    (tick : one.toNat = left + turned) (last : two.toNat = right + turned) :
    second.toUInt64 - two = first.toUInt64 - one := by
  have oneBound := one.toNat_lt
  have twoBound := two.toNat_lt
  apply UInt64.toNat_inj.mp
  rw [UInt64.toNat_sub, UInt64.toNat_sub, UInt32.toNat_toUInt64, UInt32.toNat_toUInt64]
  omega

theorem deadline_nat (base after : Nat) (deadline : UInt32) (same : deadline = UInt32.ofNat (base + after)) :
    deadline.toNat = (base % 2 ^ 32 + after) % 2 ^ 32 := by
  rw [same, UInt32.toNat_ofNat']
  omega

theorem Shifted.bucket_wraps (shifted : Shifted base shift todo s t) (first second : UInt32) (after : Nat)
    (one : first = UInt32.ofNat (base + after)) (two : second = UInt32.ofNat (base + shift + after))
    (wraps : (base % 2 ^ 32 + after) / 2 ^ 32 = ((base + shift) % 2 ^ 32 + after) / 2 ^ 32) :
    txTimerBucket t.ring second = txTimerBucket s.ring first := by
  have oneNat := deadline_nat base after first one
  have twoNat := deadline_nat (base + shift) after second two
  have away : ∀ hand, second.toUInt64 - t.ring.tick hand = first.toUInt64 - s.ring.tick hand := fun hand =>
    away_same first second _ _ _ _ after _ ((base % 2 ^ 32 + after) / 2 ^ 32) (by omega) (by omega)
      (shifted.first hand) (shifted.second hand)
  unfold txTimerBucket
  rw [away, away, shifted.wheel]

theorem Shifted.bucket (shifted : Shifted base shift todo s t) (near : Near base s)
    (first second : UInt32) (same : SameDeadline base shift s.clock first second) :
    txTimerBucket t.ring second = txTimerBucket s.ring first := by
  obtain ⟨small, wide⟩ := shifted.small near
  obtain ⟨after, one, two, unsplit, bound⟩ := same
  by_cases wrapped : 2 ^ 32 ≤ base % 2 ^ 32 + after
  · have oneNat := deadline_nat base after first one
    have twoNat := deadline_nat (base + shift) after second two
    have also := unsplit.mp wrapped
    have before : ∀ hand, first.toNat < (s.ring.tick hand).toNat ∧
        second.toNat < (t.ring.tick hand).toNat := by
      intro hand
      have firstTick := shifted.first hand
      have secondTick := shifted.second hand
      have wheels := near.wheels hand
      omega
    rw [bucket_st s.ring first small (fun covers => absurd covers.1 (Nat.not_le.mpr (before .mi).1))
      (fun covers => absurd covers.1 (Nat.not_le.mpr (before .ma).1)),
      bucket_st t.ring second wide (fun covers => absurd covers.1 (Nat.not_le.mpr (before .mi).2))
      (fun covers => absurd covers.1 (Nat.not_le.mpr (before .ma).2))]
  · have also := mt unsplit.mpr wrapped
    exact shifted.bucket_wraps first second after one two (by omega)

theorem Shifted.active (timer : T) (shifted : Shifted base shift todo s t) :
    Shifted base shift todo (txTaskActiveBy s timer) (txTaskActiveBy t timer) :=
  { shifted with calls := congrArg (fun calls => calls ++ [timer]) shifted.calls }

theorem Shifted.listInit (shifted : Shifted base shift [] s t) (bucket : Bucket) :
    Shifted base shift (s.ring.timers bucket) (s.listInit bucket) (t.listInit bucket) := by
  refine ⟨?_, shifted.wheel, shifted.idle, shifted.calls, shifted.clock, shifted.ticks, shifted.first,
    shifted.second, shifted.reached, shifted.scan, ?_⟩
  · simp [Timers.listInit, Timers.onTimers, shifted.timers]
  · intro timer linked
    apply shifted.deadline timer
    rcases linked with captured | ⟨place, member⟩
    · exact Or.inr ⟨bucket, captured⟩
    · refine Or.inr ⟨place, ?_⟩
      by_cases same : place = bucket
      · simp [Timers.listInit, Timers.onTimers, same] at member
      · simpa [Timers.listInit, Timers.onTimers, same] using member

theorem Near.same (near : Near base s) (next : Timers T) (wheel : next.ring.wheel = s.ring.wheel)
    (clock : next.clock = s.clock) : Near base next := by
  constructor
  · rw [wheel, clock]
    exact near.wheels
  · rw [clock]
    exact near.young

theorem Shifted.lag (shifted : Shifted base shift todo s t) (hand : Hand) :
    t.lag hand t.txTicks = s.lag hand s.txTicks := by
  have ticks : ∀ tick : UInt64, tick.toUInt32.toNat = tick.toNat % 2 ^ 32 := fun tick => UInt64.toNat_toUInt32 tick
  have first := shifted.first hand
  have second := shifted.second hand
  have moved : (t.ring.tick hand).toUInt32 = (s.ring.tick hand).toUInt32 + UInt32.ofNat shift := by
    apply UInt32.toNat_inj.mp
    rw [UInt32.toNat_add, UInt32.toNat_ofNat', ticks, ticks, first, second]
    omega
  simp only [Timers.lag, UInt64.toUInt32_sub, UInt32.toUInt32_toUInt64, moved, shifted.ticks_eq]
  grind

theorem Shifted.lag_iff (shifted : Shifted base shift todo s t) (near : Near base s) (hand : Hand) :
    0 ≤ asInt (s.lag hand s.txTicks) ↔
      base + hand.span * (s.ring.wheel hand).toNat + hand.span ≤ s.clock := by
  have first := shifted.first hand
  have reached := shifted.reached hand
  have wheels := near.wheels hand
  have young := near.young
  have bound := (s.ring.tick hand).toNat_lt
  rw [asInt_nonneg, Timers.lag, UInt64.toNat_toUInt32, UInt64.toNat_sub, UInt64.toNat_sub,
    UInt32.toNat_toUInt64, toNat_step, shifted.ticks.1, UInt32.toNat_ofNat']
  cases hand <;> simp only [Hand.span] at first reached wheels ⊢ <;> omega

theorem Shifted.advance (shifted : Shifted base shift [] s t) (near : Near base s) (hand : Hand)
    (behind : base + hand.span * (s.ring.wheel hand).toNat + hand.span ≤ s.clock) :
    Shifted base shift [] (s.advance hand) (t.advance hand) ∧ Near base (s.advance hand) := by
  obtain ⟨small, wide⟩ := shifted.small near
  have young := near.young
  have step : ∀ other, other.span * ((s.advance hand).ring.wheel other).toNat =
      other.span * (s.ring.wheel other).toNat + if other = hand then hand.span else 0 := by
    intro other
    rw [toNat_wheel_advance s small, Nat.mul_add]
    split
    · rename_i same
      rw [same, Nat.mul_one]
    · rfl
  constructor
  · refine ⟨shifted.timers, ?_, shifted.idle, shifted.calls, shifted.clock, shifted.ticks, ?_, ?_, ?_,
      shifted.scan, shifted.deadline⟩
    · simp [Timers.advance, shifted.wheel]
    · intro other
      rw [toNat_tick_advance s small, step, shifted.first other]
      omega
    · intro other
      rw [toNat_tick_advance t wide, step, shifted.second other]
      omega
    · intro other
      have reached := shifted.reached other
      change _ ≤ s.clock
      rw [step]
      split
      · rename_i same
        rw [same]
        omega
      · omega
  · constructor
    · intro other
      have wheels := near.wheels other
      change s.clock < _
      rw [step]
      omega
    · exact young

theorem Shifted.open (shifted : Shifted base shift [] s t) (reading : Nat) (later : s.clock ≤ reading) :
    Shifted base shift [] (s.open reading) (t.open (reading + shift)) := by
  have clock := shifted.clock.1
  refine ⟨shifted.timers, shifted.wheel, shifted.idle, shifted.calls, ⟨Nat.le_trans clock later, rfl⟩,
    ⟨rfl, rfl⟩, shifted.first, shifted.second, ?_, shifted.scan, ?_⟩
  · intro hand
    exact Nat.le_trans (shifted.reached hand) later
  · intro timer linked
    obtain ⟨after, one, two, unsplit, bound⟩ := shifted.deadline timer linked
    exact ⟨after, one, two, unsplit, Nat.lt_of_lt_of_le bound (Nat.add_le_add_right later _)⟩

theorem Shifted.getticks (shifted : Shifted base shift [] s t) (reading : Nat)
    (later : s.clock ≤ reading) :
    Shifted base shift [] (txGetticks s reading) (txGetticks t (reading + shift)) :=
  { shifted.open reading later with }

def Caught (base : Nat) (s : Timers T) : Prop :=
  ∀ hand, s.polled < base + hand.span * (s.ring.wheel hand).toNat + hand.span

theorem shifted_new (base shift : Nat) :
    Shifted base shift [] (txTimerRingNew base : Timers T) (txTimerRingNew (base + shift)) ∧
      Caught base (txTimerRingNew base : Timers T) := by
  have zero : (0 : UInt64).toNat = 0 := rfl
  constructor
  · refine ⟨rfl, rfl, fun _ => rfl, rfl, ⟨Nat.le_refl _, rfl⟩, ⟨rfl, rfl⟩, ?_, ?_, ?_, ?_, ?_⟩
    · intro hand
      simp [txTimerRingNew, zero]
    · intro hand
      simp [txTimerRingNew, zero]
    · intro hand
      simp [txTimerRingNew, zero]
    · change (UInt32.ofNat (base + shift)).toUInt64.toUInt32 =
        (UInt32.ofNat base).toUInt64.toUInt32 + UInt32.ofNat shift
      rw [UInt32.toUInt32_toUInt64, UInt32.toUInt32_toUInt64, UInt32.ofNat_add]
    · intro timer linked
      simp [txTimerRingNew] at linked
  · intro hand
    cases hand <;> simp [txTimerRingNew, zero, Hand.span]

variable [DecidableEq T]

theorem Shifted.setIdle (cur : T) {held : List T} (shifted : Shifted base shift held s t)
    (fewer : ∀ timer ∈ todo, timer ∈ held) :
    Shifted base shift todo (s.setIdle cur) (t.setIdle cur) where
  timers := shifted.timers
  wheel := shifted.wheel
  idle := by
    intro timer
    by_cases same : timer = cur
    · subst same
      rw [idle_setIdle, idle_setIdle]
    · simpa [Timers.setIdle, Timers.setTimer, same] using shifted.idle timer
  calls := shifted.calls
  clock := shifted.clock
  ticks := shifted.ticks
  first := shifted.first
  second := shifted.second
  reached := shifted.reached
  scan := shifted.scan
  deadline := by
    intro timer linked
    rw [interval_setIdle, interval_setIdle]
    exact shifted.deadline timer (linked.imp_left (fewer timer))

theorem mem_resetIdle (s : Timers T) (timer other : T) (umilsec : UInt32) (bucket : Bucket)
    (member : other ∈ (txTimerResetIdle s timer umilsec).ring.timers bucket) :
    other = timer ∨ other ∈ s.ring.timers bucket := by
  rw [timers_resetIdle, Function.update_apply] at member
  split at member
  · rename_i same
    rw [same]
    exact List.mem_cons.mp member
  · exact Or.inr member

theorem Shifted.resetIdle (shifted : Shifted base shift todo s t) (timer : T) (umilsec : UInt32)
    (bucket : txTimerBucket t.ring (t.txTicks + umilsec) = txTimerBucket s.ring (s.txTicks + umilsec))
    (same : SameDeadline base shift s.clock (s.txTicks + umilsec) (t.txTicks + umilsec)) :
    Shifted base shift todo (txTimerResetIdle s timer umilsec) (txTimerResetIdle t timer umilsec) := by
  have flags : ∀ s : Timers T, (txTimerResetIdle s timer umilsec).timer =
      Function.update s.timer timer ⟨false, s.txTicks + umilsec⟩ := fun _ => rfl
  have timers : ∀ s : Timers T, (txTimerResetIdle s timer umilsec).ring.timers =
      Function.update s.ring.timers (txTimerBucket s.ring (s.txTicks + umilsec))
        (timer :: s.ring.timers (txTimerBucket s.ring (s.txTicks + umilsec))) := fun _ => rfl
  refine ⟨?_, shifted.wheel, ?_, shifted.calls, shifted.clock, shifted.ticks, shifted.first,
    shifted.second, shifted.reached, shifted.scan, ?_⟩
  · rw [timers, timers, bucket, shifted.timers]
  · intro other
    rw [flags, flags, Function.update_apply, Function.update_apply]
    split
    · rfl
    · exact shifted.idle other
  · intro other linked
    change SameDeadline base shift s.clock _ _
    rw [flags, flags, Function.update_apply, Function.update_apply]
    split
    · exact same
    · rename_i apart
      apply shifted.deadline other
      rcases linked with waiting | ⟨bucket, member⟩
      · exact Or.inl waiting
      · exact Or.inr ⟨bucket, (mem_resetIdle s timer other umilsec bucket member).resolve_left apart⟩

theorem Shifted.remove (shifted : Shifted base shift [] s t) (timer : T) :
    Shifted base shift [] ((s.listRemove timer).setIdle timer) ((t.listRemove timer).setIdle timer) := by
  have removed : Shifted base shift [] (s.listRemove timer) (t.listRemove timer) := by
    refine ⟨?_, shifted.wheel, shifted.idle, shifted.calls, shifted.clock, shifted.ticks,
      shifted.first, shifted.second, shifted.reached, shifted.scan, ?_⟩
    · simp [Timers.listRemove, Timers.onTimers, shifted.timers]
    · intro other linked
      apply shifted.deadline other
      rcases linked with captured | ⟨place, member⟩
      · exact absurd captured List.not_mem_nil
      · exact Or.inr ⟨place, List.mem_of_mem_filter member⟩
  exact removed.setIdle timer (fun _ member => member)

theorem Shifted.each (cur : T) (shifted : Shifted base shift (cur :: todo) s t) (near : Near base s) :
    Shifted base shift todo (txTimerPollingEach s.txTicks s cur) (txTimerPollingEach t.txTicks t cur) := by
  have same := shifted.deadline cur (Or.inl List.mem_cons_self)
  have idled := shifted.setIdle cur (fun timer => List.mem_cons_of_mem (a := timer) cur)
  have tests : Fires t.txTicks (t.timer cur).interval ↔ Fires s.txTicks (s.timer cur).interval := by
    rw [shifted.ticks_eq, same.interval_eq]
    exact fires_shift s.txTicks (s.timer cur).interval (UInt32.ofNat shift)
  by_cases fires : Fires s.txTicks (s.timer cur).interval
  · rw [pollingEach_fires _ s cur fires, pollingEach_fires _ t cur (tests.mpr fires)]
    exact idled.active cur
  · rw [pollingEach_waits _ s cur fires, pollingEach_waits _ t cur (mt tests.mp fires)]
    have amount : (t.timer cur).interval - t.txTicks = (s.timer cur).interval - s.txTicks := by
      rw [shifted.ticks_eq, same.interval_eq]
      grind
    rw [amount]
    have first : (s.setIdle cur).txTicks + ((s.timer cur).interval - s.txTicks) =
        (s.timer cur).interval := interval_again s.txTicks _
    have second : (t.setIdle cur).txTicks + ((s.timer cur).interval - s.txTicks) =
        (t.timer cur).interval := by
      rw [← amount]
      exact interval_again t.txTicks _
    apply idled.resetIdle
    · rw [first, second]
      exact idled.bucket (near.same _ rfl rfl) _ _ same
    · rw [first, second]
      exact same

theorem Shifted.foldl (captured : List T) (ticks last : UInt32) (shifted : Shifted base shift captured s t)
    (near : Near base s) (one : s.txTicks = ticks) (two : t.txTicks = last) :
    Shifted base shift [] (captured.foldl (txTimerPollingEach ticks) s)
      (captured.foldl (txTimerPollingEach last) t) := by
  induction captured generalizing s t with
  | nil => exact shifted
  | cons cur rest ih =>
      have framed := framed_each ticks s cur
      have other := framed_each last t cur
      have each := shifted.each cur near
      rw [one, two] at each
      exact ih each (near.same _ framed.wheel framed.clock) (framed.ticks.trans one)
        (other.ticks.trans two)

theorem Shifted.list (shifted : Shifted base shift [] s t) (near : Near base s) (ticks last : UInt32)
    (one : s.txTicks = ticks) (two : t.txTicks = last) (bucket : Bucket) :
    Shifted base shift [] (txTimerPollingList ticks s bucket) (txTimerPollingList last t bucket) := by
  unfold txTimerPollingList
  rw [shifted.timers]
  exact (shifted.listInit bucket).foldl _ ticks last (near.same _ rfl rfl) one two

theorem Shifted.wheels (shifted : Shifted base shift [] s t) (near : Near base s) (hand : Hand)
    (ticks last : UInt32) (one : s.txTicks = ticks) (two : t.txTicks = last) :
    let next := txTimerPollingWheel hand ticks s
    Shifted base shift [] next (txTimerPollingWheel hand last t) ∧ Near base next ∧
      next.txTicks = ticks ∧ (txTimerPollingWheel hand last t).txTicks = last := by
  fun_induction txTimerPollingWheel hand ticks s generalizing t with
  | case1 s late ih =>
      have same := shifted.lag hand
      rw [one, two] at same
      have behind := (shifted.lag_iff near hand).mp (one ▸ late)
      obtain ⟨advanced, ahead⟩ := shifted.advance near hand behind
      have turn : Shifted base shift [] (txTimerPollingTurn hand ticks s)
          (txTimerPollingTurn hand last t) := by
        have slot : (t.advance hand).ring.wheel = (s.advance hand).ring.wheel := advanced.wheel
        unfold txTimerPollingTurn
        rw [slot]
        exact advanced.list ahead ticks last one two _
      have framed := framed_list ticks (s.advance hand)
        (.wheel hand (((s.advance hand).ring.wheel hand) % hand.size).toNat)
      have unfolded : txTimerPollingWheel hand last t =
          txTimerPollingWheel hand last (txTimerPollingTurn hand last t) := by
        rw [txTimerPollingWheel, if_pos (same ▸ late)]
      rw [unfolded]
      exact ih turn (ahead.same _ framed.wheel framed.clock) ((ticks_turn hand ticks s).trans one)
        ((ticks_turn hand last t).trans two)
  | case2 s done =>
      have same := shifted.lag hand
      rw [one, two] at same
      have unfolded : txTimerPollingWheel hand last t = t := by
        rw [txTimerPollingWheel, if_neg (same ▸ done)]
      rw [unfolded]
      exact ⟨shifted, near, one, two⟩

theorem wheel_frame (hand : Hand) (ticks : UInt32) (s : Timers T) :
    let next := txTimerPollingWheel hand ticks s
    (next.clock = s.clock ∧ next.polled = s.polled ∧
      ∀ other, other ≠ hand → next.ring.wheel other = s.ring.wheel other) ∧
      asInt (next.lag hand ticks) < 0 := by
  apply wheel_rule hand ticks (fun next => next.clock = s.clock ∧ next.polled = s.polled ∧
    ∀ other, other ≠ hand → next.ring.wheel other = s.ring.wheel other)
  · rintro next ⟨clock, polled, others⟩ _
    have frame := turn_frame hand ticks next
    refine ⟨frame.1.trans clock, frame.2.1.trans polled, ?_⟩
    intro other apart
    have framed := framed_list ticks (next.advance hand)
      (.wheel hand (((next.advance hand).ring.wheel hand) % hand.size).toNat)
    rw [txTimerPollingTurn, framed.wheel, wheel_advance, if_neg apart, others other apart]
  · exact ⟨rfl, rfl, fun _ _ => rfl⟩

theorem scan_frame (ticks : UInt32) (s : Timers T) :
    (txTimerPollingSt ticks s).ring.wheel = s.ring.wheel ∧
      (txTimerPollingSt ticks s).polled = s.polled := by
  unfold txTimerPollingSt
  split
  · have framed := framed_list ticks (s.setStTick ticks) .st
    exact ⟨framed.wheel, framed.polled⟩
  · exact ⟨rfl, rfl⟩

theorem Shifted.scanned (shifted : Shifted base shift [] s t) (near : Near base s) (ticks last : UInt32)
    (one : s.txTicks = ticks) (two : t.txTicks = last) :
    Shifted base shift [] (txTimerPollingSt ticks s) (txTimerPollingSt last t) := by
  have moved : last = ticks + UInt32.ofNat shift := by rw [← one, ← two, shifted.ticks_eq]
  have same : (last.toUInt64 - t.ring.txStTick - 45000).toUInt32 =
      (ticks.toUInt64 - s.ring.txStTick - 45000).toUInt32 := by
    simp only [UInt64.toUInt32_sub, UInt32.toUInt32_toUInt64, shifted.scan, moved]
    grind
  unfold txTimerPollingSt
  rw [same]
  split
  · have marked : Shifted base shift [] (s.setStTick ticks) (t.setStTick last) := by
      refine { shifted with scan := ?_ }
      change last.toUInt64.toUInt32 = ticks.toUInt64.toUInt32 + UInt32.ofNat shift
      rw [UInt32.toUInt32_toUInt64, UInt32.toUInt32_toUInt64, moved]
    exact marked.list (near.same _ rfl rfl) ticks last one two .st
  · exact shifted

theorem Shifted.polledAt (shifted : Shifted base shift [] s t) (caught : Caught base s) (reading : Nat)
    (later : s.clock ≤ reading) (soon : reading < s.polled + 2 ^ 30) (young : reading < base + 2 ^ 62) :
    Shifted base shift [] (s.polledAt reading) (t.polledAt (reading + shift)) ∧
      Caught base (s.polledAt reading) := by
  have opened := shifted.open reading later
  have near : Near base (s.open reading) := by
    refine ⟨?_, young⟩
    intro hand
    have behind := caught hand
    change reading < base + hand.span * (s.ring.wheel hand).toNat + 2 ^ 30 + 750
    cases hand <;> simp only [Hand.span] at behind ⊢ <;> omega
  obtain ⟨minor, minorNear, minorOne, minorTwo⟩ := opened.wheels near .mi (UInt32.ofNat reading)
    (UInt32.ofNat (reading + shift)) rfl rfl
  obtain ⟨major, majorNear, majorOne, majorTwo⟩ := minor.wheels minorNear .ma _ _ minorOne minorTwo
  obtain ⟨⟨minorClock, minorPolled, _⟩, minorDone⟩ :=
    wheel_frame .mi (UInt32.ofNat reading) (s.open reading)
  obtain ⟨⟨majorClock, majorPolled, others⟩, majorDone⟩ := wheel_frame .ma (UInt32.ofNat reading)
    (txTimerPollingWheel .mi (UInt32.ofNat reading) (s.open reading))
  obtain ⟨scanWheel, scanPolled⟩ := scan_frame (UInt32.ofNat reading) (s.turnedAt reading)
  refine ⟨major.scanned majorNear _ _ majorOne majorTwo, ?_⟩
  have polled : (s.polledAt reading).polled = reading :=
    scanPolled.trans (majorPolled.trans minorPolled)
  have wheel : (s.polledAt reading).ring.wheel = (s.turnedAt reading).ring.wheel := scanWheel
  have minorLag := minor.lag_iff minorNear .mi
  have majorLag := major.lag_iff majorNear .ma
  rw [minorOne, minorClock] at minorLag
  rw [majorOne, majorClock, minorClock] at majorLag
  have minorStill := mt minorLag.mpr (by omega)
  have majorStill := mt majorLag.mpr (by omega)
  have clock : (s.open reading).clock = reading := rfl
  intro hand
  rw [polled, wheel]
  cases hand with
  | mi =>
      have same : (s.turnedAt reading).ring.wheel .mi = _ := others .mi (by decide)
      rw [same]
      omega
  | ma =>
      unfold Timers.turnedAt
      omega

theorem Shifted.polling (shifted : Shifted base shift [] s t) (caught : Caught base s) (reading : Nat)
    (slept : Option Nat) (later : s.clock ≤ reading) (soon : reading < s.polled + 2 ^ 30)
    (young : reading < base + 2 ^ 62) (pause : ∀ last ∈ slept, reading ≤ last) :
    Shifted base shift [] (txTimerPolling s reading slept)
        (txTimerPolling t (reading + shift) (slept.map (fun last => last + shift))) ∧
      Caught base (txTimerPolling s reading slept) := by
  obtain ⟨polled, caught⟩ := shifted.polledAt caught reading later soon young
  rw [polling_eq, polling_eq]
  cases slept with
  | none => exact ⟨polled, caught⟩
  | some last =>
      refine ⟨polled.getticks last ?_, caught⟩
      rw [(reading_polled s reading).2]
      exact pause last rfl

theorem Shifted.reset (shifted : Shifted base shift [] s t) (caught : Caught base s) (timer : T)
    (umilsec : UInt32) (short : umilsec.toNat < 2 ^ 30)
    (unsplit : Unsplit base shift s (.reset timer umilsec)) :
    Shifted base shift [] (txTimerReset s timer umilsec) (txTimerReset t timer umilsec) := by
  have clock := shifted.clock
  have amount : umilsec = UInt32.ofNat umilsec.toNat := UInt32.ofNat_toNat.symm
  have one : s.txTicks + umilsec = UInt32.ofNat (base + (s.clock - base + umilsec.toNat)) := by
    rw [shifted.ticks.1]
    have sum : base + (s.clock - base + umilsec.toNat) = s.clock + umilsec.toNat := by omega
    rw [sum, UInt32.ofNat_add, ← amount]
  have two : t.txTicks + umilsec = UInt32.ofNat (base + shift + (s.clock - base + umilsec.toNat)) := by
    rw [shifted.ticks.2, clock.2]
    have sum : base + shift + (s.clock - base + umilsec.toNat) = s.clock + shift + umilsec.toNat := by
      omega
    rw [sum, UInt32.ofNat_add (s.clock + shift), ← amount]
  have same : SameDeadline base shift s.clock (s.txTicks + umilsec) (t.txTicks + umilsec) := by
    refine ⟨_, one, two, ?_, by omega⟩
    rcases unsplit with wraps | ⟨first, second, _⟩
    · omega
    · exact iff_of_true first second
  have bucket (s' t' : Timers T) (kept : Shifted base shift [] s' t') (ring : s'.ring.wheel = s.ring.wheel)
      (reading : s'.clock = s.clock) :
      txTimerBucket t'.ring (t.txTicks + umilsec) = txTimerBucket s'.ring (s.txTicks + umilsec) := by
    rcases unsplit with wraps | ⟨_, _, soon, young⟩
    · exact kept.bucket_wraps _ _ _ one two wraps
    · have near : Near base s := by
        refine ⟨?_, young⟩
        intro hand
        have behind := caught hand
        cases hand <;> simp only [Hand.span] at behind ⊢ <;> omega
      exact kept.bucket (near.same s' ring reading) _ _ (reading ▸ same)
  unfold txTimerReset
  rw [shifted.idle timer]
  split
  · exact shifted.resetIdle timer umilsec (bucket s t shifted rfl rfl) same
  · exact (shifted.remove timer).resetIdle timer umilsec (bucket _ _ (shifted.remove timer) rfl rfl) same

theorem Shifted.act (shifted : Shifted base shift [] s t) (caught : Caught base s) (action : Action T)
    (paced : Paced s action) (unsplit : Unsplit base shift s action) :
    Shifted base shift [] (s.act action) (t.act (action.shift shift)) ∧ Caught base (s.act action) := by
  cases action with
  | getticks reading => exact ⟨shifted.getticks reading paced, caught⟩
  | reset timer umilsec =>
      refine ⟨shifted.reset caught timer umilsec paced unsplit, ?_⟩
      have framed := framed_reset s timer umilsec
      unfold Caught Timers.act
      dsimp only
      rw [framed.polled, framed.wheel]
      exact caught
  | stop timer =>
      simp only [Timers.act, Action.shift, txTimerStop, shifted.idle timer]
      split
      · exact ⟨shifted.remove timer, caught⟩
      · exact ⟨shifted, caught⟩
  | drain timer =>
      simp only [Timers.act, Action.shift, txTimerDrain, shifted.idle timer]
      split
      · exact ⟨(shifted.remove timer).active timer, caught⟩
      · exact ⟨shifted, caught⟩
  | polling reading slept =>
      exact shifted.polling caught reading slept paced.1 paced.2.1 unsplit paced.2.2

theorem shifted_run (shifted : Shifted base shift [] s t) (caught : Caught base s)
    (actions : List (Action T)) (paced : Allowed Paced s actions)
    (unsplit : Allowed (Unsplit base shift) s actions) :
    Shifted base shift [] (s.run actions) (t.run (actions.map (Action.shift shift))) := by
  induction actions generalizing s t with
  | nil => exact shifted
  | cons action actions ih =>
      obtain ⟨next, nextCaught⟩ := shifted.act caught action paced.1 unsplit.1
      exact ih next nextCaught paced.2 unsplit.2

end Sim

variable [DecidableEq T]

/-- While no deadline passes 2^32 under one of the clocks only, a shift of the clock moves no
timer to another list and no activation to another polling. -/
theorem shift_invariant (base shift : Nat) (actions : List (Action T))
    (paced : Allowed Paced (txTimerRingNew base) actions)
    (unsplit : Allowed (Unsplit base shift) (txTimerRingNew base) actions) (front back : List (Action T))
    (split : actions = front ++ back) :
    let s := (txTimerRingNew base).run front
    let t := (txTimerRingNew (base + shift)).run (front.map (Action.shift shift))
    t.ring.timers = s.ring.timers ∧ t.calls = s.calls ∧
      ∀ timer, (t.timer timer).idle = (s.timer timer).idle := by
  subst split
  obtain ⟨start, caught⟩ := shifted_new (T := T) base shift
  have shifted := shifted_run start caught front ((allowed_append Paced _ front back).mp paced).1
    ((allowed_append (Unsplit base shift) _ front back).mp unsplit).1
  exact ⟨shifted.timers, shifted.calls, shifted.idle⟩

theorem shift_invariant_sample :
    ((txTimerRingNew 1000 : Timers Unit).run [.reset () 100, .polling 1120 none]).calls =
        ((txTimerRingNew 0 : Timers Unit).run [.reset () 100, .polling 120 none]).calls ∧
      ((txTimerRingNew 4294967256 : Timers Unit).run [.reset () 100, .polling 4294967316 none]).ring.timers =
        ((txTimerRingNew 4294967246 : Timers Unit).run [.reset () 100, .polling 4294967306 none]).ring.timers :=
  ⟨(shift_invariant 0 1000 [.reset () 100, .polling 120 none] (by decide) (by decide)
      [.reset () 100, .polling 120 none] [] rfl).2.1,
    (shift_invariant 4294967246 10 [.reset () 100, .polling 4294967306 none] (by decide) (by decide)
      [.reset () 100, .polling 4294967306 none] [] rfl).1⟩

/-- A deadline 50 ms past the wrap of the shifted clock is taken for one long past: the timer
goes to the long timers instead of the minor wheel. -/
theorem shift_wraps :
    let s := (txTimerRingNew 0 : Timers Unit).run [.reset () 100]
    let t := (txTimerRingNew 4294967246 : Timers Unit).run [.reset () 100]
    Allowed Paced (txTimerRingNew 0 : Timers Unit) [.reset () 100] ∧
      () ∈ s.ring.timers (.wheel .mi 6) ∧ () ∉ t.ring.timers (.wheel .mi 6) ∧ () ∈ t.ring.timers .st := by
  refine ⟨?_, ?_, ?_, ?_⟩ <;> decide

end Libtx
