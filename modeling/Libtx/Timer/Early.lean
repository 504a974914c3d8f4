import Libtx.Timer.Rescan

namespace Libtx

variable {T : Type}

def Forward (s : Timers T) : Action T → Prop
  | .getticks reading => s.clock ≤ reading
  | .polling reading slept => s.clock ≤ reading ∧ ∀ later ∈ slept, reading ≤ later
  | _ => True

instance (s : Timers T) (action : Action T) : Decidable (Forward s action) :=
  match action with
  | .getticks reading => inferInstanceAs (Decidable (s.clock ≤ reading))
  | .polling reading slept =>
      inferInstanceAs (Decidable (s.clock ≤ reading ∧ ∀ later ∈ slept, reading ≤ later))
  | .reset _ _ => .isTrue trivial
  | .stop _ => .isTrue trivial
  | .drain _ => .isTrue trivial

def Action.Sets (timer : T) : Action T → Prop
  | .reset other _ => other = timer
  | .drain other => other = timer
  | _ => False

variable [DecidableEq T]

structure Kept (ticks interval : UInt32) (timer : T) (count : Nat) (s : Timers T) : Prop where
  read : s.txTicks = ticks
  keeps : (s.timer timer).interval = interval
  calls : ¬ Fires ticks interval → s.calls.count timer = count

section Keep

variable {ticks interval : UInt32} {timer : T} {count : Nat} {s : Timers T}

theorem Kept.each (kept : Kept ticks interval timer count s) (cur : T) :
    Kept ticks interval timer count (txTimerPollingEach ticks s cur) := by
  have same := (framed_each ticks s cur).ticks.trans kept.read
  by_cases own : timer = cur
  · subst own
    by_cases fires : Fires ticks (s.timer timer).interval
    · have held : Fires ticks interval := kept.keeps ▸ fires
      refine ⟨same, ?_, fun waits => absurd held waits⟩
      rw [pollingEach_fires ticks s timer fires]
      exact (interval_setIdle s timer timer).trans kept.keeps
    · rw [pollingEach_waits ticks s timer fires] at same ⊢
      refine ⟨same, ?_, kept.calls⟩
      have own : (s.setIdle timer).txTicks = ticks := kept.read
      rw [timer_resetIdle, Function.update_self, own, interval_again, kept.keeps]
  · by_cases fires : Fires ticks (s.timer cur).interval
    · rw [pollingEach_fires ticks s cur fires] at same ⊢
      refine ⟨same, (interval_setIdle s cur timer).trans kept.keeps, fun waits => ?_⟩
      exact (count_other s.calls cur own).trans (kept.calls waits)
    · rw [pollingEach_waits ticks s cur fires] at same ⊢
      refine ⟨same, ?_, kept.calls⟩
      have spared := spared_resetIdle (s.setIdle cur) cur ((s.timer cur).interval - ticks)
      rw [spared.timer timer own, interval_setIdle, kept.keeps]

theorem Kept.list (kept : Kept ticks interval timer count s) (bucket : Bucket) :
    Kept ticks interval timer count (txTimerPollingList ticks s bucket) :=
  foldl_rule ticks (fun _ next => Kept ticks interval timer count next)
    (fun cur _ _ held => held.each cur) (s.ring.timers bucket) (s.listInit bucket)
    ⟨kept.read, kept.keeps, kept.calls⟩

theorem Kept.wheel (kept : Kept ticks interval timer count s) (hand : Hand) :
    Kept ticks interval timer count (txTimerPollingWheel hand ticks s) := by
  have loop := wheel_rule hand ticks (Kept ticks interval timer count)
    (by
      intro next kept _
      have advanced : Kept ticks interval timer count (next.advance hand) :=
        ⟨kept.read, kept.keeps, kept.calls⟩
      exact advanced.list _)
    s kept
  exact loop.1

theorem Kept.scan (kept : Kept ticks interval timer count s) :
    Kept ticks interval timer count (txTimerPollingSt ticks s) := by
  unfold txTimerPollingSt
  split
  · have marked : Kept ticks interval timer count (s.setStTick ticks) :=
      ⟨kept.read, kept.keeps, kept.calls⟩
    exact marked.list .st
  · exact kept

theorem kept_polled (s : Timers T) (reading : Nat) (timer : T) :
    Kept (UInt32.ofNat reading) (s.timer timer).interval timer (s.calls.count timer)
      (s.polledAt reading) := by
  have opened : Kept (UInt32.ofNat reading) (s.timer timer).interval timer (s.calls.count timer)
      (s.open reading) := ⟨rfl, rfl, fun _ => rfl⟩
  exact ((opened.wheel .mi).wheel .ma).scan

theorem interval_polling (s : Timers T) (reading : Nat) (slept : Option Nat) (timer : T) :
    ((txTimerPolling s reading slept).timer timer).interval = (s.timer timer).interval := by
  have kept := kept_polled s reading timer
  rw [polling_eq]
  cases slept with
  | none => exact kept.keeps
  | some later => exact kept.keeps

theorem calls_polling (s : Timers T) (reading : Nat) (slept : Option Nat) (timer : T)
    (waits : ¬ Fires (UInt32.ofNat reading) (s.timer timer).interval) :
    (txTimerPolling s reading slept).calls.count timer = s.calls.count timer := by
  have kept := kept_polled s reading timer
  rw [polling_eq]
  cases slept with
  | none => exact kept.calls waits
  | some later => exact kept.calls waits

theorem interval_act (s : Timers T) (action : Action T) (timer : T) (unset : ¬ action.Sets timer) :
    ((s.act action).timer timer).interval = (s.timer timer).interval := by
  cases action with
  | getticks reading => rfl
  | reset cur umilsec =>
      rw [Timers.act, (spared_reset s cur umilsec).timer timer (fun same => unset same.symm)]
  | stop cur =>
      simp only [Timers.act, txTimerStop]
      split
      · exact interval_setIdle s cur timer
      · rfl
  | drain cur => rw [Timers.act, (spared_drain s cur).timer timer (fun same => unset same.symm)]
  | polling reading slept => exact interval_polling s reading slept timer

theorem reading_polled (s : Timers T) (reading : Nat) :
    (s.polledAt reading).txTicks = UInt32.ofNat reading ∧ (s.polledAt reading).clock = reading := by
  have turn : ∀ hand (s : Timers T), s.txTicks = UInt32.ofNat reading ∧ s.clock = reading →
      (txTimerPollingWheel hand (UInt32.ofNat reading) s).txTicks = UInt32.ofNat reading ∧
        (txTimerPollingWheel hand (UInt32.ofNat reading) s).clock = reading := by
    intro hand s start
    exact (wheel_rule hand (UInt32.ofNat reading)
      (fun next => next.txTicks = UInt32.ofNat reading ∧ next.clock = reading)
      (fun next held _ => ⟨(ticks_turn hand _ next).trans held.1, (turn_frame hand _ next).1.trans held.2⟩)
      s start).1
  have turned : (s.turnedAt reading).txTicks = UInt32.ofNat reading ∧
      (s.turnedAt reading).clock = reading := turn .ma _ (turn .mi (s.open reading) ⟨rfl, rfl⟩)
  unfold Timers.polledAt txTimerPollingSt
  split
  · have framed := framed_list (UInt32.ofNat reading)
      ((s.turnedAt reading).setStTick (UInt32.ofNat reading)) .st
    exact ⟨framed.ticks.trans turned.1, framed.clock.trans turned.2⟩
  · exact turned

theorem forward_act (s : Timers T) (action : Action T) (forward : Forward s action)
    (ticks : s.txTicks = UInt32.ofNat s.clock) :
    (s.act action).txTicks = UInt32.ofNat (s.act action).clock ∧ s.clock ≤ (s.act action).clock := by
  cases action with
  | getticks reading => exact ⟨rfl, forward⟩
  | reset timer umilsec =>
      have framed := framed_reset s timer umilsec
      rw [Timers.act, framed.ticks, framed.clock]
      exact ⟨ticks, Nat.le_refl _⟩
  | stop timer =>
      have framed := framed_stop s timer
      rw [Timers.act, framed.ticks, framed.clock]
      exact ⟨ticks, Nat.le_refl _⟩
  | drain timer =>
      have framed := framed_drain s timer
      rw [Timers.act, framed.ticks, framed.clock]
      exact ⟨ticks, Nat.le_refl _⟩
  | polling reading slept =>
      rw [Timers.act, polling_eq]
      cases slept with
      | none =>
          have polled := reading_polled s reading
          dsimp only
          rw [polled.1, polled.2]
          exact ⟨rfl, forward.1⟩
      | some later => exact ⟨rfl, Nat.le_trans forward.1 (forward.2 later rfl)⟩

end Keep

theorem forward_run (s : Timers T) (ticks : s.txTicks = UInt32.ofNat s.clock)
    (actions : List (Action T)) (forward : Allowed Forward s actions) :
    (s.run actions).txTicks = UInt32.ofNat (s.run actions).clock ∧ s.clock ≤ (s.run actions).clock := by
  apply run_rule Forward
    (fun next => next.txTicks = UInt32.ofNat next.clock ∧ s.clock ≤ next.clock)
  · intro next action allowed held
    have step := forward_act next action allowed held.1
    exact ⟨step.1, Nat.le_trans held.2 step.2⟩
  · exact forward
  · exact ⟨ticks, Nat.le_refl _⟩

theorem interval_run (s : Timers T) (timer : T) (actions : List (Action T))
    (unset : ∀ action ∈ actions, ¬ action.Sets timer) :
    ((s.run actions).timer timer).interval = (s.timer timer).interval := by
  apply run_rule (fun _ action => ¬ action.Sets timer)
    (fun next => (next.timer timer).interval = (s.timer timer).interval)
  · intro next action untouched held
    rw [interval_act next action timer untouched, held]
  · exact allowed_every _ s actions unset
  · rfl

theorem interval_reset (s : Timers T) (timer : T) (umilsec : UInt32) :
    ((txTimerReset s timer umilsec).timer timer).interval = s.txTicks + umilsec := by
  have idle : ∀ s : Timers T, ((txTimerResetIdle s timer umilsec).timer timer).interval =
      s.txTicks + umilsec := by
    intro s
    rw [timer_resetIdle, Function.update_self]
  unfold txTimerReset
  split
  · exact idle s
  · exact idle _

theorem waits_early (clock reading : Nat) (umilsec : UInt32) (later : clock ≤ reading)
    (early : reading + 14 < clock + umilsec.toNat) (short : umilsec.toNat < 2 ^ 31 + 15) :
    ¬ Fires (UInt32.ofNat reading) (UInt32.ofNat clock + umilsec) := by
  rw [fires_iff, UInt32.toNat_add, UInt32.toNat_ofNat', UInt32.toNat_ofNat']
  omega

/-- No run activates the timer more than 14 ms before the end of a delay of `umilsec`. -/
def NeverEarly (timer : T) (umilsec : UInt32) : Prop :=
  ∀ base actions more, Allowed Forward (txTimerRingNew base) (actions ++ .reset timer umilsec :: more) →
    (∀ action ∈ more, ¬ action.Sets timer) →
    ∀ before reading slept after, more = before ++ .polling reading slept :: after →
      let s := (txTimerRingNew base).run actions
      let last := (txTimerReset s timer umilsec).run before
      reading + 14 < s.clock + umilsec.toNat →
        (last.act (.polling reading slept)).calls.count timer = last.calls.count timer

theorem never_early (timer : T) (umilsec : UInt32) (short : umilsec.toNat < 2 ^ 31 + 15) :
    NeverEarly timer umilsec := by
  intro base actions more forward unset before reading slept after split s last early
  subst split
  obtain ⟨first, rest⟩ := (allowed_append Forward _ actions _).mp forward
  have start := forward_run _ rfl actions first
  have set := forward_act s (.reset timer umilsec) trivial start.1
  obtain ⟨middle, poll⟩ := (allowed_append Forward _ before _).mp rest.2
  have reached := forward_run _ set.1 before middle
  have interval : (last.timer timer).interval = UInt32.ofNat s.clock + umilsec := by
    rw [interval_run _ timer before (fun action member => unset action (List.mem_append_left _ member)),
      interval_reset, start.1]
  have later : s.clock ≤ reading :=
    Nat.le_trans (Nat.le_trans set.2 reached.2) poll.1.1
  apply calls_polling last reading slept timer
  rw [interval]
  exact waits_early s.clock reading umilsec later early short

theorem Timed.fire_scan {base : Nat} {s : Timers T} (timed : Timed base s) (reading : Nat)
    (later : s.clock ≤ reading) (soon : reading < s.polled + 2 ^ 30) (small : reading < 2 ^ 32)
    (scans : s.ring.txStTick.toNat + 45000 ≤ reading) (timer : T)
    (linked : timer ∈ s.ring.timers .st)
    (fires : Fires (UInt32.ofNat reading) (s.timer timer).interval) :
    (s.polledAt reading).calls.count timer = s.calls.count timer + 1 := by
  have waits : Waits (fun bucket => bucket = .st) timer (s.timer timer).interval
      (s.calls.count timer) [] s := ⟨rfl, rfl, Or.inr ⟨.st, rfl, linked⟩⟩
  obtain ⟨turned, same, _⟩ := timed.turned reading later soon small
  have clock : (s.turnedAt reading).clock = reading := turned.clock
  have scanned := timed.scanned
  have past := timed.past
  have follows := turned.catching.follow_scan (by rw [same, clock]; omega)
    (timed.long_turned reading later soon small waits) (fun _ => False)
    (fun _ holds => absurd fires holds)
    (fun early => by rw [same, clock] at early; omega)
  rcases follows with kept | fired
  · obtain ⟨_, never, _⟩ := kept.linked
    exact absurd never id
  · exact fired.2.count

theorem fires_early (timer : T) (umilsec : UInt32) (long : 2 ^ 31 + 15 ≤ umilsec.toNat) (start : Nat)
    (before : start ≤ 45000) (small : start + umilsec.toNat < 2 ^ 32)
    (test : 2 ^ 31 ≤ start + umilsec.toNat - 45015) :
    let s := (txTimerRingNew 0 : Timers T).act (.getticks start)
    Allowed Forward (txTimerRingNew 0)
        [.getticks start, .reset timer umilsec, .polling 45000 none] ∧
      ((txTimerReset s timer umilsec).act (.polling 45000 none)).calls.count timer =
        (txTimerReset s timer umilsec).calls.count timer + 1 := by
  intro s
  have new : Timed 0 (txTimerRingNew 0 : Timers T) := timed_new 0 (by decide)
  have timed : Timed 0 s := new.getticks start (Nat.zero_le start) (by omega)
  have ticks : s.txTicks.toNat = start := UInt32.toNat_ofNat_of_lt (Nat.lt_of_le_of_lt before (by decide))
  have interval : (s.txTicks + umilsec).toNat = start + umilsec.toNat := by
    rw [UInt32.toNat_add, ticks, Nat.mod_eq_of_lt small]
  have bucket : txTimerBucket s.ring (s.txTicks + umilsec) = .st := by
    have tick : ∀ hand, (s.ring.tick hand).toNat = 0 := fun _ => rfl
    apply bucket_st s.ring _ timed.grid.small <;> rw [interval, TxTimerRing.covers, tick] <;>
      simp only [Hand.span, Hand.slots] <;> omega
  have idled : txTimerReset s timer umilsec = txTimerResetIdle s timer umilsec := if_pos rfl
  have reset := timed.resetIdle timer umilsec rfl (by
    change start + umilsec.toNat < 2 ^ 32
    exact small)
  have member := resetIdle_self s timer umilsec
  rw [bucket] at member
  rw [idled]
  have flags : ((txTimerResetIdle s timer umilsec).timer timer).interval = s.txTicks + umilsec := by
    rw [← idled, interval_reset]
  refine ⟨⟨Nat.zero_le start, trivial, ⟨?_, by simp⟩, trivial⟩, ?_⟩
  · change (txTimerReset s timer umilsec).clock ≤ 45000
    rw [idled]
    exact before
  · apply reset.fire_scan 45000 before (by
      change 45000 < 0 + 2 ^ 30
      decide) (by decide) (by
      change 0 + 45000 ≤ 45000
      decide) timer member
    have read : (UInt32.ofNat 45000).toNat = 45000 := rfl
    rw [flags, fires_iff, interval, read]
    omega

theorem long_early (timer : T) (umilsec : UInt32) (never : NeverEarly timer umilsec) :
    umilsec.toNat < 2 ^ 31 + 15 := by
  by_contra long
  have bound := umilsec.toNat_lt
  have fails : ∀ start, start ≤ 45000 → start + umilsec.toNat < 2 ^ 32 →
      2 ^ 31 ≤ start + umilsec.toNat - 45015 → False := by
    intro start before small test
    obtain ⟨forward, fired⟩ := fires_early timer umilsec (by omega) start before small test
    have kept := never 0 [.getticks start] [.polling 45000 none] forward (by simp [Action.Sets]) []
      45000 none [] rfl (by
        change 45000 + 14 < start + umilsec.toNat
        omega)
    exact absurd (fired.symm.trans kept) (Nat.succ_ne_self _)
  by_cases room : 45000 + umilsec.toNat < 2 ^ 32
  · exact fails 45000 (Nat.le_refl _) room (by omega)
  · exact fails 0 (by decide) (by omega) (by omega)

/-- A timer is never early exactly for the delays below 2^31 + 15 ms. -/
theorem never_early_iff (timer : T) (umilsec : UInt32) :
    NeverEarly timer umilsec ↔ umilsec.toNat < 2 ^ 31 + 15 := by
  constructor
  · exact long_early timer umilsec
  · exact never_early timer umilsec

theorem early_sample : ¬ NeverEarly () 4294967295 := by
  intro never
  have bound := long_early () 4294967295 never
  exact absurd bound (by decide)

end Libtx
