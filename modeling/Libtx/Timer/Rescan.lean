import Libtx.Timer.OnTime

/-! The list of long timers: it is scanned 45 s after the last scan, but a timer is put on
it when the major wheel, which stands on its own grid, does not reach the deadline. -/

namespace Libtx

variable {T : Type}

/-- The tick that the major wheel shows once it has caught up with `reading`. -/
def Timers.majorAt (s : Timers T) (reading : Nat) : Nat :=
  (s.ring.tick .ma).toNat + 750 * ((reading - (s.ring.tick .ma).toNat) / 750)

/-- What an action links as a long timer is not due before the next scan. -/
def Phased (s : Timers T) : Action T → Prop
  | .reset _ umilsec => txTimerBucket s.ring (s.txTicks + umilsec) = .st →
      s.ring.txStTick.toNat + 45000 ≤ (s.txTicks + umilsec).toNat + 15
  | .polling reading _ => s.ring.txStTick.toNat + 45000 ≤ reading →
      ∀ timer ∈ s.ring.timers .st, reading + 15 ≤ (s.timer timer).interval.toNat →
        s.majorAt reading + 45000 ≤ (s.timer timer).interval.toNat →
        reading + 45000 ≤ (s.timer timer).interval.toNat + 15
  | _ => True

instance (s : Timers T) (action : Action T) : Decidable (Phased s action) :=
  match action with
  | .reset _ umilsec => inferInstanceAs (Decidable (txTimerBucket s.ring (s.txTicks + umilsec) = .st →
      s.ring.txStTick.toNat + 45000 ≤ (s.txTicks + umilsec).toNat + 15))
  | .polling reading _ => inferInstanceAs (Decidable (s.ring.txStTick.toNat + 45000 ≤ reading →
      ∀ timer ∈ s.ring.timers .st, reading + 15 ≤ (s.timer timer).interval.toNat →
        s.majorAt reading + 45000 ≤ (s.timer timer).interval.toNat →
        reading + 45000 ≤ (s.timer timer).interval.toNat + 15))
  | .getticks _ => .isTrue trivial
  | .stop _ => .isTrue trivial
  | .drain _ => .isTrue trivial

/-- A polling that does not scan the long timers finds none of them due. -/
def Timely (s : Timers T) : Action T → Prop
  | .polling reading _ => reading < s.ring.txStTick.toNat + 45000 →
      ∀ timer ∈ s.ring.timers .st, reading < (s.timer timer).interval.toNat + 15
  | _ => True

def Listed (good : Nat → Prop) (s : Timers T) : Prop :=
  ∀ timer ∈ s.ring.timers .st, good (s.timer timer).interval.toNat

def Long (s : Timers T) : Prop := Listed (fun interval => s.ring.txStTick.toNat + 45000 ≤ interval + 15) s

/-- No long timer was due at the last polling. -/
def Punctual (s : Timers T) : Prop := Listed (fun interval => s.polled < interval + 15) s

def inAny (_ : Bucket) : Prop := True

variable [DecidableEq T]

section Scan

variable {base : Nat} {ticks : UInt32} {s : Timers T} {timer : T} {interval : UInt32} {count : Nat}

theorem Placed.linked_one (placed : Placed [] s) {here : Bucket → Prop} {bucket : Bucket}
    (waits : Waits here timer interval count [] s) (member : timer ∈ s.ring.timers bucket) :
    here bucket := by
  obtain ⟨place, allowed, linked⟩ := waits.linked
  rw [placed.apart place bucket timer linked member] at allowed
  exact allowed

theorem ticks_turn (hand : Hand) (ticks : UInt32) (s : Timers T) :
    (txTimerPollingTurn hand ticks s).txTicks = s.txTicks :=
  (framed_list ticks (s.advance hand) _).ticks

theorem Waits.long_wheel (waits : Waits (fun bucket => bucket = .st) timer interval count [] s)
    (placed : Placed [] s) (same : s.txTicks = ticks) (hand : Hand) :
    Waits (fun bucket => bucket = .st) timer interval count [] (txTimerPollingWheel hand ticks s) := by
  have kept := wheel_rule hand ticks
    (fun next => Placed [] next ∧ next.txTicks = ticks ∧
      Waits (fun bucket => bucket = .st) timer interval count [] next)
    (by
      rintro next ⟨placed, same, waits⟩ _
      refine ⟨placed.turn hand ticks, (ticks_turn hand ticks next).trans same, ?_⟩
      have advanced : Placed [] (next.advance hand) := placed.same _ rfl rfl
      have still : Waits (fun bucket => bucket = .st) timer interval count [] (next.advance hand) :=
        waits.same _ rfl rfl rfl
      have absent : timer ∉ (next.advance hand).ring.timers
          (.wheel hand (((next.advance hand).ring.wheel hand) % hand.size).toNat) := by
        intro member
        exact absurd (advanced.linked_one still member) (by simp)
      have follows : Follows (fun bucket => bucket = .st) False timer interval count []
          (txTimerPollingTurn hand ticks next) :=
        Follows.list (Or.inl still) advanced ticks same _ (fun _ _ allowed => allowed)
          (fun member _ _ => absurd member absent) (fun member _ _ => absurd member absent)
      exact follows.resolve_right (fun fired => fired.1))
    s ⟨placed, same, waits⟩
  exact kept.1.2.2

theorem Catching.follow_scan (catching : Catching base ticks s)
    (last : s.ring.txStTick.toNat ≤ s.clock ∧ s.clock < s.ring.txStTick.toNat + 2 ^ 31)
    (waits : Waits (fun bucket => bucket = .st) timer interval count [] s) (here : Bucket → Prop)
    (scans : s.ring.txStTick.toNat + 45000 ≤ s.clock → ¬ Fires ticks interval →
      here (txTimerBucket s.ring interval))
    (stays : s.clock < s.ring.txStTick.toNat + 45000 → here .st) :
    Follows here (s.ring.txStTick.toNat + 45000 ≤ s.clock) timer interval count []
      (txTimerPollingSt ticks s) := by
  have reading := catching.grid.reading
  rw [catching.ticks] at reading
  have test := scan_iff ticks s.ring.txStTick (by omega) (by omega)
  rw [reading] at test
  obtain ⟨place, only, member⟩ := waits.linked
  by_cases due : s.ring.txStTick.toNat + 45000 ≤ s.clock
  · simp only [txTimerPollingSt, if_pos (test.mpr due)]
    have placed : Placed [] (s.setStTick ticks) := catching.placed.same _ rfl rfl
    have still : Waits (fun bucket => bucket = .st) timer interval count [] (s.setStTick ticks) :=
      waits.same _ rfl rfl rfl
    apply Follows.list (Or.inl still) placed ticks catching.ticks .st
    · exact fun place apart only => absurd only apart
    · exact fun _ _ _ => due
    · intro _ _ holds
      exact scans due holds
  · simp only [txTimerPollingSt, if_neg (mt test.mp due)]
    exact Or.inl ⟨waits.interval, waits.count, Or.inr ⟨.st, stays (by omega), only ▸ member⟩⟩

theorem Timed.long_turned (timed : Timed base s) (reading : Nat) (later : s.clock ≤ reading)
    (soon : reading < s.polled + 2 ^ 30) (small : reading < 2 ^ 32)
    (waits : Waits (fun bucket => bucket = .st) timer interval count [] s) :
    Waits (fun bucket => bucket = .st) timer interval count [] (s.turnedAt reading) := by
  have opened : Waits (fun bucket => bucket = .st) timer interval count [] (s.open reading) :=
    waits.same _ rfl rfl rfl
  have placed : Placed [] (s.open reading) := timed.placed.same _ rfl rfl
  have minor := opened.long_wheel placed rfl .mi
  have ticksMinor : (txTimerPollingWheel .mi (UInt32.ofNat reading) (s.open reading)).txTicks =
      UInt32.ofNat reading :=
    ((timed.open reading later soon small).passes_wheel .mi (by simp)).1.catching.ticks
  exact minor.long_wheel (placed.wheel .mi _) ticksMinor .ma

theorem Timed.major_turned (timed : Timed base s) (reading : Nat) (later : s.clock ≤ reading)
    (soon : reading < s.polled + 2 ^ 30) (small : reading < 2 ^ 32) :
    ((s.turnedAt reading).ring.tick .ma).toNat = s.majorAt reading := by
  obtain ⟨turned, _, caught⟩ := timed.turned reading later soon small
  have before := timed.grid.aligned .ma
  have after := turned.catching.grid.aligned .ma
  have behind := timed.grid.reached .ma
  have reached := turned.catching.grid.reached .ma
  have clock : (s.turnedAt reading).clock = reading := turned.clock
  have ahead := caught .ma
  simp only [Hand.span] at before after ahead
  unfold Timers.majorAt
  omega

theorem Timed.follow_long (timed : Timed base s) (long : Long s) (reading : Nat) (slept : Option Nat)
    (later : s.clock ≤ reading) (soon : reading < s.polled + 2 ^ 30) (small : reading < 2 ^ 32)
    (phased : Phased s (.polling reading slept))
    (waits : Waits (fun bucket => bucket = .st) timer interval count [] s) :
    Follows (fun bucket => bucket = .st →
        (s.polledAt reading).ring.txStTick.toNat + 45000 ≤ interval.toNat + 15)
      (s.ring.txStTick.toNat + 45000 ≤ reading) timer interval count [] (s.polledAt reading) := by
  obtain ⟨turned, unscanned, caught⟩ := timed.turned reading later soon small
  have scan := (timed.passes reading later soon small).2.2
  have major := timed.major_turned reading later soon small
  have clock : (s.turnedAt reading).clock = reading := turned.clock
  have scanned := timed.scanned
  have past := timed.past
  obtain ⟨place, only, member⟩ := waits.linked
  subst only
  have ahead := long timer member
  rw [waits.interval] at ahead
  have waiting := timed.long_turned reading later soon small waits
  rw [scan]
  have follows := turned.catching.follow_scan (by
      rw [unscanned, clock]
      omega) waiting
    (fun bucket => bucket = .st →
      (if s.ring.txStTick.toNat + 45000 ≤ reading then reading else s.ring.txStTick.toNat) + 45000 ≤
        interval.toNat + 15)
    (by
      intro due holds inside
      rw [unscanned, clock] at due
      rw [if_pos due]
      have reading_eq : (UInt32.ofNat reading).toNat = reading := UInt32.toNat_ofNat_of_lt small
      have far := waits_far _ _ holds
      rw [reading_eq] at far
      have wide := turned.catching.grid.small
      have reached := turned.catching.grid.reached .ma
      have beyond : s.majorAt reading + 45000 ≤ interval.toNat := by
        by_contra near
        have covers : (s.turnedAt reading).ring.covers .ma interval.toNat := by
          rw [TxTimerRing.covers, major]
          simp only [Hand.span, Hand.slots]
          omega
        by_cases inner : (s.turnedAt reading).ring.covers .mi interval.toNat
        · rw [bucket_mi _ interval wide inner] at inside
          cases inside
        · rw [bucket_ma _ interval wide inner covers] at inside
          cases inside
      have held := phased due timer member
      rw [waits.interval] at held
      exact held (by omega) beyond)
    (by
      intro early _
      rw [unscanned, clock] at early
      rw [if_neg (by omega)]
      exact ahead)
  rw [unscanned, clock] at follows
  exact follows

theorem Placed.cases (placed : Placed [] s) (timer : T) :
    Rests timer (s.calls.count timer) s ∨
      Waits inWheel timer (s.timer timer).interval (s.calls.count timer) [] s ∨
      Waits (fun bucket => bucket = .st) timer (s.timer timer).interval (s.calls.count timer) [] s := by
  by_cases idle : (s.timer timer).idle = true
  · exact Or.inl ⟨idle, rfl⟩
  · obtain ⟨bucket, member⟩ := placed.linked timer (Bool.not_eq_true _ ▸ idle)
    cases bucket with
    | wheel hand slot => exact Or.inr (Or.inl ⟨rfl, rfl, Or.inr ⟨.wheel hand slot, trivial, member⟩⟩)
    | st => exact Or.inr (Or.inr ⟨rfl, rfl, Or.inr ⟨.st, rfl, member⟩⟩)

theorem Timed.long_polling (timed : Timed base s) (long : Long s) (reading : Nat) (slept : Option Nat)
    (short : Short s (.polling reading slept)) (phased : Phased s (.polling reading slept)) :
    Long (txTimerPolling s reading slept) := by
  obtain ⟨later, soon, small, pause⟩ := short
  have next := (timed.passes reading later soon small).1.catching.placed
  have kept : Long (s.polledAt reading) := by
    intro timer member
    have linked : ∀ count, ¬ Rests timer count (s.polledAt reading) :=
      fun _ rests => ((next.idle timer).mp rests.idle).2 .st member
    rcases timed.placed.cases timer with rests | wheel | waits
    · exact absurd (rests.polling timed.placed reading none) (linked _)
    · rcases timed.follow_polling reading none later soon small timer _ _ wheel with kept | fired
      · exact absurd (next.linked_one kept member) id
      · exact absurd fired.2 (linked _)
    · rcases timed.follow_long long reading slept later soon small phased waits with kept | fired
      · rw [kept.interval]
        exact next.linked_one kept member rfl
      · exact absurd fired.2 (linked _)
  rw [polling_eq]
  cases slept with
  | none => exact kept
  | some after => exact kept

theorem Listed.remove {good : Nat → Prop} (listed : Listed good s) (timer : T) :
    Listed good ((s.listRemove timer).setIdle timer) := by
  intro other member
  rw [interval_setIdle]
  exact listed other (List.mem_of_mem_filter member)

theorem Listed.resetIdle {good : Nat → Prop} (listed : Listed good s) (placed : Placed [] s) (timer : T)
    (umilsec : UInt32) (idle : (s.timer timer).idle = true)
    (fits : txTimerBucket s.ring (s.txTicks + umilsec) = .st → good (s.txTicks + umilsec).toNat) :
    Listed good (txTimerResetIdle s timer umilsec) := by
  intro other member
  rw [timers_resetIdle, Function.update_apply] at member
  by_cases own : other = timer
  · subst own
    rw [timer_resetIdle, Function.update_self]
    split at member
    · rename_i inside
      exact fits inside.symm
    · exact absurd member (((placed.idle other).mp idle).2 .st)
  · rw [timer_resetIdle, Function.update_of_ne own]
    split at member
    · rename_i inside
      rw [← inside] at member
      exact listed other ((List.mem_cons.mp member).resolve_left own)
    · exact listed other member

theorem Timed.listed_act {good : Nat → Prop} (timed : Timed base s) (listed : Listed good s) (action : Action T)
    (resets : ∀ timer umilsec, action = .reset timer umilsec →
      txTimerBucket s.ring (s.txTicks + umilsec) = .st → good (s.txTicks + umilsec).toNat)
    (unpolled : ∀ reading slept, action ≠ .polling reading slept) : Listed good (s.act action) := by
  cases action with
  | getticks reading => exact listed
  | reset timer umilsec =>
      simp only [Timers.act, txTimerReset]
      split
      · rename_i idle
        exact listed.resetIdle timed.placed timer umilsec idle (resets timer umilsec rfl)
      · rename_i linked
        have removed := timed.remove timer (by simpa using linked)
        exact (listed.remove timer).resetIdle removed.placed timer umilsec (idle_setIdle _ timer)
          (resets timer umilsec rfl)
  | stop timer =>
      simp only [Timers.act, txTimerStop]
      split
      · exact listed.remove timer
      · exact listed
  | drain timer =>
      simp only [Timers.act, txTimerDrain]
      split
      · exact listed.remove timer
      · exact listed
  | polling reading slept => exact absurd rfl (unpolled reading slept)

theorem act_frame (s : Timers T) (action : Action T) (unpolled : ∀ reading slept, action ≠ .polling reading slept) :
    (s.act action).ring.txStTick = s.ring.txStTick ∧ (s.act action).polled = s.polled := by
  cases action with
  | getticks reading => exact ⟨rfl, rfl⟩
  | reset timer umilsec => exact ⟨(framed_reset s timer umilsec).stTick, (framed_reset s timer umilsec).polled⟩
  | stop timer =>
      simp only [Timers.act, txTimerStop]
      split
      · exact ⟨rfl, rfl⟩
      · exact ⟨rfl, rfl⟩
  | drain timer =>
      simp only [Timers.act, txTimerDrain]
      split
      · exact ⟨rfl, rfl⟩
      · exact ⟨rfl, rfl⟩
  | polling reading slept => exact absurd rfl (unpolled reading slept)

theorem Timed.long_act (timed : Timed base s) (long : Long s) (action : Action T)
    (short : Short s action) (phased : Phased s action) : Long (s.act action) := by
  by_cases polls : ∃ reading slept, action = .polling reading slept
  · obtain ⟨reading, slept, rfl⟩ := polls
    exact timed.long_polling long reading slept short phased
  · have unpolled : ∀ reading slept, action ≠ .polling reading slept :=
      fun reading slept same => polls ⟨reading, slept, same⟩
    rw [Long, (act_frame s action unpolled).1]
    apply timed.listed_act long action _ unpolled
    rintro timer umilsec rfl inside
    exact phased inside

theorem Timed.phased_timely (timed : Timed base s) (long : Long s) (actions : List (Action T))
    (short : Allowed Short s actions) (phased : Allowed Phased s actions) : Allowed Timely s actions := by
  induction actions generalizing s with
  | nil => trivial
  | cons action actions ih =>
      refine ⟨?_, ih (timed.act action short.1) (timed.long_act long action short.1 phased.1) short.2 phased.2⟩
      cases action with
      | polling reading slept =>
          intro unscanned timer member
          have ahead := long timer member
          dsimp only at ahead
          omega
      | getticks reading | reset timer umilsec | stop timer | drain timer => trivial

theorem Waits.mono {here there : Bucket → Prop} (waits : Waits here timer interval count [] s)
    (wider : ∀ bucket, here bucket → there bucket) : Waits there timer interval count [] s where
  interval := waits.interval
  count := waits.count
  place := by
    obtain ⟨bucket, allowed, member⟩ := waits.linked
    exact Or.inr ⟨bucket, wider bucket allowed, member⟩

theorem Timed.not_late (timed : Timed base s) (punctual : Punctual s)
    (waits : Waits inAny timer interval count [] s) : s.polled < interval.toNat + 15 := by
  obtain ⟨bucket, _, member⟩ := waits.linked
  cases bucket with
  | wheel hand slot =>
      exact timed.not_due timer interval count
        ⟨waits.interval, waits.count, Or.inr ⟨.wheel hand slot, trivial, member⟩⟩
  | st =>
      have ahead := punctual timer member
      rw [waits.interval] at ahead
      exact ahead

theorem Timed.follow_st (timed : Timed base s) (reading : Nat) (slept : Option Nat)
    (later : s.clock ≤ reading) (soon : reading < s.polled + 2 ^ 30) (small : reading < 2 ^ 32)
    (waits : Waits (fun bucket => bucket = .st) timer interval count [] s) (here : Bucket → Prop)
    (scans : s.ring.txStTick.toNat + 45000 ≤ reading → ¬ Fires (UInt32.ofNat reading) interval →
      ∀ bucket, here bucket)
    (stays : reading < s.ring.txStTick.toNat + 45000 → here .st) :
    Follows here (s.ring.txStTick.toNat + 45000 ≤ reading) timer interval count []
      (txTimerPolling s reading slept) := by
  have waiting := timed.long_turned reading later soon small waits
  obtain ⟨turned, same, _⟩ := timed.turned reading later soon small
  have clock : (s.turnedAt reading).clock = reading := turned.clock
  have scanned := timed.scanned
  have past := timed.past
  have follows := turned.catching.follow_scan (by rw [same, clock]; omega) waiting here
    (by
      rw [same, clock]
      exact fun due holds => scans due holds _)
    (by
      rw [same, clock]
      exact stays)
  rw [same, clock] at follows
  rw [polling_eq]
  cases slept with
  | none => exact follows
  | some after => exact follows.same _ rfl rfl rfl

theorem Timed.follow_any (timed : Timed base s) (reading : Nat) (slept : Option Nat)
    (short : Short s (.polling reading slept)) (waits : Waits inAny timer interval count [] s) :
    Waits inAny timer interval count [] (txTimerPolling s reading slept) ∨
      Rests timer (count + 1) (txTimerPolling s reading slept) := by
  obtain ⟨later, soon, small, _⟩ := short
  obtain ⟨bucket, _, member⟩ := waits.linked
  cases bucket with
  | wheel hand slot =>
      have wheel : Waits inWheel timer interval count [] s :=
        ⟨waits.interval, waits.count, Or.inr ⟨.wheel hand slot, trivial, member⟩⟩
      rcases timed.follow_polling reading slept later soon small timer _ _ wheel with kept | fired
      · exact Or.inl (kept.mono (fun _ _ => trivial))
      · exact Or.inr fired.2
  | st =>
      have listed : Waits (fun bucket => bucket = .st) timer interval count [] s :=
        ⟨waits.interval, waits.count, Or.inr ⟨.st, rfl, member⟩⟩
      exact (timed.follow_st reading slept later soon small listed inAny (fun _ _ _ => trivial)
        (fun _ => trivial)).imp_right And.right

theorem Timed.fire_any (timed : Timed base s) (punctual : Punctual s) (reading : Nat) (slept : Option Nat)
    (short : Short s (.polling reading slept)) (timely : Timely s (.polling reading slept))
    (waits : Waits inAny timer interval count [] s) (due : interval.toNat + 15 ≤ reading) :
    Rests timer (count + 1) (txTimerPolling s reading slept) := by
  have recent := timed.not_late punctual waits
  obtain ⟨later, soon, small, pause⟩ := short
  obtain ⟨bucket, _, member⟩ := waits.linked
  cases bucket with
  | wheel hand slot =>
      exact timed.fire_polling reading slept later soon small pause timer interval count due
        ⟨waits.interval, waits.count, Or.inr ⟨.wheel hand slot, trivial, member⟩⟩
  | st =>
      have listed : Waits (fun bucket => bucket = .st) timer interval count [] s :=
        ⟨waits.interval, waits.count, Or.inr ⟨.st, rfl, member⟩⟩
      have follows := timed.follow_st reading slept later soon small listed (fun _ => False)
        (by
          intro _ holds
          have far := waits_far _ _ holds
          have ticks : (UInt32.ofNat reading).toNat = reading := UInt32.toNat_ofNat_of_lt small
          rw [ticks] at far
          omega)
        (by
          intro unscanned
          have early := timely unscanned timer member
          rw [waits.interval] at early
          omega)
      rcases follows with kept | fired
      · obtain ⟨_, none, _⟩ := kept.linked
        exact absurd none id
      · exact fired.2

theorem Timed.punctual_polling (timed : Timed base s) (punctual : Punctual s) (reading : Nat)
    (slept : Option Nat) (short : Short s (.polling reading slept)) (timely : Timely s (.polling reading slept)) :
    Punctual (txTimerPolling s reading slept) := by
  have next := (timed.act (.polling reading slept) short).placed
  have polled := polled_polling s reading slept timed short.1 short.2.1 short.2.2.1
  intro timer member
  have linked (count : Nat) (rests : Rests timer count (txTimerPolling s reading slept)) : False :=
    ((next.idle timer).mp rests.idle).2 .st member
  have settled (waits : Waits inAny timer (s.timer timer).interval (s.calls.count timer) [] s) :
      (txTimerPolling s reading slept).polled <
        ((txTimerPolling s reading slept).timer timer).interval.toNat + 15 := by
    rcases timed.follow_any reading slept short waits with kept | fired
    · rw [kept.interval, polled]
      by_contra late
      exact linked _ (timed.fire_any punctual reading slept short timely waits (by omega))
    · exact absurd fired (linked _)
  rcases timed.placed.cases timer with rests | wheel | waits
  · exact absurd (rests.polling timed.placed reading slept) (linked _)
  · exact settled (wheel.mono fun _ _ => trivial)
  · exact settled (waits.mono fun _ _ => trivial)

theorem Timed.punctual_act (timed : Timed base s) (punctual : Punctual s) (action : Action T)
    (short : Short s action) (timely : Timely s action) : Punctual (s.act action) := by
  by_cases polls : ∃ reading slept, action = .polling reading slept
  · obtain ⟨reading, slept, rfl⟩ := polls
    exact timed.punctual_polling punctual reading slept short timely
  · have unpolled : ∀ reading slept, action ≠ .polling reading slept :=
      fun reading slept same => polls ⟨reading, slept, same⟩
    rw [Punctual, (act_frame s action unpolled).2]
    apply timed.listed_act punctual action _ unpolled
    rintro timer umilsec rfl _
    have reading := timed.grid.reading
    have past := timed.past
    have fits : s.clock + umilsec.toNat < 2 ^ 32 := short
    rw [UInt32.toNat_add, reading]
    omega

end Scan

/-- Every long timer that is left alone is activated at most once, and by every polling that is 15 ms
late. -/
def LongOnTime (base : Nat) (actions : List (Action T)) : Prop :=
  ∀ front more rest, actions = front ++ (more ++ rest) →
    ∀ timer ∈ ((txTimerRingNew base).run front).ring.timers .st, (∀ action ∈ more, ¬ action.Touches timer) →
      let s := (txTimerRingNew base).run front
      let deadline := (s.timer timer).interval.toNat
      (s.run more).calls.count timer ≤ s.calls.count timer + 1 ∧
        ∀ before reading slept after, more = before ++ .polling reading slept :: after →
          deadline + 15 ≤ reading → ((s.run before).act (.polling reading slept)).calls.count timer =
            s.calls.count timer + 1

section Runs

variable {base : Nat} {s : Timers T}

theorem punctual_run (timed : Timed base s) (punctual : Punctual s) (actions : List (Action T))
    (short : Allowed Short s actions) (timely : Allowed Timely s actions) :
    Timed base (s.run actions) ∧ Punctual (s.run actions) :=
  run_rule (fun s action => Short s action ∧ Timely s action) (fun next => Timed base next ∧ Punctual next)
    (fun _ action allowed held =>
      ⟨held.1.act action allowed.1, held.1.punctual_act held.2 action allowed.1 allowed.2⟩)
    s actions (allowed_both Short Timely s actions short timely) ⟨timed, punctual⟩

theorem follow_any_run (timed : Timed base s) (timer : T) (interval : UInt32) (count : Nat)
    (waits : Waits inAny timer interval count [] s) (actions : List (Action T)) (short : Allowed Short s actions)
    (alone : ∀ action ∈ actions, ¬ action.Touches timer) :
    Waits inAny timer interval count [] (s.run actions) ∨ Rests timer (count + 1) (s.run actions) := by
  have kept := run_rule (fun s action => Short s action ∧ ¬ action.Touches timer)
    (fun next => Timed base next ∧
      (Waits inAny timer interval count [] next ∨ Rests timer (count + 1) next))
    (by
      rintro next action ⟨short, untouched⟩ ⟨timed, waits | fired⟩
      · refine ⟨timed.act action short, waits.act action untouched ?_⟩
        intro reading slept same
        subst same
        exact timed.follow_any reading slept short waits
      · exact ⟨timed.act action short, Or.inr (fired.act timed.placed action untouched)⟩)
    s actions (allowed_both _ _ s actions short (allowed_every _ s actions alone)) ⟨timed, Or.inl waits⟩
  exact kept.2

theorem Timed.skip_polling (timed : Timed base s) (reading : Nat) (slept : Option Nat) (later : s.clock ≤ reading)
    (soon : reading < s.polled + 2 ^ 30) (small : reading < 2 ^ 32)
    (unscanned : reading < s.ring.txStTick.toNat + 45000) (timer : T)
    (linked : timer ∈ s.ring.timers .st) :
    (txTimerPolling s reading slept).calls.count timer = s.calls.count timer := by
  have waits : Waits (fun bucket => bucket = .st) timer (s.timer timer).interval
      (s.calls.count timer) [] s := ⟨rfl, rfl, Or.inr ⟨.st, rfl, linked⟩⟩
  have follows := timed.follow_st reading slept later soon small waits inAny (fun _ _ _ => trivial)
    (fun _ => trivial)
  exact (follows.resolve_right (fun fired => absurd fired.1 (by omega))).count

theorem allowed_splits (ok : Timers T → Action T → Prop) (s : Timers T) (actions : List (Action T))
    (every : ∀ front action back, actions = front ++ action :: back → ok (s.run front) action) :
    Allowed ok s actions := by
  induction actions generalizing s with
  | nil => trivial
  | cons action actions ih =>
      refine ⟨every [] action actions rfl, ih (s.act action) ?_⟩
      intro front other back split
      exact every (action :: front) other back (split ▸ rfl)

end Runs

/-- The long timers of a run are on time if and only if its pollings are timely; and they are
where no action of the run puts a timer on the list that is due before the next scan. -/
theorem long_on_time (base : Nat) (small : base < 2 ^ 32) (actions : List (Action T))
    (short : Allowed Short (txTimerRingNew base) actions) :
    (LongOnTime base actions ↔ Allowed Timely (txTimerRingNew base) actions) ∧
      (Allowed Phased (txTimerRingNew base) actions → LongOnTime base actions) := by
  have onTime : LongOnTime base actions ↔ Allowed Timely (txTimerRingNew base) actions := by
    constructor
    · intro onTime
      apply allowed_splits
      intro front action back split
      cases action with
      | polling reading slept =>
          intro unscanned timer linked
          by_contra late
          obtain ⟨firstShort, restShort⟩ := (allowed_append Short _ front _).mp (split ▸ short)
          have timed := timed_run base _ (timed_new base small) front firstShort
          have skips := timed.skip_polling reading slept restShort.1.1 restShort.1.2.1 restShort.1.2.2.1
            unscanned timer linked
          have fires := (onTime front [.polling reading slept] back split timer linked
            (by simp [Action.Touches])).2 [] reading slept [] rfl (by omega)
          have unlike := fires.symm.trans skips
          omega
      | getticks reading | reset timer umilsec | stop timer | drain timer => trivial
    · intro timely front more rest split timer linked alone s deadline
      subst split
      obtain ⟨firstShort, restShort⟩ := (allowed_append Short _ front _).mp short
      obtain ⟨firstTimely, restTimely⟩ := (allowed_append Timely _ front _).mp timely
      have moreShort := ((allowed_append Short s more rest).mp restShort).1
      have moreTimely := ((allowed_append Timely s more rest).mp restTimely).1
      obtain ⟨timed, punctual⟩ := punctual_run (timed_new base small) (by simp [Punctual, Listed, txTimerRingNew])
        front firstShort firstTimely
      have waits : Waits inAny timer (s.timer timer).interval (s.calls.count timer) [] s :=
        ⟨rfl, rfl, Or.inr ⟨.st, trivial, linked⟩⟩
      constructor
      · rcases follow_any_run timed timer _ _ waits more moreShort alone with kept | fired
        · rw [kept.count]
          omega
        · rw [fired.count]
      · intro before reading slept after split due
        subst split
        obtain ⟨untilShort, pollShort⟩ := (allowed_append Short s before _).mp moreShort
        obtain ⟨untilTimely, pollTimely⟩ := (allowed_append Timely s before _).mp moreTimely
        have untouched : ∀ action ∈ before, ¬ action.Touches timer :=
          fun action member => alone action (List.mem_append_left _ member)
        obtain ⟨there, still⟩ := punctual_run timed punctual before untilShort untilTimely
        rcases follow_any_run timed timer _ _ waits before untilShort untouched with waits | fired
        · exact (there.fire_any still reading slept pollShort.1 pollTimely.1 waits due).count
        · exact (fired.polling there.placed reading slept).count
  refine ⟨onTime, fun phased => onTime.mpr ?_⟩
  exact (timed_new base small).phased_timely (by simp [Long, Listed, txTimerRingNew]) actions short phased

theorem long_on_time_sample :
    (((txTimerRingNew 0 : Timers Unit).run [.reset () 50000]).act (.polling 50015 none)).calls.count () =
      1 := by
  have onTime := (long_on_time 0 (by decide) [.reset () 50000, .polling 50015 none] (by decide)).2 (by decide)
  exact (onTime [.reset () 50000] [.polling 50015 none] [] rfl () (by decide) (by simp [Action.Touches])).2
    [] 50015 none [] rfl (by decide)

section Late

variable {base count : Nat} {s : Timers T}

theorem run_two (s : Timers T) (first second : Action T) :
    s.run [first, second] = (s.act first).act second := rfl

theorem Timed.polled_idle (timed : Timed base s) (reading : Nat) (later : s.clock ≤ reading)
    (soon : reading < s.polled + 2 ^ 30) (small : reading < 2 ^ 32) (timer : T)
    (rests : Rests timer count s) :
    let next := s.act (.polling reading none)
    Timed base next ∧ Rests timer count next ∧ next.clock = reading ∧ next.polled = reading ∧
      next.ring.txStTick.toNat =
        if s.ring.txStTick.toNat + 45000 ≤ reading then reading else s.ring.txStTick.toNat := by
  intro next
  obtain ⟨passes, caught, scan⟩ := timed.passes reading later soon small
  exact ⟨timed.polling reading none later soon small (by simp), rests.polling timed.placed reading none,
    passes.clock, passes.polled, scan⟩

end Late

/-- The major wheel shows 45000 when the scan at 45749 is over, so a deadline at 90000 is out of
its reach; the next scan is not due before 90749. -/
theorem late_after (s : Timers Unit) (timed : Timed 0 s) (rests : Rests () 0 s) (clock : s.clock = 45749)
    (last : s.polled = 45749) (scanned : s.ring.txStTick.toNat = 45749) :
    Allowed Short s [.reset () 44251, .polling 90015 none] ∧
      () ∈ (s.act (.reset () 44251)).ring.timers .st ∧
      ((s.act (.reset () 44251)).timer ()).interval.toNat = 90000 ∧
      ((s.act (.reset () 44251)).act (.polling 90015 none)).calls.count () =
        (s.act (.reset () 44251)).calls.count () := by
  have idled : s.act (.reset () 44251) = txTimerResetIdle s () 44251 := if_pos rests.idle
  have interval : (s.txTicks + 44251).toNat = 90000 := by
    have reading := timed.grid.reading
    have delay : (44251 : UInt32).toNat = 44251 := rfl
    rw [UInt32.toNat_add, reading, clock, delay]
  have bucket : txTimerBucket s.ring (s.txTicks + 44251) = .st := by
    have minor := timed.grid.aligned .mi
    have major := timed.grid.aligned .ma
    have minorReached := timed.grid.reached .mi
    have majorReached := timed.grid.reached .ma
    have minorCaught := timed.caught .mi
    have majorCaught := timed.caught .ma
    simp only [Hand.span] at minor major minorCaught majorCaught
    apply bucket_st s.ring _ timed.grid.small
    · rw [interval, TxTimerRing.covers]
      simp only [Hand.span, Hand.slots]
      omega
    · rw [interval, TxTimerRing.covers]
      simp only [Hand.span, Hand.slots]
      omega
  have short : Short s (.reset () 44251) := by
    have delay : (44251 : UInt32).toNat = 44251 := rfl
    change s.clock + (44251 : UInt32).toNat < 2 ^ 32
    omega
  have next := timed.act (.reset () 44251) short
  have member := resetIdle_self s () 44251
  rw [bucket] at member
  rw [idled] at next ⊢
  have frame : (txTimerResetIdle s () 44251).clock = 45749 ∧
      (txTimerResetIdle s () 44251).polled = 45749 ∧
      (txTimerResetIdle s () 44251).ring.txStTick.toNat = 45749 := ⟨clock, last, scanned⟩
  obtain ⟨nextClock, nextPolled, nextScanned⟩ := frame
  have poll : Short (s.act (.reset () 44251)) (.polling 90015 none) := by
    rw [idled]
    refine ⟨by omega, by omega, by decide, by simp⟩
  refine ⟨⟨short, poll, trivial⟩, member, ?_, ?_⟩
  · rw [timer_resetIdle, Function.update_self]
    exact interval
  · exact next.skip_polling 90015 none (by omega) (by omega) (by decide) (by omega) () member

theorem long_late :
    Allowed Short (txTimerRingNew 0 : Timers Unit)
        [.polling 45749 none, .reset () 44251, .polling 90015 none] ∧
      let s := (txTimerRingNew 0 : Timers Unit).run [.polling 45749 none, .reset () 44251]
      () ∈ s.ring.timers .st ∧ (s.timer ()).interval.toNat + 15 ≤ 90015 ∧
        (s.act (.polling 90015 none)).calls.count () = s.calls.count () := by
  have start : Timed 0 (txTimerRingNew 0 : Timers Unit) := timed_new 0 (by decide)
  have first : Short (txTimerRingNew 0 : Timers Unit) (.polling 45749 none) :=
    ⟨Nat.zero_le _, by decide, by decide, by simp⟩
  obtain ⟨timed, rests, clock, last, scanned⟩ := start.polled_idle 45749 first.1 first.2.1 first.2.2.1
    () ⟨rfl, rfl⟩
  obtain ⟨allowed, linked, interval, kept⟩ := late_after _ timed rests clock last
    (scanned.trans (if_pos (by decide)))
  refine ⟨⟨first, allowed⟩, ?_⟩
  intro s
  have same : s = ((txTimerRingNew 0).act (.polling 45749 none)).act (.reset () 44251) :=
    run_two _ _ _
  rw [same]
  exact ⟨linked, by rw [interval], kept⟩

end Libtx
