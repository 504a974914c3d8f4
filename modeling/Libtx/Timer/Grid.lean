import Libtx.Timer.Drain
import Libtx.Wheel.Slots

/-! The ticks and slots of a ring while no reading and no deadline reaches 2^32: both wheels
stay on the grid that the ring's creation sets, and every slot holds what is due in its span. -/

namespace Libtx

variable {T : Type}

def Hand.span : Hand → Nat
  | .mi => 15
  | .ma => 750

def Hand.slots : Hand → Nat
  | .mi => 50
  | .ma => 60

theorem toNat_step (hand : Hand) : hand.step.toNat = hand.span := by
  cases hand <;> rfl

theorem toNat_size (hand : Hand) : hand.size.toNat = hand.slots := by
  cases hand <;> rfl

theorem toNat_away (interval : UInt32) (tick : UInt64) (small : tick.toNat < 2 ^ 63) :
    (interval.toUInt64 - tick).toNat = if tick.toNat ≤ interval.toNat then interval.toNat - tick.toNat
      else 2 ^ 64 + interval.toNat - tick.toNat := by
  have bound := interval.toNat_lt
  rw [UInt64.toNat_sub, UInt32.toNat_toUInt64]
  split <;> omega

theorem toNat_slot (wheel distance size : UInt64) (turned : wheel.toNat < 2 ^ 63)
    (near : distance.toNat < 2 ^ 63) :
    ((wheel + distance) % size).toNat = (wheel.toNat + distance.toNat) % size.toNat := by
  rw [UInt64.toNat_mod, UInt64.toNat_add, Nat.mod_eq_of_lt (by omega : _ < 2 ^ 64)]

def TxTimerRing.Small (ring : TxTimerRing T) : Prop :=
  ∀ hand, (ring.tick hand).toNat < 2 ^ 63 ∧ (ring.wheel hand).toNat < 2 ^ 63

def TxTimerRing.covers (ring : TxTimerRing T) (hand : Hand) (deadline : Nat) : Prop :=
  (ring.tick hand).toNat ≤ deadline ∧ deadline < (ring.tick hand).toNat + hand.span * hand.slots

theorem turns_lt (ring : TxTimerRing T) (interval : UInt32) (hand : Hand) (small : ring.Small) :
    ((interval.toUInt64 - ring.tick hand) / hand.step).toNat < hand.slots ↔
      ring.covers hand interval.toNat := by
  have away := toNat_away interval (ring.tick hand) (small hand).1
  have bound := (small hand).1
  rw [UInt64.toNat_div, toNat_step, away, TxTimerRing.covers]
  cases hand <;> simp only [Hand.span, Hand.slots] <;> split <;> omega

theorem turns_eq (ring : TxTimerRing T) (interval : UInt32) (hand : Hand) (small : ring.Small)
    (covers : ring.covers hand interval.toNat) :
    ((interval.toUInt64 - ring.tick hand) / hand.step).toNat =
      (interval.toNat - (ring.tick hand).toNat) / hand.span := by
  rw [UInt64.toNat_div, toNat_step, toNat_away interval (ring.tick hand) (small hand).1, if_pos covers.1]

theorem nearest_lt (ring : TxTimerRing T) (interval : UInt32) (small : ring.Small) :
    (if (interval.toUInt64 - ring.tick .mi) / Hand.mi.step = 0 then 1
      else (interval.toUInt64 - ring.tick .mi) / Hand.mi.step) < Hand.mi.size ↔
      ring.covers .mi interval.toNat := by
  rw [← turns_lt ring interval .mi small]
  split
  · rename_i zero
    rw [zero]
    decide
  · exact Iff.rfl

theorem bucket_mi (ring : TxTimerRing T) (interval : UInt32) (small : ring.Small)
    (covers : ring.covers .mi interval.toNat) :
    txTimerBucket ring interval = .wheel .mi (((ring.wheel .mi).toNat +
      (max interval.toNat ((ring.tick .mi).toNat + 15) - (ring.tick .mi).toNat) / 15) % 50) := by
  have turns := turns_eq ring interval .mi small covers
  have near := (turns_lt ring interval .mi small).mpr covers
  simp only [txTimerBucket]
  rw [if_pos ((nearest_lt ring interval small).mpr covers)]
  congr 1
  simp only [Hand.span, Hand.slots] at turns near
  split
  · rename_i zero
    rw [zero] at turns
    have low : interval.toNat - (ring.tick .mi).toNat < 15 := by
      have none : (0 : UInt64).toNat = 0 := rfl
      omega
    rw [toNat_slot _ 1 _ (small .mi).2 (by decide), toNat_size]
    have one : (max interval.toNat ((ring.tick .mi).toNat + 15) - (ring.tick .mi).toNat) / 15 = 1 := by
      omega
    rw [one]
    rfl
  · rename_i nonzero
    have away : ((interval.toUInt64 - ring.tick .mi) / Hand.mi.step).toNat ≠ 0 :=
      fun zero => nonzero (UInt64.toNat_inj.mp zero)
    rw [toNat_slot _ _ _ (small .mi).2 (by omega), toNat_size, turns]
    have same : max interval.toNat ((ring.tick .mi).toNat + 15) = interval.toNat := by omega
    rw [same]
    rfl

theorem bucket_ma (ring : TxTimerRing T) (interval : UInt32) (small : ring.Small)
    (beyond : ¬ ring.covers .mi interval.toNat) (covers : ring.covers .ma interval.toNat) :
    txTimerBucket ring interval = .wheel .ma (((ring.wheel .ma).toNat +
      (interval.toNat - (ring.tick .ma).toNat) / 750) % 60) := by
  have turns := turns_eq ring interval .ma small covers
  have near := (turns_lt ring interval .ma small).mpr covers
  simp only [txTimerBucket]
  rw [if_neg (fun inside => beyond ((nearest_lt ring interval small).mp inside)),
    if_pos (UInt64.lt_iff_toNat_lt.mpr near), toNat_slot _ _ _ (small .ma).2 (by
      simp only [Hand.slots] at near
      omega), toNat_size, turns]
  rfl

theorem bucket_st (ring : TxTimerRing T) (interval : UInt32) (small : ring.Small)
    (beyond : ¬ ring.covers .mi interval.toNat) (far : ¬ ring.covers .ma interval.toNat) :
    txTimerBucket ring interval = .st := by
  have apart := fun near => far ((turns_lt ring interval .ma small).mp near)
  simp only [txTimerBucket]
  rw [if_neg (fun inside => beyond ((nearest_lt ring interval small).mp inside)),
    if_neg (fun near => apart (UInt64.lt_iff_toNat_lt.mp near))]

/-- What a slot may hold. A deadline less than one step ahead waits in the next slot. -/
def TxTimerRing.InSlot (ring : TxTimerRing T) (hand : Hand) (slot deadline : Nat) : Prop :=
  (ring.tick hand).toNat ≤ deadline ∧ (hand = .ma → (ring.tick hand).toNat + 750 ≤ deadline) ∧
    Wheel.Due hand.span hand.slots (ring.tick hand).toNat (ring.wheel hand).toNat slot
      (max deadline ((ring.tick hand).toNat + hand.span))

/-- Both wheels stand on the grid of the ring's creation at `base`, behind the clock. -/
structure Grid (base : Nat) (s : Timers T) : Prop where
  reading : s.txTicks.toNat = s.clock
  aligned : ∀ hand, (s.ring.tick hand).toNat = base + hand.span * (s.ring.wheel hand).toNat
  reached : ∀ hand, (s.ring.tick hand).toNat ≤ s.clock
  order : (s.ring.tick .ma).toNat ≤ (s.ring.tick .mi).toNat
  due : ∀ hand slot timer, timer ∈ s.ring.timers (.wheel hand slot) →
    s.ring.InSlot hand slot (s.timer timer).interval.toNat

theorem fires_iff (ticks interval : UInt32) :
    Fires ticks interval ↔ 2 ^ 31 ≤ (2 ^ 33 + interval.toNat - ticks.toNat - 15) % 2 ^ 32 := by
  have bound := ticks.toNat_lt
  have nonneg := asInt_nonneg (interval - ticks - 15)
  have low : (interval - ticks - 15).toNat = (2 ^ 33 + interval.toNat - ticks.toNat - 15) % 2 ^ 32 := by
    rw [UInt32.toNat_sub, UInt32.toNat_sub]
    have fifteen : (15 : UInt32).toNat = 15 := rfl
    rw [fifteen]
    omega
  rw [low] at nonneg
  unfold Fires
  omega

theorem fires_near (ticks interval : UInt32) (late : ticks.toNat + 15 ≤ interval.toNat + 2 ^ 31)
    (early : interval.toNat < ticks.toNat + 15 + 2 ^ 31) :
    Fires ticks interval ↔ interval.toNat < ticks.toNat + 15 := by
  have clockBound := ticks.toNat_lt
  have bound := interval.toNat_lt
  rw [fires_iff]
  omega

theorem waits_far (ticks interval : UInt32) (waits : ¬ Fires ticks interval) :
    ticks.toNat + 15 ≤ interval.toNat ∨ interval.toNat + 2 ^ 31 < ticks.toNat + 15 := by
  have clockBound := ticks.toNat_lt
  have bound := interval.toNat_lt
  rw [fires_iff] at waits
  omega

section Keep

variable {base : Nat} {s : Timers T}

theorem Grid.small (grid : Grid base s) : s.ring.Small := by
  intro hand
  have bound := s.txTicks.toNat_lt
  have reading := grid.reading
  have reached := grid.reached hand
  have aligned := grid.aligned hand
  constructor
  · omega
  · cases hand <;> simp only [Hand.span] at aligned <;> omega

theorem Grid.fewer (grid : Grid base s) (next : Timers T) (tick : next.ring.tick = s.ring.tick)
    (wheel : next.ring.wheel = s.ring.wheel) (ticks : next.txTicks = s.txTicks)
    (clock : next.clock = s.clock)
    (kept : ∀ bucket timer, timer ∈ next.ring.timers bucket →
      timer ∈ s.ring.timers bucket ∧ (next.timer timer).interval = (s.timer timer).interval) :
    Grid base next := by
  constructor
  · rw [ticks, clock]
    exact grid.reading
  · rw [tick, wheel]
    exact grid.aligned
  · rw [tick, clock]
    exact grid.reached
  · rw [tick]
    exact grid.order
  · intro hand slot timer member
    have before := kept (.wheel hand slot) timer member
    have held := grid.due hand slot timer before.1
    unfold TxTimerRing.InSlot at held ⊢
    rw [before.2, tick, wheel]
    exact held

theorem Grid.active (grid : Grid base s) (timer : T) : Grid base (txTaskActiveBy s timer) :=
  grid.fewer _ rfl rfl rfl rfl (fun _ _ member => ⟨member, rfl⟩)

theorem Grid.listInit (grid : Grid base s) (bucket : Bucket) : Grid base (s.listInit bucket) := by
  refine grid.fewer _ rfl rfl rfl rfl ?_
  intro place timer member
  refine ⟨?_, rfl⟩
  by_cases same : place = bucket
  · simp [Timers.listInit, Timers.onTimers, same] at member
  · simpa [Timers.listInit, Timers.onTimers, same] using member

theorem Grid.slot (grid : Grid base s) (interval : UInt32) (hand : Hand) (slot : Nat)
    (ahead : (s.ring.tick .mi).toNat ≤ interval.toNat ∨ interval.toNat < (s.ring.tick .ma).toNat)
    (inside : txTimerBucket s.ring interval = .wheel hand slot) :
    s.ring.InSlot hand slot interval.toNat := by
  have order := grid.order
  by_cases minor : s.ring.covers .mi interval.toNat
  · rw [bucket_mi s.ring interval grid.small minor] at inside
    injection inside with which place
    subst which
    subst place
    refine ⟨minor.1, by simp, ?_⟩
    apply Wheel.due_place 15 50
    · decide
    · exact le_max_right _ _
    · have high := minor.2
      simp only [Hand.span, Hand.slots] at high
      omega
  · by_cases major : s.ring.covers .ma interval.toNat
    · rw [bucket_ma s.ring interval grid.small minor major] at inside
      injection inside with which place
      subst which
      subst place
      have beyond : (s.ring.tick .ma).toNat + 750 ≤ interval.toNat := by
        have low := major.1
        unfold TxTimerRing.covers at minor
        simp only [Hand.span, Hand.slots] at minor
        omega
      refine ⟨major.1, fun _ => beyond, ?_⟩
      have same : max interval.toNat ((s.ring.tick .ma).toNat + Hand.ma.span) = interval.toNat :=
        max_eq_left beyond
      rw [same]
      apply Wheel.due_place 750 60
      · decide
      · exact beyond
      · have high := major.2
        simp only [Hand.span, Hand.slots] at high
        omega
    · rw [bucket_st s.ring interval grid.small minor major] at inside
      cases inside

theorem lag_iff (ticks : UInt32) (hand : Hand) (reached : (s.ring.tick hand).toNat ≤ ticks.toNat)
    (near : ticks.toNat < (s.ring.tick hand).toNat + 2 ^ 31) :
    0 ≤ asInt (s.lag hand ticks) ↔ (s.ring.tick hand).toNat + hand.span ≤ ticks.toNat := by
  have bound := ticks.toNat_lt
  rw [asInt_nonneg, Timers.lag, UInt64.toNat_toUInt32, UInt64.toNat_sub, UInt64.toNat_sub,
    UInt32.toNat_toUInt64, toNat_step]
  cases hand <;> simp only [Hand.span] <;> omega

theorem tick_advance (s : Timers T) (hand other : Hand) : (s.advance hand).ring.tick other =
    if other = hand then s.ring.tick hand + hand.step else s.ring.tick other := by
  simp [Timers.advance, Function.update_apply]

theorem wheel_advance (s : Timers T) (hand other : Hand) : (s.advance hand).ring.wheel other =
    if other = hand then s.ring.wheel hand + 1 else s.ring.wheel other := by
  simp [Timers.advance, Function.update_apply]

theorem toNat_tick_advance (s : Timers T) (small : s.ring.Small) (hand other : Hand) :
    ((s.advance hand).ring.tick other).toNat =
      (s.ring.tick other).toNat + if other = hand then hand.span else 0 := by
  have bound := (small hand).1
  rw [tick_advance]
  split
  · rename_i same
    rw [UInt64.toNat_add, toNat_step, same]
    cases hand <;> simp only [Hand.span] <;> omega
  · rfl

theorem toNat_wheel_advance (s : Timers T) (small : s.ring.Small) (hand other : Hand) :
    ((s.advance hand).ring.wheel other).toNat =
      (s.ring.wheel other).toNat + if other = hand then 1 else 0 := by
  have turned := (small hand).2
  have one : (1 : UInt64).toNat = 1 := rfl
  rw [wheel_advance]
  split
  · rename_i same
    rw [UInt64.toNat_add, same]
    omega
  · rfl

/-- The list that a turn drains -/
def Timers.nextBucket (s : Timers T) (hand : Hand) : Bucket :=
  .wheel hand (((s.ring.wheel hand).toNat + 1) % hand.slots)

theorem due_elsewhere (hand : Hand) (slot tick wheel deadline : Nat)
    (due : Wheel.Due hand.span hand.slots tick wheel slot (max deadline (tick + hand.span)))
    (elsewhere : slot ≠ (wheel + 1) % hand.slots) :
    tick + hand.span + hand.span ≤ deadline ∧
      Wheel.Due hand.span hand.slots (tick + hand.span) (wheel + 1) slot
        (max deadline (tick + hand.span + hand.span)) := by
  have turned := Wheel.due_turn _ _ _ _ _ _ due elsewhere
  have later := Wheel.due_later _ _ _ _ _ _ turned
  have far : tick + hand.span + hand.span ≤ deadline := by
    cases hand <;> simp only [Hand.span] at later ⊢ <;> omega
  rw [max_eq_left (by omega)] at turned
  rw [max_eq_left far]
  exact ⟨far, turned⟩

theorem Grid.advance (grid : Grid base s) (hand : Hand)
    (behind : (s.ring.tick hand).toNat + hand.span ≤ s.clock)
    (order : hand = .ma → (s.ring.tick .ma).toNat + 750 ≤ (s.ring.tick .mi).toNat) :
    Grid base ((s.advance hand).listInit (s.nextBucket hand)) := by
  have small := grid.small
  have tick : ∀ other, (((s.advance hand).listInit (s.nextBucket hand)).ring.tick other).toNat =
      (s.ring.tick other).toNat + if other = hand then hand.span else 0 :=
    toNat_tick_advance s small hand
  have wheel : ∀ other, (((s.advance hand).listInit (s.nextBucket hand)).ring.wheel other).toNat =
      (s.ring.wheel other).toNat + if other = hand then 1 else 0 :=
    toNat_wheel_advance s small hand
  have left : ∀ bucket timer,
      timer ∈ ((s.advance hand).listInit (s.nextBucket hand)).ring.timers bucket ↔
        bucket ≠ s.nextBucket hand ∧ timer ∈ s.ring.timers bucket := by
    intro bucket timer
    by_cases same : bucket = s.nextBucket hand <;>
      simp [Timers.listInit, Timers.onTimers, Timers.advance, same]
  constructor
  · exact grid.reading
  · intro other
    have aligned := grid.aligned other
    rw [tick, wheel]
    split
    · rename_i same
      subst same
      rw [aligned, Nat.mul_add]
      omega
    · exact aligned
  · intro other
    have reached := grid.reached other
    rw [tick]
    split
    · rename_i same
      exact same ▸ behind
    · exact reached
  · have before := grid.order
    rw [tick, tick]
    cases hand with
    | mi =>
        simp only [Hand.span]
        simp
        omega
    | ma => simpa [Hand.span] using order rfl
  · intro other slot timer member
    obtain ⟨apart, member⟩ := (left _ timer).mp member
    have held := grid.due other slot timer member
    change TxTimerRing.InSlot _ other slot (s.timer timer).interval.toNat
    unfold TxTimerRing.InSlot at held ⊢
    rw [tick, wheel]
    split
    · rename_i same
      subst same
      have elsewhere : slot ≠ ((s.ring.wheel other).toNat + 1) % other.slots := by
        intro place
        exact apart (by rw [Timers.nextBucket, place])
      obtain ⟨far, turned⟩ := due_elsewhere other slot _ _ _ held.2.2 elsewhere
      refine ⟨by omega, ?_, turned⟩
      intro major
      subst major
      simp only [Hand.span] at far ⊢
      omega
    · exact held

variable [DecidableEq T]

theorem interval_setIdle (s : Timers T) (timer other : T) :
    ((s.setIdle timer).timer other).interval = (s.timer other).interval := by
  by_cases same : other = timer
  · subst same
    simp [Timers.setIdle, Timers.setTimer]
  · simp [Timers.setIdle, Timers.setTimer, same]

theorem Grid.setIdle (grid : Grid base s) (timer : T) : Grid base (s.setIdle timer) :=
  grid.fewer _ rfl rfl rfl rfl (fun _ other member => ⟨member, interval_setIdle s timer other⟩)

theorem Grid.listRemove (grid : Grid base s) (timer : T) : Grid base (s.listRemove timer) := by
  refine grid.fewer _ rfl rfl rfl rfl ?_
  intro place other member
  refine ⟨?_, rfl⟩
  exact List.mem_of_mem_filter member

theorem Grid.resetIdle (grid : Grid base s) {todo : List T} (placed : Placed todo s) (timer : T)
    (umilsec : UInt32) (idle : (s.timer timer).idle = true)
    (ahead : (s.ring.tick .mi).toNat ≤ (s.txTicks + umilsec).toNat ∨
      (s.txTicks + umilsec).toNat < (s.ring.tick .ma).toNat) :
    Grid base (txTimerResetIdle s timer umilsec) := by
  refine ⟨grid.reading, grid.aligned, grid.reached, grid.order, ?_⟩
  intro hand slot other member
  change s.ring.InSlot hand slot _
  rw [timers_resetIdle, Function.update_apply] at member
  by_cases own : other = timer
  · subst own
    have nowhere := ((placed.idle other).mp idle).2
    rw [timer_resetIdle, Function.update_self]
    split at member
    · rename_i inside
      exact grid.slot _ hand slot ahead inside.symm
    · exact absurd member (nowhere _)
  · rw [timer_resetIdle, Function.update_of_ne own]
    split at member
    · rename_i inside
      rw [← inside] at member
      exact grid.due hand slot other ((List.mem_cons.mp member).resolve_left own)
    · exact grid.due hand slot other member

structure Catching (base : Nat) (ticks : UInt32) (s : Timers T) : Prop where
  grid : Grid base s
  placed : Placed [] s
  ticks : s.txTicks = ticks
  near : ∀ hand, s.clock < (s.ring.tick hand).toNat + 2 ^ 30 + 750

theorem Grid.each (grid : Grid base s) {todo : List T} (cur : T) (placed : Placed (cur :: todo) s)
    (near : s.clock < (s.ring.tick .ma).toNat + 2 ^ 30 + 750) :
    Grid base (txTimerPollingEach s.txTicks s cur) := by
  by_cases fires : Fires s.txTicks (s.timer cur).interval
  · rw [pollingEach_fires _ s cur fires]
    exact (grid.setIdle cur).active cur
  · rw [pollingEach_waits _ s cur fires]
    apply (grid.setIdle cur).resetIdle (placed.setIdle cur) cur _ (idle_setIdle s cur)
    have own : (s.setIdle cur).txTicks = s.txTicks := rfl
    rw [own, interval_again]
    have far := waits_far _ _ fires
    have reading := grid.reading
    have reached : (s.ring.tick .mi).toNat ≤ s.clock := grid.reached .mi
    change (s.ring.tick .mi).toNat ≤ _ ∨ _ < (s.ring.tick .ma).toNat
    omega

theorem Grid.foldl (captured : List T) (grid : Grid base s) (placed : Placed captured s)
    (near : s.clock < (s.ring.tick .ma).toNat + 2 ^ 30 + 750) :
    Grid base (captured.foldl (txTimerPollingEach s.txTicks) s) := by
  have kept := foldl_rule s.txTicks
    (fun todo next => Framed s next ∧ Placed todo next ∧ Grid base next)
    (by
      rintro cur rest next ⟨framed, placed, grid⟩
      refine ⟨framed_trans s next _ framed (framed_each _ next cur), placed.each _ cur, ?_⟩
      rw [← framed.ticks]
      apply grid.each cur placed
      rw [framed.clock, framed.tick]
      exact near)
    captured s ⟨framed_refl s, placed, grid⟩
  exact kept.2.2

theorem pollingTurn_eq (hand : Hand) (ticks : UInt32) (s : Timers T) (small : s.ring.Small) :
    txTimerPollingTurn hand ticks s = txTimerPollingList ticks (s.advance hand) (s.nextBucket hand) := by
  have bound := (small hand).2
  unfold txTimerPollingTurn Timers.nextBucket
  congr 2
  rw [wheel_advance, if_pos rfl, UInt64.toNat_mod, UInt64.toNat_add, toNat_size]
  have one : (1 : UInt64).toNat = 1 := rfl
  rw [one, Nat.mod_eq_of_lt (by omega : _ < 2 ^ 64)]

end Keep

end Libtx
