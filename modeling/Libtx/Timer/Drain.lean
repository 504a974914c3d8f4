import Libtx.Runs.While
import Libtx.Timer.Ring
import Mathlib.Data.List.Nodup
import Mathlib.Data.List.Count

namespace Libtx

variable {T : Type}

/-- Only lists, timers and calls differ. -/
structure Framed (s next : Timers T) : Prop where
  tick : next.ring.tick = s.ring.tick
  wheel : next.ring.wheel = s.ring.wheel
  stTick : next.ring.txStTick = s.ring.txStTick
  ticks : next.txTicks = s.txTicks
  clock : next.clock = s.clock
  polled : next.polled = s.polled

theorem framed_refl (s : Timers T) : Framed s s := ⟨rfl, rfl, rfl, rfl, rfl, rfl⟩

theorem framed_trans (s middle next : Timers T) (first : Framed s middle) (second : Framed middle next) :
    Framed s next where
  tick := second.tick.trans first.tick
  wheel := second.wheel.trans first.wheel
  stTick := second.stTick.trans first.stTick
  ticks := second.ticks.trans first.ticks
  clock := second.clock.trans first.clock
  polled := second.polled.trans first.polled

/-- A timer is linked once or waits once in `todo`, unless it is idle. -/
structure Placed (todo : List T) (s : Timers T) : Prop where
  nodup : ∀ bucket, (s.ring.timers bucket).Nodup
  apart : ∀ bucket other timer, timer ∈ s.ring.timers bucket → timer ∈ s.ring.timers other →
    bucket = other
  once : todo.Nodup
  free : ∀ timer ∈ todo, ∀ bucket, timer ∉ s.ring.timers bucket
  idle : ∀ timer, (s.timer timer).idle = true ↔
    timer ∉ todo ∧ ∀ bucket, timer ∉ s.ring.timers bucket

theorem placed_new (reading : Nat) : Placed [] (txTimerRingNew reading : Timers T) := by
  constructor <;> simp [txTimerRingNew]

variable [DecidableEq T]

theorem framed_reset (s : Timers T) (timer : T) (umilsec : UInt32) :
    Framed s (txTimerReset s timer umilsec) := by
  unfold txTimerReset
  split <;> exact ⟨rfl, rfl, rfl, rfl, rfl, rfl⟩

theorem framed_stop (s : Timers T) (timer : T) : Framed s (txTimerStop s timer) := by
  unfold txTimerStop
  split <;> exact ⟨rfl, rfl, rfl, rfl, rfl, rfl⟩

theorem framed_drain (s : Timers T) (timer : T) : Framed s (txTimerDrain s timer) := by
  unfold txTimerDrain
  split <;> exact ⟨rfl, rfl, rfl, rfl, rfl, rfl⟩

def Fires (ticks interval : UInt32) : Prop := asInt (interval - ticks - 15) < 0

theorem pollingEach_fires (ticks : UInt32) (s : Timers T) (cur : T) (fires : Fires ticks (s.timer cur).interval) :
    txTimerPollingEach ticks s cur = txTaskActiveBy (s.setIdle cur) cur := if_pos fires

theorem idle_setIdle (s : Timers T) (timer : T) : ((s.setIdle timer).timer timer).idle = true := by
  simp [Timers.setIdle, Timers.setTimer]

theorem pollingEach_waits (ticks : UInt32) (s : Timers T) (cur : T) (waits : ¬ Fires ticks (s.timer cur).interval) :
    txTimerPollingEach ticks s cur =
      txTimerResetIdle (s.setIdle cur) cur ((s.timer cur).interval - ticks) := by
  calc txTimerPollingEach ticks s cur
      = txTimerReset (s.setIdle cur) cur ((s.timer cur).interval - ticks) := if_neg waits
    _ = _ := if_pos (idle_setIdle s cur)

theorem framed_each (ticks : UInt32) (s : Timers T) (cur : T) :
    Framed s (txTimerPollingEach ticks s cur) := by
  by_cases fires : Fires ticks (s.timer cur).interval
  · rw [pollingEach_fires ticks s cur fires]
    exact ⟨rfl, rfl, rfl, rfl, rfl, rfl⟩
  · rw [pollingEach_waits ticks s cur fires]
    exact ⟨rfl, rfl, rfl, rfl, rfl, rfl⟩

theorem foldl_rule (ticks : UInt32) (keeps : List T → Timers T → Prop)
    (each : ∀ cur rest s, keeps (cur :: rest) s → keeps rest (txTimerPollingEach ticks s cur))
    (captured : List T) (s : Timers T) (start : keeps captured s) :
    keeps [] (captured.foldl (txTimerPollingEach ticks) s) := by
  induction captured generalizing s with
  | nil => exact start
  | cons cur rest ih => exact ih _ (each cur rest s start)

theorem framed_list (ticks : UInt32) (s : Timers T) (bucket : Bucket) :
    Framed s (txTimerPollingList ticks s bucket) := by
  apply foldl_rule ticks (fun _ next => Framed s next)
  · intro cur rest next framed
    exact framed_trans s next _ framed (framed_each ticks next cur)
  · exact ⟨rfl, rfl, rfl, rfl, rfl, rfl⟩

def CatchesUp (hand : Hand) (ticks : UInt32) (turns : Nat) (s last : Timers T) : Prop :=
  Runs.Ends (fun s => 0 ≤ asInt (s.lag hand ticks)) (txTimerPollingTurn hand ticks) turns s last

theorem wheel_ends (hand : Hand) (ticks : UInt32) (s : Timers T) :
    ∃ turns, CatchesUp hand ticks turns s (txTimerPollingWheel hand ticks s) := by
  fun_induction txTimerPollingWheel hand ticks s with
  | case1 s late ih =>
      obtain ⟨turns, rest⟩ := ih
      exact ⟨turns + 1, Runs.ends_later _ _ turns s _ late rest⟩
  | case2 s done => exact ⟨0, Runs.ends_now _ _ s done⟩

theorem wheel_rule (hand : Hand) (ticks : UInt32) (keeps : Timers T → Prop)
    (turn : ∀ s, keeps s → 0 ≤ asInt (s.lag hand ticks) → keeps (txTimerPollingTurn hand ticks s))
    (s : Timers T) (start : keeps s) :
    keeps (txTimerPollingWheel hand ticks s) ∧
      asInt ((txTimerPollingWheel hand ticks s).lag hand ticks) < 0 := by
  obtain ⟨turns, ends⟩ := wheel_ends hand ticks s
  have kept := Runs.ends_keeps _ _ keeps turn turns s _ ends start
  exact ⟨kept.1, Int.not_le.mp kept.2⟩

theorem run_rule (ok : Timers T → Action T → Prop) (keeps : Timers T → Prop)
    (step : ∀ s action, ok s action → keeps s → keeps (s.act action))
    (s : Timers T) (actions : List (Action T)) (allowed : Allowed ok s actions) (start : keeps s) :
    keeps (s.run actions) := by
  induction actions generalizing s with
  | nil => exact start
  | cons action actions ih => exact ih _ allowed.2 (step s action allowed.1 start)

theorem allowed_append (ok : Timers T → Action T → Prop) (s : Timers T) (front back : List (Action T)) :
    Allowed ok s (front ++ back) ↔ Allowed ok s front ∧ Allowed ok (s.run front) back := by
  induction front generalizing s with
  | nil => exact (and_iff_right trivial).symm
  | cons action front ih =>
      rw [List.cons_append, Allowed, Allowed, ih, and_assoc]
      rfl

section Place

variable {todo : List T} {s : Timers T}

omit [DecidableEq T] in
theorem Placed.same (placed : Placed todo s) (next : Timers T) (timers : next.ring.timers = s.ring.timers)
    (timer : next.timer = s.timer) : Placed todo next := by
  constructor
  · rw [timers]
    exact placed.nodup
  · rw [timers]
    exact placed.apart
  · exact placed.once
  · rw [timers]
    exact placed.free
  · rw [timers, timer]
    exact placed.idle

omit [DecidableEq T] in
theorem Placed.listInit (placed : Placed [] s) (bucket : Bucket) :
    Placed (s.ring.timers bucket) (s.listInit bucket) := by
  have member : ∀ timer place, timer ∈ (s.listInit bucket).ring.timers place ↔
      place ≠ bucket ∧ timer ∈ s.ring.timers place := by
    intro timer place
    by_cases same : place = bucket <;> simp [Timers.listInit, Timers.onTimers, same]
  constructor
  · intro place
    by_cases same : place = bucket
    · simp [Timers.listInit, Timers.onTimers, same]
    · simpa [Timers.listInit, Timers.onTimers, same] using placed.nodup place
  · intro place other timer first second
    exact placed.apart place other timer ((member timer place).mp first).2
      ((member timer other).mp second).2
  · exact placed.nodup bucket
  · intro timer captured place inside
    have there := (member timer place).mp inside
    exact there.1 (placed.apart place bucket timer there.2 captured)
  · intro timer
    have flags : ((s.listInit bucket).timer timer).idle = (s.timer timer).idle := rfl
    rw [flags, placed.idle timer]
    constructor
    · rintro ⟨_, absent⟩
      exact ⟨absent bucket, fun place inside => absent place ((member timer place).mp inside).2⟩
    · rintro ⟨uncaptured, absent⟩
      refine ⟨List.not_mem_nil, fun place inside => ?_⟩
      by_cases same : place = bucket
      · exact uncaptured (same ▸ inside)
      · exact absent place ((member timer place).mpr ⟨same, inside⟩)

omit [DecidableEq T] in
theorem Placed.linked (placed : Placed [] s) (timer : T) (armed : (s.timer timer).idle = false) :
    ∃ bucket, timer ∈ s.ring.timers bucket := by
  by_contra nowhere
  rw [not_exists] at nowhere
  rw [(placed.idle timer).mpr ⟨List.not_mem_nil, nowhere⟩] at armed
  cases armed

theorem Placed.setIdle (cur : T) (placed : Placed (cur :: todo) s) : Placed todo (s.setIdle cur) where
  nodup := placed.nodup
  apart := placed.apart
  once := (List.nodup_cons.mp placed.once).2
  free := fun timer member => placed.free timer (List.mem_cons_of_mem cur member)
  idle := by
    intro timer
    by_cases same : timer = cur
    · subst same
      have absent := (List.nodup_cons.mp placed.once).1
      have free := placed.free timer List.mem_cons_self
      constructor
      · exact fun _ => ⟨absent, free⟩
      · exact fun _ => idle_setIdle s timer
    · have before := placed.idle timer
      rw [List.mem_cons, not_or] at before
      simpa [Timers.setIdle, Timers.setTimer, same] using before

theorem Placed.resetIdle (timer : T) (umilsec : UInt32) (placed : Placed todo s)
    (idle : (s.timer timer).idle = true) : Placed todo (txTimerResetIdle s timer umilsec) := by
  have nowhere := (placed.idle timer).mp idle
  generalize inside : txTimerBucket s.ring (s.txTicks + umilsec) = bucket
  have timers : (txTimerResetIdle s timer umilsec).ring.timers =
      Function.update s.ring.timers bucket (timer :: s.ring.timers bucket) := by rw [← inside]; rfl
  have member : ∀ other place, other ∈ (txTimerResetIdle s timer umilsec).ring.timers place ↔
      (other = timer ∧ place = bucket) ∨ other ∈ s.ring.timers place := by
    intro other place
    rw [timers, Function.update_apply]
    split
    · rename_i same
      simp [same]
    · rename_i apart
      simp [apart]
  constructor
  · intro place
    rw [timers, Function.update_apply]
    split
    · exact List.nodup_cons.mpr ⟨nowhere.2 bucket, placed.nodup bucket⟩
    · exact placed.nodup place
  · intro place other found first second
    rcases (member found place).mp first with ⟨same, here⟩ | first
    · rcases (member found other).mp second with ⟨_, there⟩ | second
      · exact here.trans there.symm
      · exact absurd (same ▸ second) (nowhere.2 other)
    · rcases (member found other).mp second with ⟨same, _⟩ | second
      · exact absurd (same ▸ first) (nowhere.2 place)
      · exact placed.apart place other found first second
  · exact placed.once
  · intro waiting inTodo place inside
    rcases (member waiting place).mp inside with ⟨same, _⟩ | inside
    · exact nowhere.1 (same ▸ inTodo)
    · exact placed.free waiting inTodo place inside
  · intro other
    rw [timer_resetIdle, Function.update_apply]
    split
    · rename_i same
      constructor
      · intro absurdity
        cases absurdity
      · rintro ⟨_, absent⟩
        exact absurd ((member other bucket).mpr (Or.inl ⟨same, rfl⟩)) (absent bucket)
    · rename_i apart
      rw [placed.idle other]
      simp [member, apart]

theorem Placed.listRemove (placed : Placed [] s) (timer : T) (linked : (s.timer timer).idle = false) :
    Placed [timer] (s.listRemove timer) := by
  have member : ∀ other place, other ∈ (s.listRemove timer).ring.timers place ↔
      other ∈ s.ring.timers place ∧ other ≠ timer := by
    intro other place
    simp [Timers.listRemove, Timers.onTimers]
  constructor
  · intro place
    exact (placed.nodup place).filter _
  · intro place other found first second
    exact placed.apart place other found ((member found place).mp first).1
      ((member found other).mp second).1
  · simp
  · intro waiting inTodo place inside
    exact ((member waiting place).mp inside).2 (List.mem_singleton.mp inTodo)
  · intro other
    have flags : ((s.listRemove timer).timer other).idle = (s.timer other).idle := rfl
    rw [flags]
    by_cases same : other = timer
    · subst same
      simp [linked]
    · rw [placed.idle other]
      simp [member, same]

theorem Placed.each (ticks : UInt32) (cur : T) (placed : Placed (cur :: todo) s) :
    Placed todo (txTimerPollingEach ticks s cur) := by
  have idled := placed.setIdle cur
  by_cases fires : Fires ticks (s.timer cur).interval
  · rw [pollingEach_fires ticks s cur fires]
    exact idled.same _ rfl rfl
  · rw [pollingEach_waits ticks s cur fires]
    exact idled.resetIdle cur _ (idle_setIdle s cur)

theorem Placed.list (ticks : UInt32) (bucket : Bucket) (placed : Placed [] s) :
    Placed [] (txTimerPollingList ticks s bucket) :=
  foldl_rule ticks Placed (fun cur _ _ held => held.each ticks cur) _ _ (placed.listInit bucket)

theorem Placed.turn (hand : Hand) (ticks : UInt32) (placed : Placed [] s) :
    Placed [] (txTimerPollingTurn hand ticks s) := by
  have advanced : Placed [] (s.advance hand) := placed.same _ rfl rfl
  exact advanced.list ticks _

theorem Placed.wheel (hand : Hand) (ticks : UInt32) (placed : Placed [] s) :
    Placed [] (txTimerPollingWheel hand ticks s) :=
  (wheel_rule hand ticks (Placed []) (fun _ held _ => held.turn hand ticks) s placed).1

theorem Placed.scan (ticks : UInt32) (placed : Placed [] s) : Placed [] (txTimerPollingSt ticks s) := by
  unfold txTimerPollingSt
  split
  · have marked : Placed [] (s.setStTick ticks) := placed.same _ rfl rfl
    exact marked.list ticks .st
  · exact placed

theorem Placed.polling (reading : Nat) (slept : Option Nat) (placed : Placed [] s) :
    Placed [] (txTimerPolling s reading slept) := by
  have opened : Placed [] (s.open reading) := placed.same _ rfl rfl
  have minor := opened.wheel .mi (UInt32.ofNat reading)
  have scanned := (minor.wheel .ma (UInt32.ofNat reading)).scan (UInt32.ofNat reading)
  cases slept with
  | none => exact scanned
  | some later => exact scanned.same _ rfl rfl

theorem Placed.act (placed : Placed [] s) (action : Action T) : Placed [] (s.act action) := by
  cases action with
  | getticks reading => exact placed.same _ rfl rfl
  | reset timer umilsec =>
      unfold Timers.act txTimerReset
      dsimp only
      split
      · rename_i idle
        exact placed.resetIdle timer umilsec idle
      · rename_i linked
        have removed := (placed.listRemove timer (by simpa using linked)).setIdle timer
        exact removed.resetIdle timer umilsec (idle_setIdle _ timer)
  | stop timer =>
      unfold Timers.act txTimerStop
      dsimp only
      split
      · rename_i linked
        exact (placed.listRemove timer linked).setIdle timer
      · exact placed
  | drain timer =>
      unfold Timers.act txTimerDrain
      dsimp only
      split
      · rename_i linked
        exact ((placed.listRemove timer linked).setIdle timer).same _ rfl rfl
      · exact placed
  | polling reading slept => exact placed.polling reading slept

end Place

/-- The timer has been linked for `interval` in a list that `here` allows, or waits in
`todo`, and its task was activated `count` times so far. -/
structure Waits (here : Bucket → Prop) (timer : T) (interval : UInt32) (count : Nat) (todo : List T)
    (s : Timers T) : Prop where
  interval : (s.timer timer).interval = interval
  count : s.calls.count timer = count
  place : timer ∈ todo ∨ ∃ bucket, here bucket ∧ timer ∈ s.ring.timers bucket

structure Rests (timer : T) (count : Nat) (s : Timers T) : Prop where
  idle : (s.timer timer).idle = true
  count : s.calls.count timer = count

section Follow

variable {here : Bucket → Prop} {timer : T} {interval : UInt32} {count : Nat} {todo : List T}
  {s : Timers T} {cur : T}

omit [DecidableEq T] in
theorem bucket_same (ring next : TxTimerRing T) (tick : next.tick = ring.tick)
    (wheel : next.wheel = ring.wheel) (interval : UInt32) :
    txTimerBucket next interval = txTimerBucket ring interval := by
  unfold txTimerBucket
  rw [tick, wheel]

theorem Waits.linked (waits : Waits here timer interval count [] s) :
    ∃ bucket, here bucket ∧ timer ∈ s.ring.timers bucket :=
  waits.place.resolve_left List.not_mem_nil

theorem Waits.same (waits : Waits here timer interval count todo s) (next : Timers T)
    (timers : next.ring.timers = s.ring.timers) (flags : next.timer timer = s.timer timer)
    (calls : next.calls = s.calls) : Waits here timer interval count todo next where
  interval := by rw [flags, waits.interval]
  count := by rw [calls, waits.count]
  place := by
    rw [timers]
    exact waits.place

theorem Rests.same (rests : Rests timer count s) (next : Timers T)
    (flags : next.timer timer = s.timer timer) (calls : next.calls = s.calls) :
    Rests timer count next where
  idle := by rw [flags, rests.idle]
  count := by rw [calls, rests.count]

theorem count_other (calls : List T) (cur : T) (apart : timer ≠ cur) :
    (calls ++ [cur]).count timer = calls.count timer := by
  simp [apart.symm]

theorem resetIdle_mem (s : Timers T) (cur : T) (umilsec : UInt32) (bucket : Bucket)
    (member : timer ∈ s.ring.timers bucket) :
    timer ∈ (txTimerResetIdle s cur umilsec).ring.timers bucket := by
  rw [timers_resetIdle, Function.update_apply]
  split
  · rename_i same
    exact List.mem_cons_of_mem cur (same ▸ member)
  · exact member

theorem resetIdle_self (s : Timers T) (cur : T) (umilsec : UInt32) :
    cur ∈ (txTimerResetIdle s cur umilsec).ring.timers (txTimerBucket s.ring (s.txTicks + umilsec)) := by
  simp [txTimerResetIdle, Timers.listInsertHead, Timers.onTimers, Timers.setTimer]

theorem interval_again (ticks interval : UInt32) : ticks + (interval - ticks) = interval := by
  grind

theorem Waits.each_other (waits : Waits here timer interval count (cur :: todo) s) (ticks : UInt32)
    (apart : timer ≠ cur) : Waits here timer interval count todo (txTimerPollingEach ticks s cur) := by
  have left : timer ∈ todo ∨ ∃ bucket, here bucket ∧ timer ∈ s.ring.timers bucket := by
    rcases waits.place with member | linked
    · exact Or.inl ((List.mem_cons.mp member).resolve_left apart)
    · exact Or.inr linked
  by_cases fires : Fires ticks (s.timer cur).interval
  · rw [pollingEach_fires ticks s cur fires]
    refine ⟨?_, ?_, left⟩
    · simpa [txTaskActiveBy, Timers.setIdle, Timers.setTimer, apart] using waits.interval
    · exact (count_other s.calls cur apart).trans waits.count
  · rw [pollingEach_waits ticks s cur fires]
    refine ⟨?_, waits.count, ?_⟩
    · simpa [txTimerResetIdle, Timers.listInsertHead, Timers.onTimers, Timers.setIdle, Timers.setTimer,
        apart] using waits.interval
    · rcases left with member | ⟨bucket, allowed, member⟩
      · exact Or.inl member
      · exact Or.inr ⟨bucket, allowed, resetIdle_mem _ cur _ bucket member⟩

theorem Waits.each_self (waits : Waits here timer interval count (timer :: todo) s) (ticks : UInt32)
    (same : s.txTicks = ticks) (holds : ¬ Fires ticks interval)
    (allowed : here (txTimerBucket s.ring interval)) :
    Waits here timer interval count todo (txTimerPollingEach ticks s timer) := by
  rw [← waits.interval] at holds
  rw [pollingEach_waits ticks s timer holds]
  have kept : (s.setIdle timer).txTicks + ((s.timer timer).interval - ticks) = interval := by
    have own : (s.setIdle timer).txTicks = ticks := same
    rw [own, interval_again, waits.interval]
  have member := resetIdle_self (s.setIdle timer) timer ((s.timer timer).interval - ticks)
  rw [kept] at member
  refine ⟨?_, waits.count, Or.inr ⟨_, allowed, member⟩⟩
  rw [timer_resetIdle, Function.update_self]
  exact kept

theorem Waits.fire (waits : Waits here timer interval count (timer :: todo) s) (ticks : UInt32)
    (fires : Fires ticks interval) :
    Rests timer (count + 1) (txTimerPollingEach ticks s timer) := by
  rw [← waits.interval] at fires
  rw [pollingEach_fires ticks s timer fires]
  constructor
  · exact idle_setIdle s timer
  · have counted := waits.count
    simp [txTaskActiveBy, Timers.setIdle, Timers.setTimer, counted]

theorem Rests.each (rests : Rests timer count s) (cur : T) (placed : Placed (cur :: todo) s)
    (ticks : UInt32) : Rests timer count (txTimerPollingEach ticks s cur) := by
  have apart : timer ≠ cur := by
    intro same
    exact ((placed.idle timer).mp rests.idle).1 (same ▸ List.mem_cons_self)
  by_cases fires : Fires ticks (s.timer cur).interval
  · rw [pollingEach_fires ticks s cur fires]
    constructor
    · simpa [txTaskActiveBy, Timers.setIdle, Timers.setTimer, apart] using rests.idle
    · exact (count_other s.calls cur apart).trans rests.count
  · rw [pollingEach_waits ticks s cur fires]
    constructor
    · simpa [txTimerResetIdle, Timers.listInsertHead, Timers.onTimers, Timers.setIdle, Timers.setTimer,
        apart] using rests.idle
    · exact rests.count

def Follows (here : Bucket → Prop) (reason : Prop) (timer : T) (interval : UInt32) (count : Nat)
    (todo : List T) (s : Timers T) : Prop :=
  Waits here timer interval count todo s ∨ (reason ∧ Rests timer (count + 1) s)

theorem Follows.same {reason : Prop} (follows : Follows here reason timer interval count todo s)
    (next : Timers T) (timers : next.ring.timers = s.ring.timers)
    (flags : next.timer timer = s.timer timer) (calls : next.calls = s.calls) :
    Follows here reason timer interval count todo next := by
  rcases follows with waits | ⟨because, fired⟩
  · exact Or.inl (waits.same next timers flags calls)
  · exact Or.inr ⟨because, fired.same next flags calls⟩

theorem Follows.listInit {reason : Prop} {there : Bucket → Prop}
    (follows : Follows there reason timer interval count [] s) (bucket : Bucket)
    (others : ∀ place, place ≠ bucket → there place → here place) :
    Follows here reason timer interval count (s.ring.timers bucket) (s.listInit bucket) := by
  rcases follows with waits | fired
  · refine Or.inl ⟨waits.interval, waits.count, ?_⟩
    obtain ⟨place, allowed, member⟩ := waits.linked
    by_cases inside : place = bucket
    · exact Or.inl (inside ▸ member)
    · refine Or.inr ⟨place, others place inside allowed, ?_⟩
      simpa [Timers.listInit, Timers.onTimers, inside] using member
  · exact Or.inr ⟨fired.1, fired.2.same _ rfl rfl⟩

theorem Follows.list {reason : Prop} {there : Bucket → Prop}
    (follows : Follows there reason timer interval count [] s)
    (placed : Placed [] s) (ticks : UInt32) (same : s.txTicks = ticks) (bucket : Bucket)
    (others : ∀ place, place ≠ bucket → there place → here place)
    (fire : timer ∈ s.ring.timers bucket → (s.timer timer).interval = interval →
      Fires ticks interval → reason)
    (again : timer ∈ s.ring.timers bucket → (s.timer timer).interval = interval →
      ¬ Fires ticks interval → here (txTimerBucket s.ring interval)) :
    Follows here reason timer interval count [] (txTimerPollingList ticks s bucket) := by
  have known : timer ∈ s.ring.timers bucket → (s.timer timer).interval = interval := by
    intro member
    rcases follows with waits | fired
    · exact waits.interval
    · exact absurd member (((placed.idle timer).mp fired.2.idle).2 bucket)
  have kept := foldl_rule ticks
    (fun todo next => Framed s next ∧ Placed todo next ∧
      (∀ other ∈ todo, other ∈ s.ring.timers bucket) ∧
      Follows here reason timer interval count todo next)
    (by
      rintro cur rest next ⟨framed, placed, subset, follows⟩
      refine ⟨framed_trans s next _ framed (framed_each ticks next cur), placed.each ticks cur,
        fun other member => subset other (List.mem_cons_of_mem cur member), ?_⟩
      rcases follows with waits | fired
      · by_cases own : timer = cur
        · subst own
          have inside := subset timer List.mem_cons_self
          by_cases fires : Fires ticks interval
          · exact Or.inr ⟨fire inside (known inside) fires, waits.fire ticks fires⟩
          · refine Or.inl (waits.each_self ticks (framed.ticks.trans same) fires ?_)
            rw [bucket_same s.ring next.ring framed.tick framed.wheel]
            exact again inside (known inside) fires
        · exact Or.inl (waits.each_other ticks own)
      · exact Or.inr ⟨fired.1, fired.2.each cur placed ticks⟩)
    (s.ring.timers bucket) (s.listInit bucket)
    ⟨⟨rfl, rfl, rfl, rfl, rfl, rfl⟩, placed.listInit bucket, fun _ member => member,
      follows.listInit bucket others⟩
  exact kept.2.2.2

theorem Rests.list (rests : Rests timer count s) (placed : Placed [] s) (ticks : UInt32)
    (bucket : Bucket) : Rests timer count (txTimerPollingList ticks s bucket) := by
  have kept := foldl_rule ticks (fun todo next => Placed todo next ∧ Rests timer count next)
    (fun cur _ next held => ⟨held.1.each ticks cur, held.2.each cur held.1 ticks⟩)
    (s.ring.timers bucket) (s.listInit bucket)
    ⟨placed.listInit bucket, rests.same _ rfl rfl⟩
  exact kept.2

theorem Rests.wheel (rests : Rests timer count s) (placed : Placed [] s) (hand : Hand)
    (ticks : UInt32) : Rests timer count (txTimerPollingWheel hand ticks s) := by
  have kept := wheel_rule hand ticks (fun next => Placed [] next ∧ Rests timer count next)
    (by
      rintro next ⟨placed, rests⟩ _
      have advanced : Placed [] (next.advance hand) := placed.same _ rfl rfl
      have still : Rests timer count (next.advance hand) := rests.same _ rfl rfl
      exact ⟨placed.turn hand ticks, still.list advanced ticks _⟩)
    s ⟨placed, rests⟩
  exact kept.1.2

theorem Rests.scan (rests : Rests timer count s) (placed : Placed [] s) (ticks : UInt32) :
    Rests timer count (txTimerPollingSt ticks s) := by
  unfold txTimerPollingSt
  split
  · have marked : Placed [] (s.setStTick ticks) := placed.same _ rfl rfl
    have still : Rests timer count (s.setStTick ticks) := rests.same _ rfl rfl
    exact still.list marked ticks .st
  · exact rests

theorem Rests.polling (rests : Rests timer count s) (placed : Placed [] s) (reading : Nat)
    (slept : Option Nat) : Rests timer count (txTimerPolling s reading slept) := by
  have opened : Placed [] (s.open reading) := placed.same _ rfl rfl
  have start : Rests timer count (s.open reading) := rests.same _ rfl rfl
  have minor := start.wheel opened .mi (UInt32.ofNat reading)
  have placedMinor := opened.wheel .mi (UInt32.ofNat reading)
  have major := minor.wheel placedMinor .ma (UInt32.ofNat reading)
  have placedMajor := placedMinor.wheel .ma (UInt32.ofNat reading)
  have scanned := major.scan placedMajor (UInt32.ofNat reading)
  cases slept with
  | none => exact scanned
  | some later => exact scanned.same _ rfl rfl

end Follow

def Action.Touches (timer : T) : Action T → Prop
  | .reset other _ => other = timer
  | .stop other => other = timer
  | .drain other => other = timer
  | _ => False

structure Spared (cur : T) (s next : Timers T) : Prop where
  timer : ∀ other, other ≠ cur → next.timer other = s.timer other
  count : ∀ other, other ≠ cur → next.calls.count other = s.calls.count other
  lists : ∀ other bucket, other ≠ cur → other ∈ s.ring.timers bucket → other ∈ next.ring.timers bucket

section Touch

variable {here : Bucket → Prop} {timer : T} {interval : UInt32} {count : Nat} {s : Timers T}

theorem Spared.waits {cur : T} {next : Timers T} (spared : Spared cur s next) (apart : timer ≠ cur)
    (waits : Waits here timer interval count [] s) : Waits here timer interval count [] next where
  interval := by rw [spared.timer timer apart, waits.interval]
  count := by rw [spared.count timer apart, waits.count]
  place := by
    obtain ⟨bucket, allowed, member⟩ := waits.linked
    exact Or.inr ⟨bucket, allowed, spared.lists timer bucket apart member⟩

theorem Spared.rests {cur : T} {next : Timers T} (spared : Spared cur s next) (apart : timer ≠ cur)
    (rests : Rests timer count s) : Rests timer count next where
  idle := by rw [spared.timer timer apart, rests.idle]
  count := by rw [spared.count timer apart, rests.count]

theorem spared_resetIdle (s : Timers T) (cur : T) (umilsec : UInt32) :
    Spared cur s (txTimerResetIdle s cur umilsec) where
  timer := by
    intro other apart
    exact Function.update_of_ne apart _ _
  count := fun _ _ => rfl
  lists := fun other bucket _ member => resetIdle_mem s cur umilsec bucket member

theorem spared_remove (s : Timers T) (cur : T) : Spared cur s ((s.listRemove cur).setIdle cur) where
  timer := by
    intro other apart
    exact Function.update_of_ne apart _ _
  count := fun _ _ => rfl
  lists := by
    intro other bucket apart member
    exact List.mem_filter.mpr ⟨member, by simpa using apart⟩

theorem Spared.trans {cur : T} {middle next : Timers T} (first : Spared cur s middle)
    (second : Spared cur middle next) : Spared cur s next where
  timer := fun other apart => (second.timer other apart).trans (first.timer other apart)
  count := fun other apart => (second.count other apart).trans (first.count other apart)
  lists := fun other bucket apart member =>
    second.lists other bucket apart (first.lists other bucket apart member)

theorem spared_refl (s : Timers T) (cur : T) : Spared cur s s :=
  ⟨fun _ _ => rfl, fun _ _ => rfl, fun _ _ _ member => member⟩

theorem spared_reset (s : Timers T) (cur : T) (umilsec : UInt32) :
    Spared cur s (txTimerReset s cur umilsec) := by
  unfold txTimerReset
  split
  · exact spared_resetIdle s cur umilsec
  · exact (spared_remove s cur).trans (spared_resetIdle _ cur umilsec)

theorem spared_stop (s : Timers T) (cur : T) : Spared cur s (txTimerStop s cur) := by
  unfold txTimerStop
  split
  · exact spared_remove s cur
  · exact spared_refl s cur

theorem spared_drain (s : Timers T) (cur : T) : Spared cur s (txTimerDrain s cur) := by
  unfold txTimerDrain
  split
  · have removed := spared_remove s cur
    refine ⟨removed.timer, ?_, removed.lists⟩
    intro other apart
    exact count_other s.calls cur apart
  · exact spared_refl s cur

theorem Rests.act (rests : Rests timer count s) (placed : Placed [] s) (action : Action T)
    (alone : ¬ action.Touches timer) : Rests timer count (s.act action) := by
  cases action with
  | getticks reading => exact rests.same _ rfl rfl
  | reset cur umilsec => exact (spared_reset s cur umilsec).rests (fun same => alone same.symm) rests
  | stop cur => exact (spared_stop s cur).rests (fun same => alone same.symm) rests
  | drain cur => exact (spared_drain s cur).rests (fun same => alone same.symm) rests
  | polling reading slept => exact rests.polling placed reading slept

theorem Waits.act (waits : Waits here timer interval count [] s) (action : Action T)
    (alone : ¬ action.Touches timer)
    (polling : ∀ reading slept, action = .polling reading slept →
      Waits here timer interval count [] (txTimerPolling s reading slept) ∨
        Rests timer (count + 1) (txTimerPolling s reading slept)) :
    Waits here timer interval count [] (s.act action) ∨ Rests timer (count + 1) (s.act action) := by
  cases action with
  | getticks reading => exact Or.inl (waits.same _ rfl rfl rfl)
  | reset cur umilsec =>
      exact Or.inl ((spared_reset s cur umilsec).waits (fun same => alone same.symm) waits)
  | stop cur => exact Or.inl ((spared_stop s cur).waits (fun same => alone same.symm) waits)
  | drain cur => exact Or.inl ((spared_drain s cur).waits (fun same => alone same.symm) waits)
  | polling reading slept => exact polling reading slept rfl

end Touch

theorem allowed_both (ok also : Timers T → Action T → Prop) (s : Timers T) (actions : List (Action T))
    (first : Allowed ok s actions) (second : Allowed also s actions) :
    Allowed (fun s action => ok s action ∧ also s action) s actions := by
  induction actions generalizing s with
  | nil => trivial
  | cons action actions ih => exact ⟨⟨first.1, second.1⟩, ih _ first.2 second.2⟩

theorem allowed_every (also : Action T → Prop) (s : Timers T) (actions : List (Action T))
    (every : ∀ action ∈ actions, also action) : Allowed (fun _ action => also action) s actions := by
  induction actions generalizing s with
  | nil => trivial
  | cons action actions ih =>
      exact ⟨every action List.mem_cons_self,
        ih _ (fun other member => every other (List.mem_cons_of_mem action member))⟩

end Libtx
