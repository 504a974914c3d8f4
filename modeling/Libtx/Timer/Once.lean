import Libtx.Runs.Partial
import Libtx.Timer.Drain

namespace Libtx

variable {T : Type}

def Bucket.Real : Bucket → Prop
  | .wheel hand slot => slot < hand.size.toNat
  | .st => True

theorem bucket_real (ring : TxTimerRing T) (interval : UInt32) : (txTimerBucket ring interval).Real := by
  have inside (hand : Hand) (value : UInt64) : (value % hand.size).toNat < hand.size.toNat := by
    rw [UInt64.toNat_mod]
    apply Nat.mod_lt
    cases hand <;> decide
  simp only [txTimerBucket]
  generalize (if (interval.toUInt64 - ring.tick .mi) / Hand.mi.step = 0 then 1
    else (interval.toUInt64 - ring.tick .mi) / Hand.mi.step) = turns
  split
  · exact inside .mi _
  · split
    · exact inside .ma _
    · trivial

variable [DecidableEq T]

/-- `tx_timer_init` with this ring; the links keep what the memory held. -/
def txTimerInit (s : Timers T) (timer : T) : Timers T := s.setTimer timer ⟨true, 0⟩

inductive TimerUse (T : Type) where
  | init (timer : T)
  | act (action : Action T)
  deriving DecidableEq, Repr

def Timers.use (s : Timers T) : TimerUse T → Timers T
  | .init timer => txTimerInit s timer
  | .act action => s.act action

def useAct (s : Timers T) (use : TimerUse T) : Option (Timers T) := some (s.use use)

def Unarmed (s : Timers T) : TimerUse T → Prop
  | .init timer => (s.timer timer).idle = true
  | .act _ => True

def TimerUse.Resets (timer : T) : TimerUse T → Prop
  | .act (.reset other _) => other = timer
  | _ => False

/-- Timers are linked in lists of the ring only. -/
def Ringed (s : Timers T) : Prop := ∀ bucket timer, timer ∈ s.ring.timers bucket → bucket.Real

section Ring

variable {s : Timers T}

theorem Ringed.resetIdle (ringed : Ringed s) (timer : T) (umilsec : UInt32) :
    Ringed (txTimerResetIdle s timer umilsec) := by
  intro bucket other member
  by_cases same : bucket = txTimerBucket s.ring (s.txTicks + umilsec)
  · rw [same]
    exact bucket_real s.ring _
  · rw [timers_resetIdle, Function.update_of_ne same] at member
    exact ringed bucket other member

theorem Ringed.remove (ringed : Ringed s) (timer : T) : Ringed ((s.listRemove timer).setIdle timer) :=
  fun bucket other member => ringed bucket other (List.mem_of_mem_filter member)

theorem Ringed.reset (ringed : Ringed s) (timer : T) (umilsec : UInt32) :
    Ringed (txTimerReset s timer umilsec) := by
  unfold txTimerReset
  split
  · exact ringed.resetIdle timer umilsec
  · exact (ringed.remove timer).resetIdle timer umilsec

theorem Ringed.each (ringed : Ringed s) (ticks : UInt32) (cur : T) :
    Ringed (txTimerPollingEach ticks s cur) := by
  simp only [txTimerPollingEach]
  split
  · exact ringed
  · exact Ringed.reset (s := s.setIdle cur) ringed cur _

theorem Ringed.list (ringed : Ringed s) (ticks : UInt32) (bucket : Bucket) :
    Ringed (txTimerPollingList ticks s bucket) := by
  apply foldl_rule ticks (fun _ next => Ringed next) (fun cur _ _ held => held.each ticks cur)
  intro place timer member
  by_cases same : place = bucket
  · simp [Timers.listInit, Timers.onTimers, same] at member
  · apply ringed place timer
    simpa [Timers.listInit, Timers.onTimers, same] using member

theorem Ringed.wheel (ringed : Ringed s) (hand : Hand) (ticks : UInt32) :
    Ringed (txTimerPollingWheel hand ticks s) :=
  (wheel_rule hand ticks Ringed
    (fun next held _ => Ringed.list (s := next.advance hand) held ticks _) s ringed).1

theorem Ringed.polling (ringed : Ringed s) (reading : Nat) (slept : Option Nat) :
    Ringed (txTimerPolling s reading slept) := by
  have opened : Ringed (s.open reading) := ringed
  have turned := (opened.wheel .mi (UInt32.ofNat reading)).wheel .ma (UInt32.ofNat reading)
  have scanned : Ringed (txTimerPollingSt (UInt32.ofNat reading)
      (txTimerPollingWheel .ma (UInt32.ofNat reading)
        (txTimerPollingWheel .mi (UInt32.ofNat reading) (s.open reading)))) := by
    unfold txTimerPollingSt
    split
    · exact Ringed.list (s := Timers.setStTick _ _) turned _ .st
    · exact turned
  cases slept with
  | none => exact scanned
  | some later => exact scanned

theorem Ringed.use (ringed : Ringed s) (use : TimerUse T) : Ringed (s.use use) := by
  cases use with
  | init timer => exact ringed
  | act action =>
      cases action with
      | getticks reading => exact ringed
      | reset timer umilsec => exact ringed.reset timer umilsec
      | stop timer =>
          simp only [Timers.use, Timers.act, txTimerStop]
          split
          · exact ringed.remove timer
          · exact ringed
      | drain timer =>
          simp only [Timers.use, Timers.act, txTimerDrain]
          split
          · exact ringed.remove timer
          · exact ringed
      | polling reading slept => exact ringed.polling reading slept

theorem Placed.use (placed : Placed [] s) (use : TimerUse T) (unarmed : Unarmed s use) :
    Placed [] (s.use use) := by
  cases use with
  | act action => exact placed.act action
  | init timer =>
      refine ⟨placed.nodup, placed.apart, placed.once, placed.free, ?_⟩
      intro other
      by_cases same : other = timer
      · subst same
        simpa [Timers.use, txTimerInit, Timers.setTimer] using (placed.idle other).mp unarmed
      · have kept : (s.use (.init timer)).timer other = s.timer other := Function.update_of_ne same _ _
        rw [kept]
        exact placed.idle other

end Ring

/-- The timer waits with `count` activations of its task so far, or it rests after one more. -/
def Armed (timer : T) (count : Nat) (s : Timers T) : Prop :=
  ∃ interval, Follows (fun _ => True) True timer interval count [] s

def Spent (timer : T) (count : Nat) (s : Timers T) : Prop := Rests timer count s ∨ Armed timer count s

section Count

variable {timer : T} {count : Nat} {s : Timers T}

theorem Armed.same (armed : Armed timer count s) (next : Timers T)
    (timers : next.ring.timers = s.ring.timers) (flags : next.timer timer = s.timer timer)
    (calls : next.calls = s.calls) : Armed timer count next := by
  obtain ⟨interval, follows⟩ := armed
  exact ⟨interval, follows.same next timers flags calls⟩

theorem Armed.list (armed : Armed timer count s) (placed : Placed [] s) (bucket : Bucket) :
    Armed timer count (txTimerPollingList s.txTicks s bucket) := by
  obtain ⟨interval, follows⟩ := armed
  exact ⟨interval, follows.list placed s.txTicks rfl bucket (fun _ _ _ => trivial)
    (fun _ _ _ => trivial) (fun _ _ _ => trivial)⟩

theorem Armed.wheel (armed : Armed timer count s) (placed : Placed [] s) (hand : Hand) :
    Armed timer count (txTimerPollingWheel hand s.txTicks s) ∧
      (txTimerPollingWheel hand s.txTicks s).txTicks = s.txTicks := by
  have loop := wheel_rule hand s.txTicks
    (fun next => Placed [] next ∧ Armed timer count next ∧ next.txTicks = s.txTicks)
    (by
      rintro next ⟨placed, armed, same⟩ _
      have advanced : Placed [] (next.advance hand) := placed.same _ rfl rfl
      have still : Armed timer count (next.advance hand) := armed.same _ rfl rfl rfl
      have listed := still.list advanced (.wheel hand (((next.advance hand).ring.wheel hand) % hand.size).toNat)
      have read : (next.advance hand).txTicks = s.txTicks := same
      rw [read] at listed
      exact ⟨placed.turn hand s.txTicks, listed, (framed_list s.txTicks _ _).ticks.trans read⟩)
    s ⟨placed, armed, rfl⟩
  exact loop.1.2

theorem Armed.polling (armed : Armed timer count s) (placed : Placed [] s) (reading : Nat)
    (slept : Option Nat) : Armed timer count (txTimerPolling s reading slept) := by
  have opened : Placed [] (s.open reading) := placed.same _ rfl rfl
  have start : Armed timer count (s.open reading) := armed.same _ rfl rfl rfl
  obtain ⟨minor, minorTicks⟩ := start.wheel opened .mi
  have placedMinor := opened.wheel .mi (s.open reading).txTicks
  obtain ⟨major, majorTicks⟩ := minor.wheel placedMinor .ma
  rw [minorTicks] at major majorTicks
  have placedMajor := placedMinor.wheel .ma (s.open reading).txTicks
  have scanned : Armed timer count (txTimerPollingSt (s.open reading).txTicks
      (txTimerPollingWheel .ma (s.open reading).txTicks
        (txTimerPollingWheel .mi (s.open reading).txTicks (s.open reading)))) := by
    unfold txTimerPollingSt
    split
    · have marked := major.same (Timers.setStTick _ (s.open reading).txTicks) rfl rfl rfl
      have listed := marked.list (placedMajor.same _ rfl rfl) .st
      have read : (Timers.setStTick (txTimerPollingWheel .ma (s.open reading).txTicks
          (txTimerPollingWheel .mi (s.open reading).txTicks (s.open reading)))
          (s.open reading).txTicks).txTicks = (s.open reading).txTicks := majorTicks
      rwa [read] at listed
    · exact major
  cases slept with
  | none => exact scanned
  | some later => exact scanned.same _ rfl rfl rfl

theorem Rests.use (rests : Rests timer count s) (placed : Placed [] s) (use : TimerUse T)
    (other : ¬ use.Resets timer) : Rests timer count (s.use use) := by
  cases use with
  | init cur =>
      by_cases same : cur = timer
      · subst same
        exact ⟨by simp [Timers.use, txTimerInit, Timers.setTimer], rests.count⟩
      · have kept : (s.use (.init cur)).timer timer = s.timer timer :=
          Function.update_of_ne (Ne.symm same) _ _
        exact rests.same _ kept rfl
  | act action =>
      by_cases own : action.Touches timer
      · cases action with
        | reset cur umilsec => exact absurd own other
        | stop cur =>
            obtain rfl : cur = timer := own
            have same : s.use (.act (.stop cur)) = s := by
              simp [Timers.use, Timers.act, txTimerStop, rests.idle]
            exact same.symm ▸ rests
        | drain cur =>
            obtain rfl : cur = timer := own
            have same : s.use (.act (.drain cur)) = s := by
              simp [Timers.use, Timers.act, txTimerDrain, rests.idle]
            exact same.symm ▸ rests
        | getticks reading => exact own.elim
        | polling reading slept => exact own.elim
      · exact rests.act placed action own

theorem Armed.use (armed : Armed timer count s) (placed : Placed [] s) (use : TimerUse T)
    (unarmed : Unarmed s use) (other : ¬ use.Resets timer) : Spent timer count (s.use use) := by
  obtain ⟨interval, waits | ⟨_, rests⟩⟩ := armed
  · obtain ⟨bucket, _, linked⟩ := waits.linked
    have busy : (s.timer timer).idle = false := by
      rw [← Bool.not_eq_true]
      exact fun idle => ((placed.idle timer).mp idle).2 bucket linked
    have stays (next : Timers T) (still : Waits (fun _ => True) timer interval count [] next) :
        Spent timer count next := Or.inr ⟨interval, Or.inl still⟩
    cases use with
    | init cur =>
        have apart : timer ≠ cur := by
          rintro rfl
          rw [Unarmed, busy] at unarmed
          cases unarmed
        exact stays _ (waits.same _ rfl (Function.update_of_ne apart _ _) rfl)
    | act action =>
        cases action with
        | getticks reading => exact stays _ (waits.same _ rfl rfl rfl)
        | reset cur umilsec =>
            exact stays _ ((spared_reset s cur umilsec).waits (fun same => other same.symm) waits)
        | stop cur =>
            by_cases own : cur = timer
            · subst own
              have stopped : s.use (.act (.stop cur)) = (s.setIdle cur).listRemove cur := if_pos busy
              rw [stopped]
              exact Or.inl ⟨idle_setIdle s cur, waits.count⟩
            · exact stays _ ((spared_stop s cur).waits (Ne.symm own) waits)
        | drain cur =>
            by_cases own : cur = timer
            · subst own
              have drained : s.use (.act (.drain cur)) =
                  txTaskActiveBy ((s.listRemove cur).setIdle cur) cur := if_pos busy
              have calls : (txTaskActiveBy ((s.listRemove cur).setIdle cur) cur).calls = s.calls ++ [cur] := rfl
              rw [drained]
              refine Or.inr ⟨interval, Or.inr ⟨trivial, idle_setIdle _ cur, ?_⟩⟩
              rw [calls, List.count_append, waits.count, List.count_singleton_self]
            · exact stays _ ((spared_drain s cur).waits (Ne.symm own) waits)
        | polling reading slept =>
            have armed : Armed timer count s := ⟨interval, Or.inl waits⟩
            exact Or.inr (armed.polling placed reading slept)
  · exact Or.inr ⟨interval, Or.inr ⟨trivial, rests.use placed use other⟩⟩

theorem Spent.use (spent : Spent timer count s) (placed : Placed [] s) (use : TimerUse T)
    (unarmed : Unarmed s use) (other : ¬ use.Resets timer) : Spent timer count (s.use use) := by
  rcases spent with rests | armed
  · exact Or.inl (rests.use placed use other)
  · exact armed.use placed use unarmed other

theorem Spent.calls (spent : Spent timer count s) : s.calls.count timer ≤ count + 1 := by
  rcases spent with rests | ⟨interval, waits | ⟨_, rests⟩⟩
  · have calls := rests.count
    omega
  · have calls := waits.count
    omega
  · have calls := rests.count
    omega

theorem spent_reset (umilsec : UInt32) :
    Spent timer (s.calls.count timer) (s.use (.act (.reset timer umilsec))) := by
  have linked (s : Timers T) : Waits (fun _ => True) timer (s.txTicks + umilsec) (s.calls.count timer) []
      (txTimerResetIdle s timer umilsec) := by
    refine ⟨?_, rfl, Or.inr ⟨_, trivial, resetIdle_self s timer umilsec⟩⟩
    simp [txTimerResetIdle, Timers.setTimer, Timers.listInsertHead, Timers.onTimers]
  refine Or.inr ⟨s.txTicks + umilsec, Or.inl ?_⟩
  rw [Timers.use, Timers.act, txTimerReset]
  split
  · exact linked s
  · exact linked ((s.listRemove timer).setIdle timer)

theorem rests_stop :
    Rests timer (s.calls.count timer) (s.use (.act (.stop timer))) := by
  cases idle : (s.timer timer).idle with
  | true =>
      have same : s.use (.act (.stop timer)) = s := by
        simp [Timers.use, Timers.act, txTimerStop, idle]
      exact same.symm ▸ ⟨idle, rfl⟩
  | false =>
      have stopped : s.use (.act (.stop timer)) = (s.setIdle timer).listRemove timer := if_pos idle
      rw [stopped]
      exact ⟨idle_setIdle s timer, rfl⟩

end Count

section Runs

def Unreset (timer : T) (uses : List (TimerUse T)) : Prop := ∀ use ∈ uses, ¬ use.Resets timer

theorem placed_run (s last : Timers T) (placed : Placed [] s ∧ Ringed s) (uses : List (TimerUse T))
    (allowed : Runs.Allowed useAct Unarmed s uses) (ended : Runs.run useAct s uses = some last) :
    Placed [] last ∧ Ringed last := by
  apply Runs.keeps_run Unarmed (fun s => Placed [] s ∧ Ringed s) _ s last uses allowed placed ended
  rintro s use next unarmed ⟨placed, ringed⟩ step
  injection step with same
  exact same ▸ ⟨placed.use use unarmed, ringed.use use⟩

theorem unreset_run (timer : T) (keeps : Timers T → Prop)
    (step : ∀ s use, Placed [] s → Unarmed s use → ¬ use.Resets timer → keeps s → keeps (s.use use))
    (s last : Timers T) (placed : Placed [] s) (kept : keeps s) (uses : List (TimerUse T))
    (unreset : Unreset timer uses) (allowed : Runs.Allowed useAct Unarmed s uses)
    (ended : Runs.run useAct s uses = some last) : keeps last := by
  induction uses generalizing s with
  | nil =>
      injection ended with same
      exact same ▸ kept
  | cons use uses ih =>
      obtain ⟨next, first, rest⟩ := (Runs.run_cons s last use uses).mp ended
      injection first with same
      subst same
      apply ih (s.use use) (placed.use use allowed.1)
      · exact step s use placed allowed.1 (unreset use List.mem_cons_self) kept
      · exact fun other member => unreset other (List.mem_cons_of_mem use member)
      · exact allowed.2 _ rfl
      · exact rest

theorem run_split (s last mid : Timers T) (front back : List (TimerUse T)) (use : TimerUse T)
    (allowed : Runs.Allowed useAct Unarmed s (front ++ use :: back))
    (before : Runs.run useAct s front = some mid)
    (ended : Runs.run useAct s (front ++ use :: back) = some last) (placed : Placed [] s ∧ Ringed s) :
    Placed [] (mid.use use) ∧ Unarmed mid use ∧ Runs.Allowed useAct Unarmed (mid.use use) back ∧
      Runs.run useAct (mid.use use) back = some last := by
  have held := placed_run s mid placed front (Runs.allowed_front Unarmed s front _ allowed) before
  have rest := Runs.allowed_back Unarmed s mid front _ allowed before
  obtain ⟨again, same, after⟩ := (Runs.run_append s last front (use :: back)).mp ended
  rw [before] at same
  injection same with same
  subst same
  obtain ⟨next, step, tail⟩ := (Runs.run_cons mid last use back).mp after
  injection step with step
  subst step
  exact ⟨held.1.use use rest.1, rest.1, rest.2 _ rfl, tail⟩

/-- What the lists and the activations of a run show. -/
structure FiresOnce (start : Timers T) (uses : List (TimerUse T)) (last : Timers T) : Prop where
  armed : ∀ timer, (last.timer timer).idle = false ↔ ∃ bucket : Bucket, bucket.Real ∧
    (last.ring.timers bucket).count timer = 1 ∧
    ∀ other, other ≠ bucket → timer ∉ last.ring.timers other
  idle : ∀ timer, (last.timer timer).idle = true → ∀ bucket, timer ∉ last.ring.timers bucket
  fires : ∀ front timer umilsec back mid, uses = front ++ .act (.reset timer umilsec) :: back →
    Unreset timer back → Runs.run useAct start front = some mid →
      last.calls.count timer ≤ mid.calls.count timer + 1
  stopped : ∀ front timer back mid, uses = front ++ .act (.stop timer) :: back →
    Unreset timer back → Runs.run useAct start front = some mid →
      last.calls.count timer = mid.calls.count timer

theorem Placed.membership {s : Timers T} (placed : Placed [] s) (ringed : Ringed s) (timer : T) :
    (s.timer timer).idle = false ↔ ∃ bucket : Bucket, bucket.Real ∧
      (s.ring.timers bucket).count timer = 1 ∧ ∀ other, other ≠ bucket → timer ∉ s.ring.timers other := by
  have idle := placed.idle timer
  constructor
  · intro armed
    obtain ⟨bucket, linked⟩ := placed.linked timer armed
    refine ⟨bucket, ringed bucket timer linked,
      List.count_eq_one_of_mem (placed.nodup bucket) linked, ?_⟩
    exact fun other apart again => apart (placed.apart other bucket timer again linked)
  · rintro ⟨bucket, _, once, _⟩
    rw [← Bool.not_eq_true, idle]
    exact fun nowhere => nowhere.2 bucket (List.count_pos_iff.mp (once ▸ Nat.one_pos))

/-- A timer is armed exactly when it is linked, once and in one list of the ring; a reset is
followed by one activation at most before the next, and a stop by none. -/
theorem timer_fires_once (reading : Nat) (uses : List (TimerUse T)) (last : Timers T)
    (allowed : Runs.Allowed useAct Unarmed (txTimerRingNew reading) uses)
    (ended : Runs.run useAct (txTimerRingNew reading) uses = some last) :
    FiresOnce (txTimerRingNew reading) uses last := by
  have new : Placed [] (txTimerRingNew reading : Timers T) ∧ Ringed (txTimerRingNew reading : Timers T) :=
    ⟨placed_new reading, fun _ _ member => absurd member List.not_mem_nil⟩
  obtain ⟨placed, ringed⟩ := placed_run _ last new uses allowed ended
  refine ⟨placed.membership ringed, fun timer idle => ((placed.idle timer).mp idle).2, ?_, ?_⟩
  · intro front timer umilsec back mid split unreset before
    obtain ⟨after, unarmed, rest, held⟩ := run_split _ last mid front back _ (split ▸ allowed) before
      (split ▸ ended) new
    have spent := unreset_run timer (Spent timer (mid.calls.count timer))
      (fun s use placed unarmed other held => held.use placed use unarmed other) _ last after
      (spent_reset umilsec) back unreset rest held
    exact spent.calls
  · intro front timer back mid split unreset before
    obtain ⟨after, unarmed, rest, held⟩ := run_split _ last mid front back _ (split ▸ allowed) before
      (split ▸ ended) new
    have rests := unreset_run timer (Rests timer (mid.calls.count timer))
      (fun s use placed unarmed other held => held.use placed use other) _ last after
      rests_stop back unreset rest held
    exact rests.count

def onceUses : List (TimerUse Bool) :=
  [.init true, .act (.reset true 40), .act (.reset false 4000), .act (.polling 100 none),
    .act (.stop false), .act (.polling 5000 none)]

theorem run_uses (s : Timers T) (uses : List (TimerUse T)) :
    Runs.run useAct s uses = some (uses.foldl Timers.use s) := by
  induction uses generalizing s with
  | nil => rfl
  | cons use uses ih => exact ih (s.use use)

theorem timer_fires_once_pair :
    FiresOnce (txTimerRingNew 0) onceUses (onceUses.foldl Timers.use (txTimerRingNew 0)) :=
  timer_fires_once 0 onceUses _
    ⟨rfl, fun _ _ => ⟨trivial, fun _ _ => ⟨trivial, fun _ _ => ⟨trivial, fun _ _ => ⟨trivial, fun _ _ =>
      ⟨trivial, fun _ _ => trivial⟩⟩⟩⟩⟩⟩ (run_uses _ onceUses)

end Runs

end Libtx
