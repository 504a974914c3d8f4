import Libtx.Timer.Callout
import Libtx.Runs.Partial

namespace Libtx

variable {L T W P R K : Type}

/-- Nothing stops the ring's loop, no wakeup meets a task of a stopped loop, and the clock and the
delays are as `Short` asks. -/
def RingLoop.Proper (up : L) (s : RingLoop L T W P R K) : RingUse L T W P R K → Prop
  | .loop use => use.Live s.world ∧ use ≠ .stop up
  | .getticks reading => Short s.timers (.getticks reading)
  | .reset timer umilsec => Short s.timers (.reset timer umilsec)
  | .polling reading slept => Short s.timers (.polling reading slept)
  | .init _ _ | .stop _ | .drain _ => True

def RingUse.Avoids (timer : K) (task : T) : RingUse L T W P R K → Prop
  | .loop use => use.about ≠ some task
  | .init other named => other ≠ timer ∧ named ≠ some task
  | .reset other _ | .stop other | .drain other => other ≠ timer
  | .getticks _ | .polling _ _ => True

variable [DecidableEq T]

structure Going (callout : Callout T P R K) (up : L) (base : Nat) (s : RingLoop L T W P R K) : Prop where
  refined : ∃ v, Refines s.world v
  counted : Counted s.world
  timed : Timed base s.timers
  live : (s.world.loop up).txStop = false
  home : (s.world.task callout.poll).txLoop = up
  unparked : (s.world.task callout.poll).txFlags.pending = false
  own : ∀ timer, s.txTask timer ≠ some callout.poll

variable [DecidableEq K]

/-- How far a timer and its task are: the timer is in a wheel, the task is queued before the ring's
poll, or it has been called once more. -/
inductive Stage (callout : Callout T P R K) (up : L) (timer : K) (task : T) (interval : UInt32)
    (count calls : Nat) (s : RingLoop L T W P R K) : Prop where
  | waits (waits : Waits inWheel timer interval count [] s.timers)
      (idle : (s.world.task task).txFlags.idle = true)
      (served : Rounds.served task (s.world.history up) = calls)
  | queued (late : interval.toNat < s.timers.polled + 15) (rests : Rests timer (count + 1) s.timers)
      (busy : (s.world.task task).txFlags.busy = true) (ahead : Ahead task callout.poll up s.world)
      (served : Rounds.served task (s.world.history up) = calls)
  | called (late : interval.toNat < s.timers.polled + 15) (rests : Rests timer (count + 1) s.timers)
      (idle : (s.world.task task).txFlags.idle = true)
      (served : Rounds.served task (s.world.history up) = calls + 1)

structure Tracked (callout : Callout T P R K) (up : L) (base : Nat) (timer : K) (task : T)
    (interval : UInt32) (count calls : Nat) (s : RingLoop L T W P R K) : Prop
    extends Going callout up base s where
  mine : s.txTask timer = some task
  only : ∀ other, s.txTask other = some task → other = timer
  task_home : (s.world.task task).txLoop = up
  stage : Stage callout up timer task interval count calls s

section Timers

variable {base : Nat} {s : Timers K}

theorem Timed.init (timed : Timed base s) (timer : K) (idle : (s.timer timer).idle = true) :
    Timed base (txTimerInit s timer) where
  grid := by
    refine timed.grid.fewer _ rfl rfl rfl rfl ?_
    intro bucket other member
    have apart : other ≠ timer := fun same => ((timed.placed.idle timer).mp idle).2 bucket (same ▸ member)
    exact ⟨member, by simp [txTimerInit, Timers.setTimer, apart]⟩
  placed := timed.placed.use (.init timer) idle
  past := timed.past
  caught := timed.caught
  scanned := timed.scanned

end Timers

section Steps

variable {callout : Callout T P R K} {up : L} {base count calls : Nat} {timer : K} {task : T}
  {interval : UInt32} {s next : RingLoop L T W P R K}

omit [DecidableEq K] in
theorem Going.keep (going : Going callout up base s) (refined : ∃ v, Refines next.world v)
    (counted : Counted next.world) (timed : Timed base next.timers)
    (stop : (next.world.loop up).txStop = (s.world.loop up).txStop)
    (poll : next.world.task callout.poll = s.world.task callout.poll)
    (own : ∀ timer, next.txTask timer ≠ some callout.poll) : Going callout up base next where
  refined := refined
  counted := counted
  timed := timed
  live := by rw [stop, going.live]
  home := by rw [poll, going.home]
  unparked := by rw [poll, going.unparked]
  own := own

theorem Stage.keep (stage : Stage callout up timer task interval count calls s)
    (waits : Waits inWheel timer interval count [] s.timers →
      Waits inWheel timer interval count [] next.timers)
    (rests : Rests timer (count + 1) s.timers → Rests timer (count + 1) next.timers)
    (polled : s.timers.polled ≤ next.timers.polled) (refined : ∃ v, Refines next.world v)
    (same : next.world.task task = s.world.task task) (unmoved : Unmoved task up s.world next.world)
    (behind : Unmoved callout.poll up s.world next.world) :
    Stage callout up timer task interval count calls next := by
  cases stage with
  | waits held idle served => exact .waits (waits held) (by rw [same, idle]) (unmoved.served.trans served)
  | queued late held busy ahead served =>
      exact .queued (by omega) (rests held) (by rw [same, busy]) (ahead.unmoved refined unmoved behind)
        (unmoved.served.trans served)
  | called late held idle served =>
      exact .called (by omega) (rests held) (by rw [same, idle]) (unmoved.served.trans served)

theorem Tracked.apart (tracked : Tracked callout up base timer task interval count calls s) :
    task ≠ callout.poll := fun same => tracked.own timer (same ▸ tracked.mine)

variable [DecidableEq L] [DecidableEq W]

omit [DecidableEq K] in
theorem Going.spared (going : Going callout up base s) (use : LoopUse L T W P R) (world : World L T W P R)
    (live : use.Live s.world) (used : useLoop s.world use = some world) (other : T)
    (home : (s.world.task other).txLoop = up) (unparked : (s.world.task other).txFlags.pending = false)
    (unnamed : use.about ≠ some other) (uncalled : use = .test up → inCall world up other = false) :
    world.task other = s.world.task other ∧ Unmoved other up s.world world := by
  obtain ⟨v, h⟩ := going.refined
  exact h.spared_use use live used other home unparked unnamed uncalled

theorem Tracked.unparked_task (tracked : Tracked callout up base timer task interval count calls s) :
    (s.world.task task).txFlags.pending = false := by
  obtain ⟨v, h⟩ := tracked.refined
  cases tracked.stage with
  | waits _ idle _ => exact h.idle_pending task idle
  | queued _ _ busy _ _ => exact h.busy_pending task busy
  | called _ _ idle _ => exact h.idle_pending task idle

theorem Tracked.call (tracked : Tracked callout up base timer task interval count calls s)
    (timers : next.timers = s.timers) (passed : passTest s.world up = some next.world)
    (called : inCall next.world up task = true) : Stage callout up timer task interval count calls next := by
  obtain ⟨v, h⟩ := tracked.refined
  have linked := (h.called_linked passed called).1
  have served := called_served s.world next.world passed called
  cases tracked.stage with
  | waits _ idle _ => exact absurd (linked.symm.trans idle) (by simp)
  | queued late rests _ _ before =>
      refine .called (by rw [timers]; exact late) (timers ▸ rests) ?_ (by rw [served, before])
      exact (passTest_call s.world next.world up task passed called).1
  | called _ _ idle _ => exact absurd (linked.symm.trans idle) (by simp)

variable [DecidableEq P]

theorem loop_world (use : LoopUse L T W P R) (done : s.act callout (.loop use) = some next) :
    use.about ≠ some callout.poll ∧ useLoop s.world use = some next.world ∧
      inCall next.world (s.world.task callout.poll).txLoop callout.poll = false ∧
        next.timers = s.timers ∧ next.txTask = s.txTask := by
  simp only [RingLoop.act] at done
  split at done
  · cases done
  · rename_i unnamed
    obtain ⟨world, used, rest⟩ := Option.bind_eq_some_iff.mp done
    split at rest
    · cases rest
    · rename_i uncalled
      cases rest
      exact ⟨unnamed, used, by simpa using uncalled, rfl, rfl⟩

theorem drain_world (up : L) (other : K) (done : s.act callout (.drain other) = some next) (named : T)
    (apart : s.txTask other ≠ some named) :
    next.world.task named = s.world.task named ∧ Unmoved named up s.world next.world := by
  cases done
  dsimp only
  split
  · exact ⟨rfl, unmoved_same rfl⟩
  · cases own : s.txTask other with
    | none => exact ⟨rfl, unmoved_same rfl⟩
    | some task =>
        have differs : task ≠ named := fun same => apart (same ▸ own)
        exact ⟨txTaskActive_other s.world task named _ (Ne.symm differs), unmoved_active task _ differs⟩

theorem drain_path (up : L) (other : K) (done : s.act callout (.drain other) = some next) :
    Relation.ReflTransGen Step s.world next.world ∧
      (next.world.loop up).txStop = (s.world.loop up).txStop := by
  cases done
  dsimp only
  split
  · exact ⟨.refl, rfl⟩
  · refine ⟨.single (.active s.world (s.txTask other) (some (callout.timer other))), ?_⟩
    cases s.txTask other with
    | none => rfl
    | some task => exact txTaskActive_stops task up _

theorem Going.act (going : Going callout up base s) (use : RingUse L T W P R K) (proper : s.Proper up use)
    (done : s.act callout use = some next) : Going callout up base next := by
  cases use with
  | loop use =>
      obtain ⟨unnamed, used, uncalled, timers, tasks⟩ := loop_world use done
      obtain ⟨live, goes⟩ := proper
      obtain ⟨v, h⟩ := going.refined
      rw [going.home] at uncalled
      have step := useLoop_step use live used
      have poll := going.spared use next.world live used callout.poll going.home going.unparked unnamed
        (fun _ => uncalled)
      exact going.keep (refines_step _ _ step v h) (going.counted.step _ step) (timers ▸ going.timed)
        (useLoop_stops use used up goes) poll.1 (tasks ▸ going.own)
  | getticks reading =>
      cases done
      have timed := going.timed.act (.getticks reading) proper
      exact going.keep going.refined going.counted timed rfl rfl going.own
  | init timer task =>
      simp only [RingLoop.act] at done
      split at done
      · rename_i free
        cases done
        refine going.keep going.refined going.counted (going.timed.init timer free.1) rfl rfl ?_
        intro other
        by_cases same : other = timer
        · simpa [same] using free.2
        · simpa [same] using going.own other
      · cases done
  | reset timer umilsec =>
      cases done
      have timed := going.timed.act (.reset timer umilsec) proper
      exact going.keep going.refined going.counted timed rfl rfl going.own
  | stop timer =>
      cases done
      have timed := going.timed.act (.stop timer) trivial
      exact going.keep going.refined going.counted timed rfl rfl going.own
  | drain timer =>
      obtain ⟨path, stop⟩ := drain_path up timer done
      have poll := drain_world up timer done callout.poll (going.own timer)
      have timers : next.timers = txTimerDrain s.timers timer := by
        cases done
        rfl
      have tasks : next.txTask = s.txTask := by
        cases done
        rfl
      exact going.keep (refines_path path going.refined) (counted_path path going.counted)
        (timers ▸ going.timed.act (.drain timer) trivial) stop poll.1 (tasks ▸ going.own)
  | polling reading slept =>
      obtain ⟨v, h⟩ := going.refined
      have polled := RingLoop.polling_world callout s next v h going.own reading slept done
      obtain ⟨fired, called, woken, polls⟩ := RingLoop.polls going.home done
      obtain ⟨first, second, third⟩ := polls.path
      constructor
      · exact polled.refined
      · exact counted_path third (counted_path second (counted_path first going.counted))
      · exact polls.timers ▸ going.timed.act (.polling reading slept) proper
      · rw [polled.stops, going.live]
      · rw [polled.loop, going.home]
      · exact polled.pending
      · exact polls.txTask ▸ going.own

theorem Tracked.loop (tracked : Tracked callout up base timer task interval count calls s)
    (use : LoopUse L T W P R) (proper : s.Proper up (.loop use)) (unnamed : use.about ≠ some task)
    (done : s.act callout (.loop use) = some next) :
    (next.world.task task).txLoop = up ∧ Stage callout up timer task interval count calls next := by
  obtain ⟨spared, used, uncalled, timers, _⟩ := loop_world use done
  rw [tracked.home] at uncalled
  have poll := tracked.spared use next.world proper.1 used callout.poll tracked.home tracked.unparked spared
    (fun _ => uncalled)
  by_cases called : use = .test up ∧ inCall next.world up task = true
  · have passed : passTest s.world up = some next.world := by
      rw [called.1] at used
      exact used
    refine ⟨?_, tracked.call timers passed called.2⟩
    rw [(passTest_call s.world next.world up task passed called.2).2.1, tracked.task_home]
  · have own := tracked.spared use next.world proper.1 used task tracked.task_home tracked.unparked_task
      unnamed (fun same => by
        rw [Bool.eq_false_iff]
        exact fun calls => called ⟨same, calls⟩)
    obtain ⟨v, h⟩ := tracked.refined
    refine ⟨by rw [own.1, tracked.task_home], ?_⟩
    exact tracked.stage.keep (timers ▸ id) (timers ▸ id) (by rw [timers])
      (refines_step _ _ (useLoop_step use proper.1 used) v h) own.1 own.2 poll.2

theorem RingLoop.Polls.linked {reading : Nat} {slept : Option Nat} {fired : List K}
    {called woken : World L T W P R} (polls : s.Polls callout up reading slept fired called woken next)
    (apart : task ≠ callout.poll) :
    next.world.task task = woken.task task ∧ Unmoved task up woken next.world := by
  rw [polls.world]
  exact linked_other up woken callout.poll _ apart

theorem RingLoop.Polls.called_task {reading : Nat} {slept : Option Nat} {fired : List K}
    {called woken : World L T W P R} (polls : s.Polls callout up reading slept fired called woken next)
    (apart : task ≠ callout.poll) :
    called.task task = s.world.task task ∧ Unmoved task up s.world called :=
  called_other callout.poll polls.passed polls.calls apart

theorem RingLoop.Polls.spared {reading : Nat} {slept : Option Nat} {fired : List K}
    {called woken : World L T W P R} (polls : s.Polls callout up reading slept fired called woken next)
    (apart : task ≠ callout.poll) (only : ∀ other, s.txTask other = some task → other = timer)
    (unfired : timer ∉ fired) :
    next.world.task task = s.world.task task ∧ Unmoved task up s.world next.world := by
  have first := polls.called_task apart
  have last := polls.linked apart
  have quiet := wakeFired_spares callout up task s.txTask fired called
    (fun other member own => absurd (only other own ▸ member) unfired)
  rw [← polls.wakes] at quiet
  exact ⟨(last.1.trans quiet.1).trans first.1, (first.2.trans quiet.2).trans last.2⟩

theorem Going.woken (going : Going callout up base s) {reading : Nat} {slept : Option Nat} {fired : List K}
    {called woken : World L T W P R} (polls : s.Polls callout up reading slept fired called woken next)
    (mine : s.txTask timer = some task) (home : (s.world.task task).txLoop = up)
    (idle : (s.world.task task).txFlags.idle = true) (member : timer ∈ fired) :
    (woken.task task).txFlags.busy = true ∧ (woken.task task).txLoop = up ∧ (∃ v, Refines woken v) ∧
      Counted woken ∧ Unmoved task up s.world woken ∧
        Ahead task callout.poll up (txPollActive woken callout.poll) := by
  have apart : task ≠ callout.poll := fun same => going.own timer (same ▸ mine)
  have first := polls.called_task apart
  obtain ⟨toCalled, toWoken, _⟩ := polls.path
  have refined := refines_path toCalled going.refined
  obtain ⟨rested, loop, stops⟩ := passTest_call s.world called up callout.poll polls.passed polls.calls
  have live : (called.loop up).txStop = false := by rw [stops, going.live]
  obtain ⟨busy, own, unmoved⟩ := wakeFired_wakes callout up s.txTask fired called
    refined ⟨timer, member, mine⟩ (by rw [first.1, idle]) (by rw [first.1, home]) live
  have poll := wakeFired_keeps callout s.txTask fired going.own called
  rw [← polls.wakes] at busy own unmoved poll
  have awake := refines_path toWoken refined
  refine ⟨busy, own, awake, counted_path toWoken (counted_path toCalled going.counted),
    first.2.trans unmoved, ?_⟩
  apply ahead_linked awake (by rw [poll.2, live]) busy own
  · rw [poll.1, rested]
  · rw [poll.1, loop, going.home]

theorem Tracked.polling (tracked : Tracked callout up base timer task interval count calls s) (reading : Nat)
    (slept : Option Nat) (short : Short s.timers (.polling reading slept))
    (done : s.polling callout reading slept = some next) :
    (next.world.task task).txLoop = up ∧ Stage callout up timer task interval count calls next := by
  obtain ⟨fired, called, woken, polls⟩ := RingLoop.polls tracked.home done
  have apart := tracked.apart
  have polled : next.timers.polled = reading := by
    rw [polls.timers]
    exact polled_polling s.timers reading slept tracked.timed short.1 short.2.1 short.2.2.1
  have past := tracked.timed.past
  have later := short.1
  have total : next.timers.calls.count timer = s.timers.calls.count timer + fired.count timer := by
    rw [polls.timers, polls.adds, List.count_append]
  have skips (unfired : timer ∉ fired) := polls.spared apart tracked.only unfired
  cases tracked.stage with
  | waits waits idle served =>
      have follows := tracked.timed.follow_polling reading slept short.1 short.2.1 short.2.2.1 timer interval
        count waits
      rw [← polls.timers] at follows
      rcases follows with kept | ⟨late, rests⟩
      · have unfired : timer ∉ fired := by
          rw [kept.count, waits.count] at total
          exact List.count_eq_zero.mp (by omega)
        obtain ⟨same, unmoved⟩ := skips unfired
        exact ⟨by rw [same, tracked.task_home],
          .waits kept (by rw [same, idle]) (unmoved.served.trans served)⟩
      · have member : timer ∈ fired := by
          rw [rests.count, waits.count] at total
          exact List.count_pos_iff.mp (by omega)
        obtain ⟨busy, own, _, _, unmoved, ahead⟩ := tracked.woken polls tracked.mine tracked.task_home
          idle member
        have last := polls.linked apart
        have history : next.world.history = (txPollActive woken callout.poll).history := by
          rw [polls.world]
          rfl
        have refined := (RingLoop.polling_world callout s next _ tracked.refined.choose_spec tracked.own
          reading slept done).refined
        refine ⟨by rw [last.1, own], .queued (by omega) rests (by rw [last.1, busy])
          (ahead.unmoved refined (unmoved_same history) (unmoved_same history)) ?_⟩
        exact (unmoved.trans last.2).served.trans served
  | queued _ _ _ ahead _ =>
      -- the loop would call the poll before the task
      exact absurd polls.calls (by simp [ahead.uncalled polls.passed])
  | called late rests idle served =>
      have still := rests.polling tracked.timed.placed reading slept
      rw [← polls.timers] at still
      have unfired : timer ∉ fired := by
        rw [still.count, rests.count] at total
        exact List.count_eq_zero.mp (by omega)
      obtain ⟨same, unmoved⟩ := skips unfired
      exact ⟨by rw [same, tracked.task_home],
        .called (by omega) still (by rw [same, idle]) (unmoved.served.trans served)⟩

omit [DecidableEq L] [DecidableEq W] [DecidableEq P] in
theorem Tracked.timer_act (tracked : Tracked callout up base timer task interval count calls s)
    (action : Action K) (untouched : ¬ action.Touches timer)
    (single : ∀ reading slept, action ≠ .polling reading slept) :
    (Waits inWheel timer interval count [] s.timers →
        Waits inWheel timer interval count [] (s.timers.act action)) ∧
      (Rests timer (count + 1) s.timers → Rests timer (count + 1) (s.timers.act action)) ∧
        (s.timers.act action).polled = s.timers.polled := by
  refine ⟨?_, fun rests => rests.act tracked.timed.placed action untouched, ?_⟩
  · intro waits
    cases action with
    | getticks reading => exact waits.same _ rfl rfl rfl
    | reset cur umilsec =>
        exact (spared_reset s.timers cur umilsec).waits (fun same => untouched same.symm) waits
    | stop cur => exact (spared_stop s.timers cur).waits (fun same => untouched same.symm) waits
    | drain cur => exact (spared_drain s.timers cur).waits (fun same => untouched same.symm) waits
    | polling reading slept => exact absurd rfl (single reading slept)
  · cases action with
    | getticks reading => rfl
    | reset cur umilsec => exact (framed_reset s.timers cur umilsec).polled
    | stop cur => exact (framed_stop s.timers cur).polled
    | drain cur => exact (framed_drain s.timers cur).polled
    | polling reading slept => exact absurd rfl (single reading slept)

omit [DecidableEq L] [DecidableEq W] [DecidableEq P] in
theorem Tracked.other (tracked : Tracked callout up base timer task interval count calls s)
    (next : RingLoop L T W P R K) (action : Action K) (untouched : ¬ action.Touches timer)
    (single : ∀ reading slept, action ≠ .polling reading slept) (timers : next.timers = s.timers.act action)
    (refined : ∃ v, Refines next.world v) (same : next.world.task task = s.world.task task)
    (unmoved : Unmoved task up s.world next.world) (behind : Unmoved callout.poll up s.world next.world) :
    (next.world.task task).txLoop = up ∧ Stage callout up timer task interval count calls next := by
  obtain ⟨waits, rests, polled⟩ := tracked.timer_act action untouched single
  rw [← timers] at waits rests polled
  exact ⟨by rw [same, tracked.task_home],
    tracked.stage.keep waits rests (by omega) refined same unmoved behind⟩

theorem Tracked.act (tracked : Tracked callout up base timer task interval count calls s)
    (use : RingUse L T W P R K) (proper : s.Proper up use) (avoids : use.Avoids timer task)
    (done : s.act callout use = some next) :
    Tracked callout up base timer task interval count calls next := by
  have going := tracked.toGoing.act use proper done
  have stays (tasks : next.txTask = s.txTask)
      (moved : (next.world.task task).txLoop = up ∧ Stage callout up timer task interval count calls next) :
      Tracked callout up base timer task interval count calls next :=
    ⟨going, tasks ▸ tracked.mine, tasks ▸ tracked.only, moved.1, moved.2⟩
  cases use with
  | loop use => exact stays (loop_world use done).2.2.2.2 (tracked.loop use proper avoids done)
  | getticks reading =>
      have moved := tracked.other next (.getticks reading) id (fun _ _ same => by cases same)
      cases done
      exact stays rfl (moved rfl tracked.refined rfl (unmoved_same rfl) (unmoved_same rfl))
  | init other named =>
      simp only [RingLoop.act] at done
      split at done
      · cases done
        have elsewhere : timer ≠ other := Ne.symm avoids.1
        have record : (txTimerInit s.timers other).timer timer = s.timers.timer timer := by
          simp [txTimerInit, Timers.setTimer, elsewhere]
        refine ⟨going, ?_, ?_, tracked.task_home, ?_⟩
        · simpa [elsewhere] using tracked.mine
        · intro third own
          dsimp only at own
          by_cases same : third = other
          · rw [same, Function.update_self] at own
            exact absurd own avoids.2
          · rw [Function.update_of_ne same] at own
            exact tracked.only third own
        · exact tracked.stage.keep (fun waits => waits.same _ rfl record rfl)
            (fun rests => rests.same _ record rfl) (Nat.le_refl _) tracked.refined rfl (unmoved_same rfl)
            (unmoved_same rfl)
      · cases done
  | reset other umilsec =>
      have moved := tracked.other next (.reset other umilsec) avoids (fun _ _ same => by cases same)
      cases done
      exact stays rfl (moved rfl tracked.refined rfl (unmoved_same rfl) (unmoved_same rfl))
  | stop other =>
      have moved := tracked.other next (.stop other) avoids (fun _ _ same => by cases same)
      cases done
      exact stays rfl (moved rfl tracked.refined rfl (unmoved_same rfl) (unmoved_same rfl))
  | drain other =>
      have own := drain_world up other done task (fun named => avoids (tracked.only other named))
      have poll := drain_world up other done callout.poll (tracked.own other)
      have refined := refines_path (drain_path up other done).1 tracked.refined
      have moved := tracked.other next (.drain other) avoids (fun _ _ same => by cases same)
      cases done
      exact stays rfl (moved rfl refined own.1 own.2 poll.2)
  | polling reading slept =>
      obtain ⟨fired, called, woken, polls⟩ := RingLoop.polls tracked.home done
      exact stays polls.txTask (tracked.polling reading slept proper done)

end Steps

variable [DecidableEq L] [DecidableEq W] [DecidableEq P]

/-- What a run from `s` to `last` that avoids an armed timer does with the timer's task: it is called
once at most, not before a polling that is less than 15 ms early, and before the ring is polled again
after one that is 15 ms late. Where `tx_actives` has not overflowed, a polling that activates the timer
does not pause. -/
structure CalledBack (callout : Callout T P R K) (up : L) (timer : K) (task : T) (deadline : Nat)
    (s last : RingLoop L T W P R K) : Prop where
  once : Rounds.served task (last.world.history up) ≤ Rounds.served task (s.world.history up) + 1
  early : last.timers.polled + 15 ≤ deadline →
    Rounds.served task (last.world.history up) = Rounds.served task (s.world.history up)
  late : deadline + 15 ≤ last.timers.polled →
    Rounds.served task (last.world.history up) = Rounds.served task (s.world.history up) + 1 ∨
      (last.world.task task).txFlags.busy = true ∧
        Intrusive.Holds last.world.heap (.taskq up) (.task task) ∧
        ∀ reading slept, last.act callout (.polling reading slept) = none
  awake : ∀ reading slept next, last.Proper up (.polling reading slept) →
    last.act callout (.polling reading slept) = some next → (last.timers.timer timer).idle = false →
      (next.timers.timer timer).idle = true → Unwrapped next.world up → slept = none

section Runs

variable {callout : Callout T P R K} {up : L} {base : Nat}

omit [DecidableEq P] [DecidableEq K] in
theorem going_new (callout : Callout T P R K) (world : World L T W P R) (reachable : Reachable world) (up : L)
    (live : (world.loop up).txStop = false) (unlinked : (world.task callout.poll).txFlags.idle = true)
    (small : base < 2 ^ 32) : Going callout up base (ringNew callout world up base) := by
  obtain ⟨v, h⟩ := refines_reachable world reachable
  have counted := counted_reachable world reachable
  have inited := h.taskInit callout.poll up unlinked
  have linked := txPollActive_own { world with
    task := Function.update world.task callout.poll (txTaskInit (world.task callout.poll) up) } callout.poll
  constructor
  · exact inited.pollActive callout.poll
  · exact Counted.poll (s := { world with
      task := Function.update world.task callout.poll (txTaskInit (world.task callout.poll) up) })
      counted callout.poll
  · exact timed_new base small
  · exact (txPollActive_stops _ callout.poll up).trans live
  · rw [ringNew, linked.1]
    simp [txTaskInit]
  · rw [ringNew, linked.2]
    simp [txTaskInit]
  · exact fun _ none => by cases none

theorem Tracked.calledBack {timer : K} {task : T} {interval : UInt32} {count : Nat}
    {s last : RingLoop L T W P R K} (tracked : Tracked callout up base timer task interval count
      (Rounds.served task (s.world.history up)) last) :
    CalledBack callout up timer task interval.toNat s last where
  once := by
    cases tracked.stage with
    | waits _ _ served | queued _ _ _ _ served | called _ _ _ served => omega
  early := by
    intro early
    cases tracked.stage with
    | waits _ _ served => exact served
    | queued late _ _ _ _ | called late _ _ _ => omega
  late := by
    intro late
    cases tracked.stage with
    | waits waits _ _ =>
        have early := tracked.timed.not_due timer interval count waits
        omega
    | called _ _ _ served => exact Or.inl served
    | queued _ _ busy ahead _ =>
        obtain ⟨v, h⟩ := tracked.refined
        have claimed := busy
        rw [h.busy task, tracked.task_home] at claimed
        have member := (h.sound up).claimed task claimed
        have node := (mem_queueNodes up _ task).mpr member
        refine Or.inr ⟨busy, (Intrusive.holds_iff _ _ h.linked _ _).mpr node, ?_⟩
        intro reading slept
        rw [Option.eq_none_iff_forall_ne_some]
        intro next polled
        obtain ⟨fired, called, woken, polls⟩ := RingLoop.polls tracked.home polled
        exact absurd polls.calls (by simp [ahead.uncalled polls.passed])
  awake := by
    intro reading slept next short polled armed fired unwrapped
    obtain ⟨waits, idle⟩ : Waits inWheel timer interval count [] last.timers ∧
        (last.world.task task).txFlags.idle = true := by
      cases tracked.stage with
      | waits waits idle _ => exact ⟨waits, idle⟩
      | queued _ rests _ _ _ | called _ rests _ _ => exact absurd (armed.symm.trans rests.idle) (by simp)
    obtain ⟨added, called, woken, polls⟩ := RingLoop.polls tracked.home polled
    have follows := tracked.timed.follow_polling reading slept short.1 short.2.1 short.2.2.1 timer interval
      count waits
    have total : (txTimerPolling last.timers reading slept).calls.count timer =
        last.timers.calls.count timer + added.count timer := by
      rw [polls.adds, List.count_append]
    rw [polls.timers] at fired
    have member : timer ∈ added := by
      rcases follows with kept | ⟨_, rests⟩
      · obtain ⟨bucket, _, linked⟩ := kept.linked
        have after := tracked.timed.polling reading slept short.1 short.2.1 short.2.2.1 short.2.2.2
        exact absurd linked (((after.placed.idle timer).mp fired).2 bucket)
      · rw [rests.count, waits.count] at total
        exact List.count_pos_iff.mp (by omega)
    obtain ⟨busy, own, ⟨v, h⟩, counted, _, _⟩ := tracked.woken polls tracked.mine tracked.task_home
      idle member
    have claimed := busy
    rw [h.busy task, own] at claimed
    have grown : next.world.history = (txPollActive woken callout.poll).history := by rw [polls.world]; rfl
    have early : Unwrapped woken up := by
      have unmoved : Unmoved task up woken (txPollActive woken callout.poll) := unmoved_pollActive callout.poll
      obtain ⟨events, history, _⟩ := unmoved
      rw [Unwrapped, grown, history, fits_append] at unwrapped
      exact unwrapped.1
    have quick := h.busy_timeout counted up early task busy ((h.sound up).claimed task claimed) (some callout.ring)
    have pauses := polls.pauses
    rw [quick] at pauses
    simpa using pauses

theorem timer_called (callout : Callout T P R K) (world : World L T W P R) (reachable : Reachable world)
    (up : L) (live : (world.loop up).txStop = false)
    (unlinked : (world.task callout.poll).txFlags.idle = true) (base : Nat) (small : base < 2 ^ 32)
    (uses more : List (RingUse L T W P R K))
    (proper : Runs.Allowed (RingLoop.act callout) (RingLoop.Proper up) (ringNew callout world up base)
      (uses ++ more))
    (s last : RingLoop L T W P R K)
    (reached : Runs.run (RingLoop.act callout) (ringNew callout world up base) uses = some s)
    (timer : K) (hand : Hand) (slot : Nat) (linked : timer ∈ s.timers.ring.timers (.wheel hand slot))
    (task : T) (mine : s.txTask timer = some task)
    (only : ∀ other, s.txTask other = some task → other = timer)
    (home : (s.world.task task).txLoop = up) (idle : (s.world.task task).txFlags.idle = true)
    (avoids : ∀ use ∈ more, use.Avoids timer task)
    (ended : Runs.run (RingLoop.act callout) s more = some last) :
    CalledBack callout up timer task (s.timers.timer timer).interval.toNat s last := by
  have going : Going callout up base s := by
    apply Runs.keeps_run (RingLoop.Proper up) (Going callout up base) _ _ s uses
      (Runs.allowed_front _ _ uses more proper)
      (going_new callout world reachable up live unlinked small) reached
    exact fun _ use _ fine going done => going.act use fine done
  have waits : Waits inWheel timer (s.timers.timer timer).interval (s.timers.calls.count timer) [] s.timers :=
    ⟨rfl, rfl, Or.inr ⟨.wheel hand slot, trivial, linked⟩⟩
  have tracked : Tracked callout up base timer task (s.timers.timer timer).interval (s.timers.calls.count timer)
      (Rounds.served task (s.world.history up)) s := ⟨going, mine, only, home, .waits waits idle rfl⟩
  have fine : Runs.Allowed (RingLoop.act callout) (RingLoop.Proper up) s more :=
    Runs.allowed_back _ _ s uses more proper reached
  have alone : Runs.Allowed (RingLoop.act callout) (fun _ use => use.Avoids timer task) s more :=
    Runs.allowed_every (fun use => use.Avoids timer task) s more avoids
  have kept := Runs.keeps_run _ (Tracked callout up base timer task (s.timers.timer timer).interval
    (s.timers.calls.count timer) (Rounds.served task (s.world.history up)))
    (fun _ use _ good tracked done => tracked.act use good.1 good.2 done) s last more
    (Runs.allowed_both _ _ s more fine alone) tracked ended
  exact kept.calledBack

def dueUses : List (RingUse Unit Bool Unit Unit Unit Unit) :=
  [.init () (some false), .reset () 100, .loop (.enter ())]

def dueMore : List (RingUse Unit Bool Unit Unit Unit Unit) :=
  [.polling 120 none, .loop (.test ()), .loop (.test ())]

def dueRing : RingLoop Unit Bool Unit Unit Unit Unit :=
  (Runs.run (RingLoop.act pairCallout) pairRing dueUses).getD pairRing

theorem due_run : Runs.run (RingLoop.act pairCallout) pairRing dueUses = some dueRing := rfl

def dueWoken : World Unit Bool Unit Unit Unit :=
  wakeFired pairCallout dueRing.txTask ((passTest dueRing.world ()).getD dueRing.world) [()]

def duePolled (timers : Timers Unit) : RingLoop Unit Bool Unit Unit Unit Unit :=
  { dueRing with
    world := (txPollActive dueWoken true).setMain () (some ⟨true, none⟩)
    timers := timers }

def dueLast (timers : Timers Unit) : RingLoop Unit Bool Unit Unit Unit Unit :=
  (Runs.run (RingLoop.act pairCallout) (duePolled timers) [.loop (.test ()), .loop (.test ())]).getD
    (duePolled timers)

theorem loop_proper (s : RingLoop Unit Bool Unit Unit Unit Unit) (use : LoopUse Unit Bool Unit Unit Unit)
    (runs : use = .enter () ∨ use = .test ()) : s.Proper () (.loop use) := by
  rcases runs with same | same
  all_goals
    subst same
    exact ⟨fun taskq reason fuel same => (by cases same), fun same => by cases same⟩

theorem due_going : Going pairCallout () 0 dueRing := by
  have start : Going pairCallout () 0 pairRing :=
    going_new pairCallout pairStart ⟨_, _, .refl⟩ () rfl rfl (by decide)
  have first := start.act (.init () (some false)) trivial rfl
  have second := first.act (.reset () 100) (by change 0 + 100 < 2 ^ 32; decide) rfl
  exact second.act (.loop (.enter ())) (loop_proper _ _ (Or.inl rfl)) rfl

theorem due_calls : (txTimerPolling dueRing.timers 120 none).calls = [()] := by
  have waits : Waits inWheel () 100 0 [] dueRing.timers :=
    ⟨rfl, rfl, Or.inr ⟨.wheel .mi 6, trivial, List.mem_cons_self⟩⟩
  have rests := due_going.timed.fire_polling 120 none (Nat.zero_le _) (by decide) (by decide) (by simp) () 100 0
    (by decide) waits
  have all : (txTimerPolling dueRing.timers 120 none).calls.count () =
      (txTimerPolling dueRing.timers 120 none).calls.length := List.count_eq_length.mpr fun _ _ => rfl
  obtain ⟨only, same⟩ := List.length_eq_one_iff.mp (all.symm.trans rests.count)
  exact same

theorem due_polling : dueRing.polling pairCallout 120 none =
    some (duePolled (txTimerPolling dueRing.timers 120 none)) := by
  have calls := due_calls
  unfold RingLoop.polling
  generalize txTimerPolling dueRing.timers 120 none = timers at calls ⊢
  simp only [calls]
  rfl

theorem timer_called_pair : ∃ last, Runs.run (RingLoop.act pairCallout) dueRing dueMore = some last ∧
    Rounds.served false (last.world.history ()) = 1 ∧ CalledBack pairCallout () () false 100 dueRing last := by
  have polled : dueRing.act pairCallout (.polling 120 none) =
      some (duePolled (txTimerPolling dueRing.timers 120 none)) := due_polling
  have ended : Runs.run (RingLoop.act pairCallout) dueRing dueMore =
      some (dueLast (txTimerPolling dueRing.timers 120 none)) :=
    (Runs.run_cons _ _ _ _).mpr ⟨_, polled, rfl⟩
  have more : Runs.Allowed (RingLoop.act pairCallout) (RingLoop.Proper ()) pairRing (dueUses ++ dueMore) := by
    apply Runs.allowed_cons _ _ _ _ _ trivial rfl
    apply Runs.allowed_cons _ _ _ _ _ (by change 0 + 100 < 2 ^ 32; decide) rfl
    apply Runs.allowed_cons _ _ _ _ _ (loop_proper _ _ (Or.inl rfl)) rfl
    apply Runs.allowed_cons _ _ _ _ _ ?_ polled
    · apply Runs.allowed_cons _ _ _ _ _ (loop_proper _ _ (Or.inr rfl)) rfl
      exact Runs.allowed_cons _ _ _ _ _ (loop_proper _ _ (Or.inr rfl)) rfl trivial
    · exact ⟨Nat.zero_le _, by decide, by decide, by simp⟩
  refine ⟨_, ended, rfl, ?_⟩
  apply timer_called pairCallout pairStart ⟨_, _, .refl⟩ () rfl rfl 0 (by decide) dueUses dueMore more dueRing _
    due_run () .mi 6 List.mem_cons_self false rfl (fun _ _ => rfl) rfl rfl _ ended
  intro use member
  simp only [dueMore, List.mem_cons, List.not_mem_nil, or_false] at member
  rcases member with same | same | same
  all_goals
    subst same
    simp [RingUse.Avoids, LoopUse.about]

end Runs

end Libtx
