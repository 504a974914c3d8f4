import Libtx.Loop.Wake
import Libtx.Timer.Sweep

/-! A ring and the loop that polls it. At the end of `tx_timer_polling` the ring's poll asks to
be linked again; where the loop refuses, the ring is deleted.

The poll is a field of the ring, so no user of the interface can name it. Between the
call of `tx_timer_polling` and its return no other code runs. -/

namespace Libtx

inductive LoopUse (L T W P R : Type) where
  | task (use : TaskUse T W R)
  | wakeup (taskq : W) (reason : Option R) (fuel : Nat)
  | pollActive (poll : T)
  | mark (task : T)
  | breaks (up : L)
  | stop (up : L)
  | holder (up : L) (holder : Option P)
  | enter (up : L)
  | test (up : L)
  | returned (up : L)

variable {L T W P R K : Type}

def LoopUse.about : LoopUse L T W P R → Option T
  | .task use => use.about
  | .pollActive poll => some poll
  | .mark marked => some marked
  | _ => none

variable [DecidableEq L] [DecidableEq T] [DecidableEq W]

def passTest (s : World L T W P R) (up : L) : Option (World L T W P R) :=
  match s.main up with
  | some ⟨firstRun, none⟩ => (txLoopMainTest s up firstRun).toOption
  | _ => none

def useLoop (s : World L T W P R) : LoopUse L T W P R → Option (World L T W P R)
  | .task use => some (useTask s use)
  | .wakeup taskq reason fuel => txTaskWakeup fuel s taskq reason
  | .pollActive poll => some (txPollActive s poll)
  | .mark task => some (txTaskMark s task)
  | .breaks up => some (txLoopBreak s up)
  | .stop up => some (txLoopStop s up)
  | .holder up holder => some (setHolder s up holder)
  | .enter up => if (s.main up).isNone then some (txLoopMainEnter s up) else none
  | .test up => passTest s up
  | .returned up =>
      match s.main up with
      | some ⟨firstRun, some _⟩ => some (s.setMain up (some ⟨firstRun, none⟩))
      | _ => none

def inCall (s : World L T W P R) (up : L) (task : T) : Bool :=
  (s.main up).any (fun frame => decide (frame.calling = some task))

/-- `poll` is the task of `tx_tm_callout`; `ring` and `timer` are addresses, as a holder and as
a reason. -/
structure Callout (T P R K : Type) where
  poll : T
  ring : P
  timer : K → R

/-- `touched` tells whether a ring was used after it had been deleted; no operation reads it. -/
structure RingLoop (L T W P R K : Type) where
  world : World L T W P R
  timers : Timers K
  txTask : K → Option T
  deleted : Bool
  touched : Bool

inductive RingUse (L T W P R K : Type) where
  | loop (use : LoopUse L T W P R)
  | getticks (reading : Nat)
  | init (timer : K) (task : Option T)
  | reset (timer : K) (umilsec : UInt32)
  | stop (timer : K)
  | drain (timer : K)
  | polling (reading : Nat) (slept : Option Nat)

def ringNew (callout : Callout T P R K) (world : World L T W P R) (up : L) (reading : Nat) :
    RingLoop L T W P R K :=
  let inited := { world with
    task := Function.update world.task callout.poll (txTaskInit (world.task callout.poll) up) }
  let linked := txPollActive inited callout.poll
  { world := linked
    timers := txTimerRingNew reading
    txTask := fun _ => none
    deleted := (linked.task callout.poll).txFlags.idle
    touched := false }

def wakeFired (callout : Callout T P R K) (txTask : K → Option T) (world : World L T W P R)
    (fired : List K) : World L T W P R :=
  fired.foldl (fun world timer => txTaskActive world (txTask timer) (some (callout.timer timer))) world

section

variable [DecidableEq P] [DecidableEq K]

/-- `tx_loop_main` takes the ring's poll off its queue and calls `tx_timer_polling`, which
pauses when `tx_loop_timeout` allows it. -/
def RingLoop.polling (callout : Callout T P R K) (s : RingLoop L T W P R K) (reading : Nat)
    (slept : Option Nat) : Option (RingLoop L T W P R K) :=
  let up := (s.world.task callout.poll).txLoop
  (passTest s.world up).bind fun called =>
    let timers := txTimerPolling s.timers reading slept
    let woken := wakeFired callout s.txTask called (timers.calls.drop s.timers.calls.length)
    let pauses := decide (txLoopTimeout (woken.loop up) (some callout.ring) ≠ 0)
    let linked := txPollActive woken callout.poll
    if inCall called up callout.poll = true ∧ slept.isSome = pauses then
      some { s with
        world := linked.setMain up ((linked.main up).map (fun frame => ⟨frame.firstRun, none⟩))
        timers := timers
        deleted := s.deleted || (linked.task callout.poll).txFlags.idle
        touched := s.touched || s.deleted }
    else none

def RingLoop.act (callout : Callout T P R K) (s : RingLoop L T W P R K) :
    RingUse L T W P R K → Option (RingLoop L T W P R K)
  | .loop use =>
      if use.about = some callout.poll then none
      else (useLoop s.world use).bind fun next =>
        if inCall next (s.world.task callout.poll).txLoop callout.poll then none
        else some { s with world := next }
  | .getticks reading => some { s with timers := txGetticks s.timers reading }
  | .init timer task =>
      if (s.timers.timer timer).idle = true ∧ task ≠ some callout.poll then
        some { s with
          timers := txTimerInit s.timers timer
          txTask := Function.update s.txTask timer task }
      else none
  | .reset timer umilsec =>
      some { s with timers := txTimerReset s.timers timer umilsec, touched := s.touched || s.deleted }
  | .stop timer =>
      some { s with
        timers := txTimerStop s.timers timer
        touched := s.touched || (s.deleted && !(s.timers.timer timer).idle) }
  | .drain timer =>
      some { s with
        world :=
          if (s.timers.timer timer).idle then s.world
          else txTaskActive s.world (s.txTask timer) (some (callout.timer timer))
        timers := txTimerDrain s.timers timer
        touched := s.touched || (s.deleted && !(s.timers.timer timer).idle) }
  | .polling reading slept => s.polling callout reading slept

end

structure RingLoop.Safe (s : RingLoop L T W P R K) : Prop where
  unlinked : s.deleted = true → ∀ timer, (s.timers.timer timer).idle = false →
    ∀ bucket, timer ∉ s.timers.ring.timers bucket
  untouched : s.touched = false

/-- A polling on a stopped loop that leaves a timer armed, or a use of a deleted ring. -/
def Harmful (callout : Callout T P R K) (s : RingLoop L T W P R K) : RingUse L T W P R K → Prop
  | .reset _ _ => s.deleted = true
  | .polling reading _ => s.deleted = true ∨
      ((s.world.loop (s.world.task callout.poll).txLoop).txStop = true ∧
        ∃ timer, (s.timers.timer timer).idle = false ∧ ¬ Due s.timers reading timer)
  | _ => False

section World

theorem phony_uncalled (s : World L T W P R) (up : L) (task : T) :
    inCall (txLoopMainPhony s up) up task = false := by
  cases breaks : (s.loop up).txBreak with
  | true => simp [inCall, txLoopMainPhony, txLoopMainLeave, breaks]
  | false => simp [inCall, txLoopMainPhony, breaks]

theorem passTest_ok (s next : World L T W P R) (up : L) (passed : passTest s up = some next) :
    ∃ firstRun, s.main up = some ⟨firstRun, none⟩ ∧ txLoopMainTest s up firstRun = .ok next := by
  unfold passTest at passed
  split at passed
  · rename_i firstRun atTest
    refine ⟨firstRun, atTest, ?_⟩
    cases result : txLoopMainTest s up firstRun with
    | error fault =>
        rw [result] at passed
        cases passed
    | ok after =>
        rw [result] at passed
        injection passed with same
        rw [same]
  · cases passed

theorem phony_frame (s : World L T W P R) (up : L) :
    (txLoopMainPhony s up).task = s.task ∧
      ∀ other, ((txLoopMainPhony s up).loop other).txStop = (s.loop other).txStop := by
  cases breaks : (s.loop up).txBreak with
  | false =>
      simp only [txLoopMainPhony, breaks]
      refine ⟨rfl, ?_⟩
      intro other
      simp
  | true =>
      simp only [txLoopMainPhony, breaks]
      refine ⟨rfl, ?_⟩
      intro other
      simp [txLoopMainLeave]

theorem passTest_frame (s next : World L T W P R) (up : L) (passed : passTest s up = some next) :
    (∀ task, inCall next up task = false → next.task task = s.task task) ∧
      ∀ other, (next.loop other).txStop = (s.loop other).txStop := by
  obtain ⟨firstRun, _, ok⟩ := passTest_ok s next up passed
  rcases test_cases next up firstRun ok with ⟨_, ⟨_, same⟩ | ⟨first, _, same⟩⟩ | ⟨_, same⟩
  · subst same
    have frame := phony_frame (s.onHeap (fun heap => heap.listRemove (.phony up))) up
    exact ⟨fun task _ => congrFun frame.1 task, frame.2⟩
  · subst same
    constructor
    · intro task uncalled
      have apart : task ≠ first := by
        intro called
        subst called
        simp [inCall, txLoopMainCall] at uncalled
      simp [txLoopMainCall, apart]
    · intro other
      simp [txLoopMainCall]
  · subst same
    exact ⟨fun _ _ => rfl, fun _ => rfl⟩

theorem passTest_call (s called : World L T W P R) (up : L) (task : T)
    (passed : passTest s up = some called) (calls : inCall called up task = true) :
    (called.task task).txFlags.idle = true ∧ (called.task task).txLoop = (s.task task).txLoop ∧
      ∀ other, (called.loop other).txStop = (s.loop other).txStop := by
  have stops := (passTest_frame s called up passed).2
  obtain ⟨firstRun, _, ok⟩ := passTest_ok s called up passed
  rcases test_cases called up firstRun ok with ⟨_, ⟨_, same⟩ | ⟨first, _, same⟩⟩ | ⟨_, same⟩
  · subst same
    exact absurd calls (by simp [phony_uncalled])
  · subst same
    have own : first = task := by
      simpa [inCall, txLoopMainCall] using calls
    subst own
    refine ⟨?_, ?_, stops⟩
    · simp [txLoopMainCall]
    · simp [txLoopMainCall]
  · subst same
    exact absurd calls (by simp [inCall, txLoopMainLeave])

theorem wakeFired_keeps (callout : Callout T P R K) (txTask : K → Option T) (fired : List K)
    (own : ∀ timer, txTask timer ≠ some callout.poll) (world : World L T W P R) :
    (wakeFired callout txTask world fired).task callout.poll = world.task callout.poll ∧
      ∀ other, ((wakeFired callout txTask world fired).loop other).txStop = (world.loop other).txStop := by
  induction fired generalizing world with
  | nil => exact ⟨rfl, fun _ => rfl⟩
  | cons timer rest ih =>
      have later := ih (txTaskActive world (txTask timer) (some (callout.timer timer)))
      rw [wakeFired, List.foldl_cons, ← wakeFired]
      cases named : txTask timer with
      | none =>
          rw [named] at later
          exact later
      | some task =>
          rw [named] at later
          have apart : callout.poll ≠ task := fun same => own timer (same ▸ named)
          refine ⟨later.1.trans (txTaskActive_other world task callout.poll _ apart), ?_⟩
          exact fun other => (later.2 other).trans (txTaskActive_stops task other _)

theorem txPollActive_idle (s : World L T W P R) (poll : T) (idle : (s.task poll).txFlags.idle = true) :
    ((txPollActive s poll).task poll).txFlags.idle = (s.loop (s.task poll).txLoop).txStop := by
  cases stop : (s.loop (s.task poll).txLoop).txStop with
  | true => simp [txPollActive, stop, idle]
  | false => simp [txPollActive, stop, idle]

end World

section Polling

variable {callout : Callout T P R K} {s next : RingLoop L T W P R K}

omit [DecidableEq L] [DecidableEq T] [DecidableEq W] in
theorem unlinked_iff (placed : Placed [] s.timers) :
    (∀ timer, (s.timers.timer timer).idle = false → ∀ bucket, timer ∉ s.timers.ring.timers bucket) ↔
      ∀ timer, (s.timers.timer timer).idle = true := by
  constructor
  · intro unlinked timer
    cases armed : (s.timers.timer timer).idle with
    | true => rfl
    | false =>
        obtain ⟨bucket, member⟩ := placed.linked timer armed
        exact absurd member (unlinked timer armed bucket)
  · intro idle timer armed
    exact absurd ((idle timer).symm.trans armed) (by simp)

/-- A ring that is safe, with each armed timer on one list and no timer for its own poll. -/
structure Tended (callout : Callout T P R K) (s : RingLoop L T W P R K) : Prop where
  placed : Placed [] s.timers
  own : ∀ timer, s.txTask timer ≠ some callout.poll
  idle : s.deleted = true → ∀ timer, (s.timers.timer timer).idle = true
  untouched : s.touched = false

omit [DecidableEq L] [DecidableEq T] [DecidableEq W] in
theorem Tended.safe (tended : Tended callout s) : s.Safe where
  unlinked := fun gone => (unlinked_iff tended.placed).mpr (tended.idle gone)
  untouched := tended.untouched

omit [DecidableEq L] [DecidableEq T] [DecidableEq W] in
theorem Tended.armed (tended : Tended callout s) (timer : K) :
    (s.deleted && !(s.timers.timer timer).idle) = false := by
  cases gone : s.deleted with
  | false => rfl
  | true => simp [tended.idle gone timer]

theorem tended_new (callout : Callout T P R K) (world : World L T W P R) (up : L) (reading : Nat)
    (live : (world.loop up).txStop = false) : Tended callout (ringNew callout world up reading) where
  placed := placed_new reading
  own := fun _ => by simp [ringNew]
  idle := by
    intro gone
    have deleted : (ringNew callout world up reading).deleted = false := by
      simp only [ringNew]
      rw [txPollActive_idle _ callout.poll (by simp [txTaskInit])]
      simpa [txTaskInit] using live
    exact absurd (deleted.symm.trans gone) (by simp)
  untouched := rfl

variable [DecidableEq P] [DecidableEq K]

theorem RingLoop.polling_spec (own : ∀ timer, s.txTask timer ≠ some callout.poll) (reading : Nat)
    (slept : Option Nat) (polled : s.polling callout reading slept = some next) :
    next.timers = txTimerPolling s.timers reading slept ∧ next.txTask = s.txTask ∧
      next.deleted = (s.deleted || (s.world.loop (s.world.task callout.poll).txLoop).txStop) ∧
      next.touched = (s.touched || s.deleted) := by
  obtain ⟨called, passed, rest⟩ := Option.bind_eq_some_iff.mp polled
  dsimp only at rest
  split at rest
  · rename_i calls
    obtain ⟨idle, loop, stops⟩ := passTest_call s.world called _ callout.poll passed calls.1
    cases rest
    obtain ⟨poll, kept⟩ := wakeFired_keeps callout s.txTask
      ((txTimerPolling s.timers reading slept).calls.drop s.timers.calls.length) own called
    refine ⟨rfl, rfl, ?_, rfl⟩
    dsimp only
    rw [txPollActive_idle _ callout.poll (by rw [poll, idle]), poll, loop, kept, stops]
  · cases rest

theorem Tended.init (tended : Tended callout s) (timer : K) (task : Option T)
    (done : s.act callout (.init timer task) = some next) : Tended callout next := by
  simp only [RingLoop.act] at done
  split at done
  · rename_i free
    cases done
    refine ⟨tended.placed.use (.init timer) free.1, ?_, ?_, tended.untouched⟩
    · intro other
      by_cases same : other = timer
      · simpa [same] using free.2
      · simpa [same] using tended.own other
    · intro gone other
      by_cases same : other = timer
      · simp [txTimerInit, Timers.setTimer, same]
      · simpa [txTimerInit, Timers.setTimer, same] using tended.idle gone other
  · cases done

theorem Tended.act (tended : Tended callout s) (use : RingUse L T W P R K)
    (harmless : ¬ Harmful callout s use) (done : s.act callout use = some next) :
    Tended callout next := by
  cases use with
  | loop use =>
      simp only [RingLoop.act] at done
      split at done
      · cases done
      · obtain ⟨world, _, rest⟩ := Option.bind_eq_some_iff.mp done
        split at rest
        · cases rest
        · cases rest
          exact ⟨tended.placed, tended.own, tended.idle, tended.untouched⟩
  | getticks reading =>
      cases done
      exact ⟨tended.placed.act (.getticks reading), tended.own, tended.idle, tended.untouched⟩
  | init timer task => exact tended.init timer task done
  | reset timer umilsec =>
      have live : s.deleted = false := by simpa [Harmful] using harmless
      cases done
      refine ⟨tended.placed.act (.reset timer umilsec), tended.own, ?_, ?_⟩
      · exact fun gone => absurd (live.symm.trans gone) (by simp)
      · simp [tended.untouched, live]
  | stop timer =>
      cases done
      refine ⟨tended.placed.act (.stop timer), tended.own, ?_, ?_⟩
      · intro gone other
        have same : txTimerStop s.timers timer = s.timers := by
          simp [txTimerStop, tended.idle gone timer]
        rw [same]
        exact tended.idle gone other
      · simp only [tended.untouched, tended.armed timer, Bool.or_self]
  | drain timer =>
      cases done
      refine ⟨tended.placed.act (.drain timer), tended.own, ?_, ?_⟩
      · intro gone other
        have same : txTimerDrain s.timers timer = s.timers := by
          simp [txTimerDrain, tended.idle gone timer]
        rw [same]
        exact tended.idle gone other
      · simp only [tended.untouched, tended.armed timer, Bool.or_self]
  | polling reading slept =>
      rw [Harmful, not_or, not_and] at harmless
      have live : s.deleted = false := by simpa using harmless.1
      obtain ⟨timers, tasks, gone, touched⟩ := RingLoop.polling_spec tended.own reading slept done
      refine ⟨timers ▸ tended.placed.polling reading slept, tasks ▸ tended.own, ?_, ?_⟩
      · intro deleted timer
        rw [gone, live, Bool.false_or] at deleted
        rw [timers, polling_idle tended.placed reading slept]
        cases armed : (s.timers.timer timer).idle with
        | true => exact Or.inl rfl
        | false =>
            have all := harmless.2 deleted
            rw [not_exists] at all
            by_contra undue
            exact all timer ⟨armed, fun due => undue (Or.inr due)⟩
      · rw [touched, tended.untouched, live]
        rfl

theorem Tended.harmed (tended : Tended callout s) (use : RingUse L T W P R K)
    (harmful : Harmful callout s use) (done : s.act callout use = some next) : ¬ next.Safe := by
  intro safe
  cases use with
  | reset timer umilsec =>
      have gone : s.deleted = true := harmful
      cases done
      have touched := safe.untouched
      simp [gone] at touched
  | polling reading slept =>
      obtain ⟨timers, _, gone, touched⟩ := RingLoop.polling_spec tended.own reading slept done
      rcases harmful with deleted | ⟨stopped, timer, armed, undue⟩
      · have untouched := safe.untouched
        rw [touched, deleted, Bool.or_true] at untouched
        cases untouched
      · have deleted : next.deleted = true := by rw [gone, stopped, Bool.or_true]
        have placed : Placed [] next.timers := timers ▸ tended.placed.polling reading slept
        have idle := (unlinked_iff placed).mp (safe.unlinked deleted) timer
        rw [timers, polling_idle tended.placed reading slept] at idle
        rcases idle with before | due
        · exact absurd (armed.symm.trans before) (by simp)
        · exact undue due
  | loop use => exact harmful
  | getticks reading => exact harmful
  | init timer task => exact harmful
  | stop timer => exact harmful
  | drain timer => exact harmful

end Polling

variable [DecidableEq P] [DecidableEq K]

/-- A ring is safe all through a run exactly when no polling on a stopped loop leaves a timer
armed and nothing resets a timer of, or polls, a ring that has been deleted. -/
theorem teardown_safe (callout : Callout T P R K) (world : World L T W P R) (up : L) (reading : Nat)
    (live : (world.loop up).txStop = false) (uses : List (RingUse L T W P R K))
    (last : RingLoop L T W P R K)
    (ended : Runs.run (RingLoop.act callout) (ringNew callout world up reading) uses = some last) :
    (∀ front back mid, uses = front ++ back →
        Runs.run (RingLoop.act callout) (ringNew callout world up reading) front = some mid → mid.Safe) ↔
      Runs.Allowed (RingLoop.act callout) (fun s use => ¬ Harmful callout s use)
        (ringNew callout world up reading) uses :=
  Runs.harmless_iff (fun _ _ => True) (Harmful callout) (Tended callout) RingLoop.Safe
    (fun _ tended => tended.safe)
    (fun _ use _ _ harmless tended done => tended.act use harmless done)
    (fun _ use _ _ harmful tended done => tended.harmed use harmful done)
    _ last uses (Runs.allowed_any _ uses) (tended_new callout world up reading live) ended

def pairCallout : Callout Bool Unit Unit Unit := ⟨true, (), fun _ => ()⟩

def pairRing : RingLoop Unit Bool Unit Unit Unit Unit := ringNew pairCallout pairStart () 0

def stoppedUses : List (RingUse Unit Bool Unit Unit Unit Unit) :=
  [.init () (some false), .reset () 100, .loop (.stop ()), .loop (.enter ())]

def stoppedRing : RingLoop Unit Bool Unit Unit Unit Unit :=
  (Runs.run (RingLoop.act pairCallout) pairRing stoppedUses).getD pairRing

theorem stopped_run : Runs.run (RingLoop.act pairCallout) pairRing stoppedUses = some stoppedRing := rfl

theorem stopped_quiet : txTimerPolling stoppedRing.timers 10 (some 10) =
    txGetticks (stoppedRing.timers.open 10) 10 := by
  have wheels (hand : Hand) : ¬ 0 ≤ asInt (stoppedRing.timers.lag hand (UInt32.ofNat 10)) := by
    cases hand <;> decide
  have scan : ¬ Swept stoppedRing.timers (UInt32.ofNat 10) .st := by
    unfold Swept
    decide
  rw [polling_eq]
  dsimp only
  rw [polledAt_quiet stoppedRing.timers 10 wheels scan]

theorem teardown_safe_pair :
    (∀ front back mid, stoppedUses = front ++ back →
        Runs.run (RingLoop.act pairCallout) pairRing front = some mid → mid.Safe) ↔
      Runs.Allowed (RingLoop.act pairCallout) (fun s use => ¬ Harmful pairCallout s use) pairRing
        stoppedUses :=
  teardown_safe pairCallout pairStart () 0 rfl stoppedUses stoppedRing stopped_run

/-- The first round of the stopped loop deletes the ring with the timer on its list. -/
theorem teardown_armed : ¬ ∀ front back mid,
    stoppedUses ++ [.polling 10 (some 10)] = front ++ back →
      Runs.run (RingLoop.act pairCallout) pairRing front = some mid → mid.Safe := by
  intro always
  have returns : (stoppedRing.polling pairCallout 10 (some 10)).isSome = true := by
    unfold RingLoop.polling
    rw [stopped_quiet]
    rfl
  obtain ⟨next, polled⟩ := Option.isSome_iff_exists.mp returns
  have own : ∀ timer, stoppedRing.txTask timer ≠ some pairCallout.poll := by
    intro timer
    cases timer
    decide
  obtain ⟨timers, _, gone, _⟩ := RingLoop.polling_spec own 10 (some 10) polled
  have ended : Runs.run (RingLoop.act pairCallout) pairRing (stoppedUses ++ [.polling 10 (some 10)]) =
      some next := by
    rw [Runs.run_append]
    exact ⟨stoppedRing, stopped_run, (Runs.run_cons _ _ _ _).mpr ⟨next, polled, rfl⟩⟩
  have safe := always _ [] next (List.append_nil _).symm ended
  have unlinked := safe.unlinked gone ()
  rw [timers, stopped_quiet] at unlinked
  exact unlinked rfl (.wheel .mi 6) List.mem_cons_self

end Libtx
