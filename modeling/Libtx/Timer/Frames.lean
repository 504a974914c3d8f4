import Libtx.Timer.Teardown

namespace Libtx

open Intrusive

variable {L T W P R K : Type} [DecidableEq T]

section World

variable {s next : World L T W P R} {v : View L T W}

/-- A task that is linked nowhere may be initialised again, for any loop. -/
theorem Refines.taskInit (h : Refines s v) (task : T) (up : L)
    (idle : (s.task task).txFlags.idle = true) :
    Refines { s with task := Function.update s.task task (txTaskInit (s.task task) up) } v where
  linked := h.linked
  own := by
    intro other member inside
    have apart : member ≠ task := by
      intro same
      exact ((h.idle task).mp idle).1 other (same ▸ inside)
    simpa [apart] using h.own other member inside
  idle := by
    intro other
    by_cases same : other = task
    · subst same
      simpa [txTaskInit, idle] using h.idle other
    · simpa [same] using h.idle other
  busy := by
    intro other
    by_cases same : other = task
    · subst same
      have unclaimed : (v.queue up).claim other = false := by
        cases claimed : (v.queue up).claim other with
        | false => rfl
        | true => exact absurd ((h.sound up).claimed other claimed) (((h.idle other).mp idle).1 up)
      simp [txTaskInit, unclaimed]
    · simpa [same] using h.busy other
  pending := by
    intro other
    by_cases same : other = task
    · subst same
      have unparked := h.idle_pending other idle
      have nowhere := ((h.idle other).mp idle).2
      simp [txTaskInit, nowhere]
    · simpa [same] using h.pending other
  running := h.running
  steps := h.steps
  halted := h.halted

theorem inCall_unique (up : L) (task other : T) (calls : inCall s up task = true) (apart : other ≠ task) :
    inCall s up other = false := by
  cases inside : s.main up with
  | none => simp [inCall, inside]
  | some frame =>
      have called : frame.calling = some task := by simpa [inCall, inside] using calls
      simp [inCall, inside, called, Ne.symm apart]

variable [DecidableEq L] [DecidableEq W]

theorem Refines.wakeup_frame (h : Refines s v) (taskq : W) (reason : Option R) (fuel : Nat)
    (woken : txTaskWakeup fuel s taskq reason = some next)
    (live : ∀ task, Holds s.heap (.waitq taskq) (.task task) →
      (s.loop (s.task task).txLoop).txStop = false)
    (task : T) (unparked : (s.task task).txFlags.pending = false) : next.task task = s.task task := by
  have lives : ∀ other ∈ v.parked taskq, (s.loop (s.task other).txLoop).txStop = false := by
    intro other member
    apply live other
    exact (holds_iff s.heap v.nodes h.linked (.waitq taskq) (.task other)).mpr (List.mem_map_of_mem member)
  have absent : task ∉ v.parked taskq := by
    intro member
    exact absurd ((h.pending task).mpr ⟨taskq, member⟩) (by simp [unparked])
  by_cases enough : (v.parked taskq).length ≤ fuel
  · have returned := (h.wakeup taskq reason fuel enough lives).1
    rw [woken] at returned
    injection returned with same
    rw [same]
    exact wake_other s reason (v.parked taskq) task absent
  · rw [h.wakeup_short taskq reason fuel (by omega) lives] at woken
    cases woken

theorem txPollActive_stops (s : World L T W P R) (poll : T) (up : L) :
    ((txPollActive s poll).loop up).txStop = (s.loop up).txStop := by
  simp only [txPollActive]
  split
  · simp
  · rfl

theorem txPollActive_other (s : World L T W P R) (poll task : T) (apart : task ≠ poll) :
    (txPollActive s poll).task task = s.task task := by
  simp only [txPollActive]
  split
  · simp [apart]
  · rfl

theorem txPollActive_own (s : World L T W P R) (poll : T) :
    ((txPollActive s poll).task poll).txLoop = (s.task poll).txLoop ∧
      ((txPollActive s poll).task poll).txFlags.pending = (s.task poll).txFlags.pending := by
  simp only [txPollActive]
  split
  · simp
  · exact ⟨rfl, rfl⟩

/-- A use whose wakeups meet no task of a stopped loop -/
def LoopUse.Live (s : World L T W P R) (use : LoopUse L T W P R) : Prop :=
  ∀ taskq reason fuel, use = .wakeup taskq reason fuel →
    ∀ task, Holds s.heap (.waitq taskq) (.task task) → (s.loop (s.task task).txLoop).txStop = false

theorem useLoop_enter (up : L) (used : useLoop s (.enter up) = some next) :
    s.main up = none ∧ next = txLoopMainEnter s up := by
  simp only [useLoop] at used
  split at used
  · rename_i left
    injection used with same
    exact ⟨Option.isNone_iff_eq_none.mp left, same.symm⟩
  · cases used

theorem useLoop_returned (up : L) (used : useLoop s (.returned up) = some next) :
    ∃ firstRun task, s.main up = some ⟨firstRun, some task⟩ ∧
      next = s.setMain up (some ⟨firstRun, none⟩) := by
  simp only [useLoop] at used
  split at used
  · rename_i firstRun task inside
    injection used with same
    exact ⟨firstRun, task, inside, same.symm⟩
  · cases used

theorem useLoop_step (use : LoopUse L T W P R) (live : use.Live s) (used : useLoop s use = some next) :
    Step s next := by
  cases use with
  | task use =>
      cases used
      cases use with
      | active task reason => exact .active s task reason
      | drop task => exact .drop s task
      | record taskq task => exact .record s taskq task
  | wakeup taskq reason fuel => exact .wakeup s next taskq reason fuel used (live taskq reason fuel rfl)
  | pollActive poll =>
      cases used
      exact .pollActive s poll
  | mark task =>
      cases used
      exact .mark s task
  | breaks up =>
      cases used
      exact .breaks s up
  | stop up =>
      cases used
      exact .stop s up
  | holder up holder =>
      cases used
      exact .holder s up holder
  | enter up =>
      obtain ⟨left, same⟩ := useLoop_enter up used
      exact same ▸ .enter s up left
  | test up =>
      obtain ⟨firstRun, atTest, ok⟩ := passTest_ok s next up used
      exact .test s next up firstRun atTest ok
  | returned up =>
      obtain ⟨firstRun, task, inside, same⟩ := useLoop_returned up used
      exact same ▸ .returned s up firstRun task inside

theorem Refines.use_frame (h : Refines s v) (use : LoopUse L T W P R) (live : use.Live s)
    (used : useLoop s use = some next) (task : T) (unnamed : use.about ≠ some task)
    (unparked : (s.task task).txFlags.pending = false)
    (uncalled : ∀ up, use = .test up → inCall next up task = false) :
    next.task task = s.task task := by
  cases use with
  | task use =>
      cases used
      cases use with
      | active named reason =>
          cases named with
          | none => rfl
          | some named => exact txTaskActive_other s named task reason (fun same => unnamed (same ▸ rfl))
      | drop named =>
          cases named with
          | none => rfl
          | some named => exact txTaskDrop_other s named task (fun same => unnamed (same ▸ rfl))
      | record taskq named =>
          have apart : task ≠ named := fun same => unnamed (same ▸ rfl)
          have dropped := txTaskDrop_other s named task apart
          simpa [useTask, txTaskRecord, apart] using dropped
  | wakeup taskq reason fuel =>
      exact h.wakeup_frame taskq reason fuel used (live taskq reason fuel rfl) task unparked
  | pollActive poll =>
      cases used
      exact txPollActive_other s poll task (fun same => unnamed (same ▸ rfl))
  | mark named =>
      cases used
      have apart : task ≠ named := fun same => unnamed (same ▸ rfl)
      simp [txTaskMark, apart]
  | breaks up =>
      cases used
      rfl
  | stop up =>
      cases used
      rfl
  | holder up holder =>
      cases used
      rfl
  | enter up =>
      rw [(useLoop_enter up used).2]
      rfl
  | test up => exact (passTest_frame s next up used).1 task (uncalled up rfl)
  | returned up =>
      obtain ⟨_, _, _, same⟩ := useLoop_returned up used
      rw [same]
      rfl

theorem useLoop_stops (use : LoopUse L T W P R) (used : useLoop s use = some next) (up : L)
    (apart : use ≠ .stop up) : (next.loop up).txStop = (s.loop up).txStop := by
  cases use with
  | task use =>
      cases used
      exact useTask_stop s use up
  | wakeup taskq reason fuel =>
      obtain ⟨walked, done, same⟩ := Option.map_eq_some_iff.mp used
      subst same
      apply wakeup_from_keeps (fun world => (world.loop up).txStop = (s.loop up).txStop) reason _ fuel s
        walked _ rfl done
      intro world task kept
      rw [txTaskActive_stops]
      exact kept
  | pollActive poll =>
      cases used
      exact txPollActive_stops s poll up
  | mark task =>
      cases used
      rfl
  | breaks other =>
      cases used
      simp [txLoopBreak]
  | stop other =>
      cases used
      have own : up ≠ other := fun same => apart (same ▸ rfl)
      simp [txLoopStop, own]
  | holder other holder =>
      cases used
      simp [setHolder]
  | enter other =>
      rw [(useLoop_enter other used).2]
      rfl
  | test other => exact (passTest_frame s next other used).2 up
  | returned other =>
      obtain ⟨_, _, _, same⟩ := useLoop_returned other used
      rw [same]
      rfl

theorem Refines.wakeFired (h : Refines s v) (callout : Callout T P R K) (txTask : K → Option T)
    (fired : List K) : ∃ after, Refines (wakeFired callout txTask s fired) after := by
  induction fired generalizing s v with
  | nil => exact ⟨v, h⟩
  | cons timer rest ih =>
      obtain ⟨after, refines⟩ := refines_step s _ (.active s (txTask timer) (some (callout.timer timer))) v h
      exact ih refines

end World

/-- What a polling does to the tasks of a world -/
structure PolledWorld (poll : T) (s next : World L T W P R) (txTask : K → Option T) : Prop where
  refined : ∃ v, Refines next v
  stops : ∀ up, (next.loop up).txStop = (s.loop up).txStop
  loop : (next.task poll).txLoop = (s.task poll).txLoop
  pending : (next.task poll).txFlags.pending = false
  idle : (next.task poll).txFlags.idle = (s.loop (s.task poll).txLoop).txStop
  others : ∀ task, task ≠ poll → (∀ timer, txTask timer ≠ some task) → next.task task = s.task task

variable [DecidableEq L] [DecidableEq W] [DecidableEq P] [DecidableEq K]

theorem RingLoop.polling_world (callout : Callout T P R K) (s next : RingLoop L T W P R K)
    (v : View L T W) (h : Refines s.world v) (own : ∀ timer, s.txTask timer ≠ some callout.poll)
    (reading : Nat) (slept : Option Nat) (polled : s.polling callout reading slept = some next) :
    PolledWorld callout.poll s.world next.world s.txTask := by
  obtain ⟨called, passed, rest⟩ := Option.bind_eq_some_iff.mp polled
  dsimp only at rest
  split at rest
  · rename_i calls
    obtain ⟨firstRun, atTest, ok⟩ := passTest_ok _ _ _ passed
    obtain ⟨during, inside⟩ := refines_step s.world called (.test _ _ _ firstRun atTest ok) v h
    obtain ⟨idle, loop, stops⟩ := passTest_call s.world called _ callout.poll passed calls.1
    have frame := passTest_frame _ _ _ passed
    generalize (txTimerPolling s.timers reading slept).calls.drop s.timers.calls.length = fired at rest
    obtain ⟨awake, woken⟩ := inside.wakeFired callout s.txTask fired
    have kept := wakeFired_keeps callout s.txTask fired own called
    obtain ⟨after, refines⟩ := woken.pollActive callout.poll
    have linked := txPollActive_own (wakeFired callout s.txTask called fired) callout.poll
    cases rest
    constructor
    · refine ⟨after, refines.frame _ rfl (fun _ => rfl) (fun _ => rfl) (fun _ => rfl) (fun _ => rfl) ?_ rfl
        (fun _ stop => stop)⟩
      intro other
      by_cases same : other = (s.world.task callout.poll).txLoop
      · simp [same]
      · simp [same]
    · intro up
      change ((txPollActive _ callout.poll).loop up).txStop = _
      rw [txPollActive_stops, kept.2, stops]
    · change ((txPollActive _ callout.poll).task callout.poll).txLoop = _
      rw [linked.1, kept.1, loop]
    · change ((txPollActive _ callout.poll).task callout.poll).txFlags.pending = _
      rw [linked.2, kept.1]
      exact inside.idle_pending callout.poll idle
    · change ((txPollActive _ callout.poll).task callout.poll).txFlags.idle = _
      rw [txPollActive_idle _ callout.poll (by rw [kept.1, idle]), kept.1, loop, kept.2, stops]
    · intro task apart unnamed
      change (txPollActive _ callout.poll).task task = _
      have spared := (wakeFired_keeps ⟨task, callout.ring, callout.timer⟩ s.txTask fired unnamed called).1
      calc
        _ = (wakeFired callout s.txTask called fired).task task := txPollActive_other _ callout.poll task apart
        _ = called.task task := spared
        _ = s.world.task task := frame.1 task (inCall_unique _ callout.poll task calls.1 apart)
  · cases rest

end Libtx
