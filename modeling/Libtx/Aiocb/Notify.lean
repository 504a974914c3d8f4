import Libtx.Stdio.Frames
import Libtx.Timer.Callout

namespace Libtx

open Intrusive

variable {L T W P F : Type}

/-- What the code of a loop with an epoll poller does: it uses the loop, or the objects, or the loop
calls the poller. -/
inductive EpollUse (L T W P F : Type) where
  | loop (use : LoopUse L T W P F)
  | file (action : PollAction L T W P F (EpollReport F))
  | polling (reports : List (EpollReport F))

variable [DecidableEq T]

section

variable [DecidableEq L] [DecidableEq W]

def txEpollInit (world : World L T W P F) (filp : F → TxAiocb T) (up : L) (address : P) (poll : T) :
    EpollPoller L T W P F :=
  let inited := { world with task := Function.update world.task poll (txTaskInit (world.task poll) up) }
  { world := txPollActive inited poll
    filp := filp
    backend := ⟨address, 0, poll, fun _ => none⟩
    calls := [] }

variable [DecidableEq P] [DecidableEq F]

def Poller.polled (s : EpollPoller L T W P F) (reports : List (EpollReport F)) :
    Option (EpollPoller L T W P F) :=
  (passTest s.world s.up).bind fun called =>
    if inCall called s.up s.backend.pollTask then
      let served := txEpollPolling { s with world := called } reports
      some { served with
        world := served.world.setMain s.up ((served.world.main s.up).map (fun frame => ⟨frame.firstRun, none⟩)) }
    else none

def epollUse (s : EpollPoller L T W P F) : EpollUse L T W P F → Option (EpollPoller L T W P F)
  | .loop use =>
      if use.about = some s.backend.pollTask then none
      else (useLoop s.world use).bind fun next =>
        if inCall next s.up s.backend.pollTask then none else some { s with world := next }
  | .file (.loop _) | .file (.polling _) => none
  | .file action => if action.waiter = some s.backend.pollTask then none else epollAct s action
  | .polling reports => s.polled reports

/-- Nothing stops the poller's loop and no other poller holds it. The calls of `epoll_ctl` succeed,
and `epoll_wait` returns what it can. -/
def EpollUse.Proper (up : L) (s : EpollPoller L T W P F) : EpollUse L T W P F → Prop
  | .loop use => use.Live s.world ∧ use ≠ .stop up ∧
      ∀ next, useLoop s.world use = some next → (next.loop s.up).txHolder = s.holder
  | .file action => Libtx.Proper Reported s action ∧ Succeeds s action
  | .polling reports => Reported s reports ∧ ∀ report ∈ reports, report.answer = none

def EpollUse.Avoids (filp : F) (task : T) : EpollUse L T W P F → Prop
  | .loop use => use.about ≠ some task
  | .file action => action.object ≠ some filp ∧ action.waiter ≠ some task
  | .polling _ => True

def EpollUse.Tells (filp : F) (side : Side) : EpollUse L T W P F → Prop
  | .polling reports => ∃ report ∈ reports, report.ptr = filp ∧ report.tells side = true
  | .loop _ | .file _ => False

structure Looped (up : L) (s : EpollPoller L T W P F) : Prop where
  refined : ∃ v, Refines s.world v
  exact : EpollExact s
  watched : ∀ filp, (s.filp filp).watched
  live : (s.world.loop up).txStop = false
  home : s.up = up
  unparked : (s.world.task s.backend.pollTask).txFlags.pending = false
  own : ∀ filp side, (s.filp filp).txFilter side ≠ some s.backend.pollTask

/-- How far a waiter is: it is in its slot, it is queued before the poller's task, or it has been
called once more. -/
inductive Notice (up : L) (filp : F) (side : Side) (task : T) (told : Prop) (calls : Nat)
    (s : EpollPoller L T W P F) : Prop where
  | waits (untold : ¬ told) (slot : (s.filp filp).txFilter side = some task)
      (idle : (s.world.task task).txFlags.idle = true)
      (served : Rounds.served task (s.world.history up) = calls)
  | queued (heard : told) (slot : (s.filp filp).txFilter side = none)
      (busy : (s.world.task task).txFlags.busy = true) (ahead : Ahead task s.backend.pollTask up s.world)
      (served : Rounds.served task (s.world.history up) = calls)
  | called (heard : told) (slot : (s.filp filp).txFilter side = none)
      (idle : (s.world.task task).txFlags.idle = true)
      (served : Rounds.served task (s.world.history up) = calls + 1)

/-- The task waits for one direction of one object. -/
structure Awaited (up : L) (filp : F) (side : Side) (task : T) (told : Prop) (calls : Nat)
    (s : EpollPoller L T W P F) : Prop extends Looped up s where
  alive : (s.filp filp).live = true
  only : ∀ other which, (s.filp other).txFilter which = some task → other = filp ∧ which = side
  apart : task ≠ s.backend.pollTask
  task_home : (s.world.task task).txLoop = up
  notice : Notice up filp side task told calls s

def Poller.woken (s : EpollPoller L T W P F) (reports : List (EpollReport F)) : List (T × F) :=
  reports.flatMap (fun report => report.woken (s.filp report.ptr))

def Poller.rouse (s : EpollPoller L T W P F) (reports : List (EpollReport F)) (world : World L T W P F) :
    World L T W P F :=
  wakeFired ⟨s.backend.pollTask, s.backend.address, Prod.snd⟩ (fun call => some call.1) world (s.woken reports)

end

section Polling

variable {up : L} {s next : EpollPoller L T W P F} {reports : List (EpollReport F)}
    [DecidableEq L] [DecidableEq W]

theorem still_called {called : World L T W P F} (passed : passTest s.world s.up = some called) :
    Still s { s with world := called } := by
  obtain ⟨firstRun, _, ok⟩ := passTest_ok s.world called s.up passed
  exact still_unheld s called (unheld_test s.world called s.up firstRun ok)

variable [DecidableEq P]

structure Poller.Polls (up : L) (s : EpollPoller L T W P F) (reports : List (EpollReport F))
    (called : World L T W P F) (served next : EpollPoller L T W P F) : Prop where
  passed : passTest s.world up = some called
  calls : inCall called up s.backend.pollTask = true
  wakes : served.world = s.rouse reports called
  place : served.backend.pollTask = s.backend.pollTask
  hits : ∀ report ∈ reports, next.filp report.ptr = report.leaves (s.filp report.ptr)
  misses : ∀ filp, filp ∉ reports.map EpollReport.ptr → next.filp filp = s.filp filp
  kept : next.backend.pollTask = s.backend.pollTask
  world : next.world = (txPollActive served.release.world s.backend.pollTask).setMain up
    (((txPollActive served.release.world s.backend.pollTask).main up).map (fun frame => ⟨frame.firstRun, none⟩))

section

variable [DecidableEq F]

theorem Looped.polls (looped : Looped up s) (fine : Reported s reports)
    (answers : ∀ report ∈ reports, report.answer = none) (polled : s.polled reports = some next) :
    EpollExact next ∧ (∀ filp, (next.filp filp).watched) ∧
      (∀ filp side task, (next.filp filp).txFilter side = some task → (s.filp filp).txFilter side = some task) ∧
        ∃ called served, s.Polls up reports called served next := by
  obtain ⟨called, passed, rest⟩ := Option.bind_eq_some_iff.mp polled
  split at rest
  · rename_i calls
    cases rest
    have still := still_called passed
    have exact := looped.exact.same { s with world := called } ⟨still, rfl⟩
    obtain ⟨kept, _, hits, misses⟩ := polling_spec { s with world := called } exact reports fine answers
    obtain ⟨served, told, place, same⟩ := batch_served { s with world := called } exact reports fine answers
    have rest : served.release.backend.pollTask = s.backend.pollTask := (pollTask_release served).trans place
    refine ⟨kept.same _ ⟨still_unheld _ _ ((unheld_refl _).setMain s.up _), rfl⟩,
      watched_polling { s with world := called } exact reports fine answers looped.watched,
      slots_polling { s with world := called } exact reports fine answers, called, served, ?_⟩
    have home := looped.home
    constructor
    · rw [← home, passed]
    · rw [← home, calls]
    · exact told.world
    · exact place
    · exact hits
    · exact misses
    · dsimp only
      rw [same]
      exact rest
    · dsimp only
      rw [same, home, Poller.relink, rest]
  · cases rest

end

variable {called : World L T W P F} {served : EpollPoller L T W P F} {task : T}

omit [DecidableEq P] in
theorem rouse_spares (up : L) (world : World L T W P F) (absent : task ∉ (s.woken reports).map Prod.fst) :
    (s.rouse reports world).task task = world.task task ∧ Unmoved task up world (s.rouse reports world) := by
  apply wakeFired_spares
  intro call member own
  exact absurd (List.mem_map.mpr ⟨call, member, Option.some.inj own⟩) absent

theorem Poller.Polls.before (polls : s.Polls up reports called served next)
    (apart : task ≠ s.backend.pollTask) :
    called.task task = s.world.task task ∧ Unmoved task up s.world called :=
  called_other s.backend.pollTask polls.passed polls.calls apart

theorem Poller.Polls.after (polls : s.Polls up reports called served next)
    (apart : task ≠ s.backend.pollTask) :
    next.world.task task = served.world.task task ∧ Unmoved task up served.world next.world := by
  have released := spares_release task up served
  have linked := linked_other up served.release.world s.backend.pollTask
    (((txPollActive served.release.world s.backend.pollTask).main up).map
      (fun frame => ⟨frame.firstRun, none⟩)) apart
  rw [polls.world]
  exact ⟨linked.1.trans released.task, (unmoved_release task up served).trans linked.2⟩

theorem Poller.Polls.spared (polls : s.Polls up reports called served next)
    (apart : task ≠ s.backend.pollTask) (absent : task ∉ (s.woken reports).map Prod.fst) :
    next.world.task task = s.world.task task ∧ Unmoved task up s.world next.world := by
  have first := polls.before apart
  have last := polls.after apart
  have quiet := rouse_spares up called absent
  rw [← polls.wakes] at quiet
  exact ⟨(last.1.trans quiet.1).trans first.1, (first.2.trans quiet.2).trans last.2⟩

theorem Poller.Polls.poll (polls : s.Polls up reports called served next) (looped : Looped up s) :
    (∃ v, Refines called v) ∧ (∃ v, Refines served.release.world v) ∧
      (called.loop up).txStop = false ∧ (served.release.world.loop up).txStop = false ∧
        (served.release.world.task s.backend.pollTask).txFlags.idle = true ∧
          (served.release.world.task s.backend.pollTask).txLoop = up := by
  obtain ⟨v, h⟩ := looped.refined
  obtain ⟨firstRun, atTest, ok⟩ := passTest_ok s.world called up polls.passed
  obtain ⟨rested, loop, stops⟩ := passTest_call s.world called up s.backend.pollTask polls.passed polls.calls
  have refined : ∃ v, Refines called v := refines_step _ _ (.test s.world called up firstRun atTest ok) v h
  have live : (called.loop up).txStop = false := by rw [stops, looped.live]
  have absent : s.backend.pollTask ∉ (s.woken reports).map Prod.fst := by
    intro told
    obtain ⟨report, _, side, _, slot⟩ := woken_slot s reports _ told
    exact looped.own report.ptr side slot
  have quiet := rouse_spares up called absent
  have path : Relation.ReflTransGen Step called (s.rouse reports called) := wakeFired_path _ _ _
  have stop : ((s.rouse reports called).loop up).txStop = (called.loop up).txStop := wakeFired_stops _ _ _
  rw [← polls.wakes] at quiet path stop
  have released := spares_release s.backend.pollTask up served
  refine ⟨refined, released.refined (refines_path path refined), live, ?_, ?_, ?_⟩
  · rw [released.stop, stop, live]
  · rw [released.task, quiet.1, rested]
  · rw [released.task, quiet.1, loop]
    exact looped.home

theorem Poller.Polls.woken (polls : s.Polls up reports called served next) (looped : Looped up s)
    (apart : task ≠ s.backend.pollTask) (home : (s.world.task task).txLoop = up)
    (idle : (s.world.task task).txFlags.idle = true) (told : task ∈ (s.woken reports).map Prod.fst) :
    (next.world.task task).txFlags.busy = true ∧ (next.world.task task).txLoop = up ∧
      Unmoved task up s.world next.world ∧
        Ahead task s.backend.pollTask up (txPollActive served.release.world s.backend.pollTask) := by
  have first := polls.before apart
  have last := polls.after apart
  have released := spares_release task up served
  obtain ⟨refined, later, live, still, rested, place⟩ := polls.poll looped
  obtain ⟨call, member, same⟩ := List.mem_map.mp told
  have woken : ((s.rouse reports called).task task).txFlags.busy = true ∧
      ((s.rouse reports called).task task).txLoop = up ∧ Unmoved task up called (s.rouse reports called) :=
    wakeFired_wakes _ up _ _ called refined ⟨call, member, congrArg some same⟩ (by rw [first.1, idle])
      (by rw [first.1, home]) live
  rw [← polls.wakes] at woken
  obtain ⟨busy, own, unmoved⟩ := woken
  refine ⟨by rw [last.1, busy], by rw [last.1, own], (first.2.trans unmoved).trans last.2, ?_⟩
  exact ahead_linked later still (by rw [released.task, busy]) (by rw [released.task, own]) rested place

variable [DecidableEq F]

theorem Poller.Polls.file (polls : s.Polls up reports called served next) (filp : F) (side : Side) :
    (next.filp filp).live = (s.filp filp).live ∧
      ((EpollUse.polling reports : EpollUse L T W P F).Tells filp side → (next.filp filp).txFilter side = none) ∧
        (¬ (EpollUse.polling reports : EpollUse L T W P F).Tells filp side →
          (next.filp filp).txFilter side = (s.filp filp).txFilter side) := by
  refine ⟨?_, ?_, ?_⟩
  · by_cases member : filp ∈ reports.map EpollReport.ptr
    · obtain ⟨report, inside, object⟩ := List.mem_map.mp member
      rw [← object, polls.hits report inside]
      rfl
    · rw [polls.misses filp member]
  · rintro ⟨report, inside, object, tells⟩
    rw [← object, polls.hits report inside]
    simp [EpollReport.leaves, tells]
  · intro untold
    by_cases member : filp ∈ reports.map EpollReport.ptr
    · obtain ⟨report, inside, object⟩ := List.mem_map.mp member
      have quiet : report.tells side = false := by
        rw [Bool.eq_false_iff]
        exact fun tells => untold ⟨report, inside, object, tells⟩
      rw [← object, polls.hits report inside]
      simp [EpollReport.leaves, quiet]
    · rw [polls.misses filp member]

end Polling

section Steps

variable {up : L} {s next : EpollPoller L T W P F} {filp : F} {side : Side} {task : T} {told : Prop} {calls : Nat}

omit [DecidableEq T] in
theorem woken_tells (reports : List (EpollReport F)) (slot : (s.filp filp).txFilter side = some task)
    (tells : (EpollUse.polling reports : EpollUse L T W P F).Tells filp side) :
    task ∈ (s.woken reports).map Prod.fst := by
  obtain ⟨report, inside, object, reported⟩ := tells
  have member := woken_waiter report (s.filp report.ptr) side task reported (object ▸ slot)
  exact List.mem_map.mpr ⟨_, List.mem_flatMap.mpr ⟨report, inside, member⟩, rfl⟩

theorem Looped.keep (looped : Looped up s) (refined : ∃ v, Refines next.world v) (exact : EpollExact next)
    (watched : ∀ filp, (next.filp filp).watched)
    (stop : (next.world.loop up).txStop = (s.world.loop up).txStop)
    (pollTask : next.backend.pollTask = s.backend.pollTask)
    (poll : next.world.task s.backend.pollTask = s.world.task s.backend.pollTask)
    (own : ∀ filp side, (next.filp filp).txFilter side ≠ some s.backend.pollTask) : Looped up next where
  refined := refined
  exact := exact
  watched := watched
  live := stop.trans looped.live
  home := by
    rw [Poller.up, pollTask, poll]
    exact looped.home
  unparked := by rw [pollTask, poll, looped.unparked]
  own := by
    rw [pollTask]
    exact own

theorem Notice.keep (notice : Notice up filp side task told calls s)
    (pollTask : next.backend.pollTask = s.backend.pollTask)
    (slot : (next.filp filp).txFilter side = (s.filp filp).txFilter side) (refined : ∃ v, Refines next.world v)
    (same : next.world.task task = s.world.task task) (unmoved : Unmoved task up s.world next.world)
    (behind : Unmoved s.backend.pollTask up s.world next.world) : Notice up filp side task told calls next := by
  cases notice with
  | waits untold held idle served =>
      exact .waits untold (slot.trans held) (by rw [same, idle]) (unmoved.served.trans served)
  | queued heard empty busy ahead served =>
      refine .queued heard (slot.trans empty) (by rw [same, busy]) ?_ (unmoved.served.trans served)
      rw [pollTask]
      exact ahead.unmoved refined unmoved behind
  | called heard empty idle served =>
      exact .called heard (slot.trans empty) (by rw [same, idle]) (unmoved.served.trans served)

theorem Awaited.heard (awaited : Awaited up filp side task told calls s) (reports : List (EpollReport F))
    (woken : task ∈ (s.woken reports).map Prod.fst) : (s.filp filp).txFilter side = some task ∧
      (EpollUse.polling reports : EpollUse L T W P F).Tells filp side := by
  obtain ⟨report, inside, which, tells, slot⟩ := woken_slot s reports task woken
  obtain ⟨object, same⟩ := awaited.only report.ptr which slot
  subst same
  exact ⟨object ▸ slot, report, inside, object, tells⟩

theorem Notice.same {heard : Prop} (notice : Notice up filp side task told calls s) (same : told ↔ heard) :
    Notice up filp side task heard calls s := by
  rw [← propext same]
  exact notice

variable [DecidableEq L] [DecidableEq W]

theorem Awaited.unparked_task (awaited : Awaited up filp side task told calls s) :
    (s.world.task task).txFlags.pending = false := by
  obtain ⟨v, h⟩ := awaited.refined
  cases awaited.notice with
  | waits _ _ idle _ => exact h.idle_pending task idle
  | queued _ _ busy _ _ => exact h.busy_pending task busy
  | called _ _ idle _ => exact h.idle_pending task idle

theorem Awaited.call (awaited : Awaited up filp side task told calls s) (world : World L T W P F)
    (passed : passTest s.world up = some world) (called : inCall world up task = true) :
    Notice up filp side task told calls { s with world := world } := by
  obtain ⟨v, h⟩ := awaited.refined
  have linked := (h.called_linked passed called).1
  have served := called_served s.world world passed called
  cases awaited.notice with
  | waits _ _ idle _ => exact absurd (linked.symm.trans idle) (by simp)
  | queued heard empty _ _ before =>
      exact .called heard empty (passTest_call s.world world up task passed called).1 (by rw [served, before])
  | called _ _ idle _ => exact absurd (linked.symm.trans idle) (by simp)

variable [DecidableEq P] [DecidableEq F]

theorem loop_used (use : LoopUse L T W P F) (done : epollUse s (.loop use) = some next) :
    use.about ≠ some s.backend.pollTask ∧ ∃ world, useLoop s.world use = some world ∧
      inCall world s.up s.backend.pollTask = false ∧ next = { s with world := world } := by
  simp only [epollUse] at done
  split at done
  · cases done
  · rename_i unnamed
    obtain ⟨world, used, rest⟩ := Option.bind_eq_some_iff.mp done
    split at rest
    · cases rest
    · rename_i uncalled
      cases rest
      exact ⟨unnamed, world, used, by simpa using uncalled, rfl⟩

theorem file_used (action : PollAction L T W P F (EpollReport F))
    (done : epollUse s (.file action) = some next) :
    action.waiter ≠ some s.backend.pollTask ∧ epollAct s action = some next ∧
      ∃ filp, action.object = some filp := by
  cases action with
  | loop world => cases done
  | polling reports => cases done
  | init filp _ _ | listen filp _ _ | fini filp _ | poll _ filp _ | active _ filp _ _ | cancel _ filp _
  | update _ filp _ _ | connect filp _ _ _ =>
      simp only [epollUse] at done
      split at done
      · cases done
      · rename_i unnamed
        exact ⟨unnamed, done, filp, rfl⟩

theorem Looped.file (looped : Looped up s) (action : PollAction L T W P F (EpollReport F))
    (proper : (EpollUse.file action).Proper up s) (done : epollUse s (.file action) = some next) :
    EpollExact next ∧ (∀ filp, (next.filp filp).watched) ∧
      (∀ other, action.waiter ≠ some other → Skips other up s next) ∧
        ∃ filp, action.object = some filp ∧ Touches filp action.waiter s next := by
  obtain ⟨unnamed, result, filp, object⟩ := file_used action done
  have single : ∀ reports, action ≠ .polling reports := by
    intro reports same
    rw [same] at object
    cases object
  have still : ∀ world, action ≠ .loop world := by
    intro world same
    rw [same] at object
    cases object
  obtain ⟨exact, becomes⟩ := act_spec s next action looped.exact proper.1 proper.2 result single
  exact ⟨exact, fun other => (becomes other).watched (looped.watched other),
    fun other apart => skips_act other up action single still apart result,
    filp, object, act_touches action filp object looped.exact proper.1 proper.2 result⟩

theorem Looped.act (looped : Looped up s) (use : EpollUse L T W P F) (proper : use.Proper up s)
    (done : epollUse s use = some next) : Looped up next := by
  cases use with
  | loop use =>
      obtain ⟨unnamed, world, used, uncalled, same⟩ := loop_used use done
      obtain ⟨live, goes, holder⟩ := proper
      obtain ⟨v, h⟩ := looped.refined
      have home := looped.home
      have poll := h.spared_use use live used s.backend.pollTask home looped.unparked unnamed
        (fun _ => home ▸ uncalled)
      subst same
      have still : Still s { s with world := world } :=
        still_world s world (step_own s.world world (useLoop_step use live used) _) (holder world used)
      exact looped.keep (refines_step _ _ (useLoop_step use live used) v h) (looped.exact.same _ ⟨still, rfl⟩)
        looped.watched (useLoop_stops use used up goes) rfl poll.1 looped.own
  | file action =>
      obtain ⟨exact, watched, skips, filp, _, touches⟩ := looped.file action proper done
      have unnamed := (file_used action done).1
      have poll := skips s.backend.pollTask unnamed
      apply looped.keep (poll.refined looped.refined) exact watched poll.stop poll.pollTask poll.task
      exact fun other side slot => looped.own other side (touches.slot _ unnamed other side slot)
  | polling reports =>
      obtain ⟨exact, watched, slots, called, served, polls⟩ := looped.polls proper.1 proper.2 done
      obtain ⟨_, released, _, still, rested, place⟩ := polls.poll looped
      obtain ⟨v, h⟩ := released
      have linked := txPollActive_own served.release.world s.backend.pollTask
      have stop := txPollActive_stops served.release.world s.backend.pollTask up
      have returned := spares_return s.backend.pollTask up up (txPollActive served.release.world s.backend.pollTask)
      rw [← polls.world] at returned
      constructor
      · exact returned.refined (h.pollActive s.backend.pollTask)
      · exact exact
      · exact watched
      · rw [returned.stop, stop, still]
      · rw [Poller.up, polls.kept, returned.task, linked.1, place]
      · rw [polls.kept, returned.task, linked.2, h.idle_pending _ rested]
      · intro filp side slot
        rw [polls.kept] at slot
        exact looped.own filp side (slots filp side _ slot)

theorem Awaited.loop (awaited : Awaited up filp side task told calls s) (use : LoopUse L T W P F)
    (proper : (EpollUse.loop use).Proper up s) (unnamed : use.about ≠ some task)
    (done : epollUse s (.loop use) = some next) : Awaited up filp side task told calls next := by
  have looped := awaited.toLooped.act (.loop use) proper done
  obtain ⟨spared, world, used, uncalled, same⟩ := loop_used use done
  obtain ⟨v, h⟩ := awaited.refined
  have home := awaited.home
  have poll := h.spared_use use proper.1 used s.backend.pollTask home awaited.unparked spared
    (fun _ => home ▸ uncalled)
  subst same
  by_cases called : use = .test up ∧ inCall world up task = true
  · have passed : passTest s.world up = some world := by
      rw [called.1] at used
      exact used
    refine ⟨looped, awaited.alive, awaited.only, awaited.apart, ?_, awaited.call world passed called.2⟩
    exact (passTest_call s.world world up task passed called.2).2.1.trans awaited.task_home
  · have own := h.spared_use use proper.1 used task awaited.task_home awaited.unparked_task unnamed
      (fun same => by
        rw [Bool.eq_false_iff]
        exact fun calls => called ⟨same, calls⟩)
    refine ⟨looped, awaited.alive, awaited.only, awaited.apart, ?_, ?_⟩
    · exact (congrArg TxTask.txLoop own.1).trans awaited.task_home
    · exact awaited.notice.keep rfl rfl looped.refined own.1 own.2 poll.2

theorem Awaited.file (awaited : Awaited up filp side task told calls s)
    (action : PollAction L T W P F (EpollReport F)) (proper : (EpollUse.file action).Proper up s)
    (elsewhere : action.object ≠ some filp) (unnamed : action.waiter ≠ some task)
    (done : epollUse s (.file action) = some next) : Awaited up filp side task told calls next := by
  have looped := awaited.toLooped.act (.file action) proper done
  obtain ⟨_, _, skips, named, object, touches⟩ := awaited.toLooped.file action proper done
  have own := skips task unnamed
  have poll := skips s.backend.pollTask (file_used action done).1
  have other : filp ≠ named := fun same => elsewhere (same ▸ object)
  have file := touches.others filp other
  constructor
  · exact looped
  · rw [file, awaited.alive]
  · exact fun other which slot => awaited.only other which (touches.slot task unnamed other which slot)
  · rw [own.pollTask]
    exact awaited.apart
  · rw [own.task, awaited.task_home]
  · exact awaited.notice.keep own.pollTask (by rw [file]) looped.refined own.task own.unmoved poll.unmoved

theorem Awaited.polling (awaited : Awaited up filp side task told calls s) (reports : List (EpollReport F))
    (proper : (EpollUse.polling reports).Proper up s) (done : epollUse s (.polling reports) = some next) :
    Awaited up filp side task (told ∨ (EpollUse.polling reports : EpollUse L T W P F).Tells filp side) calls
      next := by
  have looped := awaited.toLooped.act (.polling reports) proper done
  obtain ⟨_, _, slots, called, served, polls⟩ := awaited.toLooped.polls proper.1 proper.2 done
  have apart := awaited.apart
  obtain ⟨live, clears, leaves⟩ := polls.file filp side
  have rest (moved : (next.world.task task).txLoop = up ∧ Notice up filp side task
      (told ∨ (EpollUse.polling reports : EpollUse L T W P F).Tells filp side) calls next) :
      Awaited up filp side task (told ∨ (EpollUse.polling reports : EpollUse L T W P F).Tells filp side) calls
        next := by
    refine ⟨looped, live.trans awaited.alive, ?_, ?_, moved.1, moved.2⟩
    · exact fun other which slot => awaited.only other which (slots other which task slot)
    · rw [polls.kept]
      exact apart
  apply rest
  cases awaited.notice with
  | waits untold slot idle before =>
      by_cases tells : (EpollUse.polling reports : EpollUse L T W P F).Tells filp side
      · have member := woken_tells reports slot tells
        obtain ⟨busy, own, unmoved, ahead⟩ := polls.woken awaited.toLooped apart awaited.task_home idle member
        have history : next.world.history = (txPollActive served.release.world s.backend.pollTask).history := by
          rw [polls.world]
          rfl
        refine ⟨own, .queued (Or.inr tells) (clears tells) busy ?_ (unmoved.served.trans before)⟩
        rw [polls.kept]
        exact ahead.unmoved looped.refined (unmoved_same history) (unmoved_same history)
      · obtain ⟨same, unmoved⟩ := polls.spared apart (fun woken => tells (awaited.heard reports woken).2)
        exact ⟨by rw [same, awaited.task_home], .waits (not_or.mpr ⟨untold, tells⟩)
          ((leaves tells).trans slot) (by rw [same, idle]) (unmoved.served.trans before)⟩
  | queued _ _ _ ahead _ =>
      -- the loop would call the poller before the task
      exact absurd polls.calls (by simp [ahead.uncalled polls.passed])
  | called before empty idle once =>
      obtain ⟨same, unmoved⟩ := polls.spared apart (fun woken => by
        have slot := (awaited.heard reports woken).1
        rw [empty] at slot
        cases slot)
      have still : (next.filp filp).txFilter side = none := by
        by_cases tells : (EpollUse.polling reports : EpollUse L T W P F).Tells filp side
        · exact clears tells
        · exact (leaves tells).trans empty
      exact ⟨by rw [same, awaited.task_home], .called (Or.inl before) still (by rw [same, idle])
        (unmoved.served.trans once)⟩

theorem Awaited.act (awaited : Awaited up filp side task told calls s) (use : EpollUse L T W P F)
    (proper : use.Proper up s) (avoids : use.Avoids filp task) (done : epollUse s use = some next) :
    Awaited up filp side task (told ∨ use.Tells filp side) calls next := by
  cases use with
  | loop use =>
      have moved := awaited.loop use proper avoids done
      exact { moved with notice := moved.notice.same (or_false told).symm.to_iff }
  | file action =>
      have moved := awaited.file action proper avoids.1 avoids.2 done
      exact { moved with notice := moved.notice.same (or_false told).symm.to_iff }
  | polling reports => exact awaited.polling reports proper done

end Steps

variable [DecidableEq L] [DecidableEq W]

section

variable [DecidableEq P] [DecidableEq F]

/-- What a run from `s` to `last` that leaves a waiter alone does with it: the task is called once at
most, and not before its direction is reported; until then it is in its slot and the kernel has the
direction armed. After a report the task has been called, or the poller cannot be polled before it. -/
structure Notified (up : L) (filp : F) (side : Side) (task : T) (told : Prop) (s last : EpollPoller L T W P F) :
    Prop where
  once : Rounds.served task (last.world.history up) ≤ Rounds.served task (s.world.history up) + 1
  waits : ¬ told → Rounds.served task (last.world.history up) = Rounds.served task (s.world.history up) ∧
    (last.filp filp).txFilter side = some task ∧
      ∃ registration, last.backend.kernel (last.filp filp).txFd = some registration ∧
        registration.event.ptr = filp ∧ registration.armed side = true
  called : told → (last.filp filp).txFilter side = none ∧
    (Rounds.served task (last.world.history up) = Rounds.served task (s.world.history up) + 1 ∨
      (last.world.task task).txFlags.busy = true ∧ Holds last.world.heap (.taskq up) (.task task) ∧
        ∀ reports, epollUse last (.polling reports) = none)

end

section Runs

variable {up : L} {filp : F} {side : Side} {task : T} {calls : Nat}

omit [DecidableEq L] [DecidableEq W] in
theorem Looped.armed {s : EpollPoller L T W P F} (looped : Looped up s) (filp : F) (side : Side)
    (live : (s.filp filp).live = true) (waiter : (s.filp filp).txFilter side ≠ none) :
    ∃ registration, s.backend.kernel (s.filp filp).txFd = some registration ∧
      registration.event.ptr = filp ∧ registration.armed side = true := by
  obtain ⟨registration, found, ptr, masks⟩ := looped.exact.masked.armed filp live
  have armed := masks side
  rw [not_false_eq_true, and_true] at armed
  exact ⟨registration, found, ptr, armed.mpr (looped.watched filp live side waiter)⟩

theorem looped_new (world : World L T W P F) (reachable : Reachable world) (up : L)
    (live : (world.loop up).txStop = false) (unheld : (world.loop up).txHolder = none) (poll : T)
    (unlinked : (world.task poll).txFlags.idle = true) (address : P) (filps : F → TxAiocb T)
    (unattached : ∀ filp, (filps filp).live = false)
    (unwaited : ∀ filp side, (filps filp).txFilter side ≠ some poll) :
    Looped up (txEpollInit world filps up address poll) := by
  obtain ⟨v, h⟩ := refines_reachable world reachable
  have inited := h.taskInit poll up unlinked
  have linked := txPollActive_own { world with
    task := Function.update world.task poll (txTaskInit (world.task poll) up) } poll
  have home : (txEpollInit world filps up address poll).up = up := by
    rw [txEpollInit, Poller.up, linked.1]
    simp [txTaskInit]
  have fresh : Fresh (fun _ => none) (txEpollInit world filps up address poll) := by
    refine ⟨unattached, rfl, rfl, ?_⟩
    rw [Poller.holder, home]
    exact ((unheld_poll _ poll).holder up).trans unheld
  constructor
  · exact inited.pollActive poll
  · exact exact_fresh _ fresh
  · intro filp attached
    rw [fresh.unattached filp] at attached
    cases attached
  · exact (txPollActive_stops _ poll up).trans live
  · exact home
  · rw [txEpollInit, linked.2]
    simp [txTaskInit]
  · exact unwaited

theorem test_proper (up other : L) (s : EpollPoller L T W P F) : (EpollUse.loop (.test other)).Proper up s := by
  refine ⟨?_, by simp, ?_⟩
  · intro taskq reason fuel same
    cases same
  · intro next passed
    obtain ⟨firstRun, _, ok⟩ := passTest_ok s.world next other passed
    exact (unheld_test s.world next other firstRun ok).holder s.up

variable [DecidableEq P] [DecidableEq F]

theorem Awaited.run {told : Prop} {s last : EpollPoller L T W P F} (uses : List (EpollUse L T W P F))
    (allowed : Runs.Allowed epollUse (fun s use => use.Proper up s ∧ use.Avoids filp task) s uses)
    (awaited : Awaited up filp side task told calls s) (ended : Runs.run epollUse s uses = some last) :
    Awaited up filp side task (told ∨ ∃ use ∈ uses, use.Tells filp side) calls last := by
  induction uses generalizing s told with
  | nil =>
      injection ended with same
      subst same
      exact { awaited with notice := awaited.notice.same (by simp) }
  | cons use uses ih =>
      obtain ⟨next, first, rest⟩ := (Runs.run_cons s last use uses).mp ended
      have moved := awaited.act use allowed.1.1 allowed.1.2 first
      have later := ih (allowed.2 next first) moved rest
      exact { later with notice := later.notice.same (by simp [or_assoc]) }

theorem Awaited.notified {told : Prop} {s last : EpollPoller L T W P F}
    (awaited : Awaited up filp side task told (Rounds.served task (s.world.history up)) last) :
    Notified up filp side task told s last where
  once := by
    cases awaited.notice with
    | waits _ _ _ served | queued _ _ _ _ served | called _ _ _ served => omega
  waits := by
    intro untold
    cases awaited.notice with
    | waits _ slot _ served =>
        exact ⟨served, slot, awaited.armed filp side awaited.alive (by simp [slot])⟩
    | queued heard _ _ _ _ | called heard _ _ _ => exact absurd heard untold
  called := by
    intro heard
    cases awaited.notice with
    | waits untold _ _ _ => exact absurd heard untold
    | called _ empty _ served => exact ⟨empty, Or.inl served⟩
    | queued _ empty busy ahead _ =>
        obtain ⟨v, h⟩ := awaited.refined
        have claimed := busy
        rw [h.busy task, awaited.task_home] at claimed
        have node := (mem_queueNodes up _ task).mpr ((h.sound up).claimed task claimed)
        refine ⟨empty, Or.inr ⟨busy, (holds_iff _ _ h.linked _ _).mpr node, ?_⟩⟩
        intro reports
        rw [Option.eq_none_iff_forall_ne_some]
        intro next polled
        obtain ⟨called, passed, rest⟩ := Option.bind_eq_some_iff.mp polled
        rw [awaited.home] at passed rest
        rw [ahead.uncalled passed] at rest
        cases rest

theorem waiter_called (world : World L T W P F) (reachable : Reachable world) (up : L)
    (live : (world.loop up).txStop = false) (unheld : (world.loop up).txHolder = none) (poll : T)
    (unlinked : (world.task poll).txFlags.idle = true) (address : P) (filps : F → TxAiocb T)
    (unattached : ∀ filp, (filps filp).live = false)
    (unwaited : ∀ filp side, (filps filp).txFilter side ≠ some poll) (uses more : List (EpollUse L T W P F))
    (proper : Runs.Allowed epollUse (fun s use => use.Proper up s) (txEpollInit world filps up address poll)
      (uses ++ more))
    (s last : EpollPoller L T W P F)
    (reached : Runs.run epollUse (txEpollInit world filps up address poll) uses = some s)
    (filp : F) (side : Side) (task : T) (slot : (s.filp filp).txFilter side = some task)
    (alive : (s.filp filp).live = true)
    (only : ∀ other which, (s.filp other).txFilter which = some task → other = filp ∧ which = side)
    (home : (s.world.task task).txLoop = up) (idle : (s.world.task task).txFlags.idle = true)
    (avoids : ∀ use ∈ more, use.Avoids filp task) (ended : Runs.run epollUse s more = some last) :
    Notified up filp side task (∃ use ∈ more, use.Tells filp side) s last := by
  have looped : Looped up s := by
    apply Runs.keeps_run (fun s use => use.Proper up s) (Looped up) _ _ s uses
      (Runs.allowed_front _ _ uses more proper)
      (looped_new world reachable up live unheld poll unlinked address filps unattached unwaited) reached
    exact fun _ use _ fine looped done => looped.act use fine done
  have apart : task ≠ s.backend.pollTask := fun same => looped.own filp side (same ▸ slot)
  have awaited : Awaited up filp side task False (Rounds.served task (s.world.history up)) s :=
    ⟨looped, alive, only, apart, home, .waits id slot idle rfl⟩
  have fine : Runs.Allowed epollUse (fun s use => use.Proper up s) s more :=
    Runs.allowed_back _ _ s uses more proper reached
  have alone : Runs.Allowed epollUse (fun _ use => use.Avoids filp task) s more :=
    Runs.allowed_every (fun use => use.Avoids filp task) s more avoids
  have after := awaited.run more (Runs.allowed_both _ _ s more fine alone) ended
  exact { after with notice := after.notice.same (false_or _).to_iff }.notified

def readUses : List (EpollUse Unit Bool Unit Unit Unit) :=
  [.file (.init () 3 none), .file (.active .input () (some false) none), .loop (.enter ())]

def readMore : List (EpollUse Unit Bool Unit Unit Unit) :=
  [.polling [⟨3, (), fun side => decide (side = .input), false, false, none⟩], .loop (.test ()), .loop (.test ())]

def readEpoll : EpollPoller Unit Bool Unit Unit Unit :=
  txEpollInit pairStart (fun _ => TxAiocb.fresh (-1)) () () true

def readAfter (uses : List (EpollUse Unit Bool Unit Unit Unit)) : EpollPoller Unit Bool Unit Unit Unit :=
  (Runs.run epollUse readEpoll uses).getD readEpoll

theorem read_uses_allowed :
    Runs.Allowed epollUse (fun s use => use.Proper () s) readEpoll (readUses ++ readMore) := by
  apply Runs.allowed_cons _ _ (readAfter (readUses.take 1))
  · exact ⟨rfl, rfl, fun _ => rfl⟩
  · rfl
  apply Runs.allowed_cons _ _ (readAfter (readUses.take 2))
  · exact ⟨trivial, rfl⟩
  · rfl
  apply Runs.allowed_cons _ _ (readAfter readUses)
  · refine ⟨?_, by simp, ?_⟩
    · intro taskq reason fuel same
      cases same
    · intro next entered
      injection entered with same
      rw [← same]
      rfl
  · rfl
  apply Runs.allowed_cons _ _ (readAfter (readUses ++ readMore.take 1))
  · refine ⟨⟨by decide, by decide, ?_⟩, ?_⟩
    · intro report member
      rw [List.mem_singleton.mp member]
      exact ⟨_, rfl, rfl, .input, rfl⟩
    · intro report member
      rw [List.mem_singleton.mp member]
  · rfl
  apply Runs.allowed_cons _ _ (readAfter (readUses ++ readMore.take 2))
  · exact test_proper () () _
  · rfl
  apply Runs.allowed_cons _ _ (readAfter (readUses ++ readMore))
  · exact test_proper () () _
  · rfl
  trivial

theorem waiter_called_lone : ∃ last, Runs.run epollUse (readAfter readUses) readMore = some last ∧
    Rounds.served false (last.world.history ()) = 1 ∧
      Notified () () .input false (∃ use ∈ readMore, use.Tells () .input) (readAfter readUses) last := by
  refine ⟨readAfter (readUses ++ readMore), rfl, rfl, ?_⟩
  apply waiter_called pairStart ⟨_, _, .refl⟩ () rfl rfl true rfl () (fun _ => TxAiocb.fresh (-1)) (fun _ => rfl)
    (fun _ _ slot => by cases slot) readUses readMore read_uses_allowed (readAfter readUses) _ rfl () .input false
    rfl rfl ?_ rfl rfl ?_ rfl
  · intro other which slot
    cases which with
    | input => exact ⟨rfl, rfl⟩
    | output => cases slot
  · intro use member
    simp only [readMore, List.mem_cons, List.not_mem_nil, or_false] at member
    rcases member with same | same | same
    all_goals
      subst same
      simp [EpollUse.Avoids, LoopUse.about]

end Runs

end Libtx
