import Libtx.Stdio.Frames

namespace Libtx

open Intrusive

variable {L T W P F : Type}

inductive Phase where
  | fresh
  | queued
  | waiting
  | ended
  deriving DecidableEq, Repr

def Stdio.flags (s : Stdio L T W P F) (own : StdioTask L T F) : TaskFlags :=
  (s.poller.world.task own.task).txFlags

def Stdio.slot (s : Stdio L T W P F) (own : StdioTask L T F) : Option T :=
  (s.poller.filp own.file).txFilter .input

variable [DecidableEq F]

def Stdio.At (own : StdioTask L T F) (s : Stdio L T W P F) : Phase → Prop
  | .fresh => s.opened = false ∧ s.ended = false ∧ (s.flags own).idle = true ∧
      (own.program = .txget → s.sent = false)
  | .queued => s.opened = true ∧ s.ended = false ∧ (s.flags own).busy = true ∧
      (s.readable own = true ∨ s.sent = false ∧ (s.poller.filp own.file).live = true)
  | .waiting => s.opened = true ∧ s.ended = false ∧ (s.flags own).idle = true ∧
      s.slot own = some own.task ∧ (s.poller.filp own.file).live = true
  | .ended => s.opened = true ∧ s.ended = true ∧ (s.flags own).idle = true ∧ s.slot own ≠ some own.task

variable [DecidableEq T]

/-- What holds of a reader whatever it is doing. -/
structure Sound (own : StdioTask L T F) (s : Stdio L T W P F) : Prop where
  refined : ∃ v, Refines s.poller.world v
  exact : EpollExact s.poller
  watched : ∀ filp, (s.poller.filp filp).watched
  apart : own.task ≠ s.poller.backend.pollTask
  loop : s.opened = true → (s.poller.world.task own.task).txLoop = own.up
  slots : ∀ filp side, (s.poller.filp filp).txFilter side = some own.task →
    s.opened = true ∧ filp = own.file ∧ side = .input
  unread : s.slot own = some own.task → s.readable own = false
  polled : s.opened = true → (s.poller.filp own.file).txFlags.poll .input = true →
    (s.poller.filp own.file).live = true
  stops : (s.poller.world.loop own.up).txStop = s.ended

structure Attends (own : StdioTask L T F) (s : Stdio L T W P F) : Prop extends Sound own s where
  copied : s.stdout = s.received
  phase : ∃ phase, s.At own phase

section Others

variable {own : StdioTask L T F} {s : Stdio L T W P F}

theorem Sound.skip (sound : Sound own s) (next : EpollPoller L T W P F)
    (skips : Skips own.task own.up s.poller next) (exact : EpollExact next)
    (watched : ∀ filp, (next.filp filp).watched) (file : next.filp own.file = s.poller.filp own.file)
    (slots : ∀ filp side, filp ≠ own.file → (next.filp filp).txFilter side ≠ some own.task) :
    Sound own (s.setPoller next) where
  refined := skips.refined sound.refined
  exact := exact
  watched := watched
  apart := by
    change own.task ≠ next.backend.pollTask
    rw [skips.pollTask]
    exact sound.apart
  loop := by
    change s.opened = true → (next.world.task own.task).txLoop = own.up
    rw [skips.task]
    exact sound.loop
  slots := by
    intro filp side slot
    by_cases same : filp = own.file
    · subst same
      change (next.filp own.file).txFilter side = some own.task at slot
      rw [file] at slot
      exact sound.slots own.file side slot
    · exact absurd slot (slots filp side same)
  unread := by
    simp only [Stdio.slot, Stdio.readable, Stdio.setPoller, file]
    exact sound.unread
  polled := by
    change s.opened = true → (next.filp own.file).txFlags.poll .input = true → (next.filp own.file).live = true
    rw [file]
    exact sound.polled
  stops := by
    change (next.world.loop own.up).txStop = s.ended
    rw [skips.stop]
    exact sound.stops

theorem Attends.skip (attends : Attends own s) (next : EpollPoller L T W P F)
    (skips : Skips own.task own.up s.poller next) (exact : EpollExact next)
    (watched : ∀ filp, (next.filp filp).watched) (file : next.filp own.file = s.poller.filp own.file)
    (slots : ∀ filp side, filp ≠ own.file → (next.filp filp).txFilter side ≠ some own.task) :
    Attends own (s.setPoller next) where
  toSound := attends.toSound.skip next skips exact watched file slots
  copied := attends.copied
  phase := by
    obtain ⟨phase, here⟩ := attends.phase
    refine ⟨phase, ?_⟩
    have flags : (s.setPoller next).flags own = s.flags own := by
      change (next.world.task own.task).txFlags = _
      rw [skips.task]
      rfl
    have slot : (s.setPoller next).slot own = s.slot own := by
      change (next.filp own.file).txFilter .input = _
      rw [file]
      rfl
    have readable : (s.setPoller next).readable own = s.readable own := by
      change (next.filp own.file).txFlags.able .input = _
      rw [file]
      rfl
    have live : ((s.setPoller next).poller.filp own.file).live = (s.poller.filp own.file).live := by
      change (next.filp own.file).live = _
      rw [file]
    cases phase with
    | fresh =>
        simp only [Stdio.At, flags]
        exact here
    | queued =>
        simp only [Stdio.At, flags, readable, live]
        exact here
    | waiting =>
        simp only [Stdio.At, flags, slot, live]
        exact here
    | ended =>
        simp only [Stdio.At, flags, slot]
        exact here

variable [DecidableEq L] [DecidableEq W]

theorem Attends.unparked (attends : Attends own s) : (s.flags own).pending = false := by
  obtain ⟨v, h⟩ := attends.refined
  obtain ⟨phase, here⟩ := attends.phase
  cases phase with
  | fresh => exact h.idle_pending own.task here.2.2.1
  | queued => exact h.busy_pending own.task here.2.2.1
  | waiting => exact h.idle_pending own.task here.2.2.1
  | ended => exact h.idle_pending own.task here.2.2.1

theorem Attends.loopUse (attends : Attends own s) (use : LoopUse L T W P F) (next : World L T W P F)
    (unnamed : use.about ≠ some own.task) (used : useLoop s.poller.world use = some next)
    (uncalled : ∀ up, use = .test up → inCall next up own.task = false) (live : use.Live s.poller.world)
    (goes : use ≠ .stop own.up) (holder : (next.loop s.poller.up).txHolder = s.poller.holder) :
    Attends own (s.setWorld next) := by
  obtain ⟨v, h⟩ := attends.refined
  have spares := spares_use own.task own.up s.poller.world next v h use live used unnamed attends.unparked
    uncalled goes
  have own' : (next.task s.poller.backend.pollTask).txLoop = s.poller.up :=
    step_own s.poller.world next (useLoop_step use live used) _
  have exact := attends.exact.same { s.poller with world := next }
    ⟨still_world s.poller next own' holder, rfl⟩
  have unmoved : Unmoved own.task own.up s.poller.world next :=
    h.unmoved_use use live used unnamed attends.unparked uncalled
  exact attends.skip _ ⟨spares, rfl, unmoved⟩ exact attends.watched rfl
    (fun filp side apart slot => apart (attends.slots filp side slot).2.1)

variable [DecidableEq P]

theorem Attends.action (attends : Attends own s) (action : PollAction L T W P F (EpollReport F))
    (next : EpollPoller L T W P F) (filp : F) (object : action.object = some filp)
    (other : filp ≠ own.file) (unnamed : action.waiter ≠ some own.task)
    (proper : Libtx.Proper Reported s.poller action) (succeeds : Succeeds s.poller action)
    (result : epollAct s.poller action = some next) : Attends own (s.setPoller next) := by
  have single : ∀ reports, action ≠ .polling reports := by
    intro reports same
    rw [same] at object
    cases object
  have still : ∀ world, action ≠ .loop world := by
    intro world same
    rw [same] at object
    cases object
  obtain ⟨exact, becomes⟩ := act_spec s.poller next action attends.exact proper succeeds result single
  have touches := act_touches action filp object attends.exact proper succeeds result
  apply attends.skip next (skips_act own.task own.up action single still unnamed result) exact
  · exact fun filp => (becomes filp).watched (attends.watched filp)
  · exact touches.others own.file (Ne.symm other)
  · intro named side apart slot
    have before := touches.slot own.task unnamed named side slot
    exact apart (attends.slots named side before).2.1

end Others

section Batch

variable {own : StdioTask L T F} {s : Stdio L T W P F}

def StdioTask.toldBy (own : StdioTask L T F) (reports : List (EpollReport F)) : Bool :=
  reports.any (fun report => decide (report.ptr = own.file) && report.tells .input)

omit [DecidableEq T] in
theorem toldBy_iff (own : StdioTask L T F) (reports : List (EpollReport F)) :
    own.toldBy reports = true ↔ ∃ report ∈ reports, report.ptr = own.file ∧ report.tells .input = true := by
  simp [StdioTask.toldBy]

theorem Sound.told (sound : Sound own s) (reports : List (EpollReport F)) :
    own.task ∈ (reports.flatMap (fun report => report.woken (s.poller.filp report.ptr))).map Prod.fst ↔
      s.slot own = some own.task ∧ own.toldBy reports = true := by
  rw [toldBy_iff]
  constructor
  · intro told
    obtain ⟨report, inside, side, tells, held⟩ := woken_slot s.poller reports own.task told
    obtain ⟨_, object, reads⟩ := sound.slots report.ptr side held
    subst reads
    refine ⟨?_, report, inside, object, tells⟩
    rw [Stdio.slot, ← object]
    exact held
  · rintro ⟨slot, report, inside, object, tells⟩
    rw [Stdio.slot, ← object] at slot
    exact List.mem_map.mpr ⟨_, List.mem_flatMap.mpr ⟨report, inside, woken_waiter report _ .input own.task
      tells slot⟩, rfl⟩

structure Reported.File (own : StdioTask L T F) (told : Bool) (s next : Stdio L T W P F) : Prop where
  slot : next.slot own = if told then none else s.slot own
  readable : next.readable own = (s.readable own || told)
  live : (next.poller.filp own.file).live = (s.poller.filp own.file).live
  poll : (next.poller.filp own.file).txFlags.poll .input = true →
    (s.poller.filp own.file).txFlags.poll .input = true

variable [DecidableEq L] [DecidableEq W] [DecidableEq P]

theorem Sound.reported (sound : Sound own s) (reports : List (EpollReport F))
    (fine : Libtx.Reported s.poller reports) (answers : ∀ report ∈ reports, report.answer = none) :
    Reported.File own (own.toldBy reports) s (s.setPoller (txEpollPolling s.poller reports)) := by
  obtain ⟨_, _, hits, misses⟩ := polling_spec s.poller sound.exact reports fine answers
  have once := (sound.exact.polling reports fine.2.1 fine.2.2
    (fun report member => Or.inl (answers report member))).2
  by_cases member : own.file ∈ reports.map EpollReport.ptr
  · obtain ⟨report, inside, object⟩ := List.mem_map.mp member
    have hit := hits report inside
    rw [object] at hit
    have told : own.toldBy reports = report.tells .input := by
      rw [Bool.eq_iff_iff, toldBy_iff]
      constructor
      · rintro ⟨other, among, same, tells⟩
        have equal : other = report := List.inj_on_of_nodup_map once among inside (same.trans object.symm)
        rw [← equal, tells]
      · exact fun tells => ⟨report, inside, object, tells⟩
    rw [told]
    constructor
    · simp only [Stdio.slot, Stdio.setPoller, hit]
      rfl
    · simp only [Stdio.readable, Stdio.setPoller, hit]
      rfl
    · simp only [Stdio.setPoller, hit]
      rfl
    · simp only [Stdio.setPoller, hit]
      intro polls
      exact (Bool.and_eq_true _ _ ▸ polls).1
  · have miss := misses own.file member
    have untold : own.toldBy reports = false := by
      rw [Bool.eq_false_iff, Ne, toldBy_iff]
      rintro ⟨report, inside, object, _⟩
      exact member (List.mem_map.mpr ⟨report, inside, object⟩)
    rw [untold]
    constructor
    · simp [Stdio.slot, Stdio.setPoller, miss]
    · simp [Stdio.readable, Stdio.setPoller, miss]
    · simp only [Stdio.setPoller, miss]
    · simp only [Stdio.setPoller, miss]
      exact id

theorem Sound.world_polling (sound : Sound own s) (reports : List (EpollReport F))
    (fine : Libtx.Reported s.poller reports) (answers : ∀ report ∈ reports, report.answer = none) :
    Spares own.task own.up
        (activated s.poller.world (reports.flatMap (fun report => report.woken (s.poller.filp report.ptr))))
        (txEpollPolling s.poller reports).world ∧
      (txEpollPolling s.poller reports).backend.pollTask = s.poller.backend.pollTask := by
  obtain ⟨served, told, place, same⟩ := batch_served s.poller sound.exact reports fine answers
  have released := spares_release own.task own.up served
  have rest : served.release.backend.pollTask = s.poller.backend.pollTask := (pollTask_release served).trans place
  have apart : own.task ≠ served.release.backend.pollTask := by
    rw [rest]
    exact sound.apart
  rw [told.world] at released
  rw [same]
  exact ⟨released.trans (spares_poll own.task own.up served.release.world _ apart), rest⟩

def Stdio.called (s : Stdio L T W P F) (reports : List (EpollReport F)) : World L T W P F :=
  activated s.poller.world (reports.flatMap (fun report => report.woken (s.poller.filp report.ptr)))

theorem Sound.polling (sound : Sound own s) (reports : List (EpollReport F))
    (fine : Libtx.Reported s.poller reports) (answers : ∀ report ∈ reports, report.answer = none)
    (refined : ∃ v, Refines (s.called reports) v)
    (loop : s.opened = true → ((s.called reports).task own.task).txLoop = own.up)
    (stop : ((s.called reports).loop own.up).txStop = s.ended) :
    Sound own (s.setPoller (txEpollPolling s.poller reports)) := by
  have file := sound.reported reports fine answers
  have slots := slots_polling s.poller sound.exact reports fine answers
  obtain ⟨spares, place⟩ := sound.world_polling reports fine answers
  constructor
  · exact spares.refined refined
  · exact (polling_spec s.poller sound.exact reports fine answers).1
  · exact watched_polling s.poller sound.exact reports fine answers sound.watched
  · exact place ▸ sound.apart
  · intro opened
    change ((txEpollPolling s.poller reports).world.task own.task).txLoop = own.up
    rw [spares.task]
    exact loop opened
  · intro filp side slot
    exact sound.slots filp side (slots filp side own.task slot)
  · rw [file.slot, file.readable]
    cases own.toldBy reports with
    | true => simp
    | false => simpa using sound.unread
  · intro opened polls
    rw [file.live]
    exact sound.polled opened (file.poll polls)
  · exact spares.stop.trans stop

theorem Attends.polling_told (attends : Attends own s) (reports : List (EpollReport F))
    (fine : Libtx.Reported s.poller reports) (answers : ∀ report ∈ reports, report.answer = none)
    (slot : s.slot own = some own.task) (tells : own.toldBy reports = true) :
    Attends own (s.setPoller (txEpollPolling s.poller reports)) := by
  have opened := (attends.slots own.file .input slot).1
  have going : s.ended = false := by
    obtain ⟨phase, here⟩ := attends.phase
    cases phase with
    | fresh => exact here.2.1
    | queued => exact here.2.1
    | waiting => exact here.2.1
    | ended => exact absurd slot here.2.2.2
  have busies : Busies own.task own.up s.poller.world (s.called reports) :=
    busies_activated own.task own.up s.poller.world attends.refined _ (attends.loop opened)
      (attends.stops.trans going) (Or.inl ((attends.toSound.told reports).mpr ⟨slot, tells⟩))
  have file := attends.toSound.reported reports fine answers
  refine ⟨attends.toSound.polling reports fine answers busies.refined ?_ ?_, attends.copied, .queued,
    opened, going, ?_, ?_⟩
  · exact fun _ => busies.loop.trans (attends.loop opened)
  · exact busies.stop.trans attends.stops
  · change ((txEpollPolling s.poller reports).world.task own.task).txFlags.busy = true
    rw [(attends.toSound.world_polling reports fine answers).1.task]
    exact busies.busy
  · rw [file.readable, tells, Bool.or_true]
    exact Or.inl rfl

theorem Attends.polling_untold (attends : Attends own s) (reports : List (EpollReport F))
    (fine : Libtx.Reported s.poller reports) (answers : ∀ report ∈ reports, report.answer = none)
    (untold : ¬ (s.slot own = some own.task ∧ own.toldBy reports = true)) :
    Attends own (s.setPoller (txEpollPolling s.poller reports)) := by
  have spares : Spares own.task own.up s.poller.world (s.called reports) :=
    spares_activated own.task own.up s.poller.world _ (fun told => untold ((attends.toSound.told reports).mp told))
  have file := attends.toSound.reported reports fine answers
  have flags : (s.setPoller (txEpollPolling s.poller reports)).flags own = s.flags own := by
    have later := (attends.toSound.world_polling reports fine answers).1.task
    exact congrArg TxTask.txFlags (later.trans spares.task)
  refine ⟨attends.toSound.polling reports fine answers (spares.refined attends.refined) ?_ ?_,
    attends.copied, ?_⟩
  · intro opened
    rw [spares.task]
    exact attends.loop opened
  · exact spares.stop.trans attends.stops
  · obtain ⟨phase, here⟩ := attends.phase
    refine ⟨phase, ?_⟩
    cases phase with
    | fresh =>
        simp only [Stdio.At, flags]
        exact here
    | queued =>
        simp only [Stdio.At, flags, file.readable, file.live]
        refine ⟨here.1, here.2.1, here.2.2.1, here.2.2.2.imp_left ?_⟩
        intro readable
        rw [readable, Bool.true_or]
    | waiting =>
        have quiet : own.toldBy reports = false := by
          rw [Bool.eq_false_iff]
          exact fun tells => untold ⟨here.2.2.2.1, tells⟩
        simp only [Stdio.At, flags, file.slot, file.live, quiet]
        exact here
    | ended =>
        simp only [Stdio.At, flags, file.slot]
        refine ⟨here.1, here.2.1, here.2.2.1, ?_⟩
        cases own.toldBy reports with
        | true => simp
        | false => exact here.2.2.2

theorem Attends.polling (attends : Attends own s) (reports : List (EpollReport F))
    (fine : Libtx.Reported s.poller reports) (answers : ∀ report ∈ reports, report.answer = none) :
    Attends own (s.setPoller (txEpollPolling s.poller reports)) := by
  by_cases told : s.slot own = some own.task ∧ own.toldBy reports = true
  · exact attends.polling_told reports fine answers told.1 told.2
  · exact attends.polling_untold reports fine answers told

end Batch

end Libtx
