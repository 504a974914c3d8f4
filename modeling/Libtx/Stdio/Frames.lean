import Libtx.Loop.Order
import Libtx.Stdio.Client

namespace Libtx

open Intrusive

variable {L T W P F : Type}

section Operations

variable (task : T) (up : L) (s next : EpollPoller L T W P F)

section

variable [DecidableEq L] [DecidableEq P]

theorem pollTask_hold : s.hold.backend.pollTask = s.backend.pollTask := by
  rw [(hold_frame s).2.1]

theorem pollTask_release : s.release.backend.pollTask = s.backend.pollTask := by
  rw [(release_frame s).2.1]

theorem unmoved_hold : Unmoved task up s.world s.hold.world := by
  unfold Poller.hold
  split
  · exact unmoved_same rfl
  · exact unmoved_same rfl

theorem unmoved_release : Unmoved task up s.world s.release.world := by
  unfold Poller.release
  split
  · exact unmoved_same rfl
  · exact unmoved_same rfl

variable [DecidableEq T] [DecidableEq W]

theorem spares_hold : Spares task up s.world s.hold.world := by
  unfold Poller.hold
  split
  · exact spares_holder task up s.world _ _
  · exact spares_refl task up s.world

theorem spares_release : Spares task up s.world s.release.world := by
  unfold Poller.release
  split
  · exact spares_holder task up s.world _ _
  · exact spares_refl task up s.world

end

variable [DecidableEq T]

/-- The task is spared and keeps its place on the queue, and the poller's own task is the one it
was. -/
structure Skips (spared : T) (up : L) (s next : EpollPoller L T W P F) : Prop extends
    Spares spared up s.world next.world where
  pollTask : next.backend.pollTask = s.backend.pollTask
  unmoved : Unmoved spared up s.world next.world

variable {s next}

theorem skips_same (world : next.world = s.world) (pollTask : next.backend.pollTask = s.backend.pollTask) :
    Skips task up s next where
  toSpares := by
    rw [world]
    exact spares_refl task up s.world
  pollTask := pollTask
  unmoved := unmoved_same (by rw [world])

theorem Skips.trans {mid : EpollPoller L T W P F} {task : T} {up : L} (first : Skips task up s mid)
    (second : Skips task up mid next) : Skips task up s next :=
  ⟨first.toSpares.trans second.toSpares, second.pollTask.trans first.pollTask,
    first.unmoved.trans second.unmoved⟩

theorem Skips.written {mid : EpollPoller L T W P F} {task : T} {up : L} (rest : Skips task up mid next)
    (world : mid.world = s.world) (pollTask : mid.backend.pollTask = s.backend.pollTask) :
    Skips task up s next :=
  (skips_same task up world pollTask).trans rest

section

variable [DecidableEq F]

theorem skips_attach (answer : Option Errno) (filp : F) (s : EpollPoller L T W P F) :
    Skips task up s (txEpollAttach answer s filp) := by
  unfold txEpollAttach
  dsimp only
  split
  · split
    · exact skips_same task up rfl rfl
    · exact skips_same task up rfl rfl
    · exact skips_same task up rfl rfl
  · exact skips_same task up rfl rfl

variable [DecidableEq L] [DecidableEq P]

theorem skips_init (answer : Option Errno) (filp : F) (fd : Int)
    (result : txAiocbInit (epollOps answer) s filp fd = some next) : Skips task up s next := by
  unfold txAiocbInit at result
  dsimp only at result
  split at result
  · injection result with same
    subst same
    exact skips_same task up rfl rfl
  · have attached := skips_attach task up answer filp (s.setFilp filp (fun _ => TxAiocb.fresh fd))
    injection result with same
    subst same
    exact attached.written rfl rfl

end

variable [DecidableEq L] [DecidableEq W] [DecidableEq P]

omit [DecidableEq P] in
theorem skips_activeBy (s : EpollPoller L T W P F) (named : Option T) (filp : F) (apart : named ≠ some task) :
    Skips task up s (taskActiveBy s named filp) where
  toSpares := spares_active task up s.world named (some filp) apart
  pollTask := rfl
  unmoved := by
    cases named with
    | none => exact unmoved_same rfl
    | some named => exact unmoved_active named (some filp) (fun same => apart (same ▸ rfl))

theorem skips_hold (s : EpollPoller L T W P F) : Skips task up s s.hold :=
  ⟨spares_hold task up s, pollTask_hold s, unmoved_hold task up s⟩

theorem skips_release (s : EpollPoller L T W P F) : Skips task up s s.release :=
  ⟨spares_release task up s, pollTask_release s, unmoved_release task up s⟩

variable [DecidableEq F]

theorem skips_txEpollPoll (answer : Option Errno) (side : Side) (filp : F)
    (result : txEpollPoll answer side s filp = some next) : Skips task up s next := by
  unfold txEpollPoll at result
  dsimp only at result
  split at result
  · split at result
    · split at result
      · injection result with same
        subst same
        exact (skips_hold task up _).written rfl rfl
      · injection result with same
        subst same
        exact skips_hold task up s
    · cases result
  · injection result with same
    subst same
    exact skips_hold task up s

theorem skips_txPoll (answer : Option Errno) (side : Side) (filp : F)
    (result : (epollOps answer).txPoll side s filp = some next) : Skips task up s next := by
  rw [epollOps_txPoll] at result
  exact skips_txEpollPoll task up answer side filp result

theorem skips_active (answer : Option Errno) (side : Side) (filp : F) (named : Option T)
    (apart : named ≠ some task) (result : genericActive (epollOps answer) side s filp named = some next) :
    Skips task up s next := by
  unfold genericActive at result
  dsimp only at result
  split at result
  · injection result with same
    subst same
    exact skips_activeBy task up s named filp apart
  · split at result
    · injection result with same
      subst same
      exact skips_same task up rfl rfl
    · exact (skips_txPoll task up answer side filp result).written rfl rfl

theorem skips_fini (answer : Option Errno) (filp : F)
    (result : txAiocbFini (epollOps answer) s filp = some next) : Skips task up s next := by
  unfold txAiocbFini at result
  split at result
  · injection result with same
    subst same
    exact skips_same task up rfl rfl
  · have detached : txEpollDetach answer s filp = next := Option.some.inj result
    have deleted : Skips task up s (txEpollDelete answer s filp) := by
      unfold txEpollDelete
      dsimp only
      split
      · split
        · exact skips_same task up rfl rfl
        · exact skips_same task up rfl rfl
      · exact skips_same task up rfl rfl
    subst detached
    unfold txEpollDetach
    dsimp only
    split
    · exact deleted.trans ((skips_release task up _).written rfl rfl)
    · exact deleted

theorem skips_act (action : PollAction L T W P F (EpollReport F)) (single : ∀ reports, action ≠ .polling reports)
    (still : ∀ world, action ≠ .loop world) (apart : action.waiter ≠ some task)
    (result : epollAct s action = some next) : Skips task up s next := by
  unfold epollAct at result
  cases action with
  | init filp fd answer => exact skips_init task up answer filp fd result
  | listen filp fd answer =>
      obtain ⟨mid, started, same⟩ := Option.map_eq_some_iff.mp result
      subst same
      exact (skips_init task up answer filp fd started).trans (skips_same task up rfl rfl)
  | fini filp answer => exact skips_fini task up answer filp result
  | poll side filp answer =>
      rw [act_poll] at result
      exact skips_txPoll task up answer side filp result
  | active side filp named answer =>
      rw [act_active] at result
      exact skips_active task up answer side filp named apart result
  | cancel side filp verify =>
      rw [act_cancel] at result
      injection result with same
      subst same
      unfold genericCancel
      split
      · exact skips_same task up rfl rfl
      · exact skips_same task up rfl rfl
  | update side filp len errno =>
      rw [act_update] at result
      injection result with same
      subst same
      unfold txUpdate
      split
      · exact skips_same task up rfl rfl
      · split
        · exact skips_same task up rfl rfl
        · exact skips_same task up rfl rfl
  | connect filp error named answer =>
      simp only [Poller.act, txAiocbConnect] at result
      split at result
      · exact (skips_active task up answer .output filp named apart result).written rfl rfl
      · injection result with same
        subst same
        split
        · exact (skips_activeBy task up _ named filp apart).written rfl rfl
        · exact (skips_activeBy task up _ named filp apart).written rfl rfl
  | polling reports => exact absurd rfl (single reports)
  | loop world => exact absurd rfl (still world)

end Operations

section Objects

variable {s next : EpollPoller L T W P F}

/-- One object was written, and its slots hold nothing but what they held or `waiter`. -/
structure Touches (filp : F) (waiter : Option T) (s next : EpollPoller L T W P F) : Prop where
  others : ∀ other, other ≠ filp → next.filp other = s.filp other
  slots : ∀ side, (next.filp filp).txFilter side = (s.filp filp).txFilter side ∨
    (next.filp filp).txFilter side = none ∨ (next.filp filp).txFilter side = waiter

theorem touches_same (filp : F) (waiter : Option T) (same : next.filp = s.filp) :
    Touches filp waiter s next :=
  ⟨fun other _ => congrFun same other, fun side => Or.inl (by rw [same])⟩

variable [DecidableEq F]

theorem Touches.slot {filp : F} {waiter : Option T} (touches : Touches filp waiter s next) (task : T)
    (apart : waiter ≠ some task) (other : F) (side : Side)
    (slot : (next.filp other).txFilter side = some task) : (s.filp other).txFilter side = some task := by
  by_cases same : other = filp
  · subst same
    rcases touches.slots side with kept | cleared | taken
    · exact kept ▸ slot
    · rw [cleared] at slot
      cases slot
    · exact absurd (taken ▸ slot) apart
  · exact touches.others other same ▸ slot

theorem touches_update (filp : F) (waiter : Option T) (file : TxAiocb T)
    (written : next.filp = Function.update s.filp filp file)
    (slots : ∀ side, file.txFilter side = (s.filp filp).txFilter side ∨ file.txFilter side = none ∨
      file.txFilter side = waiter) : Touches filp waiter s next := by
  constructor
  · intro other apart
    rw [written, Function.update_of_ne apart]
  · rw [written, Function.update_self]
    exact slots

theorem await_slots (file : TxAiocb T) (side : Side) (named : Option T) (other : Side) :
    (file.await side named).txFilter other = file.txFilter other ∨
      (file.await side named).txFilter other = none ∨ (file.await side named).txFilter other = named := by
  by_cases same : other = side
  · exact Or.inr (Or.inr (by simp [TxAiocb.await, same]))
  · exact Or.inl (by simp [TxAiocb.await, TxAiocb.arm, same])

variable [DecidableEq L] [DecidableEq T] [DecidableEq W] [DecidableEq P]

theorem act_touches (action : PollAction L T W P F (EpollReport F)) (filp : F)
    (object : action.object = some filp) (exact : EpollExact s) (proper : Proper Reported s action)
    (succeeds : Succeeds s action) (result : epollAct s action = some next) :
    Touches filp action.waiter s next := by
  unfold epollAct at result
  cases action with
  | init named fd answer =>
      obtain ⟨rfl, free⟩ := succeeds
      injection object with same
      subst same
      obtain ⟨_, _, file, written, empty⟩ := exact.init named fd next proper free result
      exact touches_update named _ file written (fun side => Or.inr (Or.inl (empty side)))
  | listen named fd answer =>
      obtain ⟨rfl, free⟩ := succeeds
      injection object with same
      subst same
      obtain ⟨_, _, file, written, empty⟩ := exact.listen named fd next proper free result
      exact touches_update named _ file written (fun side => Or.inr (Or.inl (empty side)))
  | fini named answer =>
      obtain rfl : answer = none := succeeds
      injection object with same
      subst same
      obtain ⟨_, _, same | ⟨file, written, _, slots⟩⟩ := exact.fini named next proper result
      · exact touches_same named _ same
      · exact touches_update named _ file written (fun side => Or.inl (by rw [slots]))
  | poll side named answer =>
      obtain rfl : answer = none := succeeds
      injection object with same
      subst same
      rw [act_poll] at result
      have polled : txEpollPoll none side s named = some next := by
        cases side <;> exact result
      obtain ⟨_, written, _⟩ := exact.poll side named next polled
      exact touches_update named _ _ written (fun _ => Or.inl rfl)
  | active side named waiter answer =>
      obtain rfl : answer = none := succeeds
      injection object with same
      subst same
      rw [act_active] at result
      obtain ⟨_, same | ⟨_, written⟩⟩ := exact.active side named waiter next result
      · exact touches_same named _ same
      · exact touches_update named _ _ written (await_slots _ side waiter)
  | cancel side named verify =>
      injection object with same
      subst same
      rw [act_cancel] at result
      injection result with same
      subst same
      unfold genericCancel
      split
      · apply touches_update named _ _ rfl
        intro other
        by_cases same : other = side
        · exact Or.inr (Or.inl (by simp [same]))
        · exact Or.inl (by simp [same])
      · exact touches_same named _ rfl
  | update side named len errno =>
      injection object with same
      subst same
      rw [act_update] at result
      injection result with same
      subst same
      unfold txUpdate
      split
      · exact touches_same named _ rfl
      · split
        · exact touches_update named _ _ rfl (fun _ => Or.inl rfl)
        · exact touches_same named _ rfl
  | connect named error waiter answer =>
      obtain rfl : answer = none := succeeds
      injection object with same
      subst same
      obtain ⟨_, able, ⟨_, written⟩ | written⟩ := exact.connect named error waiter next result
      · exact touches_update named _ _ written (await_slots ((s.filp named).setAble able) .output waiter)
      · exact touches_update named _ _ written (fun _ => Or.inl rfl)
  | polling reports => cases object
  | loop world => cases object

end Objects

section Batch

theorem woken_slot (s : EpollPoller L T W P F) (reports : List (EpollReport F)) (task : T)
    (told : task ∈ (reports.flatMap (fun report => report.woken (s.filp report.ptr))).map Prod.fst) :
    ∃ report ∈ reports, ∃ side, report.tells side = true ∧ (s.filp report.ptr).txFilter side = some task := by
  obtain ⟨call, member, same⟩ := List.mem_map.mp told
  obtain ⟨report, inside, woken⟩ := List.mem_flatMap.mp member
  obtain ⟨side, _, waiter⟩ := List.mem_flatMap.mp woken
  split at waiter
  · rename_i tells
    obtain ⟨named, held, pair⟩ := List.mem_map.mp waiter
    rw [← pair] at same
    exact ⟨report, inside, side, tells, same ▸ Option.mem_toList.mp held⟩
  · cases waiter

variable [DecidableEq L] [DecidableEq T] [DecidableEq W]

theorem spares_activated (task : T) (up : L) (s : World L T W P F) (calls : List (T × F))
    (absent : task ∉ calls.map Prod.fst) : Spares task up s (activated s calls) := by
  induction calls generalizing s with
  | nil => exact spares_refl task up s
  | cons call rest ih =>
      rw [List.map_cons, List.mem_cons, not_or] at absent
      have first := spares_active task up s (some call.1) (some call.2)
        (fun same => absent.1 (Option.some.inj same).symm)
      exact first.trans (ih (txTaskActive s (some call.1) (some call.2)) absent.2)

theorem busies_activated (task : T) (up : L) (s : World L T W P F) (refined : ∃ v, Refines s v)
    (calls : List (T × F)) (own : (s.task task).txLoop = up) (live : (s.loop up).txStop = false)
    (told : task ∈ calls.map Prod.fst ∨ (s.task task).txFlags.busy = true) :
    Busies task up s (activated s calls) := by
  induction calls generalizing s with
  | nil => exact ⟨refined, told.resolve_left List.not_mem_nil, rfl, rfl⟩
  | cons call rest ih =>
      by_cases same : call.1 = task
      · have first := busies_active s refined task up (some call.2) own live
        have later := ih _ first.refined (first.loop.trans own) (first.stop.trans live) (Or.inr first.busy)
        rw [activated, List.foldl_cons, same, ← activated]
        exact first.trans later
      · have spares := spares_active task up s (some call.1) (some call.2)
          (fun named => same (Option.some.inj named))
        have still : task ∈ rest.map Prod.fst ∨ (s.task task).txFlags.busy = true := by
          rw [List.map_cons, List.mem_cons, or_assoc] at told
          exact told.resolve_left (fun named => same named.symm)
        rw [← spares.task] at own still
        have later := ih _ (spares.refined refined) own (spares.stop.trans live) still
        exact later.after spares

variable [DecidableEq P] [DecidableEq F]

theorem slots_polling (s : EpollPoller L T W P F) (exact : EpollExact s) (reports : List (EpollReport F))
    (fine : Reported s reports) (answers : ∀ report ∈ reports, report.answer = none) (filp : F) (side : Side)
    (task : T) (slot : ((txEpollPolling s reports).filp filp).txFilter side = some task) :
    (s.filp filp).txFilter side = some task := by
  obtain ⟨_, _, hits, misses⟩ := polling_spec s exact reports fine answers
  by_cases member : filp ∈ reports.map EpollReport.ptr
  · obtain ⟨report, inside, object⟩ := List.mem_map.mp member
    rw [← object, hits report inside] at slot
    rw [← object]
    cases tells : report.tells side with
    | true => simp [EpollReport.leaves, tells] at slot
    | false => simpa [EpollReport.leaves, tells] using slot
  · rwa [misses filp member] at slot

theorem batch_served (s : EpollPoller L T W P F) (exact : EpollExact s) (reports : List (EpollReport F))
    (fine : Reported s reports) (answers : ∀ report ∈ reports, report.answer = none) :
    ∃ served, Told s (reports.flatMap (fun report => report.woken (s.filp report.ptr))) served ∧
      served.backend.pollTask = s.backend.pollTask ∧ txEpollPolling s reports = served.release.relink := by
  have once := (exact.polling reports fine.2.1 fine.2.2 (fun report member => Or.inl (answers report member))).2
  have told := batch_told reports (s.setKernel (epollWait s.backend.kernel reports)) once
  exact ⟨_, (told_nil s (s.setKernel (epollWait s.backend.kernel reports)) rfl rfl).trans told,
    pollTask_batch reports (s.setKernel (epollWait s.backend.kernel reports)), rfl⟩

end Batch

end Libtx
