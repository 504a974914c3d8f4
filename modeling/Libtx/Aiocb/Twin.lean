import Libtx.Aiocb.Filters
import Libtx.Aiocb.Waiter
import Libtx.Runs.Simulation

namespace Libtx

open Count

variable {L T W P F K : Type}

/-- What users see of a poller, its address and its own task -/
def Poller.front (s : Poller L T W P F (Backend T P K)) : Poller L T W P F (P × T) :=
  ⟨s.world, s.filp, (s.backend.address, s.backend.pollTask), s.calls⟩

section Place

def frontUp (s : Poller L T W P F (P × T)) : L := (s.world.task s.backend.2).txLoop

variable [DecidableEq L]

def frontHold (busy : Bool) (s : Poller L T W P F (P × T)) : Poller L T W P F (P × T) :=
  if busy = true ∧ (s.world.loop (frontUp s)).txHolder = none then
    { s with world := setHolder s.world (frontUp s) (some s.backend.1) }
  else s

variable [DecidableEq P]

def frontRelease (none : Bool) (s : Poller L T W P F (P × T)) : Poller L T W P F (P × T) :=
  if (s.world.loop (frontUp s)).txHolder = some s.backend.1 ∧ none = true then
    { s with world := setHolder s.world (frontUp s) Option.none }
  else s

theorem hold_front (s : Poller L T W P F (Backend T P K)) :
    s.hold.front = frontHold (decide (0 < s.backend.epollRefcnt)) s.front := by
  by_cases takes : 0 < s.backend.epollRefcnt ∧ s.holder = none
  · rw [Poller.hold, if_pos takes, frontHold, if_pos ⟨decide_eq_true takes.1, takes.2⟩]
    rfl
  · have keeps : ¬ (decide (0 < s.backend.epollRefcnt) = true ∧
        (s.front.world.loop (frontUp s.front)).txHolder = none) :=
      fun both => takes ⟨of_decide_eq_true both.1, both.2⟩
    rw [Poller.hold, if_neg takes, frontHold, if_neg keeps]

theorem release_front (s : Poller L T W P F (Backend T P K)) :
    s.release.front = frontRelease (decide (s.backend.epollRefcnt = 0)) s.front := by
  by_cases gives : s.holder = some s.backend.address ∧ s.backend.epollRefcnt = 0
  · rw [Poller.release, if_pos gives, frontRelease, if_pos ⟨gives.1, decide_eq_true gives.2⟩]
    rfl
  · have keeps : ¬ ((s.front.world.loop (frontUp s.front)).txHolder = some s.front.backend.1 ∧
        decide (s.backend.epollRefcnt = 0) = true) :=
      fun both => gives ⟨both.1, of_decide_eq_true both.2⟩
    rw [Poller.release, if_neg gives, frontRelease, if_neg keeps]

end Place

theorem front_ext (a b : Poller L T W P F (P × T)) (world : a.world = b.world) (filp : a.filp = b.filp)
    (backend : a.backend = b.backend) (calls : a.calls = b.calls) : a = b := by
  obtain ⟨_, _, _, _⟩ := a
  subst world filp backend calls
  rfl

/-- The filters that stand for a report, the writer's first. -/
def EpollReport.filters (report : EpollReport F) : List (KqueueReport F) :=
  ([Side.output, .input].filter report.tells).map (fun side => ⟨report.fd, side, report.ptr⟩)

def PollAction.twin : PollAction L T W P F (EpollReport F) → PollAction L T W P F (KqueueReport F)
  | .init filp fd answer => .init filp fd answer
  | .listen filp fd answer => .listen filp fd answer
  | .fini filp answer => .fini filp answer
  | .poll side filp answer => .poll side filp answer
  | .active side filp task answer => .active side filp task answer
  | .cancel side filp verify => .cancel side filp verify
  | .update side filp len errno => .update side filp len errno
  | .connect filp error task answer => .connect filp error task answer
  | .polling reports => .polling (reports.flatMap EpollReport.filters)
  | .loop world => .loop world

/-- No object is detached with both directions armed, and a report is about directions that are armed
and fits in a batch of the other backend. -/
def Portable (s : EpollPoller L T W P F) : PollAction L T W P F (EpollReport F) → Prop
  | .fini filp _ => ¬ ((s.filp filp).txFlags.poll .input = true ∧ (s.filp filp).txFlags.poll .output = true)
  | .polling reports => (reports.flatMap EpollReport.filters).length ≤ MAX_EVENTS ∧
      ∀ report ∈ reports, ∀ side, report.tells side = true → (s.filp report.ptr).txFlags.poll side = true
  | _ => True

structure Twins (s : EpollPoller L T W P F) (t : KqueuePoller L T W P F) : Prop where
  same : s.front = t.front
  exact : EpollExact s
  twin : KqueueExact t

section Front

variable {s : EpollPoller L T W P F} {t : KqueuePoller L T W P F}

theorem front_filp (same : s.front = t.front) : s.filp = t.filp := congrArg (fun front => front.filp) same

theorem front_core (same : s.front = t.front) : s.core = t.core := by
  funext filp
  rw [Poller.core, Poller.core, front_filp same]

theorem refcnt_iff (objects : s.core = t.core) (exact : EpollExact s) (twin : KqueueExact t) :
    (0 < s.backend.epollRefcnt ↔ 0 < t.backend.epollRefcnt) ∧
      (s.backend.epollRefcnt = 0 ↔ t.backend.epollRefcnt = 0) := by
  have either : (∃ filp, (s.core filp).polled = true) ↔ ∃ key, bit t.core key = true := by
    rw [objects]
    constructor
    · rintro ⟨filp, polled⟩
      rw [Core.polled, Bool.and_eq_true, Bool.or_eq_true] at polled
      rcases polled with ⟨live, read | write⟩
      · exact ⟨(filp, .input), by simp [bit, live, read]⟩
      · exact ⟨(filp, .output), by simp [bit, live, write]⟩
    · rintro ⟨⟨filp, side⟩, on⟩
      rw [bit, Bool.and_eq_true] at on
      refine ⟨filp, ?_⟩
      cases side with
      | input => simp_all [Core.polled]
      | output => simp_all [Core.polled]
  have pos : 0 < s.backend.epollRefcnt ↔ 0 < t.backend.epollRefcnt :=
    exact.held.counts.pos.trans (either.trans twin.held.counts.pos.symm)
  have first := exact.held.counts.nonneg
  have second := twin.held.counts.nonneg
  exact ⟨pos, by omega⟩

section

variable [DecidableEq L] [DecidableEq P]

theorem front_hold (same : s.front = t.front) (exact : EpollExact s.hold) (twin : KqueueExact t.hold) :
    s.hold.front = t.hold.front := by
  have objects : (s.hold).core = (t.hold).core := by rw [core_hold, core_hold, front_core same]
  have counts := (refcnt_iff objects exact twin).1
  rw [(hold_frame s).2.1, (hold_frame t).2.1] at counts
  rw [hold_front, hold_front, same]
  simp only [counts]

theorem front_release (same : s.front = t.front) (exact : EpollExact s.release) (twin : KqueueExact t.release) :
    s.release.front = t.release.front := by
  have objects : (s.release).core = (t.release).core := by rw [core_release, core_release, front_core same]
  have counts := (refcnt_iff objects exact twin).2
  rw [(release_frame s).2.1, (release_frame t).2.1] at counts
  rw [release_front, release_front, same]
  simp only [counts]

end

theorem unshared (same : s.front = t.front) (exact : EpollExact s) (filp : F) (side : Side)
    (live : (s.filp filp).live = true) : ¬ Shared t filp side := by
  rintro ⟨_, other, apart, place, on⟩
  rw [← front_core same] at place on
  rw [bit, Bool.and_eq_true] at on
  obtain ⟨first, found, ptr, _⟩ := exact.masked.armed filp live
  obtain ⟨second, again, owner, _⟩ := exact.masked.armed other on.1
  rw [place, found] at again
  injection again with equal
  exact apart (owner.symm.trans (equal ▸ ptr))

variable [DecidableEq F]

theorem Twins.flags (twins : Twins s t) (filp : F) (change : AioFlags → AioFlags)
    (keeps : ∀ file : TxAiocb T, { file with txFlags := change file.txFlags }.core = file.core) :
    Twins (s.setFlags filp change) (t.setFlags filp change) :=
  ⟨congrArg (fun front => front.setFlags filp change) twins.same,
    twins.exact.same _ (same_setFilp s filp _ (keeps _)), twins.twin.same _ (same_setFilp t filp _ (keeps _))⟩

theorem Twins.update (twins : Twins s t) (side : Side) (filp : F) (len : Int) (errno : Errno) :
    Twins (txUpdate side s filp len errno) (txUpdate side t filp len errno) := by
  refine ⟨?_, twins.exact.same _ (same_update side s filp len errno),
    twins.twin.same _ (same_update side t filp len errno)⟩
  unfold txUpdate
  split
  · exact twins.same
  · split
    · exact congrArg (fun front => front.setAble filp side false) twins.same
    · exact twins.same

theorem attach_front (same : s.front = t.front) (filp : F)
    (apart : (s.filp filp).txFlags.attached = (s.filp filp).txFlags.detached)
    (free : s.backend.kernel (s.filp filp).txFd = none) :
    (txEpollAttach none s filp).front = (txKqueueAttach t filp).front := by
  have file : s.filp filp = t.filp filp := congrFun (front_filp same) filp
  have add := epollCtl_add s.backend.kernel _ ⟨fun _ => false, false, filp⟩ free
  rw [txEpollAttach, txKqueueAttach]
  simp only [← file, apart, if_true, add]
  exact congrArg (fun front => front.setFlags filp
    (fun flags => { flags with detached := false, attached := true })) same

theorem delete_front (twins : Twins s t) (filp : F) (live : (s.filp filp).live = true) :
    (txEpollDelete none s filp).front = (txKqueueDelete none t filp).front := by
  have file : s.filp filp = t.filp filp := congrFun (front_filp twins.same) filp
  obtain ⟨registration, found⟩ := twins.exact.found filp live
  have del := epollCtl_del s.backend.kernel _ ⟨fun _ => false, false, filp⟩ registration found
  rw [kqueue_delete twins.twin filp (file ▸ live), txEpollDelete]
  simp only [live, if_true, del]
  exact congrArg (fun front => front.setFlags filp (fun flags => { flags with detached := true })) twins.same

variable [DecidableEq L] [DecidableEq P]

theorem Twins.init (twins : Twins s t) (filp : F) (fd : Int) (dead : (s.filp filp).live = false)
    (free : fd ≠ -1 → s.backend.kernel fd = none) :
    Option.Rel Twins (txAiocbInit (epollOps none) s filp fd) (txAiocbInit (kqueueOps none) t filp fd) := by
  have also : (t.filp filp).live = false := front_filp twins.same ▸ dead
  have exact (next : EpollPoller L T W P F) (result : txAiocbInit (epollOps none) s filp fd = some next) :=
    (twins.exact.init filp fd next dead free result).1
  have twin (after : KqueuePoller L T W P F) (result : txAiocbInit (kqueueOps none) t filp fd = some after) :=
    twins.twin.init filp fd after also result
  by_cases none : fd = -1
  · have left : txAiocbInit (epollOps .none) s filp fd = some (s.setFilp filp (fun _ => TxAiocb.fresh fd)) :=
      if_pos none
    have right : txAiocbInit (kqueueOps .none) t filp fd = some (t.setFilp filp (fun _ => TxAiocb.fresh fd)) :=
      if_pos none
    have written := congrArg (fun front => front.setFilp filp (fun _ => TxAiocb.fresh fd)) twins.same
    have kept := exact _ left
    have other := twin _ right
    rw [left, right]
    exact .some ⟨written, kept, other⟩
  · have left : txAiocbInit (epollOps .none) s filp fd =
        some (txEpollAttach .none (s.setFilp filp (fun _ => TxAiocb.fresh fd)) filp) := if_neg none
    have right : txAiocbInit (kqueueOps .none) t filp fd =
        some (txKqueueAttach (t.setFilp filp (fun _ => TxAiocb.fresh fd)) filp) := if_neg none
    have kept := exact _ left
    have other := twin _ right
    rw [left, right]
    refine .some ⟨attach_front ?_ filp ?_ ?_, kept, other⟩
    · exact congrArg (fun front => front.setFilp filp (fun _ => TxAiocb.fresh fd)) twins.same
    · simp [Poller.setFilp, TxAiocb.fresh]
    · simpa [Poller.setFilp, TxAiocb.fresh] using free none

theorem Twins.listen (twins : Twins s t) (filp : F) (fd : Int) (dead : (s.filp filp).live = false)
    (free : fd ≠ -1 → s.backend.kernel fd = none) :
    Option.Rel Twins (txListenInit (epollOps none) s filp fd) (txListenInit (kqueueOps none) t filp fd) := by
  have started := twins.init filp fd dead free
  unfold txListenInit
  cases left : txAiocbInit (epollOps none) s filp fd with
  | none =>
      rw [left] at started
      cases right : txAiocbInit (kqueueOps none) t filp fd with
      | none => exact .none
      | some _ =>
          rw [right] at started
          cases started
  | some next =>
      rw [left] at started
      cases right : txAiocbInit (kqueueOps none) t filp fd with
      | none =>
          rw [right] at started
          cases started
      | some after =>
          rw [right] at started
          cases started with
          | some both => exact .some (both.flags filp _ (fun _ => rfl))

theorem Twins.poll (twins : Twins s t) (side : Side) (filp : F) :
    Option.Rel Twins (txEpollPoll none side s filp) (txKqueuePoll none side t filp) := by
  obtain ⟨same, exact, twin⟩ := twins
  have file : s.filp filp = t.filp filp := congrFun (front_filp same) filp
  cases on : (s.filp filp).txFlags.poll side with
  | true =>
      have left : txEpollPoll none side s filp = some s.hold := by simp [txEpollPoll, on]
      have right : txKqueuePoll none side t filp = some t.hold := by simp [txKqueuePoll, ← file, on]
      have alone : ¬ Shared t filp side := fun shared => by simp [Shared, ← file, on] at shared
      have kept := (exact.poll side filp s.hold left).1
      have also := (twin.poll side filp t.hold alone right).1
      rw [left, right]
      exact .some ⟨front_hold same kept also, kept, also⟩
  | false =>
      cases live : (s.filp filp).live with
      | false =>
          have left : txEpollPoll none side s filp = none := by simp [txEpollPoll, on, live]
          have right : txKqueuePoll none side t filp = none := by simp [txKqueuePoll, ← file, on, live]
          rw [left, right]
          exact .none
      | true =>
          obtain ⟨registration, found⟩ := exact.found filp live
          have called := epollCtl_mod s.backend.kernel _
            ⟨Function.update (s.filp filp).txFlags.poll side true, true, filp⟩ registration found
          have left : txEpollPoll none side s filp = some (((s.setKernel (Function.update s.backend.kernel
              (s.filp filp).txFd (some ⟨⟨Function.update (s.filp filp).txFlags.poll side true, true, filp⟩,
                false⟩))).count (if (s.filp filp).txFlags.poll side.other then 0 else 1)).setPoll filp side
                true).hold := by
            rw [txEpollPoll]
            simp only [on, live, if_true, called]
          have right : txKqueuePoll none side t filp = some (((t.setKernel
              (t.backend.kernel.set (s.filp filp).txFd side (some filp))).count 1).setPoll filp side
                true).hold := by
            rw [txKqueuePoll]
            simp only [← file, on, live, if_true, kevent, keventEach]
          have kept := (exact.poll side filp _ left).1
          have also := (twin.poll side filp _ (unshared same exact filp side live) right).1
          rw [left, right]
          refine .some ⟨front_hold ?_ kept also, kept, also⟩
          exact congrArg (fun front => front.setPoll filp side true) same

theorem Twins.fini (twins : Twins s t) (filp : F) (once : (s.filp filp).txFd = -1 ∨ (s.filp filp).live = true)
    (one : ¬ ((s.filp filp).txFlags.poll .input = true ∧ (s.filp filp).txFlags.poll .output = true)) :
    Option.Rel Twins (txAiocbFini (epollOps none) s filp) (txAiocbFini (kqueueOps none) t filp) := by
  have file : s.filp filp = t.filp filp := congrFun (front_filp twins.same) filp
  by_cases none : (s.filp filp).txFd = -1
  · rw [txAiocbFini, txAiocbFini, ← file, if_pos none, if_pos none]
    exact .some twins
  · have live := once.resolve_left none
    have left : txAiocbFini (epollOps .none) s filp = some (txEpollDetach .none s filp) := if_neg none
    have right : txAiocbFini (kqueueOps .none) t filp = some (txKqueueDetach .none t filp) := if_neg (file ▸ none)
    have kept := (twins.exact.fini filp _ once left).1
    have other : KqueueExact (txKqueueDetach .none t filp) := by
      apply (kqueue_fini twins.twin filp _ (file ▸ none) (file ▸ live) right).2.2
      rw [← file, ← Bool.not_eq_true, Bool.and_eq_true]
      exact one
    rw [left, right]
    have gone := delete_front twins filp live
    refine .some ⟨?_, kept, other⟩
    unfold txEpollDetach at kept
    unfold txKqueueDetach at other
    rw [txEpollDetach, txKqueueDetach]
    rw [← file] at other ⊢
    dsimp only at kept other ⊢
    split
    · rename_i any
      rw [if_pos any] at kept other
      exact front_release gone kept other
    · exact gone

variable [DecidableEq T]

omit [DecidableEq L] [DecidableEq P] in
theorem Twins.cancel (twins : Twins s t) (side : Side) (filp : F) (verify : Option T) :
    Twins (genericCancel side s filp verify) (genericCancel side t filp verify) := by
  refine ⟨?_, twins.exact.same _ (same_cancel side s filp verify),
    twins.twin.same _ (same_cancel side t filp verify)⟩
  have file : s.filp filp = t.filp filp := congrFun (front_filp twins.same) filp
  rw [genericCancel, genericCancel, ← file]
  split
  · exact congrArg (fun front => front.setFilter filp side none) twins.same
  · exact twins.same

variable [DecidableEq W]

theorem Twins.active (twins : Twins s t) (side : Side) (filp : F) (task : Option T) :
    Option.Rel Twins (genericActive (epollOps none) side s filp task)
      (genericActive (kqueueOps none) side t filp task) := by
  have file : s.filp filp = t.filp filp := congrFun (front_filp twins.same) filp
  have waiting : Twins (s.setFilter filp side task) (t.setFilter filp side task) :=
    ⟨congrArg (fun front => front.setFilter filp side task) twins.same,
      twins.exact.same _ (same_setFilter s filp side task), twins.twin.same _ (same_setFilter t filp side task)⟩
  cases able : (s.filp filp).txFlags.able side with
  | true =>
      rw [genericActive, genericActive, ← file, able]
      exact .some ⟨congrArg (fun front => taskActiveBy front task filp) twins.same,
        twins.exact.same _ (same_taskActiveBy s task filp), twins.twin.same _ (same_taskActiveBy t task filp)⟩
  | false =>
      cases on : (s.filp filp).txFlags.poll side with
      | true =>
          simp only [genericActive, ← file, able, on, if_true, Bool.false_eq_true, if_false]
          exact .some waiting
      | false =>
          rw [active_arms (epollOps none) side s filp task able on,
            active_arms (kqueueOps none) side t filp task (file ▸ able) (file ▸ on), epollOps_txPoll,
            kqueueOps_txPoll]
          exact waiting.poll side filp

theorem Twins.connect (twins : Twins s t) (filp : F) (error : Option Errno) (task : Option T) :
    Option.Rel Twins (txAiocbConnect (epollOps none) s filp error task)
      (txAiocbConnect (kqueueOps none) t filp error task) := by
  unfold txAiocbConnect
  split
  · exact (twins.flags filp _ (fun _ => rfl)).active .output filp task
  · have written := twins.flags filp
      (fun flags => { flags with able := Function.update flags.able .output true }) (fun _ => rfl)
    have read := written.flags filp
      (fun flags => { flags with able := Function.update flags.able .input true }) (fun _ => rfl)
    have told {s : EpollPoller L T W P F} {t : KqueuePoller L T W P F} (twins : Twins s t) :
        Twins (taskActiveBy s task filp) (taskActiveBy t task filp) :=
      ⟨congrArg (fun front => taskActiveBy front task filp) twins.same,
        twins.exact.same _ (same_taskActiveBy s task filp), twins.twin.same _ (same_taskActiveBy t task filp)⟩
    split
    · exact .some (told written)
    · exact .some (told read)

end Front

section Batch

variable {s : EpollPoller L T W P F} {t : KqueuePoller L T W P F}

theorem leaves_serves (report : EpollReport F) (file : TxAiocb T) :
    (if report.tells .input then (if report.tells .output then file.serve .output else file).serve .input
      else if report.tells .output then file.serve .output else file) = report.leaves file := by
  have plain := leaves_events ⟨report.fd, report.ptr, report.tells, false, false, none⟩ file
    (fun side => by simp [EpollReport.tells])
  rw [plain]
  simp [EpollReport.leaves, EpollReport.tells]

theorem same_symm {K : Type} {s next : Poller L T W P F (Backend T P K)} (same : Same s next) : Same next s :=
  ⟨⟨same.backend.symm, same.up.symm, same.holder.symm⟩, same.core.symm⟩

theorem nodup_filters (reports : List (EpollReport F)) (once : (reports.map EpollReport.fd).Nodup) :
    ((reports.flatMap EpollReport.filters).map (fun report => (report.fd, report.filter))).Nodup := by
  rw [List.map_flatMap, List.nodup_flatMap]
  constructor
  · intro report _
    have same : report.filters.map (fun filter => (filter.fd, filter.filter)) =
        ([Side.output, .input].filter report.tells).map (fun side => (report.fd, side)) := by
      simp [EpollReport.filters, List.map_map, Function.comp_def]
    rw [same]
    apply List.Nodup.map
    · intro left right equal
      injection equal
    · exact List.Nodup.filter _ (by decide)
  · rw [List.Nodup, List.pairwise_map] at once
    apply once.imp
    intro left right apart key first second
    obtain ⟨one, member, place⟩ := List.mem_map.mp first
    obtain ⟨two, inside, again⟩ := List.mem_map.mp second
    obtain ⟨_, _, rfl⟩ := List.mem_map.mp member
    obtain ⟨_, _, rfl⟩ := List.mem_map.mp inside
    rw [← again] at place
    injection place with equal
    exact apart equal

theorem Twins.filed (twins : Twins s t) (reports : List (EpollReport F)) (reported : Reported s reports)
    (portable : Portable s (.polling reports)) : Filed t (reports.flatMap EpollReport.filters) := by
  refine ⟨portable.1, nodup_filters reports reported.2.1, ?_⟩
  intro filter member
  obtain ⟨report, inside, stands⟩ := List.mem_flatMap.mp member
  obtain ⟨side, told, rfl⟩ := List.mem_map.mp stands
  obtain ⟨registration, found, ptr, _⟩ := reported.2.2 report inside
  obtain ⟨live, place⟩ := twins.exact.masked.registered report.fd registration found
  rw [ptr] at live place
  have on := portable.2 report inside side (List.mem_filter.mp told).2
  apply (twins.twin.filtered report.fd side report.ptr).mpr
  rw [← front_core twins.same]
  refine ⟨place, ?_, not_false⟩
  rw [bit, live, Bool.true_and]
  exact on

variable [DecidableEq L] [DecidableEq T] [DecidableEq W] [DecidableEq F]

theorem filter_spec (t : KqueuePoller L T W P F) (report : KqueueReport F) :
    (txKqueuePollingOne t report).filp =
        Function.update t.filp report.udata ((t.filp report.udata).serve report.filter) ∧
      Told t (((t.filp report.udata).txFilter report.filter).toList.map (fun task => (task, report.udata)))
        (txKqueuePollingOne t report) ∧
      (txKqueuePollingOne t report).front.backend = t.front.backend := by
  refine ⟨?_, ⟨(told_taskActiveBy t _ report.udata).world, rfl⟩, rfl⟩
  simp [txKqueuePollingOne, taskActiveBy, Poller.setFilter, Poller.setAble, Poller.setPoll, Poller.setFlags,
    Poller.setFilp, Poller.count, TxAiocb.serve]

theorem filters_spec (t : KqueuePoller L T W P F) (report : EpollReport F) :
    (report.filters.foldl txKqueuePollingOne t).filp =
        Function.update t.filp report.ptr (report.leaves (t.filp report.ptr)) ∧
      Told t (report.woken (t.filp report.ptr)) (report.filters.foldl txKqueuePollingOne t) ∧
      (report.filters.foldl txKqueuePollingOne t).front.backend = t.front.backend := by
  rw [woken_eq, ← leaves_serves report (t.filp report.ptr)]
  have write := filter_spec t ⟨report.fd, .output, report.ptr⟩
  have read := filter_spec t ⟨report.fd, .input, report.ptr⟩
  have both := filter_spec (txKqueuePollingOne t ⟨report.fd, .output, report.ptr⟩) ⟨report.fd, .input, report.ptr⟩
  cases output : report.tells .output with
  | false =>
      cases input : report.tells .input with
      | false =>
          have none : report.filters = [] := by simp [EpollReport.filters, output, input]
          rw [none]
          exact ⟨by simp, told_nil t t rfl rfl, rfl⟩
      | true =>
          have one : report.filters = [⟨report.fd, .input, report.ptr⟩] := by
            simp [EpollReport.filters, output, input]
          rw [one]
          simpa using read
  | true =>
      cases input : report.tells .input with
      | false =>
          have one : report.filters = [⟨report.fd, .output, report.ptr⟩] := by
            simp [EpollReport.filters, output, input]
          rw [one]
          simpa using write
      | true =>
          have two : report.filters = [⟨report.fd, .output, report.ptr⟩, ⟨report.fd, .input, report.ptr⟩] := by
            simp [EpollReport.filters, output, input]
          rw [two]
          obtain ⟨filp, told, place⟩ := both
          rw [write.1] at filp told
          refine ⟨?_, ?_, place.trans write.2.2⟩
          · simpa using filp
          · have served := write.2.1.trans told
            simpa [TxAiocb.serve] using served

theorem one_front (same : s.front = t.front) (report : EpollReport F) :
    (txEpollPollingOne s report).front = (report.filters.foldl txKqueuePollingOne t).front := by
  obtain ⟨filp, told, _, _, address⟩ := one_spec s report
  obtain ⟨also, calls, place⟩ := filters_spec t report
  have file : s.filp = t.filp := front_filp same
  have world : s.world = t.world := congrArg (fun front => front.world) same
  apply front_ext
  · change (txEpollPollingOne s report).world = (report.filters.foldl txKqueuePollingOne t).world
    rw [told.world, calls.world, file, world]
  · change (txEpollPollingOne s report).filp = (report.filters.foldl txKqueuePollingOne t).filp
    rw [filp, also, file]
  · rw [place, ← same]
    exact Prod.ext address (pollTask_one s report)
  · change (txEpollPollingOne s report).calls = (report.filters.foldl txKqueuePollingOne t).calls
    rw [told.calls, calls.calls, file]
    exact congrArg (fun front => front.calls ++ _) same

theorem batch_front (same : s.front = t.front) (reports : List (EpollReport F)) :
    (reports.foldl txEpollPollingOne s).front =
      ((reports.flatMap EpollReport.filters).foldl txKqueuePollingOne t).front := by
  induction reports generalizing s t with
  | nil => exact same
  | cons report rest ih =>
      rw [List.foldl_cons, List.flatMap_cons, List.foldl_append]
      exact ih (one_front same report)

variable [DecidableEq P]

theorem Twins.polling (twins : Twins s t) (reports : List (EpollReport F)) (reported : Reported s reports)
    (answers : ∀ report ∈ reports, report.answer = none) (portable : Portable s (.polling reports)) :
    Twins (txEpollPolling s reports) (txKqueuePolling t (reports.flatMap EpollReport.filters)) := by
  have kept := (polling_spec s twins.exact reports reported answers).1
  have other := twins.twin.polling _ (twins.filed reports reported portable)
  refine ⟨?_, kept, other⟩
  have served := batch_front (s := s.setKernel (epollWait s.backend.kernel reports))
    (t := t.setKernel (kqueueWait t.backend.kernel (reports.flatMap EpollReport.filters))) twins.same reports
  unfold txEpollPolling at kept
  unfold txKqueuePolling at other
  dsimp only at kept other
  have released := front_release served (kept.same _ (same_symm (same_relink _)))
    (other.same _ (same_symm (same_relink _)))
  exact congrArg (fun front => ({ front with
    world := txPollActive front.world front.backend.2 } : Poller L T W P F (P × T))) released

end Batch

section Run

variable {s : EpollPoller L T W P F} {t : KqueuePoller L T W P F}

theorem kqueue_exact_fresh (start : KqueuePoller L T W P F) (fresh : Fresh (fun _ _ => none) start) :
    KqueueExact start := by
  have empty : ∀ key, bit start.core key = false := by
    intro key
    have dead : (start.core key.1).live = false := fresh.unattached key.1
    simp [bit, dead]
  refine ⟨?_, ?_, ?_⟩
  · intro fd side filp
    rw [fresh.kernel]
    simp [empty]
  · rw [fresh.refcnt]
    exact counts_none (fun key => by simp [empty key])
  · rw [fresh.refcnt, fresh.holder]
    rfl

variable [DecidableEq L] [DecidableEq T] [DecidableEq W]

theorem Twins.loop (twins : Twins s t) (world : World L T W P F) (step : Step s.world world)
    (holder : (world.loop s.up).txHolder = s.holder) :
    Twins { s with world := world } { t with world := world } := by
  have before : s.world = t.world := congrArg (fun front => front.world) twins.same
  have pollTask : s.backend.pollTask = t.backend.pollTask := congrArg (fun front => front.backend.2) twins.same
  have up : s.up = t.up := by rw [Poller.up, Poller.up, before, pollTask]
  have own : (world.task s.backend.pollTask).txLoop = s.up := step_own s.world world step _
  have left := still_world s world own holder
  have right := still_world t world (by rw [← pollTask, own, up]) (by
    rw [← up, holder, Poller.holder, Poller.holder, before, up])
  exact ⟨congrArg (fun front => ({ front with world := world } : Poller L T W P F (P × T))) twins.same,
    twins.exact.same _ ⟨left, rfl⟩, twins.twin.same _ ⟨right, rfl⟩⟩

variable [DecidableEq P] [DecidableEq F]

theorem Twins.act (twins : Twins s t) (action : PollAction L T W P F (EpollReport F))
    (proper : Proper Reported s action) (succeeds : Succeeds s action) (portable : Portable s action) :
    Option.Rel Twins (epollAct s action) (kqueueAct t action.twin) := by
  unfold epollAct kqueueAct
  cases action with
  | init filp fd answer =>
      obtain ⟨rfl, free⟩ := succeeds
      exact twins.init filp fd proper free
  | listen filp fd answer =>
      obtain ⟨rfl, free⟩ := succeeds
      exact twins.listen filp fd proper free
  | fini filp answer =>
      obtain rfl : answer = none := succeeds
      exact twins.fini filp proper portable
  | poll side filp answer =>
      obtain rfl : answer = none := succeeds
      rw [PollAction.twin, act_poll, act_poll, epollOps_txPoll, kqueueOps_txPoll]
      exact twins.poll side filp
  | active side filp task answer =>
      obtain rfl : answer = none := succeeds
      rw [PollAction.twin, act_active, act_active]
      exact twins.active side filp task
  | cancel side filp verify =>
      rw [PollAction.twin, act_cancel, act_cancel]
      exact .some (twins.cancel side filp verify)
  | update side filp len errno =>
      rw [PollAction.twin, act_update, act_update]
      exact .some (twins.update side filp len errno)
  | connect filp error task answer =>
      obtain rfl : answer = none := succeeds
      exact twins.connect filp error task
  | polling reports => exact .some (twins.polling reports proper succeeds portable)
  | loop world => exact .some (twins.loop world proper.1 proper.2)

/-- Whatever is done with a poller, the loop, its tasks, the objects and the activations of waiters come
out the same on an epoll and on a kqueue. -/
theorem backends_agree (start : EpollPoller L T W P F) (twin : KqueuePoller L T W P F)
    (fresh : Fresh (fun _ => none) start) (also : Fresh (fun _ _ => none) twin) (same : start.front = twin.front)
    (actions : List (PollAction L T W P F (EpollReport F)))
    (allowed : Runs.Allowed epollAct
      (fun s action => Proper Reported s action ∧ Succeeds s action ∧ Portable s action) start actions) :
    Option.Rel (fun s t => s.world = t.world ∧ s.filp = t.filp ∧ s.calls = t.calls)
      (Runs.run epollAct start actions) (Runs.run kqueueAct twin (actions.map PollAction.twin)) := by
  have related := Runs.related_run Twins _ PollAction.twin
    (fun s t action fine twins => twins.act action fine.1 fine.2.1 fine.2.2) start twin actions allowed
    ⟨same, exact_fresh start fresh, kqueue_exact_fresh twin also⟩
  revert related
  generalize Runs.run epollAct start actions = left
  generalize Runs.run kqueueAct twin (actions.map PollAction.twin) = right
  intro related
  cases related with
  | none => exact .none
  | some twins =>
      exact .some ⟨congrArg (fun front => front.world) twins.same, front_filp twins.same,
        congrArg (fun front => front.calls) twins.same⟩

def loneReported : List (PollAction Unit Bool Unit Unit Unit (EpollReport Unit)) :=
  [.init () 3 none, .active .input () (some false) none, .poll .output () none,
    .polling [⟨3, (), fun side => decide (side = .input), false, false, none⟩]]

theorem backends_agree_lone :
    Option.Rel (fun (s : EpollPoller Unit Bool Unit Unit Unit) (t : KqueuePoller Unit Bool Unit Unit Unit) =>
        s.world = t.world ∧ s.filp = t.filp ∧ s.calls = t.calls)
      (Runs.run epollAct loneEpoll loneReported)
      (Runs.run kqueueAct loneKqueue (loneReported.map PollAction.twin)) ∧
    ((Runs.run epollAct loneEpoll loneReported).map (fun s => s.calls)) = some [(false, ())] := by
  refine ⟨backends_agree loneEpoll loneKqueue (fresh_lone _) (fresh_lone _) rfl loneReported ?_, rfl⟩
  refine ⟨⟨rfl, ⟨rfl, fun _ => rfl⟩, trivial⟩, fun _ first => ⟨⟨trivial, rfl, trivial⟩, fun _ second =>
    ⟨⟨trivial, rfl, trivial⟩, fun _ third =>
      ⟨⟨⟨by decide, by decide, ?_⟩, ?_, by decide, ?_⟩, fun _ _ => trivial⟩⟩⟩⟩
  all_goals
    cases first
    cases second
    cases third
    intro report member
    rw [List.mem_singleton.mp member]
  · exact ⟨_, rfl, rfl, .input, rfl⟩
  · intro side told
    cases side with
    | input => rfl
    | output => cases told

end Run

end Libtx
