import Libtx.Aiocb.Report
import Libtx.Aiocb.Generic

namespace Libtx

open Count

variable {L T W P F : Type}

structure EpollExact (s : EpollPoller L T W P F) : Prop where
  masked : Masked (fun _ => False) s.core s.backend.kernel
  held : Held (fun filp => (s.core filp).polled = true) s.backend.epollRefcnt s.backend.address s.holder

section Operations

variable {s : EpollPoller L T W P F}

theorem EpollExact.same (exact : EpollExact s) (next : EpollPoller L T W P F) (same : Same s next) :
    EpollExact next := by
  constructor
  · rw [same.core, same.backend]
    exact exact.masked
  · rw [same.core, same.backend, same.holder]
    exact exact.held

theorem EpollExact.found (exact : EpollExact s) (filp : F) (live : (s.filp filp).live = true) :
    ∃ registration, s.backend.kernel (s.filp filp).txFd = some registration := by
  obtain ⟨registration, found, _⟩ := exact.masked.armed filp live
  exact ⟨registration, found⟩

theorem dead_polled (file : TxAiocb T) (dead : file.live = false) : file.core.polled = false := by
  simp [Core.polled, TxAiocb.core, dead]

variable [DecidableEq F]

theorem EpollExact.rewrite (exact : EpollExact s) (filp : F) (file : TxAiocb T)
    (dead : (s.filp filp).live = false) (unpolled : file.core.polled = false)
    (next : EpollPoller L T W P F) (written : next.filp = Function.update s.filp filp file)
    (masked : Masked (fun _ => False) (Function.update s.core filp file.core) next.backend.kernel)
    (refcnt : next.backend.epollRefcnt = s.backend.epollRefcnt)
    (address : next.backend.address = s.backend.address) (holder : next.holder = s.holder) :
    EpollExact next := by
  have core := core_update s next filp file written
  have counts := counts_core s.core filp file.core _ exact.held.counts
  have before : (s.core filp).polled = false := dead_polled (s.filp filp) dead
  rw [before, unpolled] at counts
  refine ⟨core ▸ masked, ?_, ?_⟩
  · rw [core, refcnt]
    simpa using counts
  · rw [holder, refcnt, address]
    exact exact.held.holder

variable [DecidableEq L] [DecidableEq P]

omit [DecidableEq F] in
theorem exact_hold (p : F → Prop) (n : Int) (held : Held p n s.backend.address s.holder)
    (masked : Masked (fun _ => False) s.core s.backend.kernel)
    (counts : Counts (fun filp => (s.core filp).polled = true) s.backend.epollRefcnt)
    (more : ∀ filp, p filp → (s.core filp).polled = true) : EpollExact s.hold := by
  constructor
  · rw [core_hold, (hold_frame s).2.1]
    exact masked
  · rw [core_hold]
    exact held_hold s held counts more

omit [DecidableEq F] in
theorem exact_release (p : F → Prop) (n : Int) (held : Held p n s.backend.address s.holder)
    (masked : Masked (fun _ => False) s.core s.backend.kernel)
    (counts : Counts (fun filp => (s.core filp).polled = true) s.backend.epollRefcnt)
    (fewer : ∀ filp, (s.core filp).polled = true → p filp) : EpollExact s.release := by
  constructor
  · rw [core_release, (release_frame s).2.1]
    exact masked
  · rw [core_release]
    exact held_release s held counts fewer

theorem polled_arm (file : TxAiocb T) (side : Side) (live : file.live = true)
    (off : file.txFlags.poll side = false) :
    file.core.polled = file.txFlags.poll side.other ∧ (file.arm side).core.polled = true := by
  have alive : (file.arm side).live = true := live
  cases side with
  | input => simp_all [Core.polled, TxAiocb.core, Side.other, TxAiocb.arm]
  | output => simp_all [Core.polled, TxAiocb.core, Side.other, TxAiocb.arm]

theorem epollOps_txPoll (answer : Option Errno) (side : Side) :
    (epollOps answer : TxPollOp (EpollPoller L T W P F) F).txPoll side = txEpollPoll answer side := by
  cases side <;> rfl

theorem EpollExact.poll (exact : EpollExact s) (side : Side) (filp : F) (next : EpollPoller L T W P F)
    (result : txEpollPoll none side s filp = some next) :
    EpollExact next ∧ next.filp = Function.update s.filp filp ((s.filp filp).arm side) ∧
      next.calls = s.calls := by
  unfold txEpollPoll at result
  dsimp only at result
  split at result
  · rename_i off
    split at result
    · rename_i live
      obtain ⟨registration, found⟩ := exact.found filp live
      rw [epollCtl_mod _ _ _ registration found] at result
      injection result with same
      subst same
      generalize counted : ((s.setKernel _).count _).setPoll filp side true = armed
      have written : armed.filp = Function.update s.filp filp ((s.filp filp).arm side) := by
        rw [← counted]
        rfl
      have core := core_update s armed filp _ written
      obtain ⟨polled, after⟩ := polled_arm (s.filp filp) side live off
      have counts := counts_core s.core filp ((s.filp filp).arm side).core _ exact.held.counts
      obtain ⟨filps, _, _, calls⟩ := hold_frame armed
      refine ⟨?_, filps.trans written, calls.trans (counted ▸ rfl)⟩
      apply exact_hold (fun other => (s.core other).polled = true) s.backend.epollRefcnt
      · have address : armed.backend.address = s.backend.address := counted ▸ rfl
        have holder : armed.holder = s.holder := counted ▸ rfl
        rw [address, holder]
        exact exact.held
      · rw [core, ← counted]
        exact (exact.masked.mod filp live _).congr _ (by simp)
      · have refcnt : armed.backend.epollRefcnt = s.backend.epollRefcnt +
            (if (s.filp filp).txFlags.poll side.other then 0 else 1) := counted ▸ rfl
        have before : (s.core filp).polled = (s.filp filp).txFlags.poll side.other := polled
        rw [before, after] at counts
        rw [core, refcnt]
        cases other : (s.filp filp).txFlags.poll side.other with
        | true => simpa [other] using counts
        | false => simpa [other] using counts
      · intro other before
        rw [core]
        by_cases same : other = filp
        · rw [same, Function.update_self, after]
        · rw [Function.update_of_ne same, before]
    · cases result
  · rename_i on
    injection result with same
    subst same
    obtain ⟨filps, _, _, calls⟩ := hold_frame s
    refine ⟨exact_hold _ _ exact.held exact.masked exact.held.counts (fun _ polled => polled), ?_, calls⟩
    rw [Bool.not_eq_false] at on
    rw [filps, arm_again (s.filp filp) side on, Function.update_eq_self]

theorem txEpollPoll_live {next : EpollPoller L T W P F} (answer : Option Errno) (side : Side) (filp : F)
    (off : (s.filp filp).txFlags.poll side = false) (result : txEpollPoll answer side s filp = some next) :
    (s.filp filp).live = true := by
  cases live : (s.filp filp).live with
  | true => rfl
  | false => simp [txEpollPoll, off, live] at result

theorem EpollExact.init (exact : EpollExact s) (filp : F) (fd : Int) (next : EpollPoller L T W P F)
    (dead : (s.filp filp).live = false) (free : fd ≠ -1 → s.backend.kernel fd = none)
    (result : txAiocbInit (epollOps none) s filp fd = some next) :
    EpollExact next ∧ next.calls = s.calls ∧
      ∃ file, next.filp = Function.update s.filp filp file ∧ ∀ side, file.txFilter side = none := by
  unfold txAiocbInit at result
  dsimp only at result
  split at result
  · injection result with same
    subst same
    refine ⟨?_, rfl, _, rfl, fun _ => rfl⟩
    exact exact.rewrite filp _ dead rfl _ rfl (exact.masked.outside filp dead _ rfl) rfl rfl rfl
  · rename_i valid
    have attached : txEpollAttach none (s.setFilp filp (fun _ => TxAiocb.fresh fd)) filp = next :=
      Option.some.inj result
    have add := epollCtl_add s.backend.kernel fd ⟨fun _ => false, false, filp⟩ (free valid)
    simp only [txEpollAttach, Poller.setFilp, Function.update_self, TxAiocb.fresh, if_true, add] at attached
    let file : TxAiocb T :=
      { TxAiocb.fresh fd with txFlags := { (TxAiocb.fresh fd : TxAiocb T).txFlags with attached := true } }
    have written : next.filp = Function.update s.filp filp file := by
      rw [← attached]
      simp [Poller.setFlags, Poller.setFilp, Poller.setKernel, file, TxAiocb.fresh]
    have backend : next.backend = { s.backend with
        kernel := Function.update s.backend.kernel fd (some ⟨⟨fun _ => false, false, filp⟩, false⟩) } := by
      rw [← attached]
      rfl
    have masked := exact.masked.add filp dead fd (free valid) (fun _ => false) (fun _ => rfl)
    refine ⟨?_, attached ▸ rfl, file, written, fun _ => rfl⟩
    apply exact.rewrite filp file dead rfl next written
    · rw [backend]
      exact masked
    · rw [backend]
    · rw [backend]
    · exact attached ▸ rfl

theorem EpollExact.listen (exact : EpollExact s) (filp : F) (fd : Int) (next : EpollPoller L T W P F)
    (dead : (s.filp filp).live = false) (free : fd ≠ -1 → s.backend.kernel fd = none)
    (result : txListenInit (epollOps none) s filp fd = some next) :
    EpollExact next ∧ next.calls = s.calls ∧
      ∃ file, next.filp = Function.update s.filp filp file ∧ ∀ side, file.txFilter side = none := by
  obtain ⟨mid, started, same⟩ := Option.map_eq_some_iff.mp result
  subst same
  obtain ⟨kept, calls, file, written, empty⟩ := exact.init filp fd mid dead free started
  refine ⟨kept.same _ (same_setFilp mid filp _ rfl), calls,
    { file with txFlags := { file.txFlags with listen := true } }, ?_, empty⟩
  simp [Poller.setFlags, Poller.setFilp, written]

/-- The reference that a detached object gives back is the one its armed directions took. -/
theorem EpollExact.fini (exact : EpollExact s) (filp : F) (next : EpollPoller L T W P F)
    (once : (s.filp filp).txFd = -1 ∨ (s.filp filp).live = true)
    (result : txAiocbFini (epollOps none) s filp = some next) :
    EpollExact next ∧ next.calls = s.calls ∧ (next.filp = s.filp ∨
      ∃ file, next.filp = Function.update s.filp filp file ∧ file.live = false ∧
        file.txFilter = (s.filp filp).txFilter) := by
  unfold txAiocbFini at result
  split at result
  · injection result with same
    subst same
    exact ⟨exact, rfl, Or.inl rfl⟩
  · rename_i valid
    have live := once.resolve_left valid
    obtain ⟨registration, found⟩ := exact.found filp live
    have detached : txEpollDetach none s filp = next := Option.some.inj result
    have del := epollCtl_del s.backend.kernel _ ⟨fun _ => false, false, filp⟩ registration found
    let file : TxAiocb T :=
      { s.filp filp with txFlags := { (s.filp filp).txFlags with detached := true } }
    have gone : file.live = false := by simp [TxAiocb.live, file]
    simp only [txEpollDetach, txEpollDelete, live, if_true, del] at detached
    generalize deletion : (s.setKernel _).setFlags filp _ = deleted at detached
    have written : deleted.filp = Function.update s.filp filp file := deletion ▸ rfl
    have core := core_update s deleted filp file written
    have backend : deleted.backend =
        { s.backend with kernel := Function.update s.backend.kernel (s.filp filp).txFd none } :=
      deletion ▸ rfl
    have holder : deleted.holder = s.holder := deletion ▸ rfl
    have calls : deleted.calls = s.calls := deletion ▸ rfl
    have masked : Masked (fun _ => False) deleted.core deleted.backend.kernel := by
      rw [core, backend]
      exact exact.masked.del filp live file.core gone
    have polled : (s.core filp).polled =
        ((s.filp filp).txFlags.poll .input || (s.filp filp).txFlags.poll .output) := by
      simp [Core.polled, Poller.core, TxAiocb.core, live]
    have counts := counts_core s.core filp file.core _ exact.held.counts
    rw [dead_polled file gone, polled, ← core] at counts
    split at detached
    · rename_i on
      rw [← Bool.or_eq_true] at on
      obtain ⟨filps, _, _, kept⟩ := release_frame (deleted.count (-1))
      subst detached
      refine ⟨?_, kept.trans calls, Or.inr ⟨file, filps.trans written, gone, rfl⟩⟩
      apply exact_release (fun other => (s.core other).polled = true) s.backend.epollRefcnt
      · have address : (deleted.count (-1)).backend.address = s.backend.address := by
          rw [Poller.count, backend]
        have place : (deleted.count (-1)).holder = s.holder := holder
        rw [address, place]
        exact exact.held
      · exact masked
      · have refcnt : (deleted.count (-1)).backend.epollRefcnt = s.backend.epollRefcnt - 1 := by
          rw [Poller.count, backend]
          rfl
        have same : (deleted.count (-1)).core = deleted.core := rfl
        rw [refcnt, same]
        simpa [on] using counts
      · intro other after
        have core : (Function.update s.core filp file.core other).polled = true := core ▸ after
        by_cases same : other = filp
        · rw [same, Function.update_self, dead_polled file gone] at core
          exact absurd core (by simp)
        · rwa [Function.update_of_ne same] at core
    · rename_i off
      rw [← Bool.or_eq_true, Bool.not_eq_true] at off
      subst detached
      refine ⟨⟨masked, ?_, ?_⟩, calls, Or.inr ⟨file, written, gone, rfl⟩⟩
      · simpa [backend, off] using counts
      · rw [holder, backend]
        exact exact.held.holder

variable [DecidableEq T] [DecidableEq W]

theorem EpollExact.active (exact : EpollExact s) (side : Side) (filp : F) (task : Option T)
    (next : EpollPoller L T W P F) (result : genericActive (epollOps none) side s filp task = some next) :
    EpollExact next ∧ (next.filp = s.filp ∨ (s.filp filp).txFlags.able side = false ∧
      next.filp = Function.update s.filp filp ((s.filp filp).await side task)) := by
  apply active_rule (epollOps none) side s filp task next EpollExact exact.same _ result
  intro mid same _ polled
  rw [epollOps_txPoll] at polled
  obtain ⟨kept, written, _⟩ := (exact.same mid same).poll side filp next polled
  exact ⟨kept, written⟩

theorem EpollExact.connect (exact : EpollExact s) (filp : F) (error : Option Errno) (task : Option T)
    (next : EpollPoller L T W P F) (result : txAiocbConnect (epollOps none) s filp error task = some next) :
    EpollExact next ∧ ∃ able,
      (error = some .einprogress ∧ next.filp =
        Function.update s.filp filp (((s.filp filp).setAble able).await .output task)) ∨
      next.filp = Function.update s.filp filp ((s.filp filp).setAble able) := by
  apply connect_rule (epollOps none) s filp error task next EpollExact exact.same _ result
  intro mid same _ polled
  obtain ⟨kept, written, _⟩ := (exact.same mid same).poll .output filp next polled
  exact ⟨kept, written⟩

theorem EpollExact.polling (exact : EpollExact s) (reports : List (EpollReport F))
    (once : (reports.map EpollReport.fd).Nodup)
    (known : ∀ report ∈ reports, ∃ registration, s.backend.kernel report.fd = some registration ∧
      registration.event.ptr = report.ptr ∧ ∃ side, registration.armed side = true)
    (answers : ∀ report ∈ reports, report.answer = none ∨ (report.leaves (s.filp report.ptr)).polls = false) :
    EpollExact (txEpollPolling s reports) ∧ (reports.map EpollReport.ptr).Nodup := by
  have places (report : EpollReport F) (member : report ∈ reports) :
      (s.core report.ptr).polled = true ∧ (s.core report.ptr).fd = report.fd := by
    obtain ⟨registration, found, ptr, side, armed⟩ := known report member
    obtain ⟨live, place⟩ := exact.masked.registered report.fd registration found
    rw [ptr] at live place
    obtain ⟨again, refound, _, masks⟩ := exact.masked.armed report.ptr live
    rw [place, found] at refound
    injection refound with same
    have on := ((masks side).mp (same ▸ armed)).1
    refine ⟨?_, place⟩
    cases side with
    | input => simp [Core.polled, live, on]
    | output => simp [Core.polled, live, on]
  have apart := ptr_nodup s.core reports (fun report member => (places report member).2) once
  have masked := exact.masked.wait reports (fun report member => by
    obtain ⟨registration, found, ptr, _⟩ := known report member
    exact ⟨registration, found, ptr⟩)
  have waiting : Serving reports (s.setKernel (epollWait s.backend.kernel reports)) :=
    ⟨masked, exact.held.counts, fun report member => (places report member).1, apart⟩
  have fine (report : EpollReport F) (member : report ∈ reports) :
      report.draws (s.filp report.ptr) = false := by
    have polled : (s.filp report.ptr).core.polled = true := (places report member).1
    rcases answers report member with answer | quiet
    · simp [EpollReport.draws, polled, answer]
    · simp [EpollReport.draws, polled, quiet]
  have served := waiting.batch fine
  obtain ⟨_, holder, address⟩ := still_batch reports (s.setKernel (epollWait s.backend.kernel reports))
  refine ⟨?_, apart⟩
  apply EpollExact.same _ _ (same_relink _)
  apply exact_release (fun other => (s.core other).polled = true) s.backend.epollRefcnt
  · rw [holder, address]
    exact exact.held
  · exact served.masked.congr _ (by simp)
  · exact served.counts
  · intro other after
    by_cases member : other ∈ reports.map EpollReport.ptr
    · obtain ⟨report, inside, same⟩ := List.mem_map.mp member
      exact same ▸ (places report inside).1
    · rwa [Poller.core, batch_other reports _ other member] at after

end Operations

end Libtx
