import Libtx.Aiocb.Masked

namespace Libtx

variable {L T W P F : Type}

/-- The waiter of `side` is told: a hang-up or an error is a report of both directions. -/
def EpollReport.tells (report : EpollReport F) (side : Side) : Bool :=
  report.epollhup || report.epollerr || report.mask side

theorem tells_hung (report : EpollReport F) (hung : report.epollhup = true ∨ report.epollerr = true)
    (side : Side) : report.tells side = true := by
  rcases hung with hup | err
  · simp [EpollReport.tells, hup]
  · simp [EpollReport.tells, err]

theorem tells_quiet (report : EpollReport F) (quiet : ¬ (report.epollhup = true ∨ report.epollerr = true))
    (side : Side) : report.tells side = report.mask side := by
  rw [not_or, Bool.not_eq_true, Bool.not_eq_true] at quiet
  rw [EpollReport.tells, quiet.1, quiet.2, Bool.false_or, Bool.false_or]

def EpollReport.woken (report : EpollReport F) (file : TxAiocb T) : List (T × F) :=
  [Side.output, .input].flatMap (fun side =>
    if report.tells side then (file.txFilter side).toList.map (fun task => (task, report.ptr)) else [])

theorem woken_eq (report : EpollReport F) (file : TxAiocb T) :
    report.woken file =
      (if report.tells .output then
        (file.txFilter .output).toList.map (fun task => (task, report.ptr)) else []) ++
      (if report.tells .input then
        (file.txFilter .input).toList.map (fun task => (task, report.ptr)) else []) := by
  simp [EpollReport.woken]

def EpollReport.leaves (report : EpollReport F) (file : TxAiocb T) : TxAiocb T :=
  { file with
    txFlags :=
      { file.txFlags with
        poll := fun side => file.txFlags.poll side && !report.tells side
        able := fun side => file.txFlags.able side || report.tells side }
    txFilter := fun side => if report.tells side then none else file.txFilter side }

def TxAiocb.polls (file : TxAiocb T) : Bool := file.txFlags.poll .input || file.txFlags.poll .output

theorem leaves_hangup (report : EpollReport F) (file : TxAiocb T)
    (told : ∀ side, report.tells side = true) :
    report.leaves file =
      { file with
        txFlags := { file.txFlags with poll := fun _ => false, able := fun _ => true }
        txFilter := fun _ => none } := by
  simp [EpollReport.leaves, told]

theorem leaves_events (report : EpollReport F) (file : TxAiocb T)
    (told : ∀ side, report.tells side = report.mask side) :
    (if report.mask .input then (if report.mask .output then file.serve .output else file).serve .input
      else if report.mask .output then file.serve .output else file) = report.leaves file := by
  cases written : report.mask .output <;> cases read : report.mask .input
  all_goals
    ext side
    all_goals first | rfl | cases side
    all_goals simp [TxAiocb.serve, EpollReport.leaves, told, written, read]

theorem polled_live (file : TxAiocb T) (live : file.live = true) : file.core.polled = file.polls := by
  calc file.core.polled = (file.live && file.polls) := rfl
    _ = file.polls := by rw [live, Bool.true_and]

theorem leaves_fewer (report : EpollReport F) (file : TxAiocb T) (off : file.polls = false) :
    (report.leaves file).polls = false := by
  simp only [TxAiocb.polls, Bool.or_eq_false_iff] at off
  simp [TxAiocb.polls, EpollReport.leaves, off]

section Report

theorem pollit_backend (s : EpollPoller L T W P F) (filp : F) (registration : Registration F)
    (found : s.backend.kernel (s.filp filp).txFd = some registration) :
    (txEpollPollit none s filp).backend =
      { s.backend with
        kernel := Function.update s.backend.kernel (s.filp filp).txFd
          (some ⟨⟨(s.filp filp).txFlags.poll, true, filp⟩, false⟩)
        epollRefcnt := s.backend.epollRefcnt + 1 } := by
  unfold txEpollPollit
  dsimp only
  rw [epollCtl_mod _ _ _ registration found]
  rfl

theorem pollit_failed (s : EpollPoller L T W P F) (filp : F) (errno : Errno) :
    (txEpollPollit (some errno) s filp).backend = s.backend := rfl

/-- The objects of `todo` were reported and wait to be served, and `missing` references were
given back without being taken. -/
structure Drawn (missing : Int) (todo : List (EpollReport F)) (s : EpollPoller L T W P F) : Prop where
  counts : Count.Counts (fun filp => (s.core filp).polled = true) (s.backend.epollRefcnt + missing)
  live : ∀ report ∈ todo, (s.core report.ptr).live = true
  found : ∀ report ∈ todo, ∃ registration, s.backend.kernel (s.core report.ptr).fd = some registration
  once : (todo.map EpollReport.ptr).Nodup

structure Serving (todo : List (EpollReport F)) (s : EpollPoller L T W P F) : Prop where
  masked : Masked (fun filp => filp ∈ todo.map EpollReport.ptr) s.core s.backend.kernel
  counts : Count.Counts (fun filp => (s.core filp).polled = true) s.backend.epollRefcnt
  due : ∀ report ∈ todo, (s.core report.ptr).polled = true
  once : (todo.map EpollReport.ptr).Nodup

theorem Serving.drawn {todo : List (EpollReport F)} {s : EpollPoller L T W P F}
    (serving : Serving todo s) : Drawn 0 todo s where
  counts := by simpa using serving.counts
  live report member := (Bool.and_eq_true_iff.mp (serving.due report member)).1
  found report member := by
    obtain ⟨registration, found, _⟩ := serving.masked.armed report.ptr
      (Bool.and_eq_true_iff.mp (serving.due report member)).1
    exact ⟨registration, found⟩
  once := serving.once

variable [DecidableEq L] [DecidableEq T] [DecidableEq W] [DecidableEq F]

theorem still_wake (s : EpollPoller L T W P F) (side : Side) (filp : F) : Still s (s.wake side filp) :=
  (same_taskActiveBy s _ filp).toStill.trans (same_setFilter _ filp side none).toStill

theorem still_serve (side : Side) (s : EpollPoller L T W P F) (filp : F) :
    Still s (txEpollServe side s filp) := by
  have cleared := still_setPoll s filp side false
  have activated := cleared.trans (same_taskActiveBy _ ((s.filp filp).txFilter side) filp).toStill
  have able := activated.trans (same_setAble _ filp side true).toStill
  exact able.trans (same_setFilter _ filp side none).toStill

theorem serve_filp (side : Side) (s : EpollPoller L T W P F) (filp : F) :
    (txEpollServe side s filp).filp = Function.update s.filp filp ((s.filp filp).serve side) := by
  simp [txEpollServe, taskActiveBy, Poller.setFilter, Poller.setAble, Poller.setPoll, Poller.setFlags,
    Poller.setFilp, TxAiocb.serve]

theorem still_hangup (s : EpollPoller L T W P F) (filp : F) : Still s (txEpollHangup s filp) := by
  unfold txEpollHangup
  exact ((still_setFlags s filp _).trans (still_wake _ .output filp)).trans (still_wake _ .input filp)

theorem hangup_filp (s : EpollPoller L T W P F) (report : EpollReport F)
    (told : ∀ side, report.tells side = true) :
    (txEpollHangup s report.ptr).filp =
      Function.update s.filp report.ptr (report.leaves (s.filp report.ptr)) := by
  have slots (filter : Side → Option T) :
      Function.update (Function.update filter .output none) .input none = fun _ => none := by
    funext side
    cases side <;> rfl
  simp [leaves_hangup report _ told, txEpollHangup, Poller.wake, taskActiveBy, Poller.setFilter,
    Poller.setFlags, Poller.setFilp, slots]

theorem told_wake (s : EpollPoller L T W P F) (side : Side) (filp : F) :
    Told s (((s.filp filp).txFilter side).toList.map (fun task => (task, filp))) (s.wake side filp) :=
  ⟨(told_taskActiveBy s _ filp).world, rfl⟩

theorem hangup_told (s : EpollPoller L T W P F) (report : EpollReport F)
    (told : ∀ side, report.tells side = true) :
    Told s (report.woken (s.filp report.ptr)) (txEpollHangup s report.ptr) := by
  let cleared := s.setFlags report.ptr
    (fun flags => { flags with poll := fun _ => false, able := fun _ => true })
  have output : (cleared.filp report.ptr).txFilter .output = (s.filp report.ptr).txFilter .output := by
    simp [cleared, Poller.setFlags, Poller.setFilp]
  have input : ((cleared.wake .output report.ptr).filp report.ptr).txFilter .input =
      (s.filp report.ptr).txFilter .input := by
    simp [cleared, Poller.wake, taskActiveBy, Poller.setFilter, Poller.setFlags, Poller.setFilp]
  have written := told_wake cleared .output report.ptr
  have read := told_wake (cleared.wake .output report.ptr) .input report.ptr
  rw [output] at written
  rw [input] at read
  rw [woken_eq, told, told]
  exact (told_nil s cleared rfl rfl).trans (written.trans read)

theorem still_events (s : EpollPoller L T W P F) (report : EpollReport F) :
    Still s (txEpollEvents s report) := by
  unfold txEpollEvents
  cases report.mask .output <;> cases report.mask .input
  · exact still_refl s
  · exact still_serve .input s report.ptr
  · exact still_serve .output s report.ptr
  · exact (still_serve .output s report.ptr).trans (still_serve .input _ report.ptr)

theorem events_filp (s : EpollPoller L T W P F) (report : EpollReport F)
    (told : ∀ side, report.tells side = report.mask side) :
    (txEpollEvents s report).filp =
      Function.update s.filp report.ptr (report.leaves (s.filp report.ptr)) := by
  rw [← leaves_events report (s.filp report.ptr) told]
  unfold txEpollEvents
  cases report.mask .output <;> cases report.mask .input <;> simp [serve_filp]

theorem told_serve (side : Side) (s : EpollPoller L T W P F) (filp : F) :
    Told s (((s.filp filp).txFilter side).toList.map (fun task => (task, filp)))
      (txEpollServe side s filp) :=
  ⟨(told_taskActiveBy (s.setPoll filp side false) _ filp).world, rfl⟩

theorem events_told (s : EpollPoller L T W P F) (report : EpollReport F)
    (told : ∀ side, report.tells side = report.mask side) :
    Told s (report.woken (s.filp report.ptr)) (txEpollEvents s report) := by
  rw [woken_eq, told, told]
  unfold txEpollEvents
  cases written : report.mask .output <;> cases read : report.mask .input
  · exact told_nil s s rfl rfl
  · exact told_serve .input s report.ptr
  · simpa using told_serve .output s report.ptr
  · have both := (told_serve .output s report.ptr).trans (told_serve .input _ report.ptr)
    simpa [serve_filp, TxAiocb.serve] using both

theorem one_spec (s : EpollPoller L T W P F) (report : EpollReport F) :
    (txEpollPollingOne s report).filp =
        Function.update s.filp report.ptr (report.leaves (s.filp report.ptr)) ∧
      Told s (report.woken (s.filp report.ptr)) (txEpollPollingOne s report) ∧
      (txEpollPollingOne s report).up = s.up ∧ (txEpollPollingOne s report).holder = s.holder ∧
      (txEpollPollingOne s report).backend.address = s.backend.address := by
  unfold txEpollPollingOne
  dsimp only
  split
  · rename_i hung
    have told := tells_hung report hung
    have still := still_hangup (s.count (-1)) report.ptr
    have address : (txEpollHangup (s.count (-1)) report.ptr).backend.address = s.backend.address := by
      rw [still.backend]
      rfl
    have calls := (told_nil s (s.count (-1)) rfl rfl).trans (hangup_told (s.count (-1)) report told)
    exact ⟨hangup_filp (s.count (-1)) report told, calls, still.up, still.holder, address⟩
  · rename_i quiet
    have told := tells_quiet report quiet
    have still := still_events (s.count (-1)) report
    have address : (txEpollEvents (s.count (-1)) report).backend.address = s.backend.address := by
      rw [still.backend]
      rfl
    have filp := events_filp (s.count (-1)) report told
    have calls := (told_nil s (s.count (-1)) rfl rfl).trans (events_told (s.count (-1)) report told)
    split
    · unfold txEpollPollit
      dsimp only
      split
      · exact ⟨filp, ⟨calls.world, calls.calls⟩, still.up, still.holder, address⟩
      · exact ⟨filp, calls, still.up, still.holder, address⟩
    · exact ⟨filp, calls, still.up, still.holder, address⟩

def EpollReport.rearms (report : EpollReport F) (file : TxAiocb T) : Bool :=
  (report.leaves file).polls && report.answer.isNone

theorem one_backend (s : EpollPoller L T W P F) (report : EpollReport F) (registration : Registration F)
    (found : s.backend.kernel (s.filp report.ptr).txFd = some registration) :
    (txEpollPollingOne s report).backend =
      if report.rearms (s.filp report.ptr) then
        { s.backend with
          kernel := Function.update s.backend.kernel (s.filp report.ptr).txFd
            (some ⟨⟨(report.leaves (s.filp report.ptr)).txFlags.poll, true, report.ptr⟩, false⟩) }
      else { s.backend with epollRefcnt := s.backend.epollRefcnt - 1 } := by
  unfold txEpollPollingOne
  dsimp only
  split
  · rename_i hung
    have told := tells_hung report hung
    rw [(still_hangup (s.count (-1)) report.ptr).backend, EpollReport.rearms, leaves_hangup report _ told]
    rfl
  · rename_i quiet
    have told := tells_quiet report quiet
    have backend := (still_events (s.count (-1)) report).backend
    have file : (txEpollEvents (s.count (-1)) report).filp report.ptr =
        report.leaves (s.filp report.ptr) := by
      rw [events_filp (s.count (-1)) report told, Function.update_self]
      rfl
    have fd : (report.leaves (s.filp report.ptr)).txFd = (s.filp report.ptr).txFd := rfl
    have same : (s.count (-1)).backend.epollRefcnt + 1 = s.backend.epollRefcnt := by
      simp [Poller.count]
    rw [file]
    split
    · rename_i on
      rw [← Bool.or_eq_true] at on
      have polls : (report.leaves (s.filp report.ptr)).polls = true := on
      rw [EpollReport.rearms, polls]
      cases answer : report.answer with
      | none =>
          have known : (txEpollEvents (s.count (-1)) report).backend.kernel
              ((txEpollEvents (s.count (-1)) report).filp report.ptr).txFd = some registration := by
            rw [backend, file, fd]
            exact found
          rw [pollit_backend _ report.ptr registration known, backend, file, fd, same]
          rfl
      | some errno =>
          rw [pollit_failed, backend]
          rfl
    · rename_i off
      rw [← Bool.or_eq_true] at off
      have polls : (report.leaves (s.filp report.ptr)).polls = false := Bool.not_eq_true _ ▸ off
      rw [EpollReport.rearms, polls, backend]
      rfl

/-- A report that takes a reference which its object did not have, or does not get back
although it still polls. -/
def EpollReport.draws (report : EpollReport F) (file : TxAiocb T) : Bool :=
  !file.core.polled || ((report.leaves file).polls && report.answer.isSome)

theorem Drawn.one {missing : Int} {report : EpollReport F} {todo : List (EpollReport F)}
    {s : EpollPoller L T W P F} (drawn : Drawn missing (report :: todo) s) :
    Drawn (missing + (report.draws (s.filp report.ptr)).toNat) todo (txEpollPollingOne s report) := by
  have live := drawn.live report List.mem_cons_self
  obtain ⟨registration, found⟩ := drawn.found report List.mem_cons_self
  have core := core_update s (txEpollPollingOne s report) report.ptr _ (one_spec s report).1
  have backend := one_backend s report registration found
  have counts := counts_core s.core report.ptr (report.leaves (s.filp report.ptr)).core _ drawn.counts
  have fresh := List.nodup_cons.mp drawn.once
  have before : (s.core report.ptr).polled = (s.filp report.ptr).polls := polled_live _ live
  have after : (report.leaves (s.filp report.ptr)).core.polled =
      (report.leaves (s.filp report.ptr)).polls := polled_live _ live
  have apart (other : EpollReport F) (member : other ∈ todo) : other.ptr ≠ report.ptr :=
    fun same => fresh.1 (same ▸ List.mem_map_of_mem member)
  refine ⟨?_, ?_, ?_, fresh.2⟩
  · rw [before, after, ← core] at counts
    convert counts using 1
    have draws : report.draws (s.filp report.ptr) = (!(s.filp report.ptr).polls ||
        ((report.leaves (s.filp report.ptr)).polls && report.answer.isSome)) := by
      rw [EpollReport.draws, polled_live _ live]
    have fewer := leaves_fewer report (s.filp report.ptr)
    rw [backend, draws, EpollReport.rearms]
    cases polls : (s.filp report.ptr).polls <;>
      cases left : (report.leaves (s.filp report.ptr)).polls <;>
      cases answer : report.answer <;> simp_all <;> omega
  · intro other member
    rw [core, Function.update_of_ne (apart other member)]
    exact drawn.live other (List.mem_cons_of_mem report member)
  · intro other member
    rw [core, Function.update_of_ne (apart other member), backend]
    split
    · by_cases same : (s.core other.ptr).fd = (s.filp report.ptr).txFd
      · exact ⟨_, by rw [same]; exact Function.update_self _ _ _⟩
      · dsimp only
        rw [Function.update_of_ne same]
        exact drawn.found other (List.mem_cons_of_mem report member)
    · exact drawn.found other (List.mem_cons_of_mem report member)

theorem Serving.one {report : EpollReport F} {todo : List (EpollReport F)} {s : EpollPoller L T W P F}
    (serving : Serving (report :: todo) s) (fine : report.draws (s.filp report.ptr) = false) :
    Serving todo (txEpollPollingOne s report) := by
  have drawn := serving.drawn.one
  have live : (s.core report.ptr).live = true := serving.drawn.live report List.mem_cons_self
  obtain ⟨registration, found⟩ := serving.drawn.found report List.mem_cons_self
  have core := core_update s (txEpollPollingOne s report) report.ptr _ (one_spec s report).1
  have backend := one_backend s report registration found
  have fresh := List.nodup_cons.mp serving.once
  have waiting (filp : F) : filp ∈ todo.map EpollReport.ptr ↔
      filp ≠ report.ptr ∧ filp ∈ (report :: todo).map EpollReport.ptr := by
    rw [List.map_cons, List.mem_cons]
    constructor
    · exact fun member => ⟨fun same => fresh.1 (same ▸ member), Or.inr member⟩
    · exact fun member => member.2.resolve_left member.1
  have rearms : report.rearms (s.filp report.ptr) = (report.leaves (s.filp report.ptr)).polls := by
    have answered := (Bool.or_eq_false_iff.mp fine).2
    rw [EpollReport.rearms]
    cases polls : (report.leaves (s.filp report.ptr)).polls with
    | false => rfl
    | true =>
        rw [polls, Bool.true_and, Option.isSome_eq_false_iff] at answered
        rw [answered, Bool.true_and]
  rw [fine] at drawn
  refine ⟨?_, by simpa using drawn.counts, ?_, fresh.2⟩
  · rw [core, backend, rearms]
    apply Masked.congr _ _ waiting
    cases left : (report.leaves (s.filp report.ptr)).polls with
    | true => exact serving.masked.mod report.ptr live _
    | false =>
        apply serving.masked.quiet report.ptr List.mem_cons_self
        simp only [TxAiocb.polls, Bool.or_eq_false_iff] at left
        intro side
        cases side with
        | input => exact left.1
        | output => exact left.2
  · intro other member
    have apart : other.ptr ≠ report.ptr :=
      fun same => fresh.1 (same ▸ List.mem_map_of_mem member)
    rw [core, Function.update_of_ne apart]
    exact serving.due other (List.mem_cons_of_mem report member)

theorem one_other (s : EpollPoller L T W P F) (report other : EpollReport F)
    (apart : other.ptr ≠ report.ptr) : (txEpollPollingOne s report).filp other.ptr = s.filp other.ptr := by
  rw [(one_spec s report).1, Function.update_of_ne apart]

theorem Serving.batch {todo : List (EpollReport F)} {s : EpollPoller L T W P F}
    (serving : Serving todo s) (fine : ∀ report ∈ todo, report.draws (s.filp report.ptr) = false) :
    Serving [] (todo.foldl txEpollPollingOne s) := by
  induction todo generalizing s with
  | nil => exact serving
  | cons report todo ih =>
      have fresh := List.nodup_cons.mp serving.once
      apply ih (serving.one (fine report List.mem_cons_self))
      intro other member
      have apart : other.ptr ≠ report.ptr := fun same => fresh.1 (same ▸ List.mem_map_of_mem member)
      rw [one_other s report other apart]
      exact fine other (List.mem_cons_of_mem report member)

theorem Drawn.batch {missing : Int} {todo : List (EpollReport F)} {s : EpollPoller L T W P F}
    (drawn : Drawn missing todo s) :
    ∃ short : Nat, Count.Counts (fun filp => ((todo.foldl txEpollPollingOne s).core filp).polled = true)
        ((todo.foldl txEpollPollingOne s).backend.epollRefcnt + missing + short) ∧
      ((∃ report ∈ todo, report.draws (s.filp report.ptr) = true) → 0 < short) := by
  induction todo generalizing s missing with
  | nil =>
      refine ⟨0, by simpa using drawn.counts, ?_⟩
      rintro ⟨report, member, _⟩
      cases member
  | cons report todo ih =>
      have fresh := List.nodup_cons.mp drawn.once
      obtain ⟨short, counts, more⟩ := ih drawn.one
      refine ⟨(report.draws (s.filp report.ptr)).toNat + short, ?_, ?_⟩
      · have total : missing + ((report.draws (s.filp report.ptr)).toNat + short : Nat) =
            missing + (report.draws (s.filp report.ptr)).toNat + (short : Int) := by omega
        rw [List.foldl_cons, add_assoc, total]
        simpa only [add_assoc] using counts
      · rintro ⟨other, member, draws⟩
        rcases List.mem_cons.mp member with same | later
        · rw [same] at draws
          rw [draws]
          exact Nat.lt_add_right short Nat.one_pos
        · have apart : other.ptr ≠ report.ptr := fun same => fresh.1 (same ▸ List.mem_map_of_mem later)
          rw [← one_other s report other apart] at draws
          exact Nat.lt_add_left _ (more ⟨other, later, draws⟩)

theorem still_batch (todo : List (EpollReport F)) (s : EpollPoller L T W P F) :
    (todo.foldl txEpollPollingOne s).up = s.up ∧ (todo.foldl txEpollPollingOne s).holder = s.holder ∧
      (todo.foldl txEpollPollingOne s).backend.address = s.backend.address := by
  induction todo generalizing s with
  | nil => exact ⟨rfl, rfl, rfl⟩
  | cons report todo ih =>
      obtain ⟨_, _, up, holder, address⟩ := one_spec s report
      obtain ⟨ups, holders, addresses⟩ := ih (txEpollPollingOne s report)
      exact ⟨ups.trans up, holders.trans holder, addresses.trans address⟩

theorem batch_other (todo : List (EpollReport F)) (s : EpollPoller L T W P F) (filp : F)
    (other : filp ∉ todo.map EpollReport.ptr) : (todo.foldl txEpollPollingOne s).filp filp = s.filp filp := by
  induction todo generalizing s with
  | nil => rfl
  | cons report todo ih =>
      rw [List.map_cons, List.mem_cons, not_or] at other
      rw [List.foldl_cons, ih _ other.2, (one_spec s report).1, Function.update_of_ne other.1]

theorem batch_reported (todo : List (EpollReport F)) (s : EpollPoller L T W P F)
    (once : (todo.map EpollReport.ptr).Nodup) (report : EpollReport F) (member : report ∈ todo) :
    (todo.foldl txEpollPollingOne s).filp report.ptr = report.leaves (s.filp report.ptr) := by
  induction todo generalizing s with
  | nil => cases member
  | cons head todo ih =>
      have fresh := List.nodup_cons.mp once
      rw [List.foldl_cons]
      rcases List.mem_cons.mp member with same | later
      · rw [same, batch_other todo _ head.ptr fresh.1, (one_spec s head).1, Function.update_self]
      · have apart : report.ptr ≠ head.ptr :=
          fun same => fresh.1 (same ▸ List.mem_map_of_mem later)
        rw [ih _ fresh.2 later, (one_spec s head).1, Function.update_of_ne apart]

theorem batch_told (todo : List (EpollReport F)) (s : EpollPoller L T W P F)
    (once : (todo.map EpollReport.ptr).Nodup) :
    Told s (todo.flatMap (fun report => report.woken (s.filp report.ptr)))
      (todo.foldl txEpollPollingOne s) := by
  induction todo generalizing s with
  | nil => exact told_nil s s rfl rfl
  | cons head todo ih =>
      have fresh := List.nodup_cons.mp once
      have same : todo.flatMap (fun report => report.woken ((txEpollPollingOne s head).filp report.ptr)) =
          todo.flatMap (fun report => report.woken (s.filp report.ptr)) := by
        apply List.flatMap_congr
        intro report later
        have apart : report.ptr ≠ head.ptr :=
          fun same => fresh.1 (same ▸ List.mem_map_of_mem later)
        rw [(one_spec s head).1, Function.update_of_ne apart]
      have rest := ih (txEpollPollingOne s head) fresh.2
      rw [same] at rest
      exact (one_spec s head).2.1.trans rest

theorem pollTask_one (s : EpollPoller L T W P F) (report : EpollReport F) :
    (txEpollPollingOne s report).backend.pollTask = s.backend.pollTask := by
  unfold txEpollPollingOne
  dsimp only
  split
  · rw [(still_hangup (s.count (-1)) report.ptr).backend]
    rfl
  · have still := still_events (s.count (-1)) report
    split
    · unfold txEpollPollit
      dsimp only
      split
      · change (txEpollEvents (s.count (-1)) report).backend.pollTask = _
        rw [still.backend]
        rfl
      · rw [still.backend]
        rfl
    · rw [still.backend]
      rfl

theorem pollTask_batch (reports : List (EpollReport F)) (s : EpollPoller L T W P F) :
    (reports.foldl txEpollPollingOne s).backend.pollTask = s.backend.pollTask := by
  induction reports generalizing s with
  | nil => rfl
  | cons report rest ih => rw [List.foldl_cons, ih, pollTask_one]

end Report

end Libtx
