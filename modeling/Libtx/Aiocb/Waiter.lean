import Libtx.Aiocb.Exact
import Libtx.Runs.Partial

namespace Libtx

open Count

variable {L T W P F : Type}

/-- What `epoll_wait` can return: each descriptor once, and only if it is armed. -/
def Reported (s : EpollPoller L T W P F) (reports : List (EpollReport F)) : Prop :=
  reports.length ≤ MAX_EVENTS ∧ (reports.map EpollReport.fd).Nodup ∧
    ∀ report ∈ reports, ∃ registration, s.backend.kernel report.fd = some registration ∧
      registration.event.ptr = report.ptr ∧ ∃ side, registration.armed side = true

/-- `epoll_ctl` succeeds. A descriptor can be added only once. -/
def Succeeds (s : EpollPoller L T W P F) : PollAction L T W P F (EpollReport F) → Prop
  | .init _ fd answer | .listen _ fd answer => answer = none ∧ (fd ≠ -1 → s.backend.kernel fd = none)
  | .fini _ answer | .poll _ _ answer | .active _ _ _ answer | .connect _ _ _ answer => answer = none
  | .polling reports => ∀ report ∈ reports, report.answer = none
  | _ => True

theorem watched_leaves (report : EpollReport F) (file : TxAiocb T) (watched : file.watched) :
    (report.leaves file).watched := by
  intro live side waiter
  cases told : report.tells side with
  | true => exact absurd (by simp [EpollReport.leaves, told]) waiter
  | false =>
      have slot : file.txFilter side ≠ none := by simpa [EpollReport.leaves, told] using waiter
      simpa [EpollReport.leaves, told] using watched live side slot

/-- What an action other than a batch makes of an object. -/
structure Becomes (s : EpollPoller L T W P F) (action : PollAction L T W P F (EpollReport F)) (filp : F)
    (file : TxAiocb T) : Prop where
  watched : (s.filp filp).watched → file.watched
  keeps : OneWaiter s action → (s.filp filp).live = true → ∀ side task,
    (s.filp filp).txFilter side = some task →
      file.txFilter side = some task ∨ action = .cancel side filp (some task)

section Becoming

variable (s next : EpollPoller L T W P F) (action : PollAction L T W P F (EpollReport F)) (filp : F)

theorem becomes_same (file : TxAiocb T) (watched : (s.filp filp).watched → file.watched)
    (slots : file.txFilter = (s.filp filp).txFilter) : Becomes s action filp file :=
  ⟨watched, fun _ _ _ _ slot => Or.inl (slots ▸ slot)⟩

theorem becomes_refl (other : F) : Becomes s action other (s.filp other) :=
  becomes_same s action other (s.filp other) id rfl

theorem becomes_await (file : TxAiocb T) (side : Side) (task : Option T)
    (watched : (s.filp filp).watched → file.watched) (slots : file.txFilter = (s.filp filp).txFilter)
    (one : OneWaiter s action → (s.filp filp).txFilter side = none ∨ (s.filp filp).txFilter side = task) :
    Becomes s action filp (file.await side task) := by
  refine ⟨fun before => watched_await file side task (watched before), ?_⟩
  intro used live other waiter slot
  exact Or.inl (await_slot file side other task waiter _ (one used) (fun same => same ▸ slot)
    (fun _ => slots ▸ slot))

variable [DecidableEq F]

theorem becomes_update (file : TxAiocb T) (written : next.filp = Function.update s.filp filp file)
    (becomes : Becomes s action filp file) (other : F) : Becomes s action other (next.filp other) := by
  by_cases same : other = filp
  · subst same
    rw [written, Function.update_self]
    exact becomes
  · rw [written, Function.update_of_ne same]
    exact becomes_refl s action other

end Becoming

theorem exact_fresh (start : EpollPoller L T W P F) (fresh : Fresh (fun _ => none) start) :
    EpollExact start := by
  have empty : ∀ filp, (start.core filp).polled = false :=
    fun filp => dead_polled (start.filp filp) (fresh.unattached filp)
  refine ⟨⟨?_, ?_, ?_⟩, ?_, ?_⟩
  · intro filp live
    have dead : (start.core filp).live = false := fresh.unattached filp
    rw [dead] at live
    cases live
  · intro fd registration side found
    rw [fresh.kernel] at found
    cases found
  · intro fd registration found
    rw [fresh.kernel] at found
    cases found
  · rw [fresh.refcnt]
    exact counts_none (fun filp => by simp [empty filp])
  · rw [fresh.refcnt, fresh.holder]
    rfl

theorem woken_waiter (report : EpollReport F) (file : TxAiocb T) (side : Side) (task : T)
    (told : report.tells side = true) (slot : file.txFilter side = some task) :
    (task, report.ptr) ∈ report.woken file := by
  rw [woken_eq, List.mem_append]
  cases side with
  | input => exact Or.inr (by simp [told, slot])
  | output => exact Or.inl (by simp [told, slot])

variable [DecidableEq L] [DecidableEq T] [DecidableEq W] [DecidableEq P] [DecidableEq F]

theorem act_spec (s next : EpollPoller L T W P F) (action : PollAction L T W P F (EpollReport F))
    (exact : EpollExact s) (proper : Proper Reported s action) (succeeds : Succeeds s action)
    (result : epollAct s action = some next) (single : ∀ reports, action ≠ .polling reports) :
    EpollExact next ∧ ∀ filp, Becomes s action filp (next.filp filp) := by
  unfold epollAct at result
  cases action with
  | init filp fd answer =>
      obtain ⟨rfl, free⟩ := succeeds
      obtain ⟨kept, _, file, written, empty⟩ := exact.init filp fd next proper free result
      refine ⟨kept, becomes_update s next _ filp file written ⟨fun _ => watched_empty file empty, ?_⟩⟩
      intro _ live
      rw [proper] at live
      cases live
  | listen filp fd answer =>
      obtain ⟨rfl, free⟩ := succeeds
      obtain ⟨kept, _, file, written, empty⟩ := exact.listen filp fd next proper free result
      refine ⟨kept, becomes_update s next _ filp file written ⟨fun _ => watched_empty file empty, ?_⟩⟩
      intro _ live
      rw [proper] at live
      cases live
  | fini filp answer =>
      obtain rfl : answer = none := succeeds
      obtain ⟨kept, _, same | ⟨file, written, gone, slots⟩⟩ := exact.fini filp next proper result
      · exact ⟨kept, fun other => same ▸ becomes_refl s _ other⟩
      · refine ⟨kept, becomes_update s next _ filp file written (becomes_same s _ filp file ?_ slots)⟩
        intro _ live
        rw [gone] at live
        cases live
  | poll side filp answer =>
      obtain rfl : answer = none := succeeds
      rw [act_poll] at result
      have polled : txEpollPoll none side s filp = some next := by cases side <;> exact result
      obtain ⟨kept, written, _⟩ := exact.poll side filp next polled
      exact ⟨kept, becomes_update s next _ filp _ written
        (becomes_same s _ filp _ (watched_arm (s.filp filp) side) rfl)⟩
  | active side filp task answer =>
      obtain rfl : answer = none := succeeds
      rw [act_active] at result
      obtain ⟨kept, same | ⟨_, written⟩⟩ := exact.active side filp task next result
      · exact ⟨kept, fun other => same ▸ becomes_refl s _ other⟩
      · refine ⟨kept, becomes_update s next _ filp _ written (becomes_await s _ filp _ side task id rfl ?_)⟩
        exact fun one => one.imp_right And.right
  | cancel side filp verify =>
      rw [act_cancel] at result
      injection result with same
      subst same
      refine ⟨exact.same _ (same_cancel side s filp verify), ?_⟩
      unfold genericCancel
      split
      · rename_i verified
        apply becomes_update s _ _ filp _ rfl
        constructor
        · intro before live other waiter
          by_cases same : other = side
          · exact absurd (by simp [same]) waiter
          · exact before live other (by simpa [same] using waiter)
        · intro _ _ other task slot
          by_cases same : other = side
          · subst same
            exact Or.inr (by rw [verified, slot])
          · exact Or.inl (by simpa [same] using slot)
      · exact becomes_refl s _
  | update side filp len errno =>
      rw [act_update] at result
      injection result with same
      subst same
      refine ⟨exact.same _ (same_update side s filp len errno), ?_⟩
      unfold txUpdate
      split
      · exact becomes_refl s _
      · split
        · exact becomes_update s _ _ filp _ rfl (becomes_same s _ filp _ id rfl)
        · exact becomes_refl s _
  | connect filp error task answer =>
      obtain rfl : answer = none := succeeds
      obtain ⟨kept, able, ⟨pending, written⟩ | written⟩ := exact.connect filp error task next result
      · refine ⟨kept, becomes_update s next _ filp _ written (becomes_await s _ filp _ .output task id rfl ?_)⟩
        exact fun one => one pending
      · exact ⟨kept, becomes_update s next _ filp _ written (becomes_same s _ filp _ id rfl)⟩
  | polling reports => exact absurd rfl (single reports)
  | loop world =>
      injection result with same
      subst same
      have own : (world.task s.backend.pollTask).txLoop = s.up := step_own s.world world proper.1 _
      exact ⟨exact.same _ ⟨still_world s world own proper.2, rfl⟩, becomes_refl s _⟩

theorem polling_spec (s : EpollPoller L T W P F) (exact : EpollExact s) (reports : List (EpollReport F))
    (reported : Reported s reports) (answers : ∀ report ∈ reports, report.answer = none) :
    EpollExact (txEpollPolling s reports) ∧
      (∃ served, Told s (reports.flatMap (fun report => report.woken (s.filp report.ptr))) served ∧
        txEpollPolling s reports = served.release.relink) ∧
      (∀ report ∈ reports, (txEpollPolling s reports).filp report.ptr = report.leaves (s.filp report.ptr)) ∧
      ∀ filp, filp ∉ reports.map EpollReport.ptr → (txEpollPolling s reports).filp filp = s.filp filp := by
  obtain ⟨_, distinct, known⟩ := reported
  obtain ⟨kept, once⟩ := exact.polling reports distinct known (fun report member => Or.inl (answers report member))
  have filps : (txEpollPolling s reports).filp =
      (reports.foldl txEpollPollingOne (s.setKernel (epollWait s.backend.kernel reports))).filp := by
    exact (release_frame _).1
  refine ⟨kept, ⟨_, ?_, rfl⟩, ?_, ?_⟩
  · have told := batch_told reports (s.setKernel (epollWait s.backend.kernel reports)) once
    exact (told_nil s (s.setKernel (epollWait s.backend.kernel reports)) rfl rfl).trans told
  · intro report member
    rw [filps]
    exact batch_reported reports _ once report member
  · intro filp other
    rw [filps]
    exact batch_other reports _ filp other

theorem watched_polling (s : EpollPoller L T W P F) (exact : EpollExact s) (reports : List (EpollReport F))
    (reported : Reported s reports) (answers : ∀ report ∈ reports, report.answer = none)
    (watched : ∀ filp, (s.filp filp).watched) (filp : F) :
    ((txEpollPolling s reports).filp filp).watched := by
  obtain ⟨_, _, hits, misses⟩ := polling_spec s exact reports reported answers
  by_cases member : filp ∈ reports.map EpollReport.ptr
  · obtain ⟨report, inside, same⟩ := List.mem_map.mp member
    rw [← same, hits report inside]
    exact watched_leaves report _ (watched report.ptr)
  · rw [misses filp member]
    exact watched filp

theorem exact_run (start s : EpollPoller L T W P F) (fresh : Fresh (fun _ => none) start)
    (actions : List (PollAction L T W P F (EpollReport F)))
    (allowed : Runs.Allowed epollAct (fun s action => Proper Reported s action ∧ Succeeds s action)
      start actions)
    (reached : Runs.run epollAct start actions = some s) :
    EpollExact s ∧ ∀ filp, (s.filp filp).watched := by
  apply Runs.keeps_run (fun s action => Proper Reported s action ∧ Succeeds s action)
    (fun s => EpollExact s ∧ ∀ filp, (s.filp filp).watched) _ start s actions allowed _ reached
  · intro s action next fine held step
    by_cases batch : ∃ reports, action = .polling reports
    · obtain ⟨reports, rfl⟩ := batch
      injection step with same
      subst same
      exact ⟨(polling_spec s held.1 reports fine.1 fine.2).1,
        watched_polling s held.1 reports fine.1 fine.2 held.2⟩
    · have single : ∀ reports, action ≠ .polling reports := fun reports same => batch ⟨reports, same⟩
      obtain ⟨kept, becomes⟩ := act_spec s next action held.1 fine.1 fine.2 step single
      exact ⟨kept, fun filp => (becomes filp).watched (held.2 filp)⟩
  · refine ⟨exact_fresh start fresh, ?_⟩
    intro filp live
    rw [fresh.unattached filp] at live
    cases live

def loneEpoll : EpollPoller Unit Bool Unit Unit Unit := lonePoller (fun _ => none)

def loneActions : List (PollAction Unit Bool Unit Unit Unit (EpollReport Unit)) :=
  [.init () 3 none, .active .input () (some false) none]

def loneArmed : EpollPoller Unit Bool Unit Unit Unit :=
  (Runs.run epollAct loneEpoll loneActions).getD loneEpoll

theorem lone_allowed :
    Runs.Allowed epollAct (fun s action => Proper Reported s action ∧ Succeeds s action) loneEpoll
      loneActions :=
  ⟨⟨rfl, rfl, fun _ => rfl⟩, fun _ _ => ⟨⟨trivial, rfl⟩, fun _ _ => trivial⟩⟩

/-- The reference count is the number of objects with an armed direction, the epoll poller
holds the loop while there is one, and then no other poller sleeps. -/
theorem epoll_account (start s : EpollPoller L T W P F) (fresh : Fresh (fun _ => none) start)
    (actions : List (PollAction L T W P F (EpollReport F)))
    (allowed : Runs.Allowed epollAct (fun s action => Proper Reported s action ∧ Succeeds s action)
      start actions)
    (reached : Runs.run epollAct start actions = some s) :
    {filp | (s.filp filp).live = true ∧ ∃ side, (s.filp filp).txFlags.poll side = true}.Finite ∧
      s.backend.epollRefcnt =
        ({filp | (s.filp filp).live = true ∧ ∃ side, (s.filp filp).txFlags.poll side = true}.ncard : Int) ∧
      (s.holder = some s.backend.address ↔ 0 < s.backend.epollRefcnt) ∧
      ∀ filp side, (s.filp filp).live = true → (s.filp filp).txFlags.poll side = true →
        ∀ verify, verify ≠ some s.backend.address → txLoopTimeout (s.world.loop s.up) verify = 0 := by
  obtain ⟨exact, _⟩ := exact_run start s fresh actions allowed reached
  have polled (filp : F) : ((s.filp filp).live = true ∧ ∃ side, (s.filp filp).txFlags.poll side = true) ↔
      (s.core filp).polled = true := polled_iff (s.filp filp)
  have counts := exact.held.counts.congr polled
  have held := exact.held.holder_iff
  refine ⟨counts.ncard.1, counts.ncard.2, held, ?_⟩
  intro filp side live on verify other
  exact held_timeout _ _ verify (held.mpr (counts.pos.mpr ⟨filp, live, side, on⟩)) other

theorem epoll_account_lone :
    loneArmed.backend.epollRefcnt =
        ({filp | (loneArmed.filp filp).live = true ∧
          ∃ side, (loneArmed.filp filp).txFlags.poll side = true}.ncard : Int) ∧
      loneArmed.backend.epollRefcnt = 1 :=
  ⟨(epoll_account loneEpoll loneArmed (fresh_lone _) loneActions lone_allowed rfl).2.1, rfl⟩

end Libtx
