import Libtx.Aiocb.Waiter

namespace Libtx

open Count

variable {L T W P F : Type}

/-- What `epoll_wait` can return: each descriptor once, not for a registration that a report
has disarmed, and besides hang-ups and errors only what the registration asks for. -/
def Delivered (s : EpollPoller L T W P F) (reports : List (EpollReport F)) : Prop :=
  reports.length ≤ MAX_EVENTS ∧ (reports.map EpollReport.fd).Nodup ∧
    ∀ report ∈ reports, (∃ side, report.tells side = true) ∧ ∃ registration,
      s.backend.kernel report.fd = some registration ∧ registration.event.ptr = report.ptr ∧
        registration.disarmed = false ∧
        ∀ side, report.mask side = true → registration.event.mask side = true

/-- `EPOLL_CTL_ADD` and `EPOLL_CTL_DEL` succeed; `EPOLL_CTL_MOD` may fail. -/
def Attaches (s : EpollPoller L T W P F) : PollAction L T W P F (EpollReport F) → Prop
  | .init _ fd answer | .listen _ fd answer => answer = none ∧ (fd ≠ -1 → s.backend.kernel fd = none)
  | .fini _ answer => answer = none
  | _ => True

def Unsolicited (file : TxAiocb T) : Prop := ∀ side, file.txFlags.poll side = false

/-- A batch reports an object that has no direction armed. -/
def Surprises (s : EpollPoller L T W P F) : PollAction L T W P F (EpollReport F) → Prop
  | .polling reports => ∃ report ∈ reports, Unsolicited (s.filp report.ptr)
  | _ => False

/-- A batch reports an object that has no direction armed, or a direction that it leaves over
cannot be armed again. -/
def Disarms (s : EpollPoller L T W P F) : PollAction L T W P F (EpollReport F) → Prop
  | .polling reports => ∃ report ∈ reports, Unsolicited (s.filp report.ptr) ∨
      report.answer ≠ none ∧
        ∃ side, (s.filp report.ptr).txFlags.poll side = true ∧ report.tells side = false
  | _ => False

structure EpollCovers (s : EpollPoller L T W P F) : Prop where
  finite : {filp | (s.filp filp).live = true ∧ ∃ side, (s.filp filp).txFlags.poll side = true}.Finite
  enough : ({filp | (s.filp filp).live = true ∧ ∃ side, (s.filp filp).txFlags.poll side = true}.ncard : Int) ≤
    s.backend.epollRefcnt
  holder : ∀ filp side, (s.filp filp).live = true → (s.filp filp).txFlags.poll side = true →
    s.holder ≠ none

/-- Every flag of an attached object stands for an armed direction, and the reference count
is the number of objects with a flag. -/
structure EpollTracks (s : EpollPoller L T W P F) : Prop where
  armed : ∀ filp side, (s.filp filp).live = true → (s.filp filp).txFlags.poll side = true →
    ∃ registration, s.backend.kernel (s.filp filp).txFd = some registration ∧
      registration.event.ptr = filp ∧ registration.armed side = true
  finite : {filp | (s.filp filp).live = true ∧ ∃ side, (s.filp filp).txFlags.poll side = true}.Finite
  exactly : s.backend.epollRefcnt =
    ({filp | (s.filp filp).live = true ∧ ∃ side, (s.filp filp).txFlags.poll side = true}.ncard : Int)

theorem polls_iff (file : TxAiocb T) : file.polls = true ↔ ∃ side, file.txFlags.poll side = true := by
  rw [TxAiocb.polls, Bool.or_eq_true]
  constructor
  · rintro (on | on)
    · exact ⟨.input, on⟩
    · exact ⟨.output, on⟩
  · rintro ⟨side, on⟩
    cases side with
    | input => exact Or.inl on
    | output => exact Or.inr on

theorem polls_off (file : TxAiocb T) : file.polls = false ↔ Unsolicited file := by
  rw [← Bool.not_eq_true, polls_iff, not_exists]
  exact forall_congr' (fun side => Bool.not_eq_true _ ▸ Iff.rfl)

theorem draws_iff (report : EpollReport F) (file : TxAiocb T) (live : file.live = true) :
    report.draws file = true ↔ Unsolicited file ∨
      report.answer ≠ none ∧ ∃ side, file.txFlags.poll side = true ∧ report.tells side = false := by
  have left : (report.leaves file).polls = true ↔
      ∃ side, file.txFlags.poll side = true ∧ report.tells side = false := by
    rw [polls_iff]
    simp [EpollReport.leaves]
  rw [EpollReport.draws, Bool.or_eq_true, Bool.not_eq_true', polled_live file live, polls_off,
    Bool.and_eq_true, left, Option.isSome_iff_ne_none, and_comm]

section Operations

variable {s : EpollPoller L T W P F}

theorem EpollExact.counts (exact : EpollExact s) :
    Counts (fun filp => (s.filp filp).live = true ∧ ∃ side, (s.filp filp).txFlags.poll side = true)
      s.backend.epollRefcnt :=
  exact.held.counts.congr (fun filp => polled_iff (s.filp filp))

theorem EpollExact.covers (exact : EpollExact s) : EpollCovers s := by
  refine ⟨exact.counts.ncard.1, exact.counts.ncard.2.ge, ?_⟩
  intro filp side live on free
  have held := exact.held.holder_iff.mpr (exact.counts.pos.mpr ⟨filp, live, side, on⟩)
  rw [free] at held
  cases held

theorem EpollExact.tracks (exact : EpollExact s) : EpollTracks s := by
  refine ⟨?_, exact.counts.ncard.1, exact.counts.ncard.2⟩
  intro filp side live on
  obtain ⟨registration, found, ptr, masks⟩ := exact.masked.armed filp live
  exact ⟨registration, found, ptr, (masks side).mpr ⟨on, not_false⟩⟩

variable [DecidableEq L] [DecidableEq P] [DecidableEq F]

theorem poll_failed (errno : Errno) (side : Side) (filp : F) (next : EpollPoller L T W P F)
    (result : txEpollPoll (some errno) side s filp = some next) : s.hold = next := by
  unfold txEpollPoll at result
  dsimp only at result
  split at result
  · split at result
    · injection result
    · cases result
  · injection result

theorem EpollExact.poll_any (exact : EpollExact s) (answer : Option Errno) (side : Side) (filp : F)
    (next : EpollPoller L T W P F) (result : txEpollPoll answer side s filp = some next) :
    EpollExact next := by
  cases answer with
  | none => exact (exact.poll side filp next result).1
  | some errno =>
      rw [← poll_failed errno side filp next result]
      exact exact_hold _ _ exact.held exact.masked exact.held.counts (fun _ polled => polled)

variable [DecidableEq T] [DecidableEq W]

theorem EpollExact.delivered (exact : EpollExact s) (reports : List (EpollReport F))
    (delivered : Delivered s reports)
    (fine : ∀ report ∈ reports, report.draws (s.filp report.ptr) = false) :
    EpollExact (txEpollPolling s reports) := by
  obtain ⟨_, once, known⟩ := delivered
  refine (exact.polling reports once ?_ ?_).1
  · intro report member
    obtain ⟨_, registration, found, ptr, undisarmed, _⟩ := known report member
    refine ⟨registration, found, ptr, ?_⟩
    have polled : (s.filp report.ptr).core.polled = true := by
      simpa using (Bool.or_eq_false_iff.mp (fine report member)).1
    obtain ⟨live, side, on⟩ := (polled_iff (s.filp report.ptr)).mpr polled
    obtain ⟨again, refound, _, masks⟩ := exact.masked.armed report.ptr live
    have place := (exact.masked.registered report.fd registration found).2
    rw [ptr] at place
    rw [place, found] at refound
    injection refound with same
    exact ⟨side, same ▸ (masks side).mpr ⟨on, not_false⟩⟩
  · intro report member
    have answered := (Bool.or_eq_false_iff.mp (fine report member)).2
    rw [Bool.and_eq_false_iff] at answered
    rcases answered with quiet | answer
    · exact Or.inr quiet
    · exact Or.inl (Option.isSome_eq_false_iff.mp answer |> Option.isNone_iff_eq_none.mp)

theorem EpollExact.short (exact : EpollExact s) (reports : List (EpollReport F))
    (delivered : Delivered s reports)
    (draws : ∃ report ∈ reports, report.draws (s.filp report.ptr) = true) :
    ∃ count, Counts (fun filp => ((txEpollPolling s reports).core filp).polled = true) count ∧
      (txEpollPolling s reports).backend.epollRefcnt < count := by
  obtain ⟨_, distinct, known⟩ := delivered
  have places (report : EpollReport F) (member : report ∈ reports) :
      (s.core report.ptr).live = true ∧ (s.core report.ptr).fd = report.fd := by
    obtain ⟨_, registration, found, ptr, _⟩ := known report member
    exact ptr ▸ exact.masked.registered report.fd registration found
  have once := ptr_nodup s.core reports (fun report member => (places report member).2) distinct
  have waiting : Drawn 0 reports (s.setKernel (epollWait s.backend.kernel reports)) := by
    refine ⟨?_, fun report member => (places report member).1, ?_, once⟩
    · rw [add_zero]
      exact exact.held.counts
    intro report member
    obtain ⟨_, registration, found, _⟩ := known report member
    have place : ((s.setKernel (epollWait s.backend.kernel reports)).core report.ptr).fd = report.fd :=
      (places report member).2
    rw [place]
    simp [Poller.setKernel, epollWait, found]
  obtain ⟨short, counts, more⟩ := waiting.batch
  have positive := more draws
  let served := reports.foldl txEpollPollingOne (s.setKernel (epollWait s.backend.kernel reports))
  have same : Same served.release (txEpollPolling s reports) := same_relink served.release
  refine ⟨served.backend.epollRefcnt + 0 + short, ?_, ?_⟩
  · rw [same.core, core_release]
    exact counts
  · rw [same.backend, (release_frame served).2.1]
    omega

theorem kept_harmless (s next : EpollPoller L T W P F) (action : PollAction L T W P F (EpollReport F))
    (exact : EpollExact s) (proper : Proper Delivered s action) (attaches : Attaches s action)
    (harmless : ¬ Disarms s action) (result : epollAct s action = some next) : EpollExact next := by
  unfold epollAct at result
  cases action with
  | init filp fd answer =>
      obtain ⟨rfl, free⟩ := attaches
      exact (exact.init filp fd next proper free result).1
  | listen filp fd answer =>
      obtain ⟨rfl, free⟩ := attaches
      exact (exact.listen filp fd next proper free result).1
  | fini filp answer =>
      obtain rfl : answer = none := attaches
      exact (exact.fini filp next proper result).1
  | poll side filp answer =>
      rw [act_poll, epollOps_txPoll] at result
      exact exact.poll_any answer side filp next result
  | active side filp task answer =>
      rw [act_active] at result
      apply active_keeps (epollOps answer) side s filp task next EpollExact exact.same _ result
      intro mid same polled
      rw [epollOps_txPoll] at polled
      exact (exact.same mid same).poll_any answer side filp next polled
  | cancel side filp verify =>
      rw [act_cancel] at result
      injection result with same
      exact same ▸ exact.same _ (same_cancel side s filp verify)
  | update side filp len errno =>
      rw [act_update] at result
      injection result with same
      exact same ▸ exact.same _ (same_update side s filp len errno)
  | connect filp error task answer =>
      apply connect_keeps (epollOps answer) s filp error task next EpollExact exact.same _ result
      intro mid same polled
      exact (exact.same mid same).poll_any answer .output filp next polled
  | polling reports =>
      injection result with same
      rw [← same]
      apply exact.delivered reports proper
      intro report member
      rw [← Bool.not_eq_true]
      intro draws
      obtain ⟨_, registration, found, ptr, _⟩ := proper.2.2 report member
      have live := (exact.masked.registered report.fd registration found).1
      rw [ptr] at live
      exact harmless ⟨report, member, (draws_iff report _ live).mp draws⟩
  | loop world =>
      injection result with same
      have own : (world.task s.backend.pollTask).txLoop = s.up := step_own s.world world proper.1 _
      exact same ▸ exact.same _ ⟨still_world s world own proper.2, rfl⟩

theorem short_harmful (s next : EpollPoller L T W P F) (action : PollAction L T W P F (EpollReport F))
    (exact : EpollExact s) (proper : Proper Delivered s action) (harm : Disarms s action)
    (result : epollAct s action = some next) :
    next.backend.epollRefcnt <
      ({filp | (next.filp filp).live = true ∧ ∃ side, (next.filp filp).txFlags.poll side = true}.ncard : Int) := by
  cases action with
  | polling reports =>
      injection result with same
      obtain ⟨report, member, lost⟩ := harm
      obtain ⟨_, registration, found, ptr, _⟩ := proper.2.2 report member
      have live := (exact.masked.registered report.fd registration found).1
      rw [ptr] at live
      obtain ⟨count, counts, less⟩ := exact.short reports proper
        ⟨report, member, (draws_iff report _ live).mpr lost⟩
      rw [← same, ← (counts.congr (fun filp => polled_iff _)).ncard.2]
      exact less
  | init | listen | fini | poll | active | cancel | update | connect | loop => exact harm.elim

end Operations

section Runs

variable [DecidableEq L] [DecidableEq T] [DecidableEq W] [DecidableEq P] [DecidableEq F]

/-- The references cover the armed objects all through a run if and only if no batch reports
an object that has no direction armed. -/
theorem epoll_covers (start last : EpollPoller L T W P F) (fresh : Fresh (fun _ => none) start)
    (actions : List (PollAction L T W P F (EpollReport F)))
    (allowed : Runs.Allowed epollAct (fun s action => Proper Delivered s action ∧ Succeeds s action)
      start actions)
    (ended : Runs.run epollAct start actions = some last) :
    (∀ front back s, actions = front ++ back → Runs.run epollAct start front = some s → EpollCovers s) ↔
      Runs.Allowed epollAct (fun s action => ¬ Surprises s action) start actions := by
  apply Runs.harmless_iff (fun s action => Proper Delivered s action ∧ Succeeds s action) Surprises
    EpollExact EpollCovers (fun _ exact => exact.covers) _ _ start last actions allowed
    (exact_fresh start fresh) ended
  · rintro s action next ⟨proper, succeeds⟩ harmless exact step
    apply kept_harmless s next action exact proper _ _ step
    · cases action <;> first | exact succeeds | exact trivial
    · intro harm
      cases action with
      | polling reports =>
          obtain ⟨report, member, none | ⟨failed, _⟩⟩ := harm
          · exact harmless ⟨report, member, none⟩
          · exact failed (succeeds report member)
      | init | listen | fini | poll | active | cancel | update | connect | loop => exact harm
  · rintro s action next ⟨proper, _⟩ harm exact step covers
    have disarms : Disarms s action := by
      cases action with
      | polling reports =>
          obtain ⟨report, member, none⟩ := harm
          exact ⟨report, member, Or.inl none⟩
      | init | listen | fini | poll | active | cancel | update | connect | loop => exact harm
    have short := short_harmful s next action exact proper disarms step
    exact absurd covers.enough (not_le.mpr short)

/-- The flags and the reference count stand for what is armed all through a run if and only if
every re-arming after a report succeeds and no report is about an object without a flag. -/
theorem epoll_tracks (start last : EpollPoller L T W P F) (fresh : Fresh (fun _ => none) start)
    (actions : List (PollAction L T W P F (EpollReport F)))
    (allowed : Runs.Allowed epollAct (fun s action => Proper Delivered s action ∧ Attaches s action)
      start actions)
    (ended : Runs.run epollAct start actions = some last) :
    (∀ front back s, actions = front ++ back → Runs.run epollAct start front = some s → EpollTracks s) ↔
      Runs.Allowed epollAct (fun s action => ¬ Disarms s action) start actions := by
  apply Runs.harmless_iff (fun s action => Proper Delivered s action ∧ Attaches s action) Disarms
    EpollExact EpollTracks (fun _ exact => exact.tracks) _ _ start last actions allowed
    (exact_fresh start fresh) ended
  · rintro s action next ⟨proper, attaches⟩ harmless exact step
    exact kept_harmless s next action exact proper attaches harmless step
  · rintro s action next ⟨proper, _⟩ harm exact step tracks
    exact absurd tracks.exactly (short_harmful s next action exact proper harm step).ne

def epollAfter (actions : List (PollAction Unit Bool Unit Unit Unit (EpollReport Unit))) :
    EpollPoller Unit Bool Unit Unit Unit :=
  (Runs.run epollAct loneEpoll actions).getD loneEpoll

def readActions : List (PollAction Unit Bool Unit Unit Unit (EpollReport Unit)) :=
  [.init () 3 none, .poll .input () none,
    .polling [⟨3, (), fun side => decide (side = .input), true, false, none⟩]]

theorem reads_only (mask : Side → Bool) (on : mask .input = true) (side : Side)
    (asked : decide (side = .input) = true) : mask side = true := by
  rw [of_decide_eq_true asked, on]

theorem read_allowed (ok : EpollPoller Unit Bool Unit Unit Unit →
      PollAction Unit Bool Unit Unit Unit (EpollReport Unit) → Prop)
    (init : ok loneEpoll (.init () 3 none)) (poll : ∀ s, ok s (.poll .input () none))
    (polling : ∀ s, ok s (.polling [⟨3, (), fun side => decide (side = .input), true, false, none⟩])) :
    Runs.Allowed epollAct (fun s action => Proper Delivered s action ∧ ok s action) loneEpoll readActions := by
  refine ⟨⟨rfl, init⟩, fun _ first => ⟨⟨trivial, poll _⟩, fun _ second => ?_⟩⟩
  cases first
  cases second
  refine ⟨⟨⟨by decide, by decide, ?_⟩, polling _⟩, fun _ _ => trivial⟩
  intro report member
  rw [List.mem_singleton.mp member]
  exact ⟨⟨.input, rfl⟩, _, rfl, rfl, rfl, reads_only _ rfl⟩

theorem read_harmless (harm : EpollPoller Unit Bool Unit Unit Unit →
      PollAction Unit Bool Unit Unit Unit (EpollReport Unit) → Prop)
    (init : ¬ harm loneEpoll (.init () 3 none)) (poll : ∀ s, ¬ harm s (.poll .input () none))
    (polling : ∀ s, (s.filp ()).txFlags.poll .input = true →
      ¬ harm s (.polling [⟨3, (), fun side => decide (side = .input), true, false, none⟩])) :
    Runs.Allowed epollAct (fun s action => ¬ harm s action) loneEpoll readActions := by
  refine ⟨init, fun _ first => ⟨poll _, fun next second => ?_⟩⟩
  cases first
  cases second
  exact ⟨polling _ rfl, fun _ _ => trivial⟩

theorem epoll_covers_read : EpollCovers (epollAfter readActions) := by
  have allowed := read_allowed Succeeds ⟨rfl, fun _ => rfl⟩ (fun _ => rfl)
    (fun _ report member => by rw [List.mem_singleton.mp member])
  have harmless := read_harmless Surprises not_false (fun _ => not_false) (by
    intro s on harm
    obtain ⟨report, member, off⟩ := harm
    rw [List.mem_singleton.mp member] at off
    exact absurd (on.symm.trans (off .input)) (by decide))
  exact (epoll_covers loneEpoll (epollAfter readActions) (fresh_lone _) readActions allowed rfl).mpr
    harmless readActions [] _ (List.append_nil _).symm rfl

theorem epoll_tracks_read : EpollTracks (epollAfter readActions) := by
  have allowed := read_allowed Attaches ⟨rfl, fun _ => rfl⟩ (fun _ => trivial) (fun _ => trivial)
  have harmless := read_harmless Disarms not_false (fun _ => not_false) (by
    intro s on harm
    obtain ⟨report, member, off | failed⟩ := harm
    · rw [List.mem_singleton.mp member] at off
      exact absurd (on.symm.trans (off .input)) (by decide)
    · rw [List.mem_singleton.mp member] at failed
      exact failed.1 rfl)
  exact (epoll_tracks loneEpoll (epollAfter readActions) (fresh_lone _) readActions allowed rfl).mpr
    harmless readActions [] _ (List.append_nil _).symm rfl

def hungActions : List (PollAction Unit Bool Unit Unit Unit (EpollReport Unit)) :=
  [.init () 3 none, .polling [⟨3, (), fun _ => false, true, false, none⟩]]

theorem epoll_hangup_short :
    Fresh (fun _ => none) loneEpoll ∧
      Runs.Allowed epollAct (fun s action => Proper Delivered s action ∧ Succeeds s action) loneEpoll
        hungActions ∧
      Runs.run epollAct loneEpoll hungActions = some (epollAfter hungActions) ∧
      (epollAfter hungActions).backend.epollRefcnt = -1 ∧ ¬ EpollCovers (epollAfter hungActions) := by
  refine ⟨fresh_lone _, ?_, rfl, rfl, ?_⟩
  · refine ⟨⟨rfl, rfl, fun _ => rfl⟩, fun _ first => ?_⟩
    cases first
    refine ⟨⟨⟨by decide, by decide, ?_⟩, ?_⟩, fun _ _ => trivial⟩
    · intro report member
      rw [List.mem_singleton.mp member]
      exact ⟨⟨.input, rfl⟩, _, rfl, rfl, rfl, fun _ on => by cases on⟩
    · intro report member
      rw [List.mem_singleton.mp member]
  · intro covers
    have negative : (epollAfter hungActions).backend.epollRefcnt = -1 := rfl
    have enough := covers.enough
    rw [negative] at enough
    omega

def failedActions : List (PollAction Unit Bool Unit Unit Unit (EpollReport Unit)) :=
  [.init () 3 none, .poll .input () none, .poll .output () none,
    .polling [⟨3, (), fun side => decide (side = .input), false, false, some .other⟩]]

theorem epoll_stale_flag :
    Fresh (fun _ => none) loneEpoll ∧
      Runs.Allowed epollAct (fun s action => Proper Delivered s action ∧ Attaches s action) loneEpoll
        failedActions ∧
      Runs.run epollAct loneEpoll failedActions = some (epollAfter failedActions) ∧
      ((epollAfter failedActions).filp ()).live = true ∧
      ((epollAfter failedActions).filp ()).txFlags.poll .output = true ∧
      (∀ registration, (epollAfter failedActions).backend.kernel 3 = some registration →
        registration.armed .output = false) ∧
      (epollAfter failedActions).backend.epollRefcnt = 0 ∧ ¬ EpollTracks (epollAfter failedActions) := by
  have unarmed : ∀ registration, (epollAfter failedActions).backend.kernel 3 = some registration →
      registration.armed .output = false := by
    intro registration found
    injection found with same
    exact same ▸ rfl
  refine ⟨fresh_lone _, ?_, rfl, rfl, rfl, unarmed, rfl, ?_⟩
  · refine ⟨⟨rfl, rfl, fun _ => rfl⟩, fun _ first => ⟨⟨trivial, trivial⟩, fun _ second =>
      ⟨⟨trivial, trivial⟩, fun _ third => ?_⟩⟩⟩
    cases first
    cases second
    cases third
    refine ⟨⟨⟨by decide, by decide, ?_⟩, trivial⟩, fun _ _ => trivial⟩
    intro report member
    rw [List.mem_singleton.mp member]
    exact ⟨⟨.input, rfl⟩, _, rfl, rfl, rfl, reads_only _ rfl⟩
  · intro tracks
    obtain ⟨registration, found, _, armed⟩ := tracks.armed () .output rfl rfl
    rw [unarmed registration found] at armed
    cases armed

end Runs

end Libtx
