import Libtx.Stdio.Turn

namespace Libtx

open Intrusive

variable {L T W P F : Type} [DecidableEq L] [DecidableEq F]

section Init

variable {s next : EpollPoller L T W P F}

structure Blank (file : TxAiocb T) : Prop where
  empty : ∀ side, file.txFilter side = none
  off : ∀ side, file.txFlags.poll side = false
  writable : file.txFlags.able .output = true

variable [DecidableEq P]

theorem init_blank (answer : Option Errno) (filp : F) (fd : Int)
    (result : txAiocbInit (epollOps answer) s filp fd = some next) :
    ∃ file, next.filp = Function.update s.filp filp file ∧ Blank file := by
  unfold txAiocbInit at result
  dsimp only at result
  split at result
  · injection result with same
    subst same
    exact ⟨_, rfl, fun _ => rfl, fun _ => rfl, rfl⟩
  · have attached : txEpollAttach answer (s.setFilp filp (fun _ => TxAiocb.fresh fd)) filp = next :=
      Option.some.inj result
    unfold txEpollAttach at attached
    dsimp only at attached
    split at attached
    · split at attached
      · subst attached
        refine ⟨_, Function.update_idem _ _ _, fun _ => ?_, fun _ => ?_, ?_⟩
        · simp [Poller.setKernel, Poller.setFilp, TxAiocb.fresh]
        · simp [Poller.setKernel, Poller.setFilp, TxAiocb.fresh]
        · simp [Poller.setKernel, Poller.setFilp, TxAiocb.fresh]
      · subst attached
        refine ⟨_, Function.update_idem _ _ _, fun _ => ?_, fun _ => ?_, ?_⟩
        · simp [Poller.setFilp, TxAiocb.fresh]
        · simp [Poller.setFilp, TxAiocb.fresh]
        · rfl
      · subst attached
        exact ⟨_, rfl, fun _ => rfl, fun _ => rfl, rfl⟩
    · subst attached
      exact ⟨_, rfl, fun _ => rfl, fun _ => rfl, rfl⟩

theorem EpollExact.attach (exact : EpollExact s) (filp : F) (fd : Int) (attach : Option Errno)
    (dead : (s.filp filp).live = false) (attachable : Attachable s.backend.kernel fd attach)
    (result : txAiocbInit (epollOps attach) s filp fd = some next) : EpollExact next := by
  rcases attachable with ⟨rfl, free⟩ | rfl
  · exact (exact.init filp fd next dead free result).1
  · unfold txAiocbInit at result
    dsimp only at result
    split at result
    · injection result with same
      subst same
      exact exact.rewrite filp _ dead rfl _ rfl (exact.masked.outside filp dead _ rfl) rfl rfl rfl
    · have attached : txEpollAttach (some .eperm) (s.setFilp filp (fun _ => TxAiocb.fresh fd)) filp = next :=
        Option.some.inj result
      let file : TxAiocb T :=
        { TxAiocb.fresh fd with txFlags := { (TxAiocb.fresh fd : TxAiocb T).txFlags with able := fun _ => true } }
      have written : next.filp = Function.update s.filp filp file := by
        rw [← attached]
        simp [txEpollAttach, epollCtl, Poller.setFlags, Poller.setFilp, file, TxAiocb.fresh]
      have same : next.backend = s.backend ∧ next.world = s.world := by
        rw [← attached]
        simp [txEpollAttach, epollCtl, Poller.setFlags, Poller.setFilp, TxAiocb.fresh]
      have masked := exact.masked.outside filp dead file.core rfl
      apply exact.rewrite filp file dead rfl next written
      · rw [same.1]
        exact masked
      · rw [same.1]
      · rw [same.1]
      · simp [Poller.holder, Poller.up, same.1, same.2]

end Init

variable [DecidableEq T] [DecidableEq W]

section Main

variable {own : StdioTask L T F} {s next : Stdio L T W P F}

omit [DecidableEq L] [DecidableEq W] [DecidableEq F] in
theorem same_taskInit (s : EpollPoller L T W P F) (task : T) (up : L) (apart : s.backend.pollTask ≠ task) :
    Same s (s.taskInit task up) := by
  refine ⟨still_world s _ ?_ rfl, rfl⟩
  simp [Poller.up, apart]

structure SetUp (own : StdioTask L T F) (s : Stdio L T W P F) : Prop extends Sound own s where
  copied : s.stdout = s.received
  opened : s.opened = true
  going : s.ended = false
  linked : (s.flags own).idle = true ∨ (s.flags own).busy = true ∧ s.sent = false

theorem Sound.readied (sound : Sound own s) (opened : s.opened = true) (going : s.ended = false) :
    Sound own (s.setPoller (taskActiveBy s.poller (some own.task) own.file)) ∧
      ((s.setPoller (taskActiveBy s.poller (some own.task) own.file)).flags own).busy = true := by
  have busies := busies_active s.poller.world sound.refined own.task own.up (some own.file)
    (sound.loop opened) (sound.stops.trans going)
  have beside : Beside own s (taskActiveBy s.poller (some own.task) own.file) := busies.beside rfl
  have exact := sound.exact.same _ (same_taskActiveBy s.poller (some own.task) own.file)
  refine ⟨?_, busies.busy⟩
  exact sound.write _ beside exact (s.poller.filp own.file) (Function.update_eq_self _ _).symm
    (sound.watched own.file)
    (fun side slot => ⟨opened, (sound.slots own.file side slot).2.2⟩) sound.unread sound.polled

theorem active_able (ops : TxPollOp (EpollPoller L T W P F) F) (side : Side) (poller : EpollPoller L T W P F)
    (filp : F) (task : Option T) (able : (poller.filp filp).txFlags.able side = true) :
    genericActive ops side poller filp task = some (taskActiveBy poller task filp) := by
  rw [genericActive, if_pos able]

variable [DecidableEq P]

omit [DecidableEq W] in
theorem Attends.inited (attends : Attends own s) (fd : Int) (attach : Option Errno)
    (poller : EpollPoller L T W P F) (closed : s.opened = false) (going : s.ended = false)
    (fresh : (s.flags own).idle = true)
    (attachable : Attachable s.poller.backend.kernel fd attach)
    (dead : (s.poller.filp own.file).live = false)
    (result : txAiocbInit (epollOps attach) s.poller own.file fd = some poller) :
    SetUp own { s with poller := poller.taskInit own.task own.up, opened := true } ∧
      ((poller.taskInit own.task own.up).filp own.file).txFlags.able .output = true := by
  obtain ⟨file, written, blank⟩ := init_blank attach own.file fd result
  have skips := skips_init own.task own.up attach own.file fd result
  have exact := attends.exact.attach own.file fd attach dead attachable result
  have off : (poller.filp own.file).txFlags.poll .input = false := by
    rw [written, Function.update_self]
    exact blank.off .input
  have sound : Sound own (s.setPoller poller) := by
    apply attends.toSound.write poller (skips.beside attends.toSound) exact file written
    · exact watched_empty file blank.empty
    · intro side slot
      rw [blank.empty side] at slot
      cases slot
    · intro slot
      rw [blank.empty .input] at slot
      cases slot
    · intro opened
      rw [closed] at opened
      cases opened
  have unslotted (filp : F) (side : Side) : (poller.filp filp).txFilter side ≠ some own.task := by
    intro slot
    have opened := (sound.slots filp side slot).1
    rw [show (s.setPoller poller).opened = false from closed] at opened
    cases opened
  have idle : (poller.world.task own.task).txFlags.idle = true := by
    rw [skips.task]
    exact fresh
  obtain ⟨v, h⟩ := sound.refined
  refine ⟨⟨?_, attends.copied, rfl, going, Or.inl ?_⟩, ?_⟩
  · constructor
    · exact ⟨v, h.taskInit own.task own.up idle⟩
    · exact exact.same _ (same_taskInit poller own.task own.up (Ne.symm sound.apart))
    · exact sound.watched
    · exact sound.apart
    · intro _
      simp [Poller.taskInit, txTaskInit]
    · exact fun filp side slot => absurd slot (unslotted filp side)
    · exact sound.unread
    · intro _ polls
      rw [show (poller.filp own.file).txFlags.poll .input = true from polls] at off
      cases off
    · exact sound.stops
  · simp [Stdio.flags, Poller.taskInit, txTaskInit]
  · change (poller.filp own.file).txFlags.able .output = true
    rw [written, Function.update_self]
    exact blank.writable

theorem SetUp.prepares (setUp : SetUp own s) (unsent : s.sent = false)
    (writable : (s.poller.filp own.file).txFlags.able .output = true) (arm : Option Errno)
    (poller : EpollPoller L T W P F)
    (prepared : txOutcbPrepare (epollOps arm) s.poller own.file (some own.task) = some poller) :
    SetUp own (s.setPoller poller) := by
  obtain ⟨sound, busy⟩ := setUp.toSound.readied setUp.opened setUp.going
  have same : poller = taskActiveBy s.poller (some own.task) own.file := by
    have active : genericActive (epollOps arm) .output s.poller own.file (some own.task) = some poller :=
      prepared
    rw [active_able (epollOps arm) .output s.poller own.file _ writable] at active
    exact (Option.some.inj active).symm
  rw [same]
  exact ⟨sound, setUp.copied, setUp.opened, setUp.going, Or.inr ⟨busy, unsent⟩⟩

theorem SetUp.attends (setUp : SetUp own s) (awaited : s.await own none = some next) : Attends own next := by
  cases readable : s.readable own with
  | false =>
      obtain ⟨sound, flags, slot, live, poller, same⟩ := setUp.toSound.awaits setUp.opened readable awaited
      have opened : next.opened = true := same ▸ setUp.opened
      have going : next.ended = false := same ▸ setUp.going
      have copied : next.stdout = next.received := same ▸ setUp.copied
      rcases setUp.linked with idle | ⟨busy, unsent⟩
      · exact ⟨sound, copied, .waiting, opened, going, flags ▸ idle, slot, live⟩
      · have still : next.sent = false := same ▸ unsent
        exact ⟨sound, copied, .queued, opened, going, flags ▸ busy, Or.inr ⟨still, live⟩⟩
  | true =>
      obtain ⟨sound, busy⟩ := setUp.toSound.readied setUp.opened setUp.going
      obtain ⟨poller, result, same⟩ := Option.map_eq_some_iff.mp awaited
      have active : genericActive (epollOps none) .input s.poller own.file (some own.task) = some poller := result
      rw [active_able (epollOps none) .input s.poller own.file _ readable] at active
      rw [← same, ← Option.some.inj active]
      exact ⟨sound, setUp.copied, .queued, setUp.opened, setUp.going, busy, Or.inl readable⟩

theorem Attends.main (attends : Attends own s) (fd : Int) (attach : Option Errno) (closed : s.opened = false)
    (attachable : Attachable s.poller.backend.kernel fd attach)
    (dead : (s.poller.filp own.file).live = false)
    (started : stdioMain own fd attach none s = some next) : Attends own next := by
  obtain ⟨phase, here⟩ := attends.phase
  cases phase with
  | fresh =>
      obtain ⟨_, going, fresh, unsent⟩ := here
      obtain ⟨attached, result, rest⟩ := Option.bind_eq_some_iff.mp started
      obtain ⟨setUp, writable⟩ := attends.inited fd attach attached closed going fresh attachable dead result
      obtain ⟨prepared, prepares, awaited⟩ := Option.bind_eq_some_iff.mp rest
      cases program : own.program with
      | txcat =>
          rw [program] at prepares
          injection prepares with same
          rw [← same] at awaited
          exact setUp.attends awaited
      | txget =>
          rw [program] at prepares
          exact (setUp.prepares (unsent program) writable none prepared prepares).attends awaited
  | queued => exact absurd closed (by simp [here.1])
  | waiting => exact absurd closed (by simp [here.1])
  | ended => exact absurd closed (by simp [here.1])

omit [DecidableEq W] [DecidableEq P] in
theorem Attends.returned (attends : Attends own s) :
    Attends own (s.setWorld (s.poller.world.setMain own.up
      ((s.poller.world.main own.up).map (fun frame => ⟨frame.firstRun, none⟩)))) := by
  have still := still_unheld s.poller _ ((unheld_refl s.poller.world).setMain own.up
    ((s.poller.world.main own.up).map (fun frame => ⟨frame.firstRun, none⟩)))
  have spares := spares_return own.task own.up own.up s.poller.world
  exact attends.skip _ ⟨spares, rfl, unmoved_same rfl⟩ (attends.exact.same _ ⟨still, rfl⟩) attends.watched rfl
    (fun filp side apart slot => apart (attends.slots filp side slot).2.1)

theorem act_poller (action : PollAction L T W P F (EpollReport F)) (still : ∀ world, action ≠ .loop world) :
    s.act own (.poller action) =
      if action.object = some own.file ∨ action.waiter = some own.task then none
      else (epollAct s.poller action).map s.setPoller := by
  cases action with
  | loop world => exact absurd rfl (still world)
  | _ => rfl

theorem Attends.poller (attends : Attends own s) (action : PollAction L T W P F (EpollReport F))
    (proper : Libtx.Proper Reported s.poller action) (succeeds : Succeeds s.poller action)
    (result : s.act own (.poller action) = some next) : Attends own next := by
  have still : ∀ world, action ≠ .loop world := by
    rintro world rfl
    cases result
  rw [act_poller action still] at result
  split at result
  · cases result
  · rename_i apart
    rw [not_or] at apart
    obtain ⟨poller, acted, same⟩ := Option.map_eq_some_iff.mp result
    subst same
    cases object : action.object with
    | some filp =>
        have other : filp ≠ own.file := fun same => apart.1 (same ▸ object)
        exact attends.action action poller filp object other apart.2 proper succeeds acted
    | none =>
        cases action with
        | polling reports =>
            injection acted with same
            rw [← same]
            exact attends.polling reports proper succeeds
        | loop world => exact absurd rfl (still world)
        | _ => cases object

theorem Attends.act (attends : Attends own s) (use : StdioUse L T W P F) (proper : s.Proper own use)
    (result : s.act own use = some next) : Attends own next := by
  cases use with
  | loop use =>
      simp only [Stdio.act] at result
      split at result
      · cases result
      · rename_i unnamed
        obtain ⟨world, used, rest⟩ := Option.bind_eq_some_iff.mp result
        split at rest
        · cases rest
        · rename_i uncalled
          injection rest with same
          rw [← same]
          apply attends.loopUse use world unnamed used _ proper.1 proper.2.1 (proper.2.2 world used)
          intro up test
          subst test
          simpa [LoopUse.tests] using uncalled
  | poller action => exact attends.poller action proper.1 proper.2 result
  | main fd attach arm =>
      simp only [Stdio.act] at result
      split at result
      · cases result
      · rename_i closed
        obtain ⟨attachable, rfl, dead, _⟩ := proper
        exact attends.main fd attach (Bool.eq_false_iff.mpr closed) attachable dead result
  | update answers =>
      obtain ⟨called, passed, rest⟩ := Option.bind_eq_some_iff.mp result
      split at rest
      · rename_i calls
        obtain ⟨returned, updated, same⟩ := Option.map_eq_some_iff.mp rest
        obtain ⟨turn, queued⟩ := attends.called called passed calls
        rw [← same]
        exact (turn.attends queued answers proper updated).returned
      · cases rest

end Main

section Run

/-- A loop that goes on, with a new poller, before any code has used the reader's task -/
structure Stdio.Starts (own : StdioTask L T F) (poller : EpollPoller L T W P F) : Prop where
  reachable : Reachable poller.world
  fresh : Fresh (fun _ => none) poller
  apart : own.task ≠ poller.backend.pollTask
  idle : (poller.world.task own.task).txFlags.idle = true
  unnamed : ∀ filp side, (poller.filp filp).txFilter side ≠ some own.task
  going : (poller.world.loop own.up).txStop = false

/-- What has been read has been written, and until the reader stops its loop it is on the queue of
the loop, or waits for an object that epoll is to report. -/
structure Stdio.Served (own : StdioTask L T F) (s : Stdio L T W P F) : Prop where
  copied : s.stdout = s.received
  stops : (s.poller.world.loop own.up).txStop = s.ended
  attended : s.opened = true → s.ended = false →
    Holds s.poller.world.heap (.taskq own.up) (.task own.task) ∨
      s.slot own = some own.task ∧ ∃ registration,
        s.poller.backend.kernel (s.poller.filp own.file).txFd = some registration ∧
          registration.event.ptr = own.file ∧ registration.armed .input = true
  gone : s.ended = true → (∀ head, ¬ Holds s.poller.world.heap head (.task own.task)) ∧
    ∀ filp side, (s.poller.filp filp).txFilter side ≠ some own.task

variable {own : StdioTask L T F} {s : Stdio L T W P F}

theorem Stdio.Starts.attends {poller : EpollPoller L T W P F} (starts : Stdio.Starts own poller) :
    Attends own (Stdio.start own.program poller) := by
  refine ⟨⟨?_, ?_, ?_, ?_, ?_, ?_, ?_, ?_, ?_⟩, rfl, .fresh, rfl, rfl, starts.idle, ?_⟩
  · exact refines_reachable poller.world starts.reachable
  · exact exact_fresh poller starts.fresh
  · intro filp live
    exact absurd live (by simp [Stdio.start, starts.fresh.unattached filp])
  · exact starts.apart
  · intro opened
    cases opened
  · exact fun filp side slot => absurd slot (starts.unnamed filp side)
  · exact fun slot => absurd slot (starts.unnamed own.file .input)
  · intro opened
    cases opened
  · exact starts.going
  · intro program
    simp [Stdio.start, program]

omit [DecidableEq L] [DecidableEq W] in
theorem Attends.armed (attends : Attends own s) (live : (s.poller.filp own.file).live = true)
    (slot : s.slot own = some own.task) : ∃ registration,
    s.poller.backend.kernel (s.poller.filp own.file).txFd = some registration ∧
      registration.event.ptr = own.file ∧ registration.armed .input = true := by
  obtain ⟨registration, found, ptr, masks⟩ := attends.exact.masked.armed own.file live
  have waits : (s.poller.filp own.file).txFilter .input ≠ none := by
    rw [show (s.poller.filp own.file).txFilter .input = some own.task from slot]
    exact Option.some_ne_none own.task
  have polled := attends.watched own.file live .input waits
  exact ⟨registration, found, ptr, (masks .input).mpr ⟨polled, not_false⟩⟩

theorem Attends.served (attends : Attends own s) : Stdio.Served own s := by
  obtain ⟨v, h⟩ := attends.refined
  obtain ⟨phase, here⟩ := attends.phase
  refine ⟨attends.copied, attends.stops, ?_, ?_⟩
  · intro opened going
    cases phase with
    | fresh => exact absurd opened (by simp [here.1])
    | queued =>
        have member := h.membership.busy own.task here.2.2.1
        rw [attends.loop opened] at member
        exact Or.inl ((holds_iff s.poller.world.heap v.nodes h.linked _ _).mpr member)
    | waiting => exact Or.inr ⟨here.2.2.2.1, attends.armed here.2.2.2.2 here.2.2.2.1⟩
    | ended => exact absurd going (by simp [here.2.1])
  · intro gone
    cases phase with
    | fresh => exact absurd gone (by simp [here.2.1])
    | queued => exact absurd gone (by simp [here.2.1])
    | waiting => exact absurd gone (by simp [here.2.1])
    | ended =>
        constructor
        · intro head holds
          exact h.unlinked own.task here.2.2.1 head
            ((holds_iff s.poller.world.heap v.nodes h.linked _ _).mp holds)
        · intro filp side slot
          obtain ⟨_, object, input⟩ := attends.slots filp side slot
          rw [object, input] at slot
          exact here.2.2.2 slot

variable [DecidableEq P]

theorem attends_run (poller : EpollPoller L T W P F) (starts : Stdio.Starts own poller)
    (uses : List (StdioUse L T W P F))
    (allowed : Runs.Allowed (Stdio.act own) (Stdio.Proper own) (Stdio.start own.program poller) uses)
    (reached : Runs.run (Stdio.act own) (Stdio.start own.program poller) uses = some s) : Attends own s :=
  Runs.keeps_run (Stdio.Proper own) (Attends own)
    (fun _ use _ proper attends result => attends.act use proper result) _ s uses allowed starts.attends reached

/-- The reader of `txcat` or `txget` in any run of its loop: none of its bytes are lost, and it is
never left without a wakeup to come. -/
theorem stdio_served (own : StdioTask L T F) (poller : EpollPoller L T W P F) (s : Stdio L T W P F)
    (starts : Stdio.Starts own poller) (uses : List (StdioUse L T W P F))
    (allowed : Runs.Allowed (Stdio.act own) (Stdio.Proper own) (Stdio.start own.program poller) uses)
    (reached : Runs.run (Stdio.act own) (Stdio.start own.program poller) uses = some s) :
    Stdio.Served own s :=
  (attends_run poller starts uses allowed reached).served

def loneReader : StdioTask Unit Bool Unit := ⟨.txcat, (), false, ()⟩

theorem lone_starts : Stdio.Starts loneReader loneEpoll where
  reachable := ⟨_, _, .refl⟩
  fresh := fresh_lone _
  apart := by decide
  idle := rfl
  unnamed := fun _ _ slot => by cases slot
  going := rfl

def loneUses : List (StdioUse Unit Bool Unit Unit Unit) :=
  [.main 0 none none,
    .poller (.polling [⟨0, (), fun side => decide (side = .input), false, false, none⟩]),
    .loop (.enter ()),
    .update ⟨[], 0, .other, none, [.data [104, 105], .data []]⟩]

def loneAt (uses : List (StdioUse Unit Bool Unit Unit Unit)) : Stdio Unit Bool Unit Unit Unit :=
  (Runs.run (Stdio.act loneReader) (Stdio.start .txcat loneEpoll) uses).getD (Stdio.start .txcat loneEpoll)

theorem lone_uses_allowed :
    Runs.Allowed (Stdio.act loneReader) (Stdio.Proper loneReader) (Stdio.start .txcat loneEpoll) loneUses := by
  apply Runs.allowed_cons _ _ (loneAt (loneUses.take 1))
  · exact ⟨Or.inl ⟨rfl, fun _ => rfl⟩, rfl, rfl, rfl⟩
  · rfl
  apply Runs.allowed_cons _ _ (loneAt (loneUses.take 2))
  · refine ⟨⟨by decide, by decide, ?_⟩, ?_⟩
    · intro report member
      rw [List.mem_singleton.mp member]
      exact ⟨_, rfl, rfl, .input, rfl⟩
    · intro report member
      rw [List.mem_singleton.mp member]
  · rfl
  apply Runs.allowed_cons _ _ (loneAt (loneUses.take 3))
  · refine ⟨?_, by simp, ?_⟩
    · intro _ _ _ wakes
      cases wakes
    · intro next entered
      injection entered with same
      rw [← same]
      rfl
  · rfl
  apply Runs.allowed_cons _ _ (loneAt loneUses)
  · rfl
  · rfl
  trivial

theorem stdio_served_lone : Stdio.Served loneReader (loneAt loneUses) ∧
    (loneAt loneUses).stdout = [104, 105] ∧ (loneAt loneUses).ended = true :=
  ⟨stdio_served loneReader loneEpoll (loneAt loneUses) lone_starts loneUses lone_uses_allowed rfl, rfl, rfl⟩

/-- In any run, a reader that the loop calls takes all the data that there is, in order, and then waits
or stops its loop; arming its object fails only where epoll does not have it. -/
theorem stdio_answers (own : StdioTask L T F) (poller : EpollPoller L T W P F) (s : Stdio L T W P F)
    (starts : Stdio.Starts own poller) (uses : List (StdioUse L T W P F))
    (allowed : Runs.Allowed (Stdio.act own) (Stdio.Proper own) (Stdio.start own.program poller) uses)
    (reached : Runs.run (Stdio.act own) (Stdio.start own.program poller) uses = some s)
    (called : World L T W P F) (passed : passTest s.poller.world own.up = some called)
    (calls : inCall called own.up own.task = true) (answers : StdioAnswers) (arm : answers.arm = none)
    (front rest : List Reading) (last : Reading) (readings : answers.readings = front ++ last :: rest)
    (more : ∀ reading ∈ front, 0 < reading.len) (final : last.len ≤ 0) :
    Stdio.Answered own s answers front last (s.act own (.update answers)) := by
  obtain ⟨turn, queued⟩ := (attends_run poller starts uses allowed reached).called called passed calls
  have answered := turn.answered queued answers arm front rest last readings more final
  have act : s.act own (.update answers) = (updateStdio own (s.setWorld called) answers).map (fun returned =>
      returned.setWorld (returned.poller.world.setMain own.up
        ((returned.poller.world.main own.up).map (fun frame => ⟨frame.firstRun, none⟩)))) := by
    simp only [Stdio.act, passed, Option.bind_some, calls, if_true]
  rw [act]
  constructor
  · rw [Option.isSome_map]
    exact answered.returns
  all_goals
    intro next result
    obtain ⟨returned, updated, same⟩ := Option.map_eq_some_iff.mp result
    subst same
  · exact answered.stdout returned updated
  · exact answered.ended returned updated
  · exact answered.sent returned updated

def loneCalled : World Unit Bool Unit Unit Unit :=
  (passTest (loneAt (loneUses.take 3)).poller.world ()).getD (loneAt (loneUses.take 3)).poller.world

theorem stdio_answers_lone : Stdio.Answered loneReader (loneAt (loneUses.take 3))
    ⟨[], 0, .other, none, [.data [104, 105], .data []]⟩ [.data [104, 105]] (.data [])
    ((loneAt (loneUses.take 3)).act loneReader (.update ⟨[], 0, .other, none, [.data [104, 105], .data []]⟩)) :=
  stdio_answers loneReader loneEpoll (loneAt (loneUses.take 3)) lone_starts (loneUses.take 3)
    (Runs.allowed_front _ _ (loneUses.take 3) (loneUses.drop 3) lone_uses_allowed) rfl loneCalled rfl rfl
    _ rfl _ [] _ rfl (by simp [Reading.len]) (by decide)

end Run

end Libtx
