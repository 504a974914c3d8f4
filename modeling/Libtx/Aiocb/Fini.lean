import Libtx.Aiocb.Filters
import Libtx.Aiocb.Lifetime
import Libtx.Aiocb.Waiter

/-! `tx_aiocb_fini` called twice. Two backends give back a reference for every call while a
direction of the object is flagged, and no call clears the flags. -/

namespace Libtx

variable {L T W P F B K O : Type}

structure AsAfter (first second : Poller L T W P F B) : Prop where
  filp : second.filp = first.filp
  backend : second.backend = first.backend
  holder : ∀ up, (second.world.loop up).txHolder = (first.world.loop up).txHolder

theorem asAfter_refl (s : Poller L T W P F B) : AsAfter s s := ⟨rfl, rfl, fun _ => rfl⟩

/-- A second `tx_aiocb_fini` changes nothing. -/
def FiniTwice (ops : TxPollOp (Poller L T W P F B) F) (s : Poller L T W P F B) (filp : F) : Prop :=
  ∃ first second, txAiocbFini ops s filp = some first ∧ txAiocbFini ops first filp = some second ∧
    AsAfter first second

section Counting

variable {delete : Poller L T W P F (Backend T P K) → F → Poller L T W P F (Backend T P K)}
    {ops : TxPollOp (Poller L T W P F (Backend T P K)) F} [DecidableEq F]

/-- The kernel part of a detaching function writes `TX_DETACHED` or no flag, and where no
direction is flagged it has nothing left to do. -/
structure Deletes (delete : Poller L T W P F (Backend T P K) → F → Poller L T W P F (Backend T P K)) :
    Prop where
  writes : ∀ s filp, ∃ kernel, delete s filp = s.setKernel kernel ∨ delete s filp =
    (s.setKernel kernel).setFlags filp (fun flags => { flags with detached := true })
  again : ∀ s filp, (∀ side, (s.filp filp).txFlags.poll side = false) →
    delete (delete s filp) filp = delete s filp

theorem Deletes.keeps (deletes : Deletes delete) (s : Poller L T W P F (Backend T P K)) (filp : F) :
    (delete s filp).backend.epollRefcnt = s.backend.epollRefcnt ∧
      ((delete s filp).filp filp).txFd = (s.filp filp).txFd ∧
      ((delete s filp).filp filp).txFlags.poll = (s.filp filp).txFlags.poll := by
  obtain ⟨kernel, failed | deleted⟩ := deletes.writes s filp
  · rw [failed]
    exact ⟨rfl, rfl, rfl⟩
  · rw [deleted]
    simp [Poller.setFlags, Poller.setFilp, Poller.setKernel]

theorem detached_dead (s : Poller L T W P F B) (filp : F) :
    ((s.setFlags filp (fun flags => { flags with detached := true })).filp filp).live = false := by
  simp [Poller.setFlags, Poller.setFilp, TxAiocb.live]

theorem epoll_dead (s : EpollPoller L T W P F) (filp : F) (dead : (s.filp filp).live = false) :
    txEpollDelete none s filp = s := by
  simp [txEpollDelete, dead]

theorem deletes_epoll :
    Deletes (txEpollDelete none : EpollPoller L T W P F → F → EpollPoller L T W P F) := by
  have does (s : EpollPoller L T W P F) (filp : F) : txEpollDelete none s filp = s ∨
      ∃ kernel, txEpollDelete none s filp =
        (s.setKernel kernel).setFlags filp (fun flags => { flags with detached := true }) := by
    cases live : (s.filp filp).live with
    | false => exact Or.inl (epoll_dead s filp live)
    | true =>
        cases called : epollCtl none s.backend.kernel .del (s.filp filp).txFd
            ⟨fun _ => false, false, filp⟩ with
        | error errno => exact Or.inl (by simp [txEpollDelete, live, called])
        | ok kernel => exact Or.inr ⟨kernel, by simp [txEpollDelete, live, called]⟩
  constructor
  · intro s filp
    rcases does s filp with idle | ⟨kernel, deleted⟩
    · exact ⟨s.backend.kernel, Or.inl idle⟩
    · exact ⟨kernel, Or.inr deleted⟩
  · intro s filp _
    rcases does s filp with idle | ⟨kernel, deleted⟩
    · rw [idle, idle]
    · rw [deleted, epoll_dead _ filp (detached_dead _ filp)]

theorem kqueue_dead (s : KqueuePoller L T W P F) (filp : F) (dead : (s.filp filp).live = false) :
    txKqueueDelete none s filp = s := by
  simp [txKqueueDelete, dead]

theorem deletes_kqueue :
    Deletes (txKqueueDelete none : KqueuePoller L T W P F → F → KqueuePoller L T W P F) := by
  constructor
  · intro s filp
    cases live : (s.filp filp).live with
    | false => exact ⟨s.backend.kernel, Or.inl (kqueue_dead s filp live)⟩
    | true =>
        cases called : (if ((s.filp filp).deletes : List (Side × Change F)).isEmpty then
            (none, s.backend.kernel)
          else kevent none s.backend.kernel (s.filp filp).txFd (s.filp filp).deletes) with
        | mk failed kernel =>
            refine ⟨kernel, ?_⟩
            unfold txKqueueDelete
            rw [if_pos live]
            dsimp only
            rw [called]
            cases failed with
            | none => exact Or.inr rfl
            | some errno => exact Or.inl rfl
  · intro s filp off
    cases live : (s.filp filp).live with
    | false => rw [kqueue_dead s filp live, kqueue_dead s filp live]
    | true =>
        -- nothing is registered for the object, so the system is not called and cannot fail
        have empty : ((s.filp filp).deletes : List (Side × Change F)) = [] := by
          simp [TxAiocb.deletes, off]
        have deleted : txKqueueDelete none s filp =
            (s.setKernel s.backend.kernel).setFlags filp (fun flags => { flags with detached := true }) := by
          simp [txKqueueDelete, live, empty]
        rw [deleted, kqueue_dead _ filp (detached_dead _ filp)]

variable [DecidableEq L] [DecidableEq P]

def detachAfter (delete : Poller L T W P F (Backend T P K) → F → Poller L T W P F (Backend T P K))
    (s : Poller L T W P F (Backend T P K)) (filp : F) : Poller L T W P F (Backend T P K) :=
  if (s.filp filp).txFlags.poll .input ∨ (s.filp filp).txFlags.poll .output then
    ((delete s filp).count (-1)).release
  else delete s filp

theorem unarmed_iff (file : TxAiocb T) :
    (∀ side, file.txFlags.poll side = false) ↔
      ¬ (file.txFlags.poll .input = true ∨ file.txFlags.poll .output = true) := by
  constructor
  · intro off armed
    rcases armed with on | on
    · rw [off] at on
      cases on
    · rw [off] at on
      cases on
  · intro unarmed side
    rw [← Bool.not_eq_true]
    intro on
    cases side with
    | input => exact unarmed (Or.inl on)
    | output => exact unarmed (Or.inr on)

theorem Deletes.after (deletes : Deletes delete) (s : Poller L T W P F (Backend T P K)) (filp : F) :
    ((detachAfter delete s filp).filp filp).txFd = (s.filp filp).txFd ∧
      ((detachAfter delete s filp).filp filp).txFlags.poll = (s.filp filp).txFlags.poll := by
  unfold detachAfter
  split
  · rw [(release_frame _).1]
    exact (deletes.keeps s filp).2
  · exact (deletes.keeps s filp).2

theorem Deletes.counts (deletes : Deletes delete) (s : Poller L T W P F (Backend T P K)) (filp : F)
    (armed : (s.filp filp).txFlags.poll .input = true ∨ (s.filp filp).txFlags.poll .output = true) :
    (detachAfter delete s filp).backend.epollRefcnt = s.backend.epollRefcnt - 1 := by
  rw [detachAfter, if_pos armed, (release_frame _).2.1]
  change (delete s filp).backend.epollRefcnt + -1 = _
  rw [(deletes.keeps s filp).1]
  rfl

theorem Deletes.twice (deletes : Deletes delete) (s : Poller L T W P F (Backend T P K)) (filp : F) :
    AsAfter (detachAfter delete s filp) (detachAfter delete (detachAfter delete s filp) filp) ↔
      ∀ side, (s.filp filp).txFlags.poll side = false := by
  have flags := (deletes.after s filp).2
  constructor
  · intro same
    rw [unarmed_iff]
    intro armed
    have less := deletes.counts (detachAfter delete s filp) filp (flags ▸ armed)
    rw [same.backend] at less
    omega
  · intro off
    have unarmed := (unarmed_iff (s.filp filp)).mp off
    have once : detachAfter delete s filp = delete s filp := if_neg unarmed
    have still : ¬ (((delete s filp).filp filp).txFlags.poll .input = true ∨
        ((delete s filp).filp filp).txFlags.poll .output = true) := by
      rw [(deletes.keeps s filp).2.2]
      exact unarmed
    have twice : detachAfter delete (delete s filp) filp = delete (delete s filp) filp := if_neg still
    rw [once, twice, deletes.again s filp off]
    exact asAfter_refl (delete s filp)

theorem Deletes.fini (deletes : Deletes delete)
    (detaches : ∀ s filp, ops.txDetach s filp = some (detachAfter delete s filp))
    (s : Poller L T W P F (Backend T P K)) (filp : F) :
    FiniTwice ops s filp ↔
      (s.filp filp).txFd = -1 ∨ ∀ side, (s.filp filp).txFlags.poll side = false := by
  by_cases closed : (s.filp filp).txFd = -1
  · have done : txAiocbFini ops s filp = some s := if_pos closed
    exact ⟨fun _ => Or.inl closed, fun _ => ⟨s, s, done, done, asAfter_refl s⟩⟩
  · have first : txAiocbFini ops s filp = some (detachAfter delete s filp) := by
      rw [txAiocbFini, if_neg closed, detaches]
    have second : txAiocbFini ops (detachAfter delete s filp) filp =
        some (detachAfter delete (detachAfter delete s filp) filp) := by
      rw [txAiocbFini, (deletes.after s filp).1, if_neg closed, detaches]
    rw [or_iff_right closed, ← deletes.twice s filp]
    constructor
    · intro twice
      obtain ⟨once, again, called, recalled, same⟩ := twice
      rw [first] at called
      injection called with here
      subst here
      rw [second] at recalled
      injection recalled with there
      exact there ▸ same
    · exact fun same => ⟨_, _, first, second, same⟩

end Counting

variable [DecidableEq L] [DecidableEq T] [DecidableEq W] [DecidableEq F] [DecidableEq O]

theorem Flight.fini_port {s : PortPoller L T W P F O} (flight : Flight s) (filp : F) (answer : PortAnswer O) :
    FiniTwice (portOps answer) s filp := by
  by_cases closed : (s.filp filp).txFd = -1
  · have done : txAiocbFini (portOps answer) s filp = some s := if_pos closed
    exact ⟨s, s, done, done, asAfter_refl s⟩
  · cases live : (s.filp filp).live with
    | false =>
        have done : txAiocbFini (portOps answer) s filp = some s := by
          simp [txAiocbFini, closed, portOps, txCompletionPortDetach, live]
        exact ⟨s, s, done, done, asAfter_refl s⟩
    | true =>
        obtain ⟨first, called, _, written⟩ := flight.detach filp live
        have opened : (first.filp filp).txFd ≠ -1 := by
          rw [written]
          simpa [Poller.setFlags, Poller.setFilp] using closed
        have dead : (first.filp filp).live = false := by
          rw [written]
          exact detached_dead s filp
        refine ⟨first, first, ?_, ?_, asAfter_refl first⟩
        · rw [txAiocbFini, if_neg closed]
          exact called
        · rw [txAiocbFini, if_neg opened]
          simp [portOps, txCompletionPortDetach, dead]

variable [DecidableEq P]

omit [DecidableEq T] [DecidableEq W] in
theorem fini_epoll (s : EpollPoller L T W P F) (filp : F) :
    FiniTwice (epollOps none) s filp ↔
      (s.filp filp).txFd = -1 ∨ ∀ side, (s.filp filp).txFlags.poll side = false :=
  deletes_epoll.fini (fun _ _ => rfl) s filp

omit [DecidableEq T] [DecidableEq W] in
theorem fini_kqueue (s : KqueuePoller L T W P F) (filp : F) :
    FiniTwice (kqueueOps none) s filp ↔
      (s.filp filp).txFd = -1 ∨ ∀ side, (s.filp filp).txFlags.poll side = false :=
  deletes_kqueue.fini (fun _ _ => rfl) s filp

/-- A second `tx_aiocb_fini` changes nothing if and only if no direction of the object is
flagged, where the backend is epoll or kqueue, and always where it is a completion port. -/
theorem fini_twice :
    (∀ (s : EpollPoller L T W P F) filp, FiniTwice (epollOps none) s filp ↔
      (s.filp filp).txFd = -1 ∨ ∀ side, (s.filp filp).txFlags.poll side = false) ∧
    (∀ (s : KqueuePoller L T W P F) filp, FiniTwice (kqueueOps none) s filp ↔
      (s.filp filp).txFd = -1 ∨ ∀ side, (s.filp filp).txFlags.poll side = false) ∧
    ∀ (start s : PortPoller L T W P F O) actions, PortFresh start →
      Runs.Allowed portAct PortProper start actions → Runs.run portAct start actions = some s →
        ∀ filp answer, FiniTwice (portOps answer) s filp :=
  ⟨fini_epoll, fini_kqueue, fun start s actions fresh allowed reached filp answer =>
    (flight_run start s fresh actions allowed reached).1.fini_port filp answer⟩

def epollAttached : EpollPoller Unit Bool Unit Unit Unit :=
  (Runs.run epollAct loneEpoll [.init () 3 none]).getD loneEpoll

def kqueueAttached : KqueuePoller Unit Bool Unit Unit Unit :=
  (Runs.run kqueueAct loneKqueue [.init () 3 none]).getD loneKqueue

theorem fini_twice_lone :
    (epollAttached.filp ()).live = true ∧ FiniTwice (epollOps none) epollAttached () ∧
      (kqueueAttached.filp ()).live = true ∧ FiniTwice (kqueueOps none) kqueueAttached () ∧
        FiniTwice (portOps ⟨.pending, -1, 0⟩) portAfter () := by
  have twice := fini_twice (L := Unit) (T := Bool) (W := Unit) (P := Unit) (F := Unit) (O := Nat)
  refine ⟨rfl, (twice.1 epollAttached ()).mpr (Or.inr ?_), rfl, (twice.2.1 kqueueAttached ()).mpr (Or.inr ?_), ?_⟩
  · intro side
    cases side with
    | input => rfl
    | output => rfl
  · intro side
    cases side with
    | input => rfl
    | output => rfl
  · exact twice.2.2 lonePort portAfter portActions fresh_port port_allowed rfl () _

/-- The only reference is given back twice, and the count is negative. -/
theorem fini_negative :
    Fresh (fun _ => none) loneEpoll ∧
      Runs.Allowed epollAct (fun s action => Proper Reported s action ∧ Succeeds s action) loneEpoll
        loneActions ∧
      Runs.run epollAct loneEpoll loneActions = some loneArmed ∧ loneArmed.backend.epollRefcnt = 1 ∧
      ((txAiocbFini (epollOps none) loneArmed ()).bind (fun first =>
        txAiocbFini (epollOps none) first ())).map (fun second => second.backend.epollRefcnt) = some (-1) ∧
      ¬ FiniTwice (epollOps none) loneArmed () := by
  refine ⟨fresh_lone _, lone_allowed, rfl, rfl, rfl, ?_⟩
  rw [fini_epoll]
  intro idle
  have fd : (loneArmed.filp ()).txFd = 3 := rfl
  have on : (loneArmed.filp ()).txFlags.poll .input = true := rfl
  rcases idle with closed | off
  · rw [fd] at closed
    cases closed
  · rw [off] at on
    cases on

end Libtx
