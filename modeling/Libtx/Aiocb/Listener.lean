import Libtx.Aiocb.Lifetime
import Libtx.Count.Custody

/-! The sockets that a listening object makes for `AcceptEx`: which call makes one, which
call gives it to its caller, and which memory has it in `tx_newfd`.

A socket is named by its descriptor; a number that the system gives out again counts as
another name. -1 names no socket. -/

namespace Libtx

open Count

variable {L T W P F O : Type}

def descriptor (newfd : Int) : Option Int := if newfd = -1 then none else some newfd

def Poller.newfds (s : PortPoller L T W P F O) (address : O) : Option Int :=
  (s.backend.lapped address).bind fun olaped => descriptor olaped.txNewfd

/-- The object has a socket that was not given to a caller. -/
def Poller.holds (s : PortPoller L T W P F O) (filp : F) : Prop :=
  ∃ address olaped, s.olaped filp = some (address, olaped) ∧ olaped.txNewfd ≠ -1

/-- The listening object for which an action makes a socket: it reaches
`tx_completion_port_pollin` with no `AcceptEx` in flight. -/
def accepting (s : PortPoller L T W P F O) : PortAction L T W P F O → Option (F × Int)
  | .poll .input filp answer =>
      if (s.filp filp).txFlags.listen = true ∧ (s.filp filp).txFlags.poll .input = false then
        some (filp, answer.newfd)
      else none
  | .active .input filp _ answer =>
      if (s.filp filp).txFlags.able .input = false ∧ (s.filp filp).txFlags.listen = true ∧
          (s.filp filp).txFlags.poll .input = false then
        some (filp, answer.newfd)
      else none
  | _ => none

def opens (s : PortPoller L T W P F O) (action : PortAction L T W P F O) : List Int :=
  ((accepting s action).bind fun made => descriptor made.2).toList

section Refusals

/-- `tx_completion_port_pollin` of a listening object where `AcceptEx` fails: the socket that
was made for it is closed, and nothing else changes. -/
def txCompletionPortRefused (s : PortPoller L T W P F O) (filp : F) : Option (PortPoller L T W P F O) :=
  if (s.filp filp).txFlags.poll .input = false then
    if (s.filp filp).live then
      (s.olaped filp).bind fun olaped => if olaped.2.txRefcnt < 4 then some s else none
    else none
  else some s

variable [DecidableEq L] [DecidableEq T] [DecidableEq W] [DecidableEq F] [DecidableEq O]

def refusedOps (answer : PortAnswer O) : TxPollOp (PortPoller L T W P F O) F :=
  { portOps answer with txPollin := txCompletionPortRefused }

/-- The actions that can meet a failing `AcceptEx`. -/
def portRefuse (s : PortPoller L T W P F O) : PortAction L T W P F O → Option (PortPoller L T W P F O)
  | .poll .input filp _ => if (s.filp filp).txFlags.listen then txCompletionPortRefused s filp else none
  | .active .input filp task answer =>
      if (s.filp filp).txFlags.listen then txAincbActive (refusedOps answer) s filp task else none
  | _ => none

def takes (s : PortPoller L T W P F O) : PortAction L T W P F O → List Int
  | .accept filp => ((txCompletionPortAccept s filp).bind fun result => descriptor result.1).toList
  | _ => []

end Refusals

theorem holds_pending {s : PortPoller L T W P F O} {filp : F} {address : O} {olaped : TxOverlapped F}
    (holds : s.holds filp) (found : s.olaped filp = some (address, olaped)) : olaped.txNewfd ≠ -1 := by
  obtain ⟨place, again, there, pending⟩ := holds
  have same : (address, olaped) = (place, again) := Option.some.inj (found.symm.trans there)
  injection same with _ equal
  exact equal ▸ pending

theorem descriptor_none (newfd : Int) : descriptor newfd = none ↔ newfd = -1 := by
  simp [descriptor]

section Memory

variable {s : PortPoller L T W P F O}

theorem newfds_olaped (filp : F) (address : O) (olaped : TxOverlapped F)
    (found : s.olaped filp = some (address, olaped)) : s.newfds address = descriptor olaped.txNewfd := by
  rw [Poller.newfds, ((olaped_iff s filp address olaped).mp found).2, Option.bind_some]

theorem newfds_holds (address : O) (olaped : TxOverlapped F) (stored : s.backend.lapped address = some olaped)
    (holds : olaped.txNewfd ≠ -1) : s.newfds address = some olaped.txNewfd := by
  rw [Poller.newfds, stored, Option.bind_some, descriptor, if_neg holds]

theorem newfds_lapped (next : PortPoller L T W P F O) (lapped : next.backend.lapped = s.backend.lapped) :
    next.newfds = s.newfds := by
  funext address
  rw [Poller.newfds, Poller.newfds, lapped]

variable [DecidableEq O]

theorem newfds_setLapped (address : O) (olaped : TxOverlapped F) :
    (s.setLapped address olaped).newfds = Function.update s.newfds address (descriptor olaped.txNewfd) := by
  funext other
  by_cases same : other = address
  · subst same
    simp [Poller.newfds, Poller.setLapped, Poller.onPort]
  · simp [Poller.newfds, Poller.setLapped, Poller.onPort, same]

theorem newfds_counted (address : O) (olaped newer : TxOverlapped F)
    (stored : s.backend.lapped address = some olaped) (same : newer.txNewfd = olaped.txNewfd) :
    (s.setLapped address newer).newfds = s.newfds := by
  have here : s.newfds address = descriptor olaped.txNewfd := by simp [Poller.newfds, stored]
  rw [newfds_setLapped, same, ← here, Function.update_eq_self]

theorem newfds_unref (address : O) (olaped newer : TxOverlapped F)
    (stored : s.backend.lapped address = some olaped) (same : newer.txNewfd = olaped.txNewfd) :
    (s.unref address newer).newfds =
      if newer.txRefcnt - 1 = 0 then Function.update s.newfds address none else s.newfds := by
  unfold Poller.unref
  split
  · funext other
    by_cases equal : other = address
    · subst equal
      simp [Poller.newfds, Poller.deleteLapped, Poller.onPort]
    · simp [Poller.newfds, Poller.deleteLapped, Poller.onPort, equal]
  · exact newfds_counted address olaped _ stored same

end Memory

section Effects

variable {s : PortPoller L T W P F O}

theorem newfds_pollout (next : PortPoller L T W P F O) (filp : F)
    (called : txCompletionPortPollout s filp = some next) : next.newfds = s.newfds := by
  rw [(pollout_spec s next filp called).2]

variable [DecidableEq F] [DecidableEq O]

theorem start_backend (side : Side) (next : PortPoller L T W P F O) (filp : F) (address : O)
    (olaped : TxOverlapped F) (result : portStart side s filp address olaped = some next) :
    next.newfds = Function.update s.newfds address (descriptor olaped.txNewfd) := by
  unfold portStart at result
  dsimp only at result
  split at result
  · injection result with same
    subst same
    calc Poller.newfds _
        = ((s.setLapped address { olaped with txRefcnt := olaped.txRefcnt + 1 }).newfds) := by
          cases side with
          | input => rfl
          | output => rfl
      _ = Function.update s.newfds address (descriptor olaped.txNewfd) := newfds_setLapped address _
  · cases result

theorem newfds_starts (side : Side) (next : PortPoller L T W P F O) (filp : F) (address : O)
    (olaped newer : TxOverlapped F) (found : s.olaped filp = some (address, olaped))
    (same : newer.txNewfd = olaped.txNewfd) (result : portStart side s filp address newer = some next) :
    next.newfds = s.newfds := by
  have here : s.newfds address = descriptor newer.txNewfd := by rw [newfds_olaped filp address olaped found, same]
  rw [start_backend side next filp address newer result, ← here, Function.update_eq_self]

theorem newfds_connect (answer : Start) (filp : F) (result : Int × PortPoller L T W P F O)
    (called : txCompletionPortConnect answer s filp = some result) : result.2.newfds = s.newfds := by
  unfold txCompletionPortConnect at called
  split at called
  · split at called
    · obtain ⟨olaped, found, rest⟩ := Option.bind_eq_some_iff.mp called
      cases answer with
      | failed =>
          injection rest with same
          exact same ▸ rfl
      | done =>
          obtain ⟨next, start, same⟩ := Option.map_eq_some_iff.mp rest
          exact same ▸ newfds_starts .output next filp olaped.1 olaped.2 olaped.2 found rfl start
      | pending =>
          obtain ⟨next, start, same⟩ := Option.map_eq_some_iff.mp rest
          exact same ▸ newfds_starts .output next filp olaped.1 olaped.2 olaped.2 found rfl start
    · cases called
  · injection called with same
    exact same ▸ rfl

theorem newfds_attach (fresh : O) (filp : F) (free : s.backend.lapped fresh = none) :
    (txCompletionPortAttach fresh s filp).newfds = s.newfds := by
  unfold txCompletionPortAttach
  dsimp only
  split
  · have empty : s.newfds fresh = none := by simp [Poller.newfds, free]
    rw [newfds_setLapped]
    change Function.update s.newfds fresh (descriptor (-1)) = s.newfds
    rw [descriptor, if_pos rfl, ← empty, Function.update_eq_self]
  · rfl

theorem newfds_accept (filp : F) (result : Int × PortPoller L T W P F O)
    (called : txCompletionPortAccept s filp = some result) :
    (descriptor result.1 = none ∧ result.2.newfds = s.newfds) ∨
      ∃ address olaped, s.olaped filp = some (address, olaped) ∧ result.1 = olaped.txNewfd ∧
        result.2.newfds = Function.update s.newfds address none := by
  unfold txCompletionPortAccept at called
  dsimp only at called
  split at called
  · obtain ⟨olaped, found, same⟩ := Option.map_eq_some_iff.mp called
    subst same
    exact Or.inr ⟨olaped.1, olaped.2, found, rfl, newfds_setLapped olaped.1 _⟩
  · injection called with same
    subst same
    exact Or.inl ⟨rfl, rfl⟩

theorem newfds_detach (filp : F) (address : O) (olaped : TxOverlapped F) (next : PortPoller L T W P F O)
    (found : s.olaped filp = some (address, olaped)) (live : (s.filp filp).live = true)
    (result : txCompletionPortDetach s filp = some next) :
    next.newfds = if olaped.txRefcnt - 1 = 0 then Function.update s.newfds address none else s.newfds := by
  have stored := ((olaped_iff s filp address olaped).mp found).2
  rw [txCompletionPortDetach, if_pos live, found] at result
  injection result with same
  subst same
  apply newfds_unref address olaped
  · exact stored
  · rfl

variable [DecidableEq L] [DecidableEq T] [DecidableEq W]

omit [DecidableEq O] in
theorem newfds_served (side : Side) (filp : F) : (portServe side s filp).newfds = s.newfds :=
  newfds_lapped _ (by rw [(serve_spec side s filp).2.1])

theorem newfds_sendout (answer : Start) (sent : Int) (memlock : Bool) (len : Nat) (filp : F)
    (result : Int × PortPoller L T W P F O)
    (called : txCompletionPortSendout answer sent memlock len s filp = some result) :
    result.2.newfds = s.newfds := by
  unfold txCompletionPortSendout at called
  split at called
  · split at called
    · split at called
      · injection called with same
        exact same ▸ rfl
      · obtain ⟨olaped, found, rest⟩ := Option.bind_eq_some_iff.mp called
        split at rest
        · split at rest
          · injection rest with same
            exact same ▸ newfds_served .output filp
          · obtain ⟨next, start, same⟩ := Option.map_eq_some_iff.mp rest
            exact same ▸ newfds_starts .output next filp olaped.1 olaped.2 olaped.2 found rfl start
        · injection rest with same
          exact same ▸ rfl
    · cases called
  · injection called with same
    exact same ▸ rfl

theorem newfds_pollin (answer : Start) (newfd : Int) (next : PortPoller L T W P F O) (filp : F)
    (called : txCompletionPortPollin answer newfd s filp = some next) :
    if (s.filp filp).txFlags.listen = true ∧ (s.filp filp).txFlags.poll .input = false then
      ∃ address olaped, s.olaped filp = some (address, olaped) ∧
        next.newfds = Function.update s.newfds address (descriptor newfd)
    else next.newfds = s.newfds := by
  unfold txCompletionPortPollin at called
  dsimp only at called
  split at called
  · rename_i off
    split at called
    · obtain ⟨olaped, found, rest⟩ := Option.bind_eq_some_iff.mp called
      split at rest
      · rename_i listens
        rw [if_pos ⟨listens, off⟩]
        exact ⟨olaped.1, olaped.2, found, start_backend .input next filp olaped.1 _ rest⟩
      · rename_i plain
        rw [if_neg (fun both => plain both.1)]
        split at rest
        · split at rest
          · injection rest with same
            exact same ▸ newfds_served .input filp
          · cases rest
        · exact newfds_starts .input next filp olaped.1 olaped.2 olaped.2 found rfl rest
    · cases called
  · rename_i on
    injection called with same
    rw [if_neg (fun both => on both.2)]
    exact same ▸ rfl

theorem newfds_init (filp : F) (fd : Int) (answer : PortAnswer O) (next : PortPoller L T W P F O)
    (free : s.backend.lapped answer.fresh = none)
    (result : txAiocbInit (portOps answer) (s.setPrivp filp none) filp fd = some next) :
    next.newfds = s.newfds := by
  unfold txAiocbInit at result
  dsimp only at result
  split at result
  · injection result with same
    exact same ▸ rfl
  · injection result with same
    subst same
    exact newfds_attach answer.fresh filp free

theorem newfds_active (side : Side) (answer : PortAnswer O) (next : PortPoller L T W P F O) (filp : F)
    (task : Option T) (called : genericActive (portOps answer) side s filp task = some next)
    (idle : accepting s (.active side filp task answer) = none) : next.newfds = s.newfds := by
  unfold genericActive at called
  dsimp only at called
  split at called
  · injection called with same
    exact same ▸ newfds_lapped _ rfl
  · rename_i unable
    split at called
    · injection called with same
      exact same ▸ rfl
    · rename_i off
      cases side with
      | input =>
          have waits : (s.setFilter filp .input task).newfds = s.newfds := rfl
          have armed := newfds_pollin answer.start answer.newfd next filp called
          have plain : ¬((s.filp filp).txFlags.listen = true ∧ (s.filp filp).txFlags.poll .input = false) := by
            intro both
            rw [accepting, if_pos ⟨by simpa using unable, both⟩] at idle
            cases idle
          rw [if_neg (by simpa [Poller.setFilter, Poller.setFilp] using plain)] at armed
          rw [armed, waits]
      | output =>
          have kept : next.newfds = (s.setFilter filp .output task).newfds := newfds_pollout next filp called
          exact kept

theorem newfds_tell (told : O × Side) (next : PortPoller L T W P F O) (result : portTell s told = some next)
    (address : O) (olaped : TxOverlapped F) (stored : next.backend.lapped address = some olaped) :
    next.newfds address = s.newfds address := by
  unfold portTell at result
  split at result
  · obtain ⟨last, before, rest⟩ := Option.map_eq_some_iff.mp result
    generalize landed : s.onPort (fun port => { port with inflight := port.inflight.erase told }) = mid
      at before rest
    have same : mid.newfds = s.newfds := landed ▸ rfl
    have counted : next.newfds = (mid.unref told.1 last).newfds := by
      dsimp only at rest
      split at rest
      · rw [← rest]
      · split at rest
        · rw [← rest]
        · rw [← rest]
          exact newfds_served told.2 _
    have memory : next.backend.lapped = (mid.unref told.1 last).backend.lapped := by
      dsimp only at rest
      split at rest
      · rw [← rest]
      · split at rest
        · rw [← rest]
        · rw [← rest, (serve_spec told.2 _ _).2.1]
    rw [counted, newfds_unref told.1 last last before rfl]
    split
    · rename_i gone
      have deleted : (mid.unref told.1 last).backend.lapped told.1 = none := by
        rw [Poller.unref, if_pos gone]
        simp [Poller.deleteLapped, Poller.onPort]
      have apart : address ≠ told.1 := by
        intro equal
        rw [memory, equal, deleted] at stored
        cases stored
      rw [Function.update_of_ne apart, same]
    · rw [same]
  · cases result

end Effects

end Libtx
