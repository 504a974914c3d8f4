import Libtx.Aiocb.Listener

namespace Libtx

open Count

variable {L T W P F O : Type}

/-- `opened`, `returned` and `closed` list the sockets that were made, that
`tx_completion_port_accept` returned and that were closed; no operation reads them. -/
structure SocketPort (L T W P F O : Type) where
  port : PortPoller L T W P F O
  opened : List Int
  returned : List Int
  closed : List Int

inductive SocketAction (L T W P F O : Type) where
  | port (action : PortAction L T W P F O)
  | refused (action : PortAction L T W P F O)

def SocketPort.custody (s : SocketPort L T W P F O) : Custody O Int :=
  ⟨s.port.newfds, s.opened, s.returned, s.closed⟩

variable [DecidableEq F] [DecidableEq O]

section

variable [DecidableEq L] [DecidableEq T] [DecidableEq W]

def socketAct (s : SocketPort L T W P F O) :
    SocketAction L T W P F O → Option (SocketPort L T W P F O)
  | .port action =>
      (portAct s.port action).map fun next =>
        ⟨next, s.opened ++ opens s.port action, s.returned ++ takes s.port action, s.closed⟩
  | .refused action =>
      (portRefuse s.port action).map fun next =>
        ⟨next, s.opened ++ opens s.port action, s.returned, s.closed ++ opens s.port action⟩

end

def SocketProper (s : SocketPort L T W P F O) : SocketAction L T W P F O → Prop
  | .port action => PortProper s.port action ∧ ∀ fd ∈ opens s.port action, fd ∉ s.opened
  | .refused action => ∀ fd ∈ opens s.port action, fd ∉ s.opened

/-- Every socket is in one live `tx_overlapped_t`, was returned once, or is closed. -/
def SocketsKept (s : SocketPort L T W P F O) : Prop := ∀ fd ∈ s.opened, s.custody.Kept fd

def Poller.lastClose (s : PortPoller L T W P F O) (filp : F) : Prop :=
  (s.filp filp).txFd ≠ -1 ∧ (s.filp filp).live = true ∧ ∀ side, (s.filp filp).txFlags.poll side = false

/-- The memory of an object is deleted, or is given another socket, while it has one that was
not given to a caller. -/
def Leaks (s : PortPoller L T W P F O) : PortAction L T W P F O → Prop
  | .fini filp _ => s.lastClose filp ∧ s.holds filp
  | .polling tells =>
      ∃ address olaped, s.backend.lapped address = some olaped ∧ olaped.txNewfd ≠ -1 ∧
        olaped.txFilp = none ∧ ∀ side, (address, side) ∈ s.backend.inflight → (address, side) ∈ tells
  | action => ∃ filp newfd, accepting s action = some (filp, newfd) ∧ s.holds filp

def SocketLeaks (s : SocketPort L T W P F O) : SocketAction L T W P F O → Prop
  | .port action => Leaks s.port action
  | .refused _ => False

section Actions

variable {s : PortPoller L T W P F O}

theorem Flight.last (flight : Flight s) (filp : F) (address : O) (olaped : TxOverlapped F)
    (found : s.olaped filp = some (address, olaped)) (live : (s.filp filp).live = true) :
    olaped.txRefcnt - 1 = 0 ↔ ∀ side, (s.filp filp).txFlags.poll side = false := by
  obtain ⟨held, stored⟩ := (olaped_iff s filp address olaped).mp found
  obtain ⟨place, mine, count, _⟩ := flight.flags filp live
  rw [held] at mine
  injection mine with same
  subst same
  obtain ⟨exact, _⟩ := flight.counted address olaped stored
  rw [(flight.owner address olaped filp stored).mpr ⟨live, held⟩, count, count] at exact
  constructor
  · intro zero side
    have none : ((s.filp filp).txFlags.poll .output).toNat + ((s.filp filp).txFlags.poll .input).toNat = 0 := by
      simp only [Option.isSome_some, Bool.toNat_true] at exact
      omega
    cases side with
    | input => exact Bool.toNat_eq_zero.mp (Nat.eq_zero_of_add_eq_zero_left none)
    | output => exact Bool.toNat_eq_zero.mp (Nat.eq_zero_of_add_eq_zero_right none)
  · intro off
    rw [exact, off, off]
    rfl

variable [DecidableEq L] [DecidableEq T] [DecidableEq W]

theorem newfds_accepting (action : PortAction L T W P F O) (next : PortPoller L T W P F O) (filp : F)
    (newfd : Int) (makes : accepting s action = some (filp, newfd))
    (result : portAct s action = some next) :
    ∃ address olaped, s.olaped filp = some (address, olaped) ∧
      next.newfds = Function.update s.newfds address (descriptor newfd) := by
  unfold accepting at makes
  split at makes
  · rename_i own answer
    split at makes
    · rename_i listens
      injection makes with same
      injection same with here there
      subst here there
      have armed := newfds_pollin answer.start answer.newfd next own result
      rwa [if_pos listens] at armed
    · cases makes
  · rename_i own task answer
    split at makes
    · rename_i listens
      injection makes with same
      injection same with here there
      subst here there
      have called : genericActive (portOps answer) .input s own task = some next := result
      rw [active_arms (portOps answer) .input s own task listens.1 listens.2.2] at called
      have armed := newfds_pollin answer.start answer.newfd next own called
      rw [if_pos (by simpa [Poller.setFilter, Poller.setFilp] using listens.2)] at armed
      exact armed
    · cases makes
  · cases makes

theorem newfds_act (action : PortAction L T W P F O) (next : PortPoller L T W P F O)
    (proper : PortProper s action) (result : portAct s action = some next)
    (idle : accepting s action = none) (fini : ∀ filp answer, action ≠ .fini filp answer)
    (accept : ∀ filp, action ≠ .accept filp) (polling : ∀ tells, action ≠ .polling tells) :
    next.newfds = s.newfds := by
  unfold portAct at result
  cases action with
  | init filp fd answer => exact newfds_init filp fd answer next proper.2 result
  | listen filp fd answer =>
      obtain ⟨made, called, same⟩ := Option.map_eq_some_iff.mp result
      exact same ▸ newfds_init filp fd answer made proper.2 called
  | fini filp answer => exact absurd rfl (fini filp answer)
  | sendout filp answer sent memlock len =>
      obtain ⟨pair, called, same⟩ := Option.map_eq_some_iff.mp result
      exact same ▸ newfds_sendout answer sent memlock len filp pair called
  | write filp answer sent memlock len =>
      obtain ⟨pair, called, same⟩ := Option.map_eq_some_iff.mp result
      exact same ▸ newfds_sendout answer sent memlock _ filp pair called
  | connect filp answer =>
      obtain ⟨pair, called, same⟩ := Option.map_eq_some_iff.mp result
      exact same ▸ newfds_connect answer filp pair called
  | aioConnect filp task answer =>
      obtain ⟨pair, called, same⟩ := Option.map_eq_some_iff.mp result
      obtain ⟨mid, first, rest⟩ := Option.bind_eq_some_iff.mp called
      obtain ⟨last, active, equal⟩ := Option.map_eq_some_iff.mp rest
      subst same equal
      calc last.newfds
          = mid.2.newfds := newfds_active .output answer last filp task active rfl
        _ = s.newfds := newfds_connect answer.start filp mid first
  | poll side filp answer =>
      cases side with
      | input =>
          have armed := newfds_pollin answer.start answer.newfd next filp result
          rwa [if_neg (fun both => by rw [accepting, if_pos both] at idle; cases idle)] at armed
      | output => exact newfds_pollout next filp result
  | active side filp task answer =>
      have called : genericActive (portOps answer) side s filp task = some next := by cases side <;> exact result
      exact newfds_active side answer next filp task called idle
  | cancel side filp verify =>
      cases side with
      | input =>
          injection result with same
          exact same ▸ newfds_lapped _ (by unfold txAincbStop genericCancelIn genericCancel; split <;> rfl)
      | output =>
          injection result with same
          exact same ▸ newfds_lapped _ (by unfold txOutcbCancel genericCancelOut genericCancel; split <;> rfl)
  | update filp len errno =>
      injection result with same
      exact same ▸ newfds_lapped _ (by unfold txAincbUpdate txUpdate; split <;> [rfl; split <;> rfl])
  | accept filp => exact absurd rfl (accept filp)
  | polling tells => exact absurd rfl (polling tells)
  | loop world =>
      injection result with same
      exact same ▸ rfl

theorem Flight.newfds_batch (flight : Flight s) (tells : List (O × Side)) (next : PortPoller L T W P F O)
    (result : tells.foldlM portTell s = some next) :
    Flight next ∧ next.backend.inflight = s.backend.inflight.diff tells ∧
      next.backend.txPrivp = s.backend.txPrivp ∧
      ∀ address, (next.backend.lapped address).isSome = true → next.newfds address = s.newfds address := by
  induction tells generalizing s with
  | nil =>
      injection result with same
      subst same
      exact ⟨flight, rfl, rfl, fun _ _ => rfl⟩
  | cons told tells ih =>
      rw [List.foldlM_cons] at result
      obtain ⟨mid, first, rest⟩ := Option.bind_eq_some_iff.mp result
      obtain ⟨_, moved, inflight, privp, _⟩ := flight.tell told mid first
      obtain ⟨kept, landed, held, sockets⟩ := ih moved rest
      refine ⟨kept, ?_, held.trans privp, ?_⟩
      · rw [landed, inflight, List.diff_cons]
      · intro address present
        have before : (mid.backend.lapped address).isSome = true := by
          apply (moved.allocated address).mpr
          rcases (kept.allocated address).mp present with ⟨filp, _, mine⟩ | ⟨side, flying⟩
          · rw [held] at mine
            exact Or.inl ⟨filp, (moved.attached filp).mpr ⟨address, mine⟩, mine⟩
          · rw [landed] at flying
            exact Or.inr ⟨side, List.diff_subset _ _ flying⟩
        obtain ⟨olaped, stored⟩ := Option.isSome_iff_exists.mp before
        calc next.newfds address
            = mid.newfds address := sockets address present
          _ = s.newfds address := newfds_tell told mid first address olaped stored

theorem Flight.newfds_fini (flight : Flight s) (filp : F) (answer : PortAnswer O)
    (next : PortPoller L T W P F O) (result : txAiocbFini (portOps answer) s filp = some next) :
    next.newfds = s.newfds ∧ ¬ s.lastClose filp ∨
      s.lastClose filp ∧ ∃ address olaped, s.olaped filp = some (address, olaped) ∧
        next.newfds = Function.update s.newfds address none := by
  unfold txAiocbFini at result
  split at result
  · rename_i closed
    injection result with same
    exact Or.inl ⟨same ▸ rfl, fun last => last.1 closed⟩
  · rename_i opened
    cases live : (s.filp filp).live with
    | false =>
        have same : s = next := by simpa [portOps, txCompletionPortDetach, live] using result
        refine Or.inl ⟨same ▸ rfl, fun last => ?_⟩
        rw [last.2.1] at live
        cases live
    | true =>
        obtain ⟨address, olaped, found, _⟩ := flight.olaped filp live
        have detached := newfds_detach filp address olaped next found live result
        have last := flight.last filp address olaped found live
        split at detached
        · rename_i zero
          exact Or.inr ⟨⟨opened, live, last.mp zero⟩, address, olaped, found, detached⟩
        · rename_i more
          exact Or.inl ⟨detached, fun closes => more (last.mpr closes.2.2)⟩

theorem Flight.newfds_polling (flight : Flight s) (tells : List (O × Side)) (next : PortPoller L T W P F O)
    (result : tells.foldlM portTell s = some next) (good : ¬ Leaks s (.polling tells)) :
    next.newfds = s.newfds := by
  obtain ⟨kept, landed, held, sockets⟩ := flight.newfds_batch tells next result
  funext address
  cases present : (next.backend.lapped address).isSome with
  | true => exact sockets address present
  | false =>
      have deleted : next.backend.lapped address = none := by simpa using present
      have gone : next.newfds address = none := by rw [Poller.newfds, deleted, Option.bind_none]
      have unkept : ¬ ((∃ filp, (next.filp filp).live = true ∧ next.backend.txPrivp filp = some address) ∨
          ∃ side, (address, side) ∈ next.backend.inflight) := by
        rw [← kept.allocated address, present]
        exact Bool.false_ne_true
      rw [gone]
      cases stored : s.backend.lapped address with
      | none => rw [Poller.newfds, stored, Option.bind_none]
      | some olaped =>
          rw [Poller.newfds, stored, Option.bind_some]
          apply Eq.symm
          rw [descriptor_none]
          by_contra holds
          refine good ⟨address, olaped, stored, holds, ?_, ?_⟩
          · by_contra attached
            obtain ⟨filp, own⟩ := Option.ne_none_iff_exists'.mp attached
            have mine := ((flight.owner address olaped filp stored).mp own).2
            rw [← held] at mine
            exact unkept (Or.inl ⟨filp, (kept.attached filp).mpr ⟨address, mine⟩, mine⟩)
          · intro side flying
            by_contra untold
            refine unkept (Or.inr ⟨side, ?_⟩)
            rw [landed]
            exact List.mem_diff_of_mem flying untold

theorem Flight.polling_deletes (flight : Flight s) (tells : List (O × Side)) (next : PortPoller L T W P F O)
    (result : tells.foldlM portTell s = some next) (address : O) (olaped : TxOverlapped F)
    (stored : s.backend.lapped address = some olaped) (detached : olaped.txFilp = none)
    (all : ∀ side, (address, side) ∈ s.backend.inflight → (address, side) ∈ tells) :
    next.newfds address = none := by
  obtain ⟨kept, landed, held, _⟩ := flight.newfds_batch tells next result
  have deleted : next.backend.lapped address = none := by
    by_contra present
    rcases (kept.allocated address).mp (Option.isSome_iff_ne_none.mpr present) with
      ⟨filp, _, mine⟩ | ⟨side, flying⟩
    · rw [held] at mine
      have own := (flight.owner address olaped filp stored).mpr
        ⟨(flight.attached filp).mpr ⟨address, mine⟩, mine⟩
      rw [detached] at own
      cases own
    · have once : s.backend.inflight.Nodup := flight.sound.once
      rw [landed, once.mem_sdiff_iff] at flying
      exact flying.2 (all side flying.1)
  rw [Poller.newfds, deleted, Option.bind_none]

theorem Flight.refused (flight : Flight s) (action : PortAction L T W P F O)
    (next : PortPoller L T W P F O) (result : portRefuse s action = some next) :
    Flight next ∧ next.newfds = s.newfds := by
  have refuse (mid last : PortPoller L T W P F O) (filp : F)
      (called : txCompletionPortRefused mid filp = some last) : last = mid := by
    unfold txCompletionPortRefused at called
    split at called
    · split at called
      · obtain ⟨olaped, _, rest⟩ := Option.bind_eq_some_iff.mp called
        split at rest
        · exact (Option.some.inj rest).symm
        · cases rest
      · cases called
    · exact (Option.some.inj called).symm
  unfold portRefuse at result
  split at result
  · rename_i filp answer
    split at result
    · have same := refuse s next filp result
      exact ⟨same ▸ flight, same ▸ rfl⟩
    · cases result
  · rename_i filp task answer
    split at result
    · change genericActive (refusedOps answer) .input s filp task = some next at result
      unfold genericActive at result
      dsimp only at result
      split at result
      · injection result with same
        exact same ▸ ⟨flight.same _ rfl rfl, newfds_lapped _ rfl⟩
      · split at result
        · injection result with same
          exact same ▸ ⟨flight.waiting .input filp task, rfl⟩
        · have same := refuse (s.setFilter filp .input task) next filp result
          exact same ▸ ⟨flight.waiting .input filp task, rfl⟩
    · cases result
  · cases result

end Actions

structure SocketPort.Held (s : SocketPort L T W P F O) : Prop where
  flight : Flight s.port
  sound : s.custody.Sound

section Steps

variable {s : SocketPort L T W P F O}

omit [DecidableEq F] [DecidableEq O] in
theorem custody_same (next : SocketPort L T W P F O) (newfds : next.port.newfds = s.port.newfds)
    (opened : next.opened = s.opened) (returned : next.returned = s.returned)
    (closed : next.closed = s.closed) : next.custody = s.custody := by
  rw [SocketPort.custody, SocketPort.custody, newfds, opened, returned, closed]

theorem SocketPort.Held.still (held : s.Held) (next : PortPoller L T W P F O)
    (moved : next.newfds = s.port.newfds) :
    (SocketPort.custody ⟨next, s.opened ++ [], s.returned ++ [], s.closed⟩).Sound := by
  have same := custody_same (s := s) ⟨next, s.opened ++ [], s.returned ++ [], s.closed⟩ moved
    (List.append_nil _) (List.append_nil _) rfl
  exact same ▸ held.sound

theorem SocketPort.Held.made (held : s.Held) (next : PortPoller L T W P F O) (address : O)
    (olaped : TxOverlapped F) (filp : F) (newfd : Int) (found : s.port.olaped filp = some (address, olaped))
    (empty : olaped.txNewfd = -1) (fresh : ∀ fd ∈ (descriptor newfd).toList, fd ∉ s.opened)
    (moved : next.newfds = Function.update s.port.newfds address (descriptor newfd)) :
    (SocketPort.custody ⟨next, s.opened ++ (descriptor newfd).toList, s.returned ++ [], s.closed⟩).Sound := by
  have here : s.port.newfds address = none := by
    rw [newfds_olaped filp address olaped found, descriptor_none, empty]
  cases made : descriptor newfd with
  | none =>
      rw [made, ← here, Function.update_eq_self] at moved
      exact held.still next moved
  | some fd =>
      have put := held.sound.put address fd (fresh fd (by simp [made])) here
      rw [made] at moved
      simpa [SocketPort.custody, Custody.put, moved] using put

theorem SocketPort.Held.accepted (held : s.Held) (filp : F) (result : Int × PortPoller L T W P F O)
    (called : txCompletionPortAccept s.port filp = some result) :
    (SocketPort.custody
      ⟨result.2, s.opened ++ [], s.returned ++ (descriptor result.1).toList, s.closed⟩).Sound := by
  have moved := newfds_accept filp result called
  cases given : descriptor result.1 with
  | none =>
      have still : result.2.newfds = s.port.newfds := by
        rcases moved with ⟨_, same⟩ | ⟨address, olaped, found, newfd, taken⟩
        · exact same
        · have here := newfds_olaped filp address olaped found
          rw [← newfd, given] at here
          rw [taken, ← here, Function.update_eq_self]
      exact held.still result.2 still
  | some fd =>
      rcases moved with ⟨nothing, _⟩ | ⟨address, olaped, found, newfd, taken⟩
      · rw [given] at nothing
        cases nothing
      · have here := newfds_olaped filp address olaped found
        rw [← newfd, given] at here
        have hand := held.sound.hand address fd here
        simpa [SocketPort.custody, Custody.hand, taken] using hand

theorem SocketPort.Held.refused (held : s.Held) (next : PortPoller L T W P F O) (made : Option Int)
    (fresh : ∀ fd ∈ made.toList, fd ∉ s.opened) (moved : next.newfds = s.port.newfds) :
    (SocketPort.custody ⟨next, s.opened ++ made.toList, s.returned, s.closed ++ made.toList⟩).Sound := by
  cases made with
  | none =>
      have same := custody_same (s := s) ⟨next, s.opened ++ [], s.returned, s.closed ++ []⟩ moved
        (List.append_nil _) rfl (List.append_nil _)
      exact same ▸ held.sound
  | some fd =>
      have refuse := held.sound.refuse fd (fresh fd (by simp))
      simpa [SocketPort.custody, Custody.refuse, moved] using refuse

variable [DecidableEq L] [DecidableEq T] [DecidableEq W]

theorem Flight.act {port next : PortPoller L T W P F O} (flight : Flight port) (action : PortAction L T W P F O)
    (proper : PortProper port action) (result : portAct port action = some next) : Flight next := by
  by_cases batch : ∃ tells, action = .polling tells
  · obtain ⟨tells, rfl⟩ := batch
    obtain ⟨mid, told, same⟩ := Option.map_eq_some_iff.mp result
    exact same ▸ (flight.newfds_batch tells mid told).1.same _ rfl rfl
  · have single : ∀ tells, action ≠ .polling tells := fun tells same => batch ⟨tells, same⟩
    exact (port_act_spec port next action flight proper result single).1

theorem SocketPort.Held.port (held : s.Held) (action : PortAction L T W P F O)
    (next : PortPoller L T W P F O) (proper : SocketProper s (.port action))
    (good : ¬ Leaks s.port action) (result : portAct s.port action = some next) :
    (SocketPort.custody ⟨next, s.opened ++ opens s.port action, s.returned ++ takes s.port action,
      s.closed⟩).Sound := by
  have idle (none : opens s.port action = []) (nothing : takes s.port action = [])
      (moved : next.newfds = s.port.newfds) :
      (SocketPort.custody ⟨next, s.opened ++ opens s.port action, s.returned ++ takes s.port action,
        s.closed⟩).Sound := by
    rw [none, nothing]
    exact held.still next moved
  cases makes : accepting s.port action with
  | some made =>
      obtain ⟨address, olaped, found, moved⟩ := newfds_accepting action next made.1 made.2 makes result
      have opened : opens s.port action = (descriptor made.2).toList := by rw [opens, makes, Option.bind_some]
      have taken : takes s.port action = [] := by
        cases action <;> first | rfl | cases makes
      have empty : olaped.txNewfd = -1 := by
        by_contra holds
        have leaks : ∃ filp newfd, accepting s.port action = some (filp, newfd) ∧ s.port.holds filp :=
          ⟨made.1, made.2, makes, address, olaped, found, holds⟩
        cases action <;> first | exact good leaks | cases makes
      rw [opened, taken]
      exact held.made next address olaped made.1 made.2 found empty (opened ▸ proper.2) moved
  | none =>
      have opened : opens s.port action = [] := by rw [opens, makes]; rfl
      cases action with
      | fini filp answer =>
          rcases held.flight.newfds_fini filp answer next result with
            ⟨same, _⟩ | ⟨last, address, olaped, found, moved⟩
          · exact idle opened rfl same
          · have empty : olaped.txNewfd = -1 := by
              by_contra holds
              exact good ⟨last, address, olaped, found, holds⟩
            have here : s.port.newfds address = none := by
              rw [newfds_olaped filp address olaped found, descriptor_none, empty]
            apply idle opened rfl
            rw [moved, ← here, Function.update_eq_self]
      | accept filp =>
          obtain ⟨pair, called, same⟩ := Option.map_eq_some_iff.mp result
          subst same
          have taken : takes s.port (.accept filp) = (descriptor pair.1).toList := by
            rw [takes, called, Option.bind_some]
          rw [opened, taken]
          exact held.accepted filp pair called
      | polling tells =>
          obtain ⟨mid, told, same⟩ := Option.map_eq_some_iff.mp result
          apply idle opened rfl
          rw [← same]
          exact held.flight.newfds_polling tells mid told good
      | _ =>
          apply idle opened rfl
          apply newfds_act _ next proper.1 result makes
          · intro filp answer same
            cases same
          · intro filp same
            cases same
          · intro tells same
            cases same

theorem SocketPort.Held.step (held : s.Held) (action : SocketAction L T W P F O)
    (next : SocketPort L T W P F O) (proper : SocketProper s action) (good : ¬ SocketLeaks s action)
    (result : socketAct s action = some next) : next.Held := by
  cases action with
  | port action =>
      obtain ⟨after, called, same⟩ := Option.map_eq_some_iff.mp result
      subst same
      exact ⟨held.flight.act action proper.1 called, held.port action after proper good called⟩
  | refused action =>
      obtain ⟨after, called, same⟩ := Option.map_eq_some_iff.mp result
      subst same
      obtain ⟨kept, moved⟩ := held.flight.refused action after called
      exact ⟨kept, held.refused after _ proper moved⟩

omit [DecidableEq L] [DecidableEq T] [DecidableEq W] in
theorem SocketPort.Held.lost (held : s.Held) (next : SocketPort L T W P F O) (address : O)
    (olaped : TxOverlapped F) (stored : s.port.backend.lapped address = some olaped)
    (holds : olaped.txNewfd ≠ -1) (left : next.port.newfds address ≠ some olaped.txNewfd)
    (others : ∀ other fd, next.port.newfds other = some fd → other ≠ address → s.port.newfds other = some fd)
    (opened : ∀ fd ∈ s.opened, fd ∈ next.opened) (returned : next.returned = s.returned)
    (closed : next.closed = s.closed) : ¬ SocketsKept next := by
  have here := newfds_holds address olaped stored holds
  intro kept
  have known := (held.sound.at address olaped.txNewfd here).1
  refine held.sound.lost address olaped.txNewfd here next.custody left ?_ returned closed
    (kept olaped.txNewfd (opened olaped.txNewfd known))
  exact fun other also apart => others other olaped.txNewfd also apart

omit [DecidableEq L] [DecidableEq T] [DecidableEq W] in
theorem SocketPort.Held.overwritten (held : s.Held) (next : SocketPort L T W P F O) (filp : F) (address : O)
    (olaped : TxOverlapped F) (fresh : Option Int) (found : s.port.olaped filp = some (address, olaped))
    (holds : olaped.txNewfd ≠ -1) (unused : ∀ fd ∈ fresh, fd ∉ s.opened)
    (moved : next.port.newfds = Function.update s.port.newfds address fresh)
    (opened : ∀ fd ∈ s.opened, fd ∈ next.opened) (returned : next.returned = s.returned)
    (closed : next.closed = s.closed) : ¬ SocketsKept next := by
  have stored := ((olaped_iff s.port filp address olaped).mp found).2
  apply held.lost next address olaped stored holds
  · rw [moved, Function.update_self]
    intro same
    have here := newfds_holds address olaped stored holds
    exact unused olaped.txNewfd same (held.sound.at address olaped.txNewfd here).1
  · intro other fd also apart
    rwa [moved, Function.update_of_ne apart] at also
  · exact opened
  · exact returned
  · exact closed

theorem SocketPort.Held.leak (held : s.Held) (action : SocketAction L T W P F O)
    (next : SocketPort L T W P F O) (proper : SocketProper s action) (bad : SocketLeaks s action)
    (result : socketAct s action = some next) : ¬ SocketsKept next := by
  cases action with
  | refused action => exact bad.elim
  | port action =>
      obtain ⟨after, called, same⟩ := Option.map_eq_some_iff.mp result
      subst same
      have more : ∀ fd ∈ s.opened, fd ∈ s.opened ++ opens s.port action :=
        fun fd member => List.mem_append_left _ member
      have made (filp : F) (newfd : Int) (makes : accepting s.port action = some (filp, newfd))
          (holds : s.port.holds filp) (taken : takes s.port action = []) :
          ¬ SocketsKept ⟨after, s.opened ++ opens s.port action, s.returned ++ takes s.port action, s.closed⟩ := by
        obtain ⟨address, olaped, found, moved⟩ := newfds_accepting action after filp newfd makes called
        have opened : opens s.port action = (descriptor newfd).toList := by rw [opens, makes, Option.bind_some]
        apply held.overwritten _ filp address olaped (descriptor newfd) found (holds_pending holds found)
        · intro fd member
          exact proper.2 fd (by rw [opened]; exact Option.mem_toList.mpr member)
        · exact moved
        · exact more
        · rw [taken, List.append_nil]
        · rfl
      cases action with
      | fini filp answer =>
          rcases held.flight.newfds_fini filp answer after called with
            ⟨_, open_⟩ | ⟨_, address, olaped, found, moved⟩
          · exact absurd bad.1 open_
          · apply held.overwritten _ filp address olaped none found (holds_pending bad.2 found)
            · intro fd member
              cases member
            · exact moved
            · exact more
            · exact List.append_nil _
            · rfl
      | polling tells =>
          obtain ⟨address, olaped, stored, pending, detached, all⟩ := bad
          obtain ⟨mid, told, same⟩ := Option.map_eq_some_iff.mp called
          have gone := held.flight.polling_deletes tells mid told address olaped stored detached all
          obtain ⟨_, _, _, sockets⟩ := held.flight.newfds_batch tells mid told
          subst same
          apply held.lost _ address olaped stored pending
          · change mid.newfds address ≠ some olaped.txNewfd
            rw [gone]
            exact (Option.some_ne_none _).symm
          · intro other fd also _
            change mid.newfds other = some fd at also
            rw [← sockets other, also]
            obtain ⟨kept, value, _⟩ := Option.bind_eq_some_iff.mp also
            exact Option.isSome_iff_exists.mpr ⟨kept, value⟩
          · exact more
          · exact List.append_nil _
          · rfl
      | _ =>
          obtain ⟨filp, newfd, makes, holds⟩ := bad
          first
            | exact made filp newfd makes holds rfl
            | cases makes

end Steps

structure SocketFresh (s : SocketPort L T W P F O) : Prop where
  port : PortFresh s.port
  opened : s.opened = []
  returned : s.returned = []
  closed : s.closed = []

theorem held_fresh (start : SocketPort L T W P F O) (fresh : SocketFresh start) : start.Held where
  flight := flight_fresh start.port fresh.port
  sound := by
    have empty : ∀ address, start.port.newfds address = none := by
      intro address
      rw [Poller.newfds, fresh.port.lapped, Option.bind_none]
    constructor
    · intro fd member
      rw [SocketPort.custody, fresh.opened] at member
      cases member
    · intro fd _
      simp [SocketPort.custody, Custody.Free, empty, fresh.returned, fresh.closed]

variable [DecidableEq L] [DecidableEq T] [DecidableEq W]

/-- Every socket has one keeper all through a run exactly when no step of it deletes or reuses
memory that has a socket. -/
theorem sockets_kept (start s : SocketPort L T W P F O) (fresh : SocketFresh start)
    (actions : List (SocketAction L T W P F O))
    (allowed : Runs.Allowed socketAct SocketProper start actions)
    (reached : Runs.run socketAct start actions = some s) :
    (∀ front back mid, actions = front ++ back → Runs.run socketAct start front = some mid →
        SocketsKept mid) ↔
      Runs.Allowed socketAct (fun s action => ¬ SocketLeaks s action) start actions := by
  apply Runs.harmless_iff SocketProper SocketLeaks SocketPort.Held SocketsKept
  · exact fun s held => held.sound.kept
  · exact fun s action next proper good held step => held.step action next proper good step
  · exact fun s action next proper bad held step => held.leak action next proper bad step
  · exact allowed
  · exact held_fresh start fresh
  · exact reached

def loneSocket : SocketPort Unit Bool Unit Unit Unit Nat := ⟨lonePort, [], [], []⟩

theorem fresh_socket : SocketFresh loneSocket := ⟨fresh_port, rfl, rfl, rfl⟩

def socketListen : List (SocketAction Unit Bool Unit Unit Unit Nat) :=
  [.port (.listen () 3 ⟨.pending, -1, 0⟩), .port (.poll .input () ⟨.pending, 7, 1⟩)]

def socketActions : List (SocketAction Unit Bool Unit Unit Unit Nat) :=
  socketListen ++ [.port (.polling [(0, .input)]), .port (.accept ()), .port (.fini () ⟨.pending, -1, 1⟩)]

def socketAfter : SocketPort Unit Bool Unit Unit Unit Nat :=
  (Runs.run socketAct loneSocket socketActions).getD loneSocket

def socketLosing : List (SocketAction Unit Bool Unit Unit Unit Nat) :=
  socketListen ++ [.port (.fini () ⟨.pending, -1, 1⟩), .port (.polling [(0, .input)])]

def socketLost : SocketPort Unit Bool Unit Unit Unit Nat :=
  (Runs.run socketAct loneSocket socketLosing).getD loneSocket

theorem socket_proper : Runs.Allowed socketAct SocketProper loneSocket socketActions := by
  apply Runs.allowed_cons _ _ _ _ _ ⟨⟨rfl, rfl⟩, List.forall_mem_nil _⟩ rfl
  apply Runs.allowed_cons _ _ _ _ _ ⟨trivial, fun _ _ member => by cases member⟩ rfl
  apply Runs.allowed_cons _ _ _ _ _ ⟨⟨List.nodup_singleton _, fun _ member => member⟩, List.forall_mem_nil _⟩ rfl
  apply Runs.allowed_cons _ _ _ _ _ ⟨trivial, List.forall_mem_nil _⟩ rfl
  exact Runs.allowed_cons _ _ _ _ _ ⟨trivial, List.forall_mem_nil _⟩ rfl trivial

theorem socket_harmless :
    Runs.Allowed socketAct (fun s action => ¬ SocketLeaks s action) loneSocket socketActions := by
  apply Runs.allowed_cons _ _ _ _ _ ?listen rfl
  apply Runs.allowed_cons _ _ _ _ _ ?pollin rfl
  apply Runs.allowed_cons _ _ _ _ _ ?told rfl
  apply Runs.allowed_cons _ _ _ _ _ ?accept rfl
  apply Runs.allowed_cons _ _ _ _ _ ?fini rfl
  · trivial
  case listen | accept =>
    rintro ⟨_, _, makes, _⟩
    cases makes
  case pollin =>
    rintro ⟨_, _, _, address, olaped, found, holds⟩
    injection found with both
    injection both with _ same
    exact holds (same ▸ rfl)
  case fini =>
    rintro ⟨_, address, olaped, found, holds⟩
    injection found with both
    injection both with _ same
    exact holds (same ▸ rfl)
  case told =>
    rintro ⟨address, olaped, stored, _, detached, _⟩
    cases address with
    | zero =>
        injection stored with same
        rw [← same] at detached
        cases detached
    | succ address => cases stored

theorem sockets_kept_lone : SocketsKept socketAfter ∧ socketAfter.returned = [7] :=
  ⟨(sockets_kept loneSocket socketAfter fresh_socket socketActions socket_proper rfl).mpr socket_harmless
    socketActions [] socketAfter rfl rfl, rfl⟩

/-- A listening object is closed before its `AcceptEx` completes: the memory is deleted, and the
socket stays open. -/
theorem socket_leaked :
    SocketFresh loneSocket ∧ Runs.Allowed socketAct SocketProper loneSocket socketLosing ∧
      Runs.run socketAct loneSocket socketLosing = some socketLost ∧ socketLost.opened = [7] ∧
      socketLost.port.backend.deleted = [0] ∧ ¬ SocketsKept socketLost := by
  refine ⟨fresh_socket, ?_, rfl, rfl, rfl, ?_⟩
  · apply Runs.allowed_cons _ _ _ _ _ ⟨⟨rfl, rfl⟩, List.forall_mem_nil _⟩ rfl
    apply Runs.allowed_cons _ _ _ _ _ ⟨trivial, fun _ _ member => by cases member⟩ rfl
    apply Runs.allowed_cons _ _ _ _ _ ⟨trivial, List.forall_mem_nil _⟩ rfl
    exact Runs.allowed_cons _ _ _ _ _ ⟨⟨List.nodup_singleton _, fun _ member => member⟩, List.forall_mem_nil _⟩ rfl
      trivial
  · intro kept
    rcases kept 7 (List.mem_singleton_self 7) with ⟨address, here, _⟩ | ⟨_, given, _⟩ | ⟨_, _, shut⟩
    · cases address <;> cases here
    · cases given
    · cases shut

end Libtx
