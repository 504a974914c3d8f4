import Libtx.Aiocb.Flight
import Libtx.Aiocb.Generic

namespace Libtx

open Count

variable {L T W P F O : Type}

section Operations

variable {s : PortPoller L T W P F O} [DecidableEq F]

theorem setPrivp_same (s : PortPoller L T W P F O) (filp : F) (empty : s.backend.txPrivp filp = none) :
    s.setPrivp filp none = s := by
  simp only [Poller.setPrivp, Poller.onPort]
  rw [← empty, Function.update_eq_self]

variable [DecidableEq O]

theorem Flight.unheld (flight : Flight s) (filp : F) (dead : (s.filp filp).live = false) :
    s.backend.txPrivp filp = none := by
  cases held : s.backend.txPrivp filp with
  | none => rfl
  | some address =>
      rw [(flight.attached filp).mpr ⟨address, held⟩] at dead
      cases dead

theorem attach_spec (s : PortPoller L T W P F O) (filp : F) (fresh : O)
    (off : (s.filp filp).txFlags.attached = false ∧ (s.filp filp).txFlags.detached = false) :
    (txCompletionPortAttach fresh s filp).filp =
        (s.setFlags filp (fun flags => { flags with attached := true })).filp ∧
      (txCompletionPortAttach fresh s filp).backend.txPrivp =
        Function.update s.backend.txPrivp filp (some fresh) ∧
      (txCompletionPortAttach fresh s filp).backend.inflight = s.backend.inflight ∧
      (txCompletionPortAttach fresh s filp).lease = s.lease.attach filp fresh := by
  unfold txCompletionPortAttach
  rw [if_pos off]
  refine ⟨rfl, rfl, rfl, ?_⟩
  rw [lease_setLapped]
  rfl

theorem Flight.dead (flight : Flight s) (next : PortPoller L T W P F O) (filp : F) (file : TxAiocb T)
    (written : next.filp = Function.update s.filp filp file) (backend : next.backend = s.backend)
    (before : (s.filp filp).live = false) (after : file.live = false) : Flight next := by
  have empty := flight.unheld filp before
  apply flight.update next filp file written
  · exact lease_backend s next backend ▸ flight.sound
  · exact fun other _ => by rw [backend]
  · exact fun other address _ _ side => by rw [backend]
  · rw [backend, empty, after]
    simp
  · intro address held
    rw [backend, empty] at held
    cases held

theorem detach_spec (s : PortPoller L T W P F O) (filp : F) (address : O) (olaped : TxOverlapped F)
    (found : s.olaped filp = some (address, olaped)) (live : (s.filp filp).live = true) :
    ∃ next, txCompletionPortDetach s filp = some next ∧
      next.filp = (s.setFlags filp (fun flags => { flags with detached := true })).filp ∧
      next.world = s.world ∧ next.calls = s.calls ∧
      next.backend.txPrivp = Function.update s.backend.txPrivp filp none ∧
      next.backend.inflight = s.backend.inflight ∧
      next.lease = (s.lease.leave filp address olaped.txRefcnt).unref address olaped.txRefcnt none := by
  obtain ⟨files, world, calls, privp, inflight⟩ := unref_frame
    ((s.setFlags filp (fun flags => { flags with detached := true })).setPrivp filp none) address
    { olaped with txFilp := none }
  refine ⟨_, by rw [txCompletionPortDetach, if_pos live, found]; rfl, files, world, calls, privp, inflight, ?_⟩
  rw [lease_unref]
  unfold Leases.unref
  split
  · simp [Leases.delete, Leases.leave, Leases.setCell, Poller.lease, Poller.setPrivp, Poller.onPort,
      Poller.setFlags, Poller.setFilp]
  · simp [Leases.leave, Leases.setCell, Poller.lease, Poller.setPrivp, Poller.onPort,
      Poller.setFlags, Poller.setFilp]

theorem Flight.olaped (flight : Flight s) (filp : F) (live : (s.filp filp).live = true) :
    ∃ address olaped, s.olaped filp = some (address, olaped) ∧ olaped.txFilp = some filp := by
  obtain ⟨address, held⟩ := (flight.attached filp).mp live
  obtain ⟨olaped, stored, own⟩ := flight.cell filp address held
  exact ⟨address, olaped, (olaped_iff s filp address olaped).mpr ⟨held, stored⟩, own⟩

theorem Flight.detach (flight : Flight s) (filp : F) (live : (s.filp filp).live = true) :
    ∃ next, txCompletionPortDetach s filp = some next ∧ Flight next ∧
      next.filp = (s.setFlags filp (fun flags => { flags with detached := true })).filp := by
  obtain ⟨address, olaped, found, own⟩ := flight.olaped filp live
  obtain ⟨held, stored⟩ := (olaped_iff s filp address olaped).mp found
  obtain ⟨next, result, written, _, _, privp, inflight, lease⟩ := detach_spec s filp address olaped found live
  refine ⟨next, result, ?_, written⟩
  apply flight.update next filp _ written
  · have cell : s.lease.cell address = some (olaped.txRefcnt, some filp) :=
      Option.map_eq_some_iff.mpr ⟨olaped, stored, by rw [own]⟩
    rw [lease]
    exact (flight.sound.leave filp address _ cell).unref address _ none
      (by simp [Leases.leave, Leases.setCell])
  · intro other apart
    rw [privp, Function.update_of_ne apart]
  · exact fun other place _ _ side => by rw [inflight]
  · rw [privp, Function.update_self]
    simp [TxAiocb.live]
  · intro place mine
    rw [privp, Function.update_self] at mine
    cases mine

theorem Flight.waiting (flight : Flight s) (side : Side) (filp : F) (task : Option T) :
    Flight (s.setFilter filp side task) :=
  flight.file _ filp _ rfl rfl rfl (fun _ fits => fits.same _ rfl rfl)

theorem Flight.accept (flight : Flight s) (filp : F) (result : Int × PortPoller L T W P F O)
    (called : txCompletionPortAccept s filp = some result) :
    Flight result.2 ∧ ∃ file, result.2.filp = Function.update s.filp filp file ∧
      file.txFilter = (s.filp filp).txFilter ∧ file.txFlags.poll = (s.filp filp).txFlags.poll ∧
      file.live = (s.filp filp).live := by
  unfold txCompletionPortAccept at called
  dsimp only at called
  split at called
  · obtain ⟨olaped, found, same⟩ := Option.map_eq_some_iff.mp called
    obtain ⟨held, stored⟩ := (olaped_iff s filp olaped.1 olaped.2).mp found
    subst same
    have read : Flight (s.setAble filp .input false) :=
      flight.file _ filp _ rfl rfl rfl (fun _ fits => fits.same _ rfl rfl)
    have cell : s.lease.cell olaped.1 = some (olaped.2.txRefcnt, olaped.2.txFilp) :=
      Option.map_eq_some_iff.mpr ⟨olaped.2, stored, rfl⟩
    have lease : ((s.setAble filp .input false).setLapped olaped.1 { olaped.2 with txNewfd := -1 }).lease =
        s.lease := by
      rw [lease_setLapped]
      change s.lease.setCell olaped.1 olaped.2.txRefcnt olaped.2.txFilp = s.lease
      rw [Leases.setCell, ← cell, Function.update_eq_self]
    exact ⟨⟨lease ▸ flight.sound, read.attached, read.fits⟩, _, rfl, rfl, rfl, rfl⟩
  · injection called with same
    subst same
    exact ⟨flight, s.filp filp, (Function.update_eq_self _ _).symm, rfl, rfl, rfl⟩

variable [DecidableEq L] [DecidableEq T] [DecidableEq W]

theorem Flight.init (flight : Flight s) (filp : F) (fd : Int) (answer : PortAnswer O)
    (next : PortPoller L T W P F O) (dead : (s.filp filp).live = false)
    (free : s.backend.lapped answer.fresh = none)
    (result : txAiocbInit (portOps answer) (s.setPrivp filp none) filp fd = some next) :
    Flight next ∧ ∃ file, next.filp = Function.update s.filp filp file ∧
      file.txFilter = fun _ => none := by
  have empty := flight.unheld filp dead
  rw [setPrivp_same s filp empty, txAiocbInit] at result
  have clean : (s.setFilp filp (fun _ => TxAiocb.fresh fd)).filp =
      Function.update s.filp filp (TxAiocb.fresh fd) := rfl
  split at result
  · injection result with same
    subst same
    exact ⟨flight.dead _ filp _ clean rfl dead rfl, _, clean, rfl⟩
  · injection result with same
    subst same
    have off : ((s.setFilp filp (fun _ => TxAiocb.fresh fd)).filp filp).txFlags.attached = false ∧
        ((s.setFilp filp (fun _ => TxAiocb.fresh fd)).filp filp).txFlags.detached = false := by
      rw [clean, Function.update_self]
      exact ⟨rfl, rfl⟩
    obtain ⟨files, privp, inflight, lease⟩ := attach_spec _ filp answer.fresh off
    have written : (txCompletionPortAttach answer.fresh (s.setFilp filp (fun _ => TxAiocb.fresh fd)) filp).filp =
        Function.update s.filp filp
          { TxAiocb.fresh fd with txFlags := { (TxAiocb.fresh (T := T) fd).txFlags with attached := true } } := by
      rw [files]
      simp [Poller.setFlags, Poller.setFilp]
    have landed : ∀ side, (answer.fresh, side) ∉ s.backend.inflight :=
      fun side => flight.sound.free answer.fresh side (by simp [Poller.lease, free])
    refine ⟨?_, _, written, rfl⟩
    apply flight.update _ filp _ written
    · rw [lease]
      exact flight.sound.attach filp answer.fresh empty (by simp [Poller.lease, free])
    · intro other apart
      rw [privp, Function.update_of_ne apart]
      rfl
    · exact fun other address _ _ side => by rw [inflight]; rfl
    · rw [privp, Function.update_self]
      simp [TxAiocb.live, TxAiocb.fresh]
    · intro address held
      rw [privp, Function.update_self] at held
      injection held with same
      subst same
      rw [inflight]
      constructor
      · intro side
        constructor
        · intro on
          cases on
        · exact fun flying => absurd flying (landed side)
      · rfl

theorem Flight.listen (flight : Flight s) (filp : F) (fd : Int) (answer : PortAnswer O)
    (next : PortPoller L T W P F O) (dead : (s.filp filp).live = false)
    (free : s.backend.lapped answer.fresh = none)
    (result : txListenInit (portOps answer) (s.setPrivp filp none) filp fd = some next) :
    Flight next ∧ ∃ file, next.filp = Function.update s.filp filp file ∧
      file.txFilter = fun _ => none := by
  obtain ⟨mid, called, same⟩ := Option.map_eq_some_iff.mp result
  obtain ⟨kept, file, written, empty⟩ := flight.init filp fd answer mid dead free called
  subst same
  refine ⟨kept.file _ filp _ rfl rfl rfl (fun _ fits => fits.same _ rfl rfl),
    { file with txFlags := { file.txFlags with listen := true } }, ?_, empty⟩
  simp [Poller.setFlags, Poller.setFilp, written]

theorem Flight.active (flight : Flight s) (side : Side) (filp : F) (task : Option T) (answer : PortAnswer O)
    (next : PortPoller L T W P F O) (result : genericActive (portOps answer) side s filp task = some next) :
    Flight next ∧
      (next.filp = Function.update s.filp filp ((s.filp filp).await side task) ∨
        next.calls = s.calls ++ task.toList.map (fun task => (task, filp)) ∧
          (next.filp = s.filp ∨ (s.filp filp).live = true ∧ (s.filp filp).txFlags.poll side = false ∧
            next.filp = Function.update s.filp filp ((s.filp filp).serve side))) := by
  have waiting := flight.waiting side filp task
  unfold genericActive at result
  dsimp only at result
  split at result
  · injection result with same
    subst same
    exact ⟨flight.same _ rfl rfl, Or.inr ⟨rfl, Or.inl rfl⟩⟩
  · rename_i unable
    split at result
    · rename_i on
      injection result with same
      subst same
      refine ⟨waiting, Or.inl ?_⟩
      rw [TxAiocb.await, arm_again _ side on]
      rfl
    · rename_i off
      have unarmed : (s.filp filp).txFlags.poll side = false := by simpa using off
      have unmoved : ((s.setFilter filp side task).filp filp).txFlags = (s.filp filp).txFlags := by
        simp [Poller.setFilter, Poller.setFilp]
      cases side with
      | input =>
          rcases pollin_starts answer.start answer.newfd _ next filp result with idle | starts
          · exact absurd (unmoved ▸ idle.1) off
          · have moved := waiting.starts .input filp next starts
            cases starts with
            | failed live _ =>
                obtain ⟨written, _, told⟩ := serve_spec .input (s.setFilter filp .input task) filp
                have alive : (s.filp filp).live = true := by
                  simpa [Poller.setFilter, Poller.setFilp, TxAiocb.live] using live
                refine ⟨moved, Or.inr ⟨?_, Or.inr ⟨alive, unarmed, ?_⟩⟩⟩
                · have heard := told.calls
                  simpa [Poller.setFilter, Poller.setFilp] using heard
                · rw [written]
                  simp [Poller.setFilter, Poller.setFilp, TxAiocb.serve]
            | started address olaped newer _ live _ found count owner started =>
                obtain ⟨written, _⟩ := start_spec .input _ next filp address newer started
                refine ⟨moved, Or.inl ?_⟩
                rw [written]
                simp [Poller.setFilter, Poller.setFilp, TxAiocb.started, TxAiocb.await, TxAiocb.arm]
      | output =>
          obtain ⟨on | live, same⟩ := pollout_spec _ next filp result
          · exact absurd (unmoved ▸ on) off
          · have alive : (s.filp filp).live = true := by
              simpa [Poller.setFilter, Poller.setFilp, TxAiocb.live] using live
            obtain ⟨address, held⟩ := (flight.attached filp).mp alive
            have ready := (flight.fits filp address held).ready
            rw [unarmed] at ready
            exact absurd ready unable

theorem Flight.fini (flight : Flight s) (filp : F) (answer : PortAnswer O) (next : PortPoller L T W P F O)
    (result : txAiocbFini (portOps answer) s filp = some next) :
    Flight next ∧ (next = s ∨
      next.filp = (s.setFlags filp (fun flags => { flags with detached := true })).filp) := by
  unfold txAiocbFini at result
  split at result
  · injection result with same
    subst same
    exact ⟨flight, Or.inl rfl⟩
  · change txCompletionPortDetach s filp = some next at result
    cases live : (s.filp filp).live with
    | true =>
        obtain ⟨after, called, moved, written⟩ := flight.detach filp live
        rw [called] at result
        injection result with same
        exact ⟨same ▸ moved, Or.inr (same ▸ written)⟩
    | false =>
        rw [txCompletionPortDetach, live, if_neg Bool.false_ne_true] at result
        injection result with same
        subst same
        exact ⟨flight, Or.inl rfl⟩

end Operations

/-- One `tx_aiocb_fini` for each `tx_aiocb_init`, new memory from `new`, and completions of
operations that are in flight, each once. -/
def PortProper (s : PortPoller L T W P F O) : PortAction L T W P F O → Prop
  | .init filp _ answer | .listen filp _ answer =>
      (s.filp filp).live = false ∧ s.backend.lapped answer.fresh = none
  | .polling tells => tells.Nodup ∧ ∀ told ∈ tells, told ∈ s.backend.inflight
  | _ => True

/-- One waiter for a direction at a time, as the warnings of the generic operations ask. -/
def PortOneWaiter (s : PortPoller L T W P F O) : PortAction L T W P F O → Prop
  | .active side filp task _ => (s.filp filp).txFilter side = none ∨ (s.filp filp).txFilter side = task
  | .aioConnect filp task _ =>
      (s.filp filp).txFilter .output = none ∨ (s.filp filp).txFilter .output = task
  | _ => True

/-- What an action other than `polling` makes of an object: its waiters stay polled for, and in
their slots. -/
structure PortBecomes (s : PortPoller L T W P F O) (action : PortAction L T W P F O) (filp : F)
    (file : TxAiocb T) : Prop where
  watched : (s.filp filp).watched → file.watched
  keeps : (s.filp filp).watched → PortOneWaiter s action → (s.filp filp).live = true →
    ∀ side task, (s.filp filp).txFilter side = some task →
      file.txFilter side = some task ∨ action = .cancel side filp (some task)

section Becoming

variable (s next : PortPoller L T W P F O) (action : PortAction L T W P F O) (filp : F)

theorem port_becomes_same (file : TxAiocb T) (watched : (s.filp filp).watched → file.watched)
    (slots : file.txFilter = (s.filp filp).txFilter) : PortBecomes s action filp file :=
  ⟨watched, fun _ _ _ _ _ slot => Or.inl (slots ▸ slot)⟩

theorem port_becomes_refl : PortBecomes s action filp (s.filp filp) :=
  port_becomes_same s action filp (s.filp filp) id rfl

theorem watched_served (file : TxAiocb T) (side : Side) (watched : file.watched) :
    (file.serve side).watched := by
  intro live other waiter
  by_cases same : other = side
  · exact absurd (by simp [TxAiocb.serve, same]) waiter
  · have slot : file.txFilter other ≠ none := by simpa [TxAiocb.serve, same] using waiter
    simpa [TxAiocb.serve, same] using watched live other slot

theorem port_becomes_served (side : Side) (off : (s.filp filp).txFlags.poll side = false) :
    PortBecomes s action filp ((s.filp filp).serve side) := by
  refine ⟨watched_served (s.filp filp) side, ?_⟩
  intro watched _ live other task slot
  by_cases same : other = side
  · subst same
    rw [watched live other (by simp [slot])] at off
    cases off
  · exact Or.inl (by simpa [TxAiocb.serve, same] using slot)

theorem port_becomes_await (file : TxAiocb T) (side : Side) (task : Option T)
    (watched : (s.filp filp).watched → file.watched)
    (slots : (s.filp filp).live = true → ∀ other task, (s.filp filp).txFilter other = some task →
      (s.filp filp).watched → file.txFilter other = some task)
    (one : PortOneWaiter s action → (s.filp filp).txFilter side = none ∨ (s.filp filp).txFilter side = task) :
    PortBecomes s action filp (file.await side task) := by
  refine ⟨fun before => watched_await file side task (watched before), ?_⟩
  intro before used live other waiter slot
  exact Or.inl (await_slot file side other task waiter _ (one used) (fun same => same ▸ slot)
    (fun _ => slots live other waiter slot before))

theorem PortBecomes.trans (file : TxAiocb T) (first : PortBecomes s action filp (next.filp filp))
    (second : PortBecomes next action filp file) (one : PortOneWaiter s action → PortOneWaiter next action)
    (live : (next.filp filp).live = (s.filp filp).live) : PortBecomes s action filp file where
  watched := fun before => second.watched (first.watched before)
  keeps := by
    intro before used alive side task slot
    rcases first.keeps before used alive side task slot with kept | cancelled
    · exact second.keeps (first.watched before) (one used) (live ▸ alive) side task kept
    · exact Or.inr cancelled

variable [DecidableEq F]

theorem port_becomes_update (file : TxAiocb T) (written : next.filp = Function.update s.filp filp file)
    (becomes : PortBecomes s action filp file) (other : F) : PortBecomes s action other (next.filp other) := by
  by_cases same : other = filp
  · subst same
    rw [written, Function.update_self]
    exact becomes
  · rw [written, Function.update_of_ne same]
    exact port_becomes_refl s action other

theorem watched_started (file : TxAiocb T) (side : Side) (watched : file.watched) :
    (file.started side).watched := by
  intro live other waiter
  have before := watched live other waiter
  by_cases same : other = side
  · simp [TxAiocb.started, same]
  · simp [TxAiocb.started, same, before]

variable [DecidableEq L] [DecidableEq T] [DecidableEq W] [DecidableEq O]

theorem port_becomes_starts (side : Side) (starts : Starts side s filp next) (other : F) :
    PortBecomes s action other (next.filp other) := by
  cases starts with
  | failed live off =>
      obtain ⟨written, _⟩ := serve_spec side s filp
      exact port_becomes_update s _ action filp _ written (port_becomes_served s action filp side off) other
  | started address olaped newer _ live off found count owner result =>
      obtain ⟨written, _⟩ := start_spec side s next filp address newer result
      apply port_becomes_update s next action filp _ written
      exact port_becomes_same s action filp _ (watched_started (s.filp filp) side) rfl

theorem starts_slots (side : Side) (starts : Starts side s filp next) (other : F) :
    (next.filp other).live = (s.filp other).live ∧
      ∀ way, (next.filp other).txFilter way = (s.filp other).txFilter way ∨
        (next.filp other).txFilter way = none := by
  by_cases same : other = filp
  · subst same
    cases starts with
    | failed live off =>
        obtain ⟨written, _⟩ := serve_spec side s other
        rw [written, Function.update_self]
        refine ⟨rfl, ?_⟩
        intro way
        by_cases told : way = side
        · exact Or.inr (by simp [TxAiocb.serve, told])
        · exact Or.inl (by simp [TxAiocb.serve, told])
    | started address olaped newer _ live off found count owner result =>
        obtain ⟨written, _⟩ := start_spec side s next other address newer result
        rw [written, Function.update_self]
        exact ⟨rfl, fun way => Or.inl rfl⟩
  · have unmoved : next.filp other = s.filp other := by
      cases starts with
      | failed live off =>
          rw [(serve_spec side s filp).1, Function.update_of_ne same]
      | started address olaped newer _ live off found count owner result =>
          rw [(start_spec side s next filp address newer result).1, Function.update_of_ne same]
    rw [unmoved]
    exact ⟨rfl, fun way => Or.inl rfl⟩

theorem Flight.called (flight : Flight s) (side : Side) (called : next = s ∨ Starts side s filp next) :
    Flight next ∧ ∀ other, PortBecomes s action other (next.filp other) := by
  rcases called with idle | starts
  · rw [idle]
    exact ⟨flight, port_becomes_refl s action⟩
  · exact ⟨flight.starts side filp next starts, port_becomes_starts s next action filp side starts⟩

theorem port_becomes_active (flight : Flight s) (side : Side) (task : Option T) (answer : PortAnswer O)
    (result : genericActive (portOps answer) side s filp task = some next)
    (one : PortOneWaiter s action → (s.filp filp).txFilter side = none ∨ (s.filp filp).txFilter side = task)
    (other : F) : PortBecomes s action other (next.filp other) := by
  obtain ⟨_, written | ⟨_, same | ⟨_, off, written⟩⟩⟩ := flight.active side filp task answer next result
  · apply port_becomes_update s next action filp _ written
    exact port_becomes_await s action filp (s.filp filp) side task id (fun _ _ _ slot _ => slot) one
  · exact same ▸ port_becomes_refl s action other
  · exact port_becomes_update s next action filp _ written (port_becomes_served s action filp side off) other

end Becoming

variable [DecidableEq F] [DecidableEq O]

section Actions

variable {s : PortPoller L T W P F O}

omit [DecidableEq O] in
theorem port_becomes_fresh (next : PortPoller L T W P F O) (action : PortAction L T W P F O) (filp : F)
    (file : TxAiocb T) (dead : (s.filp filp).live = false)
    (written : next.filp = Function.update s.filp filp file) (empty : file.txFilter = fun _ => none)
    (other : F) : PortBecomes s action other (next.filp other) := by
  apply port_becomes_update s next action filp file written
  constructor
  · exact fun _ => watched_empty file (congrFun empty)
  · intro _ _ live
    rw [dead] at live
    cases live

theorem Flight.updated (flight : Flight s) (filp : F) (len : Int) (errno : Errno) :
    Flight (txAincbUpdate s filp len errno) ∧
      ∀ other, PortBecomes s (.update filp len errno) other ((txAincbUpdate s filp len errno).filp other) := by
  unfold txAincbUpdate txUpdate
  split
  · exact ⟨flight, port_becomes_refl s _⟩
  · split
    · refine ⟨flight.file _ filp _ rfl rfl rfl (fun _ fits => fits.same _ rfl rfl), ?_⟩
      exact port_becomes_update s _ _ filp _ rfl (port_becomes_same s _ filp _ id rfl)
    · exact ⟨flight, port_becomes_refl s _⟩

theorem Flight.accepted (flight : Flight s) (filp : F) (result : Int × PortPoller L T W P F O)
    (called : txCompletionPortAccept s filp = some result) :
    Flight result.2 ∧ ∀ other, PortBecomes s (.accept filp) other (result.2.filp other) := by
  obtain ⟨kept, file, written, slots, poll, live⟩ := flight.accept filp result called
  refine ⟨kept, port_becomes_update s _ _ filp file written (port_becomes_same s _ filp file ?_ slots)⟩
  intro before alive side waiter
  rw [poll]
  exact before (live ▸ alive) side (slots ▸ waiter)

variable [DecidableEq T]

theorem Flight.cancelled (flight : Flight s) (side : Side) (filp : F) (verify : Option T) :
    Flight (genericCancel side s filp verify) ∧
      ∀ other, PortBecomes s (.cancel side filp verify) other ((genericCancel side s filp verify).filp other) := by
  unfold genericCancel
  split
  · rename_i verified
    refine ⟨flight.waiting side filp none, port_becomes_update s _ _ filp _ rfl ⟨?_, ?_⟩⟩
    · intro before live other waiter
      by_cases same : other = side
      · exact absurd (by simp [same]) waiter
      · exact before live other (by simpa [same] using waiter)
    · intro _ _ _ other task slot
      by_cases same : other = side
      · subst same
        exact Or.inr (by rw [verified, slot])
      · exact Or.inl (by simpa [same] using slot)
  · exact ⟨flight, port_becomes_refl s _⟩

variable [DecidableEq L] [DecidableEq W]

theorem Flight.finished (flight : Flight s) (filp : F) (answer : PortAnswer O)
    (next : PortPoller L T W P F O) (result : txAiocbFini (portOps answer) s filp = some next) :
    Flight next ∧ ∀ other, PortBecomes s (.fini filp answer) other (next.filp other) := by
  obtain ⟨kept, same | written⟩ := flight.fini filp answer next result
  · exact ⟨kept, fun other => same ▸ port_becomes_refl s _ other⟩
  · refine ⟨kept, port_becomes_update s next _ filp _ written (port_becomes_same s _ filp _ ?_ rfl)⟩
    intro _ live
    simp [TxAiocb.live] at live

theorem Flight.connected (flight : Flight s) (filp : F) (task : Option T) (answer : PortAnswer O)
    (pair : Int × PortPoller L T W P F O) (result : portAiocbConnect answer s filp task = some pair) :
    Flight pair.2 ∧ ∀ other, PortBecomes s (.aioConnect filp task answer) other (pair.2.filp other) := by
  obtain ⟨mid, called, rest⟩ := Option.bind_eq_some_iff.mp result
  obtain ⟨last, active, same⟩ := Option.map_eq_some_iff.mp rest
  subst same
  have starts := connect_starts answer.start s filp mid called
  obtain ⟨kept, first⟩ := flight.called s mid.2 (.aioConnect filp task answer) filp .output starts
  refine ⟨(kept.active .output filp task answer last active).1, fun other => ?_⟩
  have second := port_becomes_active mid.2 last (.aioConnect filp task answer) filp kept .output task answer
    active id other
  have slots : (mid.2.filp other).live = (s.filp other).live ∧
      (PortOneWaiter s (.aioConnect filp task answer) →
        PortOneWaiter mid.2 (.aioConnect filp task answer)) := by
    rcases starts with idle | starts
    · rw [idle]
      exact ⟨rfl, id⟩
    · refine ⟨(starts_slots s mid.2 filp .output starts other).1, ?_⟩
      intro one
      rcases (starts_slots s mid.2 filp .output starts filp).2 .output with kept | empty
      · exact one.imp kept.trans kept.trans
      · exact Or.inl empty
  exact (first other).trans s mid.2 _ other _ second slots.2 slots.1

end Actions

variable [DecidableEq L] [DecidableEq T] [DecidableEq W]

theorem port_act_spec (s next : PortPoller L T W P F O) (action : PortAction L T W P F O) (flight : Flight s)
    (proper : PortProper s action) (result : portAct s action = some next)
    (single : ∀ tells, action ≠ .polling tells) :
    Flight next ∧ ∀ filp, PortBecomes s action filp (next.filp filp) := by
  unfold portAct at result
  cases action with
  | init filp fd answer =>
      obtain ⟨kept, file, written, empty⟩ := flight.init filp fd answer next proper.1 proper.2 result
      exact ⟨kept, port_becomes_fresh next _ filp file proper.1 written empty⟩
  | listen filp fd answer =>
      obtain ⟨kept, file, written, empty⟩ := flight.listen filp fd answer next proper.1 proper.2 result
      exact ⟨kept, port_becomes_fresh next _ filp file proper.1 written empty⟩
  | fini filp answer => exact flight.finished filp answer next result
  | sendout filp answer sent memlock len =>
      obtain ⟨pair, called, same⟩ := Option.map_eq_some_iff.mp result
      subst same
      exact flight.called s _ _ filp .output (sendout_starts answer sent memlock len s filp pair called)
  | write filp answer sent memlock len =>
      obtain ⟨pair, called, same⟩ := Option.map_eq_some_iff.mp result
      subst same
      exact flight.called s _ _ filp .output (sendout_starts answer sent memlock _ s filp pair called)
  | connect filp answer =>
      obtain ⟨pair, called, same⟩ := Option.map_eq_some_iff.mp result
      subst same
      exact flight.called s _ _ filp .output (connect_starts answer s filp pair called)
  | aioConnect filp task answer =>
      obtain ⟨pair, called, same⟩ := Option.map_eq_some_iff.mp result
      subst same
      exact flight.connected filp task answer pair called
  | poll side filp answer =>
      cases side with
      | input =>
          have starts := pollin_starts answer.start answer.newfd s next filp result
          exact flight.called s next _ filp .input (starts.imp_left And.right)
      | output =>
          obtain ⟨_, idle⟩ := pollout_spec s next filp result
          exact flight.called s next _ filp .output (Or.inl idle)
  | active side filp task answer =>
      have called : genericActive (portOps answer) side s filp task = some next := by cases side <;> exact result
      refine ⟨(flight.active side filp task answer next called).1, ?_⟩
      exact port_becomes_active s next _ filp flight side task answer called id
  | cancel side filp verify =>
      have same : genericCancel side s filp verify = next := by
        cases side <;> exact Option.some.inj result
      exact same ▸ flight.cancelled side filp verify
  | update filp len errno =>
      injection result with same
      exact same ▸ flight.updated filp len errno
  | accept filp =>
      obtain ⟨pair, called, same⟩ := Option.map_eq_some_iff.mp result
      exact same ▸ flight.accepted filp pair called
  | polling tells => exact absurd rfl (single tells)
  | loop world =>
      injection result with same
      subst same
      exact ⟨flight.same _ rfl rfl, port_becomes_refl s _⟩

section Delivery

variable {s : PortPoller L T W P F O}

theorem Flight.delivers (flight : Flight s) (told : O × Side) (flying : told ∈ s.backend.inflight) :
    ∃ next added, portTell s told = some next ∧ Flight next ∧ Told s added next ∧
      next.backend.inflight = s.backend.inflight.erase told ∧
      next.backend.txPrivp = s.backend.txPrivp ∧
      (∀ filp, (s.filp filp).watched → (next.filp filp).watched) ∧
      ∀ filp address side task, s.backend.txPrivp filp = some address →
        (s.filp filp).txFilter side = some task →
          if told = (address, side) then (task, filp) ∈ added
          else (next.filp filp).txFilter side = some task := by
  obtain ⟨olaped, _, result⟩ := flight.tells told flying
  obtain ⟨_, moved, inflight, privp, ⟨files, world, calls, unheld⟩ | ⟨own, held, written, heard⟩⟩ :=
    flight.tell told _ result
  · refine ⟨_, [], result, moved, told_nil s _ world calls, inflight, privp, ?_, ?_⟩
    · exact fun filp watched => by rwa [files]
    · intro filp address side task mine slot
      have apart : told ≠ (address, side) := by
        intro same
        exact unheld filp (by rw [mine, same])
      rw [if_neg apart, files]
      exact slot
  · refine ⟨_, _, result, moved, heard, inflight, privp, ?_, ?_⟩
    · intro filp watched
      rw [written]
      by_cases same : filp = own
      · subst same
        rw [Function.update_self]
        exact watched_served _ _ watched
      · rwa [Function.update_of_ne same]
    · intro filp address side task mine slot
      split
      · rename_i same
        subst same
        have again : filp = own := flight.apart own filp address held mine
        subst again
        rw [slot]
        exact List.mem_singleton_self _
      · rename_i apart
        rw [written]
        by_cases same : filp = own
        · subst same
          rw [held] at mine
          injection mine with here
          have other : side ≠ told.2 := by
            intro way
            exact apart (by rw [← here, way])
          rw [Function.update_self]
          simpa [TxAiocb.serve, other] using slot
        · rw [Function.update_of_ne same]
          exact slot

theorem Flight.batch (tells : List (O × Side)) (flight : Flight s) (once : tells.Nodup)
    (flying : ∀ told ∈ tells, told ∈ s.backend.inflight) :
    ∃ next added, tells.foldlM portTell s = some next ∧ Flight next ∧ Told s added next ∧
      (∀ filp, (s.filp filp).watched → (next.filp filp).watched) ∧
      ∀ filp address side task, s.backend.txPrivp filp = some address →
        (s.filp filp).txFilter side = some task →
          if (address, side) ∈ tells then (task, filp) ∈ added
          else (next.filp filp).txFilter side = some task := by
  induction tells generalizing s with
  | nil => exact ⟨s, [], rfl, flight, told_nil s s rfl rfl, fun _ watched => watched, fun _ _ _ _ _ slot => slot⟩
  | cons told tells ih =>
      obtain ⟨mid, first, result, moved, heard, inflight, privp, watched, waiters⟩ :=
        flight.delivers told (flying told List.mem_cons_self)
      have ahead : ∀ later ∈ tells, later ∈ mid.backend.inflight := by
        intro later member
        have apart : later ≠ told := by
          intro same
          exact (List.nodup_cons.mp once).1 (same ▸ member)
        rw [inflight, List.mem_erase_of_ne apart]
        exact flying later (List.mem_cons_of_mem told member)
      obtain ⟨next, more, rest, kept, later, still, left⟩ := ih moved (List.nodup_cons.mp once).2 ahead
      refine ⟨next, first ++ more, ?_, kept, heard.trans later,
        fun filp before => still filp (watched filp before), ?_⟩
      · rw [List.foldlM_cons, result]
        exact rest
      · intro filp address side task held slot
        have now := waiters filp address side task held slot
        by_cases here : told = (address, side)
        · rw [if_pos here] at now
          rw [if_pos (here ▸ List.mem_cons_self)]
          exact List.mem_append_left more now
        · rw [if_neg here] at now
          have onward := left filp address side task (privp ▸ held) now
          have same : (address, side) ∈ told :: tells ↔ (address, side) ∈ tells := by
            rw [List.mem_cons]
            exact or_iff_right (fun same => here same.symm)
          simp only [same]
          split
          · rename_i member
            rw [if_pos member] at onward
            exact List.mem_append_right first onward
          · rename_i absent
            rw [if_neg absent] at onward
            exact onward

end Delivery

end Libtx
