import Libtx.Aiocb.Completion

namespace Libtx

open Count

variable {L T W P F O : Type}

/-- What the assertions of the calls ask of their callers. -/
def Meets (s : PortPoller L T W P F O) : PortAction L T W P F O → Prop
  | .sendout filp _ _ _ len | .write filp _ _ _ len => (s.filp filp).live = true ∧ 0 < len
  | .connect filp _ | .aioConnect filp _ _ | .poll _ filp _ | .active _ filp _ _ | .accept filp =>
      (s.filp filp).live = true
  | _ => True

variable [DecidableEq F] [DecidableEq O]

section Fine

variable {s : PortPoller L T W P F O}

omit [DecidableEq F] [DecidableEq O] in
theorem pollout_runs (s : PortPoller L T W P F O) (filp : F) (live : (s.filp filp).live = true) :
    ∃ next, txCompletionPortPollout s filp = some next := by
  unfold txCompletionPortPollout
  split
  · exact ⟨s, rfl⟩
  · exact ⟨s, rfl⟩

theorem Flight.start_runs (flight : Flight s) (side : Side) (filp : F) (address : O)
    (olaped newer : TxOverlapped F) (found : s.olaped filp = some (address, olaped))
    (count : newer.txRefcnt = olaped.txRefcnt) (off : (s.filp filp).txFlags.poll side = false) :
    ∃ next, portStart side s filp address newer = some next := by
  have room := flight.room filp side address olaped found off
  rw [← count] at room
  exact ⟨_, if_pos room⟩

theorem Flight.connect_runs (flight : Flight s) (filp : F) (answer : Start)
    (live : (s.filp filp).live = true) : ∃ result, txCompletionPortConnect answer s filp = some result := by
  obtain ⟨address, olaped, found, _⟩ := flight.olaped filp live
  unfold txCompletionPortConnect
  split
  · rename_i off
    obtain ⟨next, started⟩ := flight.start_runs .output filp address olaped olaped found rfl off
    rw [found, Option.bind_some]
    cases answer with
    | failed => exact ⟨_, rfl⟩
    | done => exact ⟨_, by rw [started]; rfl⟩
    | pending => exact ⟨_, by rw [started]; rfl⟩
  · exact ⟨_, rfl⟩

variable [DecidableEq L] [DecidableEq T] [DecidableEq W]

theorem Flight.sendout_runs (flight : Flight s) (filp : F) (answer : Start) (sent : Int) (memlock : Bool)
    (len : Nat) (live : (s.filp filp).live = true) (full : 0 < len) :
    ∃ result, txCompletionPortSendout answer sent memlock len s filp = some result := by
  obtain ⟨address, olaped, found, _⟩ := flight.olaped filp live
  unfold txCompletionPortSendout
  split
  · rename_i off
    obtain ⟨next, started⟩ := flight.start_runs .output filp address olaped olaped found rfl off
    rw [if_pos ⟨live, full⟩, found, Option.bind_some, started]
    split
    · exact ⟨_, rfl⟩
    · split
      · split
        · exact ⟨_, rfl⟩
        · exact ⟨_, rfl⟩
      · exact ⟨_, rfl⟩
  · exact ⟨_, rfl⟩

theorem Flight.pollin_runs (flight : Flight s) (filp : F) (answer : Start) (newfd : Int)
    (live : (s.filp filp).live = true) : ∃ next, txCompletionPortPollin answer newfd s filp = some next := by
  obtain ⟨address, olaped, found, _⟩ := flight.olaped filp live
  unfold txCompletionPortPollin
  dsimp only
  split
  · rename_i off
    rw [found, Option.bind_some]
    split
    · exact flight.start_runs .input filp address olaped _ found rfl off
    · split
      · have room := flight.room filp .input address olaped found off
        have few : olaped.txRefcnt < 4 := by omega
        rw [if_pos few]
        exact ⟨_, rfl⟩
      · exact flight.start_runs .input filp address olaped olaped found rfl off
  · exact ⟨_, rfl⟩

theorem Flight.active_runs (flight : Flight s) (side : Side) (filp : F) (task : Option T)
    (answer : PortAnswer O) (live : (s.filp filp).live = true) :
    ∃ next, genericActive (portOps answer) side s filp task = some next := by
  have alive : ((s.setFilter filp side task).filp filp).live = true := by
    simpa [Poller.setFilter, Poller.setFilp, TxAiocb.live] using live
  unfold genericActive
  split
  · exact ⟨_, rfl⟩
  · dsimp only
    split
    · exact ⟨_, rfl⟩
    · cases side with
      | input => exact (flight.waiting .input filp task).pollin_runs filp answer.start answer.newfd alive
      | output => exact pollout_runs _ filp alive

theorem Flight.runs (flight : Flight s) (action : PortAction L T W P F O) (proper : PortProper s action)
    (meets : Meets s action) : ∃ next, portAct s action = some next := by
  cases action with
  | init filp fd answer =>
      rw [portAct]
      unfold txAiocbInit
      split
      · exact ⟨_, rfl⟩
      · exact ⟨_, rfl⟩
  | listen filp fd answer =>
      rw [portAct]
      unfold txListenInit txAiocbInit
      split
      · exact ⟨_, rfl⟩
      · exact ⟨_, rfl⟩
  | fini filp answer =>
      rw [portAct]
      unfold txAiocbFini
      split
      · exact ⟨s, rfl⟩
      · cases live : (s.filp filp).live with
        | true =>
            obtain ⟨next, called, _⟩ := flight.detach filp live
            exact ⟨next, called⟩
        | false => exact ⟨s, by simp [portOps, txCompletionPortDetach, live]⟩
  | sendout filp answer sent memlock len =>
      obtain ⟨result, called⟩ := flight.sendout_runs filp answer sent memlock len meets.1 meets.2
      exact ⟨result.2, by rw [portAct, called]; rfl⟩
  | write filp answer sent memlock len =>
      have full : 0 < if len < 8192 then len else 8192 := by
        have positive := meets.2
        split
        · exact positive
        · decide
      obtain ⟨result, called⟩ := flight.sendout_runs filp answer sent memlock _ meets.1 full
      exact ⟨result.2, by rw [portAct, txOutcbWrite, called]; rfl⟩
  | connect filp answer =>
      obtain ⟨result, called⟩ := flight.connect_runs filp answer meets
      exact ⟨result.2, by rw [portAct, called]; rfl⟩
  | aioConnect filp task answer =>
      obtain ⟨mid, called⟩ := flight.connect_runs filp answer.start meets
      have starts := connect_starts answer.start s filp mid called
      have kept := (flight.called s mid.2 (.aioConnect filp task answer) filp .output starts).1
      have live : (mid.2.filp filp).live = true := by
        rcases starts with idle | starts
        · exact idle ▸ meets
        · exact (starts_slots s mid.2 filp .output starts filp).1.trans meets
      obtain ⟨next, active⟩ := kept.active_runs .output filp task answer live
      exact ⟨next, by rw [portAct, portAiocbConnect, called, Option.bind_some, genericActiveOut, active]; rfl⟩
  | poll side filp answer =>
      cases side with
      | input => exact flight.pollin_runs filp answer.start answer.newfd meets
      | output => exact pollout_runs s filp meets
  | active side filp task answer =>
      obtain ⟨next, active⟩ := flight.active_runs side filp task answer meets
      cases side with
      | input => exact ⟨next, active⟩
      | output => exact ⟨next, active⟩
  | cancel side filp verify =>
      cases side with
      | input => exact ⟨_, rfl⟩
      | output => exact ⟨_, rfl⟩
  | update filp len errno => exact ⟨_, rfl⟩
  | accept filp =>
      rw [portAct]
      unfold txCompletionPortAccept
      dsimp only
      split
      · obtain ⟨address, olaped, found, _⟩ := flight.olaped filp meets
        exact ⟨_, by rw [found]; rfl⟩
      · exact ⟨_, rfl⟩
  | polling tells =>
      obtain ⟨next, _, told, _⟩ := flight.batch tells proper.1 proper.2
      exact ⟨_, by rw [portAct, txCompletionPortPolling, told]; rfl⟩
  | loop world => exact ⟨_, rfl⟩

end Fine

section

variable [DecidableEq L] [DecidableEq T] [DecidableEq W]

/-- The objects of a port, and all that is to come of what is in flight. -/
structure Lifetime (s : PortPoller L T W P F O) : Prop where
  counted : ∀ address olaped, s.backend.lapped address = some olaped →
    olaped.txRefcnt = olaped.txFilp.isSome.toNat + s.backend.inflight.count (address, .output) +
        s.backend.inflight.count (address, .input) ∧
      0 < olaped.txRefcnt ∧ olaped.txRefcnt < 4
  owner : ∀ address olaped filp, s.backend.lapped address = some olaped →
    (olaped.txFilp = some filp ↔ (s.filp filp).live = true ∧ s.backend.txPrivp filp = some address)
  allocated : ∀ address, (s.backend.lapped address).isSome = true ↔
    (∃ filp, (s.filp filp).live = true ∧ s.backend.txPrivp filp = some address) ∨
      ∃ side, (address, side) ∈ s.backend.inflight
  deleted : ∀ address, s.backend.created.count address =
    s.backend.deleted.count address + (s.backend.lapped address).isSome.toNat
  flags : ∀ filp, (s.filp filp).live = true → ∃ address, s.backend.txPrivp filp = some address ∧
    (∀ side, s.backend.inflight.count (address, side) = ((s.filp filp).txFlags.poll side).toNat) ∧
      ((s.filp filp).txFlags.able .output = !(s.filp filp).txFlags.poll .output)
  told : ∀ told ∈ s.backend.inflight, ∃ olaped next, s.backend.lapped told.1 = some olaped ∧
    portTell s told = some next ∧
      (olaped.txFilp = none → next.filp = s.filp ∧ next.world = s.world ∧ next.calls = s.calls)
  waiter : ∀ filp side task, (s.filp filp).live = true → (s.filp filp).txFilter side = some task →
    ∃ address next, s.backend.txPrivp filp = some address ∧ (address, side) ∈ s.backend.inflight ∧
      portTell s (address, side) = some next ∧ Told s [(task, filp)] next ∧
        (next.filp filp).txFilter side = none
  registers : ∀ side filp task answer next, (s.filp filp).live = true →
    portAct s (.active side filp (some task) answer) = some next →
      (next.filp filp).live = true ∧
        ((next.filp filp).txFilter side = some task ∨ next.calls = s.calls ++ [(task, filp)])
  kept : ∀ action next, PortProper s action → PortOneWaiter s action → portAct s action = some next →
    ∀ filp side task, (s.filp filp).live = true → (s.filp filp).txFilter side = some task →
      (next.filp filp).txFilter side = some task ∨ action = .cancel side filp (some task) ∨
        ∃ tells address added, action = .polling tells ∧ s.backend.txPrivp filp = some address ∧
          (address, side) ∈ tells ∧ next.calls = s.calls ++ added ∧ (task, filp) ∈ added
  runs : ∀ action, PortProper s action → Meets s action → ∃ next, portAct s action = some next

end

section Settled

variable {s : PortPoller L T W P F O}

theorem Flight.counted (flight : Flight s) (address : O) (olaped : TxOverlapped F)
    (stored : s.backend.lapped address = some olaped) :
    olaped.txRefcnt = olaped.txFilp.isSome.toNat + s.backend.inflight.count (address, .output) +
        s.backend.inflight.count (address, .input) ∧
      0 < olaped.txRefcnt ∧ olaped.txRefcnt < 4 := by
  have cell : s.lease.cell address = some (olaped.txRefcnt, olaped.txFilp) :=
    Option.map_eq_some_iff.mpr ⟨olaped, stored, rfl⟩
  obtain ⟨exact, positive⟩ := flight.sound.counted address _ _ cell
  rw [flights_sides] at exact
  have owner : olaped.txFilp.isSome.toNat ≤ 1 := Bool.toNat_le _
  have output := List.nodup_iff_count_le_one.mp flight.sound.once (address, .output)
  have input := List.nodup_iff_count_le_one.mp flight.sound.once (address, .input)
  change s.backend.inflight.count (address, Side.output) ≤ 1 at output
  change s.backend.inflight.count (address, Side.input) ≤ 1 at input
  refine ⟨by omega, positive, by omega⟩

theorem Flight.owner (flight : Flight s) (address : O) (olaped : TxOverlapped F) (filp : F)
    (stored : s.backend.lapped address = some olaped) :
    olaped.txFilp = some filp ↔ (s.filp filp).live = true ∧ s.backend.txPrivp filp = some address := by
  constructor
  · intro own
    have held : s.backend.txPrivp filp = some address := by
      apply (flight.sound.owns filp address).mpr
      exact ⟨olaped.txRefcnt, Option.map_eq_some_iff.mpr ⟨olaped, stored, by rw [own]⟩⟩
    exact ⟨(flight.attached filp).mpr ⟨address, held⟩, held⟩
  · intro attached
    obtain ⟨again, found, own⟩ := flight.cell filp address attached.2
    rw [stored] at found
    injection found with same
    rw [same, own]

theorem Flight.flags (flight : Flight s) (filp : F) (live : (s.filp filp).live = true) :
    ∃ address, s.backend.txPrivp filp = some address ∧
      (∀ side, s.backend.inflight.count (address, side) = ((s.filp filp).txFlags.poll side).toNat) ∧
        ((s.filp filp).txFlags.able .output = !(s.filp filp).txFlags.poll .output) := by
  obtain ⟨address, held⟩ := (flight.attached filp).mp live
  have fits := flight.fits filp address held
  refine ⟨address, held, ?_, fits.ready⟩
  intro side
  cases on : (s.filp filp).txFlags.poll side with
  | true => exact List.count_eq_one_of_mem flight.sound.once ((fits.armed side).mp on)
  | false =>
      rw [Bool.toNat_false, List.count_eq_zero]
      exact fits.idle side on

variable [DecidableEq L] [DecidableEq T] [DecidableEq W]

theorem Flight.allocated (flight : Flight s) (address : O) :
    (s.backend.lapped address).isSome = true ↔
      (∃ filp, (s.filp filp).live = true ∧ s.backend.txPrivp filp = some address) ∨
        ∃ side, (address, side) ∈ s.backend.inflight := by
  constructor
  · intro present
    obtain ⟨olaped, stored⟩ := Option.isSome_iff_exists.mp present
    obtain ⟨exact, positive, _⟩ := flight.counted address olaped stored
    cases own : olaped.txFilp with
    | some filp => exact Or.inl ⟨filp, (flight.owner address olaped filp stored).mp own⟩
    | none =>
        refine Or.inr ?_
        by_contra landed
        have zero (side : Side) : s.backend.inflight.count (address, side) = 0 := by
          rw [List.count_eq_zero]
          exact fun member => landed ⟨side, member⟩
        rw [own, zero, zero] at exact
        simp only [Option.isSome_none, Bool.toNat_false] at exact
        omega
  · intro reason
    rcases reason with ⟨filp, _, held⟩ | ⟨side, flying⟩
    · obtain ⟨olaped, stored, _⟩ := flight.cell filp address held
      rw [stored]
      rfl
    · obtain ⟨olaped, stored, _⟩ := flight.tells (address, side) flying
      rw [stored]
      rfl

theorem Flight.told (flight : Flight s) (told : O × Side) (flying : told ∈ s.backend.inflight) :
    ∃ olaped next, s.backend.lapped told.1 = some olaped ∧ portTell s told = some next ∧
      (olaped.txFilp = none → next.filp = s.filp ∧ next.world = s.world ∧ next.calls = s.calls) := by
  obtain ⟨olaped, stored, result⟩ := flight.tells told flying
  refine ⟨olaped, _, stored, result, ?_⟩
  intro detached
  rw [detached]
  obtain ⟨files, world, calls, _⟩ := landed_frame s told olaped
  exact ⟨files, world, calls⟩

theorem Flight.waiter (flight : Flight s) (filp : F) (side : Side) (task : T)
    (watched : (s.filp filp).watched) (live : (s.filp filp).live = true)
    (slot : (s.filp filp).txFilter side = some task) :
    ∃ address next, s.backend.txPrivp filp = some address ∧ (address, side) ∈ s.backend.inflight ∧
      portTell s (address, side) = some next ∧ Told s [(task, filp)] next ∧
        (next.filp filp).txFilter side = none := by
  obtain ⟨address, held⟩ := (flight.attached filp).mp live
  have on := watched live side (by simp [slot])
  have flying := ((flight.fits filp address held).armed side).mp on
  obtain ⟨olaped, _, result⟩ := flight.tells (address, side) flying
  obtain ⟨_, _, _, _, ⟨_, _, _, unheld⟩ | ⟨own, its, written, heard⟩⟩ := flight.tell (address, side) _ result
  · exact absurd held (unheld filp)
  · have same : filp = own := flight.apart own filp address its held
    subst same
    rw [slot] at heard
    refine ⟨address, _, held, flying, result, heard, ?_⟩
    rw [written]
    simp [TxAiocb.serve]

theorem Flight.registers (flight : Flight s) (side : Side) (filp : F) (task : T) (answer : PortAnswer O)
    (next : PortPoller L T W P F O) (live : (s.filp filp).live = true)
    (result : portAct s (.active side filp (some task) answer) = some next) :
    (next.filp filp).live = true ∧
      ((next.filp filp).txFilter side = some task ∨ next.calls = s.calls ++ [(task, filp)]) := by
  have called : genericActive (portOps answer) side s filp (some task) = some next := by
    cases side <;> exact result
  obtain ⟨_, written | ⟨calls, same | ⟨_, _, written⟩⟩⟩ := flight.active side filp (some task) answer next called
  · rw [written, Function.update_self]
    exact ⟨live, Or.inl (by simp [TxAiocb.await])⟩
  · exact ⟨by rw [same, live], Or.inr calls⟩
  · rw [written, Function.update_self]
    exact ⟨live, Or.inr calls⟩

theorem Flight.kept (flight : Flight s) (watched : ∀ filp, (s.filp filp).watched)
    (action : PortAction L T W P F O) (next : PortPoller L T W P F O) (proper : PortProper s action)
    (one : PortOneWaiter s action) (result : portAct s action = some next) (filp : F) (side : Side) (task : T)
    (live : (s.filp filp).live = true) (slot : (s.filp filp).txFilter side = some task) :
    (next.filp filp).txFilter side = some task ∨ action = .cancel side filp (some task) ∨
      ∃ tells address added, action = .polling tells ∧ s.backend.txPrivp filp = some address ∧
        (address, side) ∈ tells ∧ next.calls = s.calls ++ added ∧ (task, filp) ∈ added := by
  by_cases batch : ∃ tells, action = .polling tells
  · obtain ⟨tells, rfl⟩ := batch
    obtain ⟨address, held⟩ := (flight.attached filp).mp live
    obtain ⟨mid, added, told, _, heard, _, waiters⟩ := flight.batch tells proper.1 proper.2
    rw [portAct, txCompletionPortPolling, told] at result
    injection result with same
    subst same
    have heard_one := waiters filp address side task held slot
    split at heard_one
    · rename_i member
      exact Or.inr (Or.inr ⟨tells, address, added, rfl, held, member, heard.calls, heard_one⟩)
    · exact Or.inl heard_one
  · have single : ∀ tells, action ≠ .polling tells := fun tells same => batch ⟨tells, same⟩
    obtain ⟨_, becomes⟩ := port_act_spec s next action flight proper result single
    exact ((becomes filp).keeps (watched filp) one live side task slot).imp_right Or.inl

theorem Flight.lifetime (flight : Flight s) (watched : ∀ filp, (s.filp filp).watched) : Lifetime s where
  counted := flight.counted
  owner := flight.owner
  allocated := flight.allocated
  deleted := by
    intro address
    have tally := flight.sound.tally address
    simpa [Poller.lease] using tally
  flags := flight.flags
  told := flight.told
  waiter := fun filp side task => flight.waiter filp side task (watched filp)
  registers := flight.registers
  kept := flight.kept watched
  runs := flight.runs

end Settled

structure PortFresh (s : PortPoller L T W P F O) : Prop where
  unattached : ∀ filp, (s.filp filp).live = false
  privp : ∀ filp, s.backend.txPrivp filp = none
  lapped : ∀ address, s.backend.lapped address = none
  inflight : s.backend.inflight = []
  portList : s.backend.portList = []
  created : s.backend.created = []
  deleted : s.backend.deleted = []

theorem flight_fresh (start : PortPoller L T W P F O) (fresh : PortFresh start) : Flight start := by
  have empty : ∀ address, start.lease.cell address = none := by
    intro address
    simp [Poller.lease, fresh.lapped]
  refine ⟨⟨?_, ?_, ?_, ?_, ?_, ?_, ?_⟩, ?_, ?_⟩
  · intro address kind _ member
    rw [Poller.lease, fresh.inflight] at member
    cases member
  · intro address count owner found
    rw [empty] at found
    cases found
  · rw [Poller.lease, fresh.inflight]
    exact List.nodup_nil
  · intro filp address
    rw [empty]
    simp [Poller.lease, fresh.privp]
  · rw [Poller.lease, fresh.portList]
    exact List.nodup_nil
  · intro address
    rw [empty, Poller.lease, fresh.portList]
    simp
  · intro address
    rw [empty, Poller.lease, fresh.created, fresh.deleted]
    rfl
  · intro filp
    rw [fresh.unattached, fresh.privp]
    simp
  · intro filp address held
    rw [fresh.privp] at held
    cases held

variable [DecidableEq L] [DecidableEq T] [DecidableEq W]

theorem flight_run (start s : PortPoller L T W P F O) (fresh : PortFresh start)
    (actions : List (PortAction L T W P F O)) (allowed : Runs.Allowed portAct PortProper start actions)
    (reached : Runs.run portAct start actions = some s) : Flight s ∧ ∀ filp, (s.filp filp).watched := by
  apply Runs.keeps_run PortProper (fun s => Flight s ∧ ∀ filp, (s.filp filp).watched) _ start s actions
    allowed _ reached
  · intro s action next proper held step
    by_cases batch : ∃ tells, action = .polling tells
    · obtain ⟨tells, rfl⟩ := batch
      obtain ⟨mid, _, told, kept, _, still, _⟩ := held.1.batch tells proper.1 proper.2
      rw [portAct, txCompletionPortPolling, told] at step
      injection step with same
      subst same
      exact ⟨kept.same _ rfl rfl, fun filp => still filp (held.2 filp)⟩
    · have single : ∀ tells, action ≠ .polling tells := fun tells same => batch ⟨tells, same⟩
      obtain ⟨kept, becomes⟩ := port_act_spec s next action held.1 proper step single
      exact ⟨kept, fun filp => (becomes filp).watched (held.2 filp)⟩
  · refine ⟨flight_fresh start fresh, ?_⟩
    intro filp live
    rw [fresh.unattached filp] at live
    cases live

/-- In every run of a completion port, references are exact, memory is given back once, and no
completion and no waiter is lost. -/
theorem port_lifetime (start s : PortPoller L T W P F O) (fresh : PortFresh start)
    (actions : List (PortAction L T W P F O)) (allowed : Runs.Allowed portAct PortProper start actions)
    (reached : Runs.run portAct start actions = some s) : Lifetime s := by
  obtain ⟨flight, watched⟩ := flight_run start s fresh actions allowed reached
  exact flight.lifetime watched

def lonePort : PortPoller Unit Bool Unit Unit Unit Nat where
  world := pairStart
  filp := fun _ => TxAiocb.fresh (-1)
  backend := ⟨true, [], fun _ => none, fun _ => none, [], [], []⟩
  calls := []

theorem fresh_port : PortFresh lonePort := ⟨fun _ => rfl, fun _ => rfl, fun _ => rfl, rfl, rfl, rfl, rfl⟩

def portActions : List (PortAction Unit Bool Unit Unit Unit Nat) :=
  [.init () 3 ⟨.pending, -1, 0⟩, .active .input () (some false) ⟨.pending, -1, 1⟩,
    .write () .pending (-1) false 5]

def portAfter : PortPoller Unit Bool Unit Unit Unit Nat :=
  (Runs.run portAct lonePort portActions).getD lonePort

theorem port_allowed : Runs.Allowed portAct PortProper lonePort portActions :=
  ⟨⟨rfl, rfl⟩, fun _ _ => ⟨trivial, fun _ _ => ⟨trivial, fun _ _ => trivial⟩⟩⟩

theorem port_lifetime_lone :
    Lifetime portAfter ∧ (portAfter.backend.lapped 0).map TxOverlapped.txRefcnt = some 3 :=
  ⟨port_lifetime lonePort portAfter fresh_port portActions port_allowed rfl, rfl⟩

end Libtx
