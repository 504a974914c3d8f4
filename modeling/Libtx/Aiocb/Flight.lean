import Libtx.Aiocb.Core
import Libtx.Aiocb.Port
import Libtx.Count.Lease
import Libtx.Runs.Partial

namespace Libtx

open Count

variable {L T W P F O : Type}

def TxAiocb.started (side : Side) (file : TxAiocb T) : TxAiocb T :=
  { file with
    txFlags :=
      { file.txFlags with
        poll := Function.update file.txFlags.poll side true
        able := if side = .output then Function.update file.txFlags.able .output false
          else file.txFlags.able } }

/-- The flags of an object whose operations in flight are those of `flying`. -/
structure TxAiocb.Fits (file : TxAiocb T) (flying : Side → Prop) : Prop where
  armed : ∀ side, file.txFlags.poll side = true ↔ flying side
  ready : file.txFlags.able .output = !file.txFlags.poll .output

section Files

variable {file : TxAiocb T} {flying left : Side → Prop}

theorem TxAiocb.Fits.idle (fits : file.Fits flying) (side : Side) (off : file.txFlags.poll side = false) :
    ¬ flying side := by
  intro flies
  rw [(fits.armed side).mpr flies] at off
  cases off

theorem TxAiocb.Fits.started (fits : file.Fits flying) (side : Side) (one : left side)
    (kept : ∀ other, other ≠ side → (left other ↔ flying other)) : (file.started side).Fits left where
  armed := by
    intro other
    by_cases same : other = side
    · simp [TxAiocb.started, same, one]
    · simpa [TxAiocb.started, same, kept other same] using fits.armed other
  ready := by
    have before := fits.ready
    cases side with
    | input => simpa [TxAiocb.started] using before
    | output => simp [TxAiocb.started]

theorem TxAiocb.Fits.serve (fits : file.Fits flying) (side : Side) (gone : ¬ left side)
    (kept : ∀ other, other ≠ side → (left other ↔ flying other)) : (file.serve side).Fits left where
  armed := by
    intro other
    by_cases same : other = side
    · simp [TxAiocb.serve, same, gone]
    · simpa [TxAiocb.serve, same, kept other same] using fits.armed other
  ready := by
    have before := fits.ready
    cases side with
    | input => simpa [TxAiocb.serve] using before
    | output => simp [TxAiocb.serve]

theorem TxAiocb.Fits.same (fits : file.Fits flying) (other : TxAiocb T)
    (poll : other.txFlags.poll = file.txFlags.poll)
    (able : other.txFlags.able .output = file.txFlags.able .output) : other.Fits flying where
  armed := by
    rw [poll]
    exact fits.armed
  ready := by
    rw [able, poll]
    exact fits.ready

end Files

/-- What the port counts: who holds the `tx_overlapped_t` of each address. -/
def Poller.lease (s : PortPoller L T W P F O) : Leases F O Side where
  holds := s.backend.txPrivp
  cell := fun address =>
    (s.backend.lapped address).map (fun olaped => (olaped.txRefcnt, olaped.txFilp))
  flight := s.backend.inflight
  allocated := s.backend.portList
  created := s.backend.created
  deleted := s.backend.deleted

/-- The references are exact, and the flags of every attached object stand for what is in
flight. -/
structure Flight [DecidableEq F] [DecidableEq O] (s : PortPoller L T W P F O) : Prop where
  sound : s.lease.Sound (fun _ => 0)
  attached : ∀ filp, (s.filp filp).live = true ↔ ∃ address, s.backend.txPrivp filp = some address
  fits : ∀ filp address, s.backend.txPrivp filp = some address →
    (s.filp filp).Fits (fun side => (address, side) ∈ s.backend.inflight)

theorem lease_backend (s next : PortPoller L T W P F O) (backend : next.backend = s.backend) :
    next.lease = s.lease := by
  rw [Poller.lease, Poller.lease, backend]

theorem olaped_iff (s : PortPoller L T W P F O) (filp : F) (address : O) (olaped : TxOverlapped F) :
    s.olaped filp = some (address, olaped) ↔
      s.backend.txPrivp filp = some address ∧ s.backend.lapped address = some olaped := by
  simp only [Poller.olaped, Option.bind_eq_some_iff, Option.map_eq_some_iff, Prod.mk.injEq]
  constructor
  · intro found
    obtain ⟨place, held, value, stored, rfl, rfl⟩ := found
    exact ⟨held, stored⟩
  · intro both
    exact ⟨address, both.1, olaped, both.2, rfl, rfl⟩

section Moves

variable {s : PortPoller L T W P F O} [DecidableEq O]

theorem map_update {A B : Type} (lapped : O → Option A) (address : O) (value : Option A) (f : A → B) :
    (fun other => (Function.update lapped address value other).map f) =
      Function.update (fun other => (lapped other).map f) address (value.map f) := by
  funext other
  by_cases same : other = address
  · simp [same]
  · simp [same]

theorem lease_setLapped (address : O) (olaped : TxOverlapped F) :
    (s.setLapped address olaped).lease = s.lease.setCell address olaped.txRefcnt olaped.txFilp := by
  simp [Poller.lease, Poller.setLapped, Poller.onPort, Leases.setCell, map_update]

theorem lease_ref (address : O) (olaped : TxOverlapped F) (side : Side) :
    (s.ref address olaped side).lease = s.lease.start address olaped.txRefcnt olaped.txFilp side := by
  simp [Poller.ref, Poller.lease, Poller.setLapped, Poller.onPort, Leases.start, Leases.setCell, map_update]

theorem lease_unref (address : O) (olaped : TxOverlapped F) :
    (s.unref address olaped).lease = s.lease.unref address olaped.txRefcnt olaped.txFilp := by
  unfold Poller.unref Leases.unref
  split
  · simp [Poller.deleteLapped, Poller.lease, Poller.onPort, Leases.delete, map_update]
  · rw [lease_setLapped]

theorem unref_frame (s : PortPoller L T W P F O) (address : O) (olaped : TxOverlapped F) :
    (s.unref address olaped).filp = s.filp ∧ (s.unref address olaped).world = s.world ∧
      (s.unref address olaped).calls = s.calls ∧
      (s.unref address olaped).backend.txPrivp = s.backend.txPrivp ∧
      (s.unref address olaped).backend.inflight = s.backend.inflight := by
  unfold Poller.unref
  split
  · exact ⟨rfl, rfl, rfl, rfl, rfl⟩
  · exact ⟨rfl, rfl, rfl, rfl, rfl⟩

variable [DecidableEq F]

theorem Flight.cell (flight : Flight s) (filp : F) (address : O)
    (held : s.backend.txPrivp filp = some address) :
    ∃ olaped, s.backend.lapped address = some olaped ∧ olaped.txFilp = some filp := by
  obtain ⟨count, found⟩ := (flight.sound.owns filp address).mp held
  obtain ⟨olaped, stored, same⟩ := Option.map_eq_some_iff.mp found
  exact ⟨olaped, stored, congrArg Prod.snd same⟩

theorem Flight.apart (flight : Flight s) (filp other : F) (address : O)
    (held : s.backend.txPrivp filp = some address) (too : s.backend.txPrivp other = some address) :
    other = filp := by
  obtain ⟨olaped, stored, own⟩ := flight.cell filp address held
  obtain ⟨again, found, its⟩ := flight.cell other address too
  rw [stored] at found
  injection found with same
  rw [← same, own] at its
  injection its with agree
  exact agree.symm

theorem Flight.update (flight : Flight s) (next : PortPoller L T W P F O) (filp : F) (file : TxAiocb T)
    (written : next.filp = Function.update s.filp filp file) (sound : next.lease.Sound (fun _ => 0))
    (privp : ∀ other, other ≠ filp → next.backend.txPrivp other = s.backend.txPrivp other)
    (kept : ∀ other address, other ≠ filp → s.backend.txPrivp other = some address →
      ∀ side, (address, side) ∈ next.backend.inflight ↔ (address, side) ∈ s.backend.inflight)
    (own : file.live = true ↔ ∃ address, next.backend.txPrivp filp = some address)
    (fits : ∀ address, next.backend.txPrivp filp = some address →
      file.Fits (fun side => (address, side) ∈ next.backend.inflight)) : Flight next where
  sound := sound
  attached := by
    intro other
    by_cases same : other = filp
    · subst same
      rw [written, Function.update_self]
      exact own
    · rw [written, Function.update_of_ne same, privp other same]
      exact flight.attached other
  fits := by
    intro other address held
    by_cases same : other = filp
    · subst same
      rw [written, Function.update_self]
      exact fits address held
    · rw [privp other same] at held
      rw [written, Function.update_of_ne same]
      have before := flight.fits other address held
      simp only [kept other address same held]
      exact before

theorem Flight.file (flight : Flight s) (next : PortPoller L T W P F O) (filp : F) (file : TxAiocb T)
    (written : next.filp = Function.update s.filp filp file) (backend : next.backend = s.backend)
    (own : file.live = (s.filp filp).live)
    (fits : ∀ flying, (s.filp filp).Fits flying → file.Fits flying) : Flight next := by
  apply flight.update next filp file written
  · exact lease_backend s next backend ▸ flight.sound
  · exact fun other _ => by rw [backend]
  · exact fun other address _ _ side => by rw [backend]
  · rw [own, backend]
    exact flight.attached filp
  · intro address held
    rw [backend] at held ⊢
    exact fits _ (flight.fits filp address held)

theorem Flight.same (flight : Flight s) (next : PortPoller L T W P F O) (files : next.filp = s.filp)
    (backend : next.backend = s.backend) : Flight next where
  sound := lease_backend s next backend ▸ flight.sound
  attached := by
    rw [files, backend]
    exact flight.attached
  fits := by
    rw [files, backend]
    exact flight.fits

end Moves

section Calls

theorem pollout_spec (s next : PortPoller L T W P F O) (filp : F)
    (called : txCompletionPortPollout s filp = some next) :
    ((s.filp filp).txFlags.poll .output = true ∨ (s.filp filp).live = true) ∧ next = s := by
  unfold txCompletionPortPollout at called
  split at called
  · split at called
    · rename_i live
      injection called with same
      exact ⟨Or.inr live, same.symm⟩
    · cases called
  · rename_i on
    injection called with same
    exact ⟨Or.inl (by simpa using on), same.symm⟩

variable [DecidableEq F] [DecidableEq O]

theorem start_spec (side : Side) (s next : PortPoller L T W P F O) (filp : F) (address : O)
    (olaped : TxOverlapped F) (result : portStart side s filp address olaped = some next) :
    next.filp = Function.update s.filp filp ((s.filp filp).started side) ∧
      next.world = s.world ∧ next.calls = s.calls ∧
      next.backend.txPrivp = s.backend.txPrivp ∧
      next.backend.inflight = (address, side) :: s.backend.inflight ∧
      next.lease = s.lease.start address olaped.txRefcnt olaped.txFilp side := by
  unfold portStart at result
  dsimp only at result
  split at result
  · injection result with same
    subst same
    cases side with
    | input =>
        refine ⟨?_, rfl, rfl, rfl, rfl, lease_ref address olaped .input⟩
        simp [Poller.ref, Poller.setLapped, Poller.onPort, Poller.setPoll, Poller.setFlags, Poller.setFilp,
          TxAiocb.started]
    | output =>
        refine ⟨?_, rfl, rfl, rfl, rfl, lease_ref address olaped .output⟩
        simp [Poller.ref, Poller.setLapped, Poller.onPort, Poller.setPoll, Poller.setAble, Poller.setFlags,
          Poller.setFilp, TxAiocb.started]
  · cases result

section

variable [DecidableEq L] [DecidableEq T] [DecidableEq W]

omit [DecidableEq O] in
theorem serve_spec (side : Side) (s : PortPoller L T W P F O) (filp : F) :
    (portServe side s filp).filp = Function.update s.filp filp ((s.filp filp).serve side) ∧
      (portServe side s filp).backend = s.backend ∧
      Told s (((s.filp filp).txFilter side).toList.map (fun task => (task, filp))) (portServe side s filp) := by
  refine ⟨?_, rfl, ?_⟩
  · simp [portServe, Poller.wake, taskActiveBy, Poller.setFilter, Poller.setAble, Poller.setPoll,
      Poller.setFlags, Poller.setFilp, TxAiocb.serve]
  · have slot : (((s.setPoll filp side false).setAble filp side true).filp filp).txFilter side =
        (s.filp filp).txFilter side := by
      simp [Poller.setAble, Poller.setPoll, Poller.setFlags, Poller.setFilp]
    have told := told_taskActiveBy ((s.setPoll filp side false).setAble filp side true)
      ((s.filp filp).txFilter side) filp
    refine ⟨?_, ?_⟩
    · rw [portServe, Poller.wake, slot]
      exact told.world
    · rw [portServe, Poller.wake, slot]
      exact told.calls

/-- All that a call can do which does something: it starts one operation, or it tells the waiter
that the start failed. -/
inductive Starts (side : Side) (s : PortPoller L T W P F O) (filp : F) : PortPoller L T W P F O → Prop
  | failed (live : (s.filp filp).live = true) (off : (s.filp filp).txFlags.poll side = false) :
      Starts side s filp (portServe side s filp)
  | started (address : O) (olaped newer : TxOverlapped F) (next : PortPoller L T W P F O)
      (live : (s.filp filp).live = true) (off : (s.filp filp).txFlags.poll side = false)
      (found : s.olaped filp = some (address, olaped)) (count : newer.txRefcnt = olaped.txRefcnt)
      (owner : newer.txFilp = olaped.txFilp) (result : portStart side s filp address newer = some next) :
      Starts side s filp next

theorem sendout_starts (answer : Start) (sent : Int) (memlock : Bool) (len : Nat)
    (s : PortPoller L T W P F O) (filp : F) (result : Int × PortPoller L T W P F O)
    (called : txCompletionPortSendout answer sent memlock len s filp = some result) :
    result.2 = s ∨ Starts .output s filp result.2 := by
  unfold txCompletionPortSendout at called
  split at called
  · rename_i off
    split at called
    · rename_i live
      split at called
      · injection called with same
        exact Or.inl (same ▸ rfl)
      · obtain ⟨olaped, found, rest⟩ := Option.bind_eq_some_iff.mp called
        split at rest
        · split at rest
          · injection rest with same
            exact Or.inr (same ▸ .failed live.1 off)
          · obtain ⟨next, start, same⟩ := Option.map_eq_some_iff.mp rest
            exact Or.inr (same ▸ .started olaped.1 olaped.2 olaped.2 next live.1 off found rfl rfl start)
        · injection rest with same
          exact Or.inl (same ▸ rfl)
    · cases called
  · injection called with same
    exact Or.inl (same ▸ rfl)

theorem connect_starts (answer : Start) (s : PortPoller L T W P F O) (filp : F)
    (result : Int × PortPoller L T W P F O) (called : txCompletionPortConnect answer s filp = some result) :
    result.2 = s ∨ Starts .output s filp result.2 := by
  unfold txCompletionPortConnect at called
  split at called
  · rename_i off
    split at called
    · rename_i live
      obtain ⟨olaped, found, rest⟩ := Option.bind_eq_some_iff.mp called
      cases answer with
      | failed =>
          injection rest with same
          exact Or.inl (same ▸ rfl)
      | done =>
          obtain ⟨next, start, same⟩ := Option.map_eq_some_iff.mp rest
          exact Or.inr (same ▸ .started olaped.1 olaped.2 olaped.2 next live off found rfl rfl start)
      | pending =>
          obtain ⟨next, start, same⟩ := Option.map_eq_some_iff.mp rest
          exact Or.inr (same ▸ .started olaped.1 olaped.2 olaped.2 next live off found rfl rfl start)
    · cases called
  · injection called with same
    exact Or.inl (same ▸ rfl)

theorem pollin_starts (answer : Start) (newfd : Int) (s next : PortPoller L T W P F O) (filp : F)
    (called : txCompletionPortPollin answer newfd s filp = some next) :
    ((s.filp filp).txFlags.poll .input = true ∧ next = s) ∨ Starts .input s filp next := by
  unfold txCompletionPortPollin at called
  dsimp only at called
  split at called
  · rename_i off
    split at called
    · rename_i live
      obtain ⟨olaped, found, rest⟩ := Option.bind_eq_some_iff.mp called
      split at rest
      · exact Or.inr
          (.started olaped.1 olaped.2 { olaped.2 with txNewfd := newfd } next live off found rfl rfl rest)
      · split at rest
        · split at rest
          · injection rest with same
            exact Or.inr (same ▸ .failed live off)
          · cases rest
        · exact Or.inr (.started olaped.1 olaped.2 olaped.2 next live off found rfl rfl rest)
    · cases called
  · rename_i on
    injection called with same
    exact Or.inl ⟨by simpa using on, same.symm⟩

end

variable {s : PortPoller L T W P F O}

omit [DecidableEq F] in
theorem flights_sides (s : PortPoller L T W P F O) (address : O) :
    s.lease.flights address =
      s.backend.inflight.count (address, .output) + s.backend.inflight.count (address, .input) := by
  have every (inflight : List (O × Side)) :
      inflight.countP (fun operation => decide (operation.1 = address)) =
        inflight.count (address, .output) + inflight.count (address, .input) := by
    induction inflight with
    | nil => rfl
    | cons operation rest ih =>
        obtain ⟨place, side⟩ := operation
        rw [List.countP_cons, List.count_cons, List.count_cons, ih]
        by_cases same : place = address
        · cases side with
          | input =>
              simp [same]
              omega
          | output =>
              simp [same]
              omega
        · simp [same]
  exact every s.backend.inflight

def Poller.landed (s : PortPoller L T W P F O) (told : O × Side) (olaped : TxOverlapped F) :
    PortPoller L T W P F O :=
  (s.onPort (fun port => { port with inflight := port.inflight.erase told })).unref told.1 olaped

omit [DecidableEq F] in
theorem landed_frame (s : PortPoller L T W P F O) (told : O × Side) (olaped : TxOverlapped F) :
    (s.landed told olaped).filp = s.filp ∧ (s.landed told olaped).world = s.world ∧
      (s.landed told olaped).calls = s.calls ∧
      (s.landed told olaped).backend.txPrivp = s.backend.txPrivp ∧
      (s.landed told olaped).backend.inflight = s.backend.inflight.erase told := by
  obtain ⟨filp, world, calls, privp, inflight⟩ := unref_frame
    (s.onPort (fun port => { port with inflight := port.inflight.erase told })) told.1 olaped
  exact ⟨filp, world, calls, privp, inflight⟩

theorem Flight.room (flight : Flight s) (filp : F) (side : Side) (address : O) (olaped : TxOverlapped F)
    (found : s.olaped filp = some (address, olaped)) (off : (s.filp filp).txFlags.poll side = false) :
    olaped.txRefcnt + 1 < 4 := by
  obtain ⟨held, stored⟩ := (olaped_iff s filp address olaped).mp found
  have counted := (flight.sound.counted address olaped.txRefcnt olaped.txFilp
    (Option.map_eq_some_iff.mpr ⟨olaped, stored, rfl⟩)).1
  rw [flights_sides] at counted
  have owner : olaped.txFilp.isSome.toNat ≤ 1 := Bool.toNat_le _
  have none : s.backend.inflight.count (address, side) = 0 := by
    rw [List.count_eq_zero]
    exact (flight.fits filp address held).idle side off
  have once (other : Side) : s.backend.inflight.count (address, other) ≤ 1 :=
    List.nodup_iff_count_le_one.mp flight.sound.once (address, other)
  cases side with
  | input =>
      have output := once .output
      omega
  | output =>
      have input := once .input
      omega

theorem Flight.landed_sound (flight : Flight s) (told : O × Side) (olaped : TxOverlapped F)
    (flying : told ∈ s.backend.inflight) (stored : s.backend.lapped told.1 = some olaped) :
    (s.landed told olaped).lease.Sound (fun _ => 0) := by
  rw [Poller.landed, lease_unref]
  apply (flight.sound.told told.1 told.2 flying).unref told.1
  exact Option.map_eq_some_iff.mpr ⟨olaped, stored, rfl⟩

theorem Flight.landed_detached (flight : Flight s) (told : O × Side) (olaped : TxOverlapped F)
    (flying : told ∈ s.backend.inflight) (stored : s.backend.lapped told.1 = some olaped)
    (detached : olaped.txFilp = none) :
    Flight (s.landed told olaped) ∧ ∀ filp, s.backend.txPrivp filp ≠ some told.1 := by
  obtain ⟨files, _, _, privp, inflight⟩ := landed_frame s told olaped
  have unheld : ∀ filp, s.backend.txPrivp filp ≠ some told.1 := by
    intro filp held
    obtain ⟨again, its, own⟩ := flight.cell filp told.1 held
    rw [stored] at its
    injection its with agree
    rw [← agree, detached] at own
    cases own
  refine ⟨⟨flight.landed_sound told olaped flying stored, ?_, ?_⟩, unheld⟩
  · intro filp
    rw [files, privp]
    exact flight.attached filp
  · intro filp address held
    rw [privp] at held
    have apart (side : Side) : (address, side) ≠ told := by
      intro same
      exact unheld filp (same ▸ held)
    rw [files, inflight]
    simp only [List.mem_erase_of_ne (apart _)]
    exact flight.fits filp address held

variable [DecidableEq L] [DecidableEq T] [DecidableEq W]

theorem Flight.served (flight : Flight s) (side : Side) (filp : F)
    (off : (s.filp filp).txFlags.poll side = false) : Flight (portServe side s filp) := by
  obtain ⟨written, backend, _⟩ := serve_spec side s filp
  apply flight.file (portServe side s filp) filp _ written backend rfl
  intro flying fits
  exact fits.serve side (fits.idle side off) (fun other _ => Iff.rfl)

theorem Flight.starts (flight : Flight s) (side : Side) (filp : F) (next : PortPoller L T W P F O)
    (starts : Starts side s filp next) : Flight next := by
  cases starts with
  | failed live off => exact flight.served side filp off
  | started address olaped newer next live off found count owner result =>
      obtain ⟨held, stored⟩ := (olaped_iff s filp address olaped).mp found
      obtain ⟨written, _, _, privp, inflight, lease⟩ := start_spec side s next filp address newer result
      have fits := flight.fits filp address held
      have idle := fits.idle side off
      apply flight.update next filp _ written
      · rw [lease, count, owner]
        exact flight.sound.start address _ _ side (Option.map_eq_some_iff.mpr ⟨olaped, stored, rfl⟩) idle
      · exact fun other _ => by rw [privp]
      · intro other place apart theirs way
        have distinct : place ≠ address := by
          intro same
          exact apart (flight.apart filp other address held (same ▸ theirs))
        rw [inflight]
        simp [distinct]
      · rw [privp]
        exact flight.attached filp
      · intro place mine
        rw [privp, held] at mine
        injection mine with same
        subst same
        rw [inflight]
        apply fits.started side
        · exact List.mem_cons_self
        · intro other apart
          simp [apart]

theorem Flight.tells (flight : Flight s) (told : O × Side) (flying : told ∈ s.backend.inflight) :
    ∃ olaped, s.backend.lapped told.1 = some olaped ∧
      portTell s told =
        some (match olaped.txFilp with
          | none => s.landed told olaped
          | some filp => portServe told.2 (s.landed told olaped) filp) := by
  cases stored : s.backend.lapped told.1 with
  | none => exact absurd flying (flight.sound.free told.1 told.2 (by simp [Poller.lease, stored]))
  | some olaped =>
      refine ⟨olaped, rfl, ?_⟩
      have counted := (flight.sound.counted told.1 olaped.txRefcnt olaped.txFilp
        (Option.map_eq_some_iff.mpr ⟨olaped, stored, rfl⟩)).1
      have positive := flights_pos (s := s.lease) told.1 told.2 flying
      simp only [portTell, flying, if_true, handleOverlapped, Poller.onPort, stored, Option.map_some,
        Option.some.injEq]
      cases owner : olaped.txFilp with
      | none => simp [Poller.landed, Poller.onPort]
      | some filp =>
          rw [owner] at counted
          have more : olaped.txRefcnt - 1 ≠ 0 := by
            simp only [Option.isSome_some, Bool.toNat_true] at counted
            omega
          simp [more, Poller.landed, Poller.onPort]

theorem Flight.landed_attached (flight : Flight s) (told : O × Side) (olaped : TxOverlapped F) (filp : F)
    (flying : told ∈ s.backend.inflight) (stored : s.backend.lapped told.1 = some olaped)
    (held : s.backend.txPrivp filp = some told.1) : Flight (portServe told.2 (s.landed told olaped) filp) := by
  obtain ⟨files, _, _, privp, inflight⟩ := landed_frame s told olaped
  obtain ⟨written, backend, _⟩ := serve_spec told.2 (s.landed told olaped) filp
  rw [files] at written
  apply flight.update _ filp _ written
  · exact lease_backend _ _ backend ▸ flight.landed_sound told olaped flying stored
  · exact fun other _ => by rw [backend, privp]
  · intro other place apart theirs side
    rw [backend, inflight]
    apply List.mem_erase_of_ne
    intro same
    exact apart (flight.apart filp other told.1 held (same ▸ theirs))
  · rw [backend, privp]
    exact flight.attached filp
  · intro place mine
    rw [backend, privp, held] at mine
    injection mine with same
    subst same
    rw [backend, inflight]
    apply (flight.fits filp told.1 held).serve told.2
    · exact flight.sound.once.not_mem_erase
    · intro other apart
      apply List.mem_erase_of_ne
      intro same
      exact apart (congrArg Prod.snd same)

theorem Flight.tell (flight : Flight s) (told : O × Side) (next : PortPoller L T W P F O)
    (result : portTell s told = some next) :
    told ∈ s.backend.inflight ∧ Flight next ∧ next.backend.inflight = s.backend.inflight.erase told ∧
      next.backend.txPrivp = s.backend.txPrivp ∧
      ((next.filp = s.filp ∧ next.world = s.world ∧ next.calls = s.calls ∧
          ∀ filp, s.backend.txPrivp filp ≠ some told.1) ∨
        ∃ filp, s.backend.txPrivp filp = some told.1 ∧
          next.filp = Function.update s.filp filp ((s.filp filp).serve told.2) ∧
          Told s (((s.filp filp).txFilter told.2).toList.map (fun task => (task, filp))) next) := by
  have flying : told ∈ s.backend.inflight := by
    by_contra absent
    rw [portTell, if_neg absent] at result
    cases result
  obtain ⟨olaped, stored, tells⟩ := flight.tells told flying
  obtain ⟨files, world, calls, privp, inflight⟩ := landed_frame s told olaped
  rw [tells] at result
  injection result with same
  cases owner : olaped.txFilp with
  | none =>
      rw [owner] at same
      subst same
      obtain ⟨kept, unheld⟩ := flight.landed_detached told olaped flying stored owner
      exact ⟨flying, kept, inflight, privp, Or.inl ⟨files, world, calls, unheld⟩⟩
  | some filp =>
      rw [owner] at same
      subst same
      have held : s.backend.txPrivp filp = some told.1 := by
        apply (flight.sound.owns filp told.1).mpr
        exact ⟨olaped.txRefcnt, Option.map_eq_some_iff.mpr ⟨olaped, stored, by rw [owner]⟩⟩
      obtain ⟨written, backend, heard⟩ := serve_spec told.2 (s.landed told olaped) filp
      rw [files] at written heard
      have onward : Told s (((s.filp filp).txFilter told.2).toList.map (fun task => (task, filp)))
          (portServe told.2 (s.landed told olaped) filp) :=
        (told_nil s (s.landed told olaped) world calls).trans heard
      exact ⟨flying, flight.landed_attached told olaped filp flying stored held, backend ▸ inflight,
        backend ▸ privp, Or.inr ⟨filp, held, written, onward⟩⟩

end Calls

end Libtx
