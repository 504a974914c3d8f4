import Libtx.Netcat.Streams
import Libtx.Runs.Partial

namespace Libtx

variable {Th : Type}

section Runs

variable {build : CatBuild} {s next : NetcatWin32 Th}

theorem inPlaces_start (build : CatBuild) (buffer : IoData → List UInt8)
    (room : ∀ data, (buffer data).length = MAX_BUFF_SIZE) :
    InPlaces build (NetcatWin32.start build buffer : NetcatWin32 Th) := by
  intro data
  cases data with
  | recv =>
      refine ⟨.kernel (.wsaRecv build.recvLen), ⟨rfl, rfl, fun _ => rfl⟩, ⟨rfl, rfl⟩, fun _ => rfl, ⟨[], rfl⟩, ?_,
        room .recv⟩
      intro dropped
      cases dropped
  | send =>
      refine ⟨.kernel (.wsaSend 0 0), ⟨rfl, rfl, fun _ => rfl⟩, ⟨0, 0, rfl, Nat.le_refl 0, Nat.zero_le _, rfl⟩,
        fun _ => by simp [NetcatWin32.start, Place.bytes], ⟨[], rfl⟩, ?_, room .send⟩
      intro dropped
      cases dropped

theorem queued_nil (s : NetcatWin32 Th) (data : IoData) :
    s.queued data = [] ↔ ∀ ok transfer, .io data ok transfer ∉ s.port := by
  rw [NetcatWin32.queued, List.filterMap_eq_nil_iff]
  constructor
  · intro none ok transfer member
    simpa [Packet.about] using none _ member
  · intro none packet member
    cases packet with
    | quit => rfl
    | io other ok transfer =>
        have apart : other ≠ data := by
          rintro rfl
          exact none ok transfer member
        simp [Packet.about, apart]

theorem HeldAt.whole {place : Place Th} {data : IoData} (held : HeldAt build s data place)
    (sound : place.broken = false) (none : place.bytes data (s.aiobuf data) = []) :
    s.given data = s.taken data := by
  rw [held.stream sound, none, List.append_nil]

variable [DecidableEq Th]

theorem InPlaces.act (places : InPlaces build s) (step : CatStep Th) (result : s.act build step = some next) :
    InPlaces build next := by
  unfold NetcatWin32.act at result
  split at result
  · cases result
  cases step with
  | transmit data count => exact places.transmit count result
  | complete data answer => exact places.complete answer result
  | dequeue th index =>
      simp only [NetcatWin32.running] at result
      split at result
      · rename_i waits
        exact places.dequeue waits index result
      · cases result
  | failed th =>
      simp only [NetcatWin32.running] at result
      split at result
      · rename_i waits
        injection result with same
        subst same
        exact places.still (fun data => apart_quit s th true (by rw [waits]; rfl))
      · cases result
  | switch th =>
      simp only [NetcatWin32.running] at result
      split at result
      · rename_i data nRet held
        exact places.switch nRet held result
      · cases result
  | recv th answer =>
      simp only [NetcatWin32.running] at result
      split at result
      · rename_i data held
        exact places.recv held rfl _ (places.quits held false) answer result
      · rename_i data held
        have here := places.hand held
        obtain ⟨same, carries⟩ := here.receives rfl
        subst same
        have blocks := places.step .recv
          (fun _ apart => apart_callback s th .postRecv apart (free_other held apart))
          _ (carries.moves .postRecv trivial rfl)
        exact places.recv held rfl _ blocks answer result
      · cases result
  | writeFile th transfer =>
      simp only [NetcatWin32.running] at result
      split at result
      · rename_i data nRet held
        exact places.written nRet held transfer result
      · cases result
  | readFile th answer =>
      simp only [NetcatWin32.running] at result
      split at result
      · rename_i data held
        exact places.input held answer result
      · cases result
  | mark th =>
      simp only [NetcatWin32.running] at result
      split at result
      · rename_i data held
        injection result with same
        subst same
        cases data with
        | recv => exact places.marked held build.recvAction .startRecv rfl rfl
        | send => exact (places.hand held).suits.elim
      · rename_i data len held
        injection result with same
        subst same
        cases data with
        | recv => exact (places.hand held).suits.elim
        | send => exact places.marked held .byteWrite (.startSend len) ⟨(places.hand held).suits, rfl⟩ rfl
      · cases result
  | start th started =>
      simp only [NetcatWin32.running] at result
      split at result
      · rename_i data held
        injection result with same
        subst same
        cases data with
        | recv => exact places.begins held _ started ⟨rfl, (places.hand held).suits⟩ rfl
        | send => exact (places.hand held).suits.elim
      · rename_i data len held
        injection result with same
        subst same
        cases data with
        | recv => exact (places.hand held).suits.elim
        | send =>
            obtain ⟨fits, action⟩ := (places.hand held).suits
            exact places.begins held _ started ⟨len, 0, rfl, Nat.zero_le len, fits, action⟩
              (by simp [Place.bytes])
      · cases result
  | postQuit th =>
      simp only [NetcatWin32.running] at result
      split at result
      · rename_i left leave held
        injection result with same
        subst same
        apply places.still
        intro data
        have posted : Apart data s (s.post .quit) := apart_post s .quit rfl
        exact posted.trans (apart_worker _ th _ (by
          change _ = (s.worker th).holds data
          rw [held]
          rfl))
      · rename_i leave held
        injection result with same
        subst same
        apply places.still
        intro data
        apply apart_worker
        rw [held]
        cases leave with
        | true => rfl
        | false => rfl
      · cases result
  | exitProcess th =>
      simp only [NetcatWin32.running] at result
      split at result
      · injection result with same
        subst same
        exact places.still (fun data => ⟨rfl, rfl, fun _ => rfl, rfl, rfl, rfl, rfl, id, id⟩)
      · cases result

/-- Nobody but one thread, or the system, can touch the buffer of a block, and both streams keep
their bytes and their order. -/
structure CatRelays (s : NetcatWin32 Th) : Prop where
  sole : ∀ data th other point there, s.worker th = .callback data point →
    s.worker other = .callback data there → other = th
  idle : ∀ data th point, s.worker th = .callback data point →
    s.operation data = [] ∧ ∀ ok transfer, .io data ok transfer ∉ s.port
  started : ∀ data, (s.operation data).length ≤ 1 ∧
    (s.operation data ≠ [] → ∀ ok transfer, .io data ok transfer ∉ s.port)
  streams : ∀ data, s.given data <+: s.taken data
  received : s.operation .recv ≠ [] → s.given .recv = s.taken .recv
  read : ∀ th, s.worker th = .callback .send .readFile → s.given .send = s.taken .send
  asserts : ∀ th data nRet, s.worker th = .callback data (.switch nRet) → (s.switch th data nRet).isSome = true
  ended : ∀ data, s.operation data = [] → (∀ ok transfer, .io data ok transfer ∉ s.port) →
    (∀ th point, s.worker th ≠ .callback data point) → s.quits = true ∨ s.refused = true
  room : ∀ data, (s.aiobuf data).length = MAX_BUFF_SIZE

theorem InPlaces.relays (places : InPlaces build s) : CatRelays s where
  sole := by
    intro data th other point there held also
    have here := (places.hand held).here
    by_contra apart
    have free := here.2.2.2 other apart
    rw [also] at free
    simp [Worker.holds] at free
  idle := by
    intro data th point held
    have here := (places.hand held).here
    exact ⟨here.1, (queued_nil s data).mp here.2.1⟩
  started := by
    intro data
    cases operations : s.operation data with
    | nil => exact ⟨Nat.zero_le 1, fun some => absurd rfl some⟩
    | cons operation rest =>
        obtain ⟨rfl, held⟩ := places.kernel operation rest operations
        exact ⟨Nat.le_refl 1, fun _ => (queued_nil s data).mp held.here.2.1⟩
  streams := by
    intro data
    obtain ⟨place, held⟩ := places data
    exact held.ordered
  received := by
    intro waits
    cases operations : s.operation .recv with
    | nil => exact absurd operations waits
    | cons operation rest =>
        obtain ⟨rfl, held⟩ := places.kernel operation rest operations
        obtain ⟨rfl, _⟩ := held.suits
        exact held.whole rfl rfl
  read := by
    intro th held
    exact (places.hand held).whole rfl rfl
  asserts := by
    intro th data nRet held
    have suits := (places.hand held).suits
    cases data with
    | send =>
        have action : s.action .send = .byteWrite := suits
        simp [NetcatWin32.switch, action]
    | recv =>
        obtain ⟨fits, action⟩ := suits
        cases build with
        | plain => simp [NetcatWin32.switch, action, CatBuild.recvAction]
        | disableNonblock => simp [NetcatWin32.switch, action, CatBuild.recvAction]
        | enableZeroCopy =>
            have none : nRet = 0 := Nat.le_zero.mp fits
            simp [NetcatWin32.switch, action, CatBuild.recvAction, none]
  ended := by
    intro data unstarted unqueued unheld
    obtain ⟨place, held⟩ := places data
    cases place with
    | kernel _ => exact absurd held.here.1 (by simp [unstarted])
    | port _ _ => exact absurd held.here.2.1 (by simp [(queued_nil s data).mpr unqueued])
    | worker th point => exact absurd ((holds_iff_callback _ data point).mp held.here.2.2.1) (unheld th point)
    | dropped => exact held.ended rfl
  room := by
    intro data
    obtain ⟨place, held⟩ := places data
    exact held.room

/-- In any run of the threads and the system, in any build without `ENABLE_DATA_COPY` -/
theorem netcat_relays (build : CatBuild) (buffer : IoData → List UInt8)
    (room : ∀ data, (buffer data).length = MAX_BUFF_SIZE) (steps : List (CatStep Th)) (s : NetcatWin32 Th)
    (reached : Runs.run (NetcatWin32.act build) (.start build buffer) steps = some s) : CatRelays s :=
  (Runs.keeps_run (fun _ _ => True) (InPlaces build) (fun _ step _ _ places result => places.act step result) _ s
    steps (Runs.allowed_any _ steps) (inPlaces_start build buffer room) reached).relays

def pairSteps : List (CatStep Bool) :=
  [.complete .recv (some [104, 105]), .complete .send (some []), .dequeue true 0, .dequeue false 0, .switch true,
    .switch false, .readFile false (some [111]), .writeFile true (some 2), .mark false, .recv true .wouldBlock,
    .start false true, .mark true, .transmit .send 1, .start true true]

def pairBuffer : IoData → List UInt8 := fun _ => List.replicate MAX_BUFF_SIZE 0

def pairRelayed : NetcatWin32 Bool :=
  (Runs.run (NetcatWin32.act .plain) (.start .plain pairBuffer) pairSteps).getD (.start .plain pairBuffer)

theorem netcat_relays_pair : CatRelays pairRelayed ∧ pairRelayed.given .recv = [104, 105] ∧
    pairRelayed.given .send = [111] :=
  ⟨netcat_relays .plain pairBuffer (fun _ => List.length_replicate) pairSteps pairRelayed rfl, rfl, rfl⟩

end Runs

end Libtx
