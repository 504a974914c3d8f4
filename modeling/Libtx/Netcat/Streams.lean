import Libtx.Netcat.Places

namespace Libtx

variable {Th : Type}

/-- The operation has failed, or the block is nowhere. -/
def Place.broken : Place Th → Bool
  | .port false _ | .dropped => true
  | _ => false

def Place.bytes (data : IoData) (buffer : List UInt8) : Place Th → List UInt8
  | .kernel (.wsaSend len gone) => (buffer.drop gone).take (len - gone)
  | .port true transfer => if data = .recv then buffer.take transfer else []
  | .worker _ (.switch nRet) => if data = .recv then buffer.take nRet else []
  | .worker _ (.writeFile nRet) => buffer.take nRet
  | .worker _ (.postSend len) | .worker _ (.startSend len) => buffer.take len
  | _ => []

def Place.suits (build : CatBuild) (action : IoAction) : IoData → Place Th → Prop
  | .recv, .kernel operation => operation = .wsaRecv build.recvLen ∧ action = build.recvAction
  | .recv, .port _ transfer => transfer ≤ build.recvLen ∧ action = build.recvAction
  | .recv, .worker _ point => match point with
      | .switch nRet => nRet ≤ build.recvLen ∧ action = build.recvAction
      | .writeFile nRet => 0 < nRet ∧ nRet ≤ MAX_BUFF_SIZE
      | .recvFirst | .recvMore | .postRecv => True
      | .startRecv => action = build.recvAction
      | _ => False
  | .send, .kernel operation => ∃ len gone, operation = .wsaSend len gone ∧ gone ≤ len ∧
      len ≤ MAX_BUFF_SIZE ∧ action = .byteWrite
  | .send, .port _ _ => action = .byteWrite
  | .send, .worker _ point => match point with
      | .switch _ => action = .byteWrite
      | .readFile => True
      | .postSend len => len ≤ MAX_BUFF_SIZE
      | .startSend len => len ≤ MAX_BUFF_SIZE ∧ action = .byteWrite
      | _ => False
  | _, .dropped => True

structure HeldAt (build : CatBuild) (s : NetcatWin32 Th) (data : IoData) (place : Place Th) : Prop where
  here : s.At data place
  suits : place.suits build (s.action data) data
  stream : place.broken = false → s.taken data = s.given data ++ place.bytes data (s.aiobuf data)
  ordered : s.given data <+: s.taken data
  ended : place = .dropped → s.quits = true ∨ s.refused = true
  room : (s.aiobuf data).length = MAX_BUFF_SIZE

structure Apart (data : IoData) (s next : NetcatWin32 Th) : Prop where
  operation : next.operation data = s.operation data
  queued : next.queued data = s.queued data
  holds : ∀ th, (next.worker th).holds data = (s.worker th).holds data
  action : next.action data = s.action data
  aiobuf : next.aiobuf data = s.aiobuf data
  taken : next.taken data = s.taken data
  given : next.given data = s.given data
  quits : s.quits = true → next.quits = true
  refused : s.refused = true → next.refused = true

section Aparts

variable {s next : NetcatWin32 Th} {data : IoData}

theorem Apart.trans {mid : NetcatWin32 Th} (first : Apart data s mid) (second : Apart data mid next) :
    Apart data s next where
  operation := second.operation.trans first.operation
  queued := second.queued.trans first.queued
  holds th := (second.holds th).trans (first.holds th)
  action := second.action.trans first.action
  aiobuf := second.aiobuf.trans first.aiobuf
  taken := second.taken.trans first.taken
  given := second.given.trans first.given
  quits := second.quits ∘ first.quits
  refused := second.refused ∘ first.refused

theorem HeldAt.apart {build : CatBuild} {place : Place Th} (held : HeldAt build s data place)
    (apart : Apart data s next) : HeldAt build next data place where
  here := held.here.congr apart.operation apart.queued apart.holds
  suits := apart.action ▸ held.suits
  stream := by
    rw [apart.taken, apart.given, apart.aiobuf]
    exact held.stream
  ordered := by
    rw [apart.taken, apart.given]
    exact held.ordered
  ended := fun dropped => (held.ended dropped).imp apart.quits apart.refused
  room := apart.aiobuf ▸ held.room

theorem apart_take (s : NetcatWin32 Th) (other : IoData) (bytes : List UInt8) (apart : data ≠ other) :
    Apart data s (s.take other bytes) :=
  ⟨rfl, rfl, fun _ => rfl, rfl, Function.update_of_ne apart _ _, Function.update_of_ne apart _ _, rfl, id, id⟩

theorem apart_give (s : NetcatWin32 Th) (other : IoData) (skip count : Nat) (apart : data ≠ other) :
    Apart data s (s.give other skip count) :=
  ⟨rfl, rfl, fun _ => rfl, rfl, rfl, rfl, Function.update_of_ne apart _ _, id, id⟩

theorem apart_operation (s : NetcatWin32 Th) (other : IoData) (operation : List Operation)
    (apart : data ≠ other) : Apart data s (s.setOperation other operation) :=
  ⟨Function.update_of_ne apart _ _, rfl, fun _ => rfl, rfl, rfl, rfl, rfl, id, id⟩

theorem apart_post (s : NetcatWin32 Th) (packet : Packet) (about : packet.about data = none) :
    Apart data s (s.post packet) := by
  refine ⟨rfl, ?_, fun _ => rfl, rfl, rfl, rfl, rfl, id, id⟩
  simp [NetcatWin32.queued, NetcatWin32.post, about]

theorem apart_dequeued (s : NetcatWin32 Th) (index : Nat) (packet : Packet)
    (found : s.port[index]? = some packet) (about : packet.about data = none) :
    Apart data s { s with port := s.port.eraseIdx index } := by
  refine ⟨rfl, ?_, fun _ => rfl, rfl, rfl, rfl, rfl, id, id⟩
  obtain ⟨front, back, before, after⟩ := queued_erase s.port index packet found data
  have same : s.port.filterMap (Packet.about data) = front ++ back := by simpa [about] using before
  exact after.trans same.symm

variable [DecidableEq Th]

theorem apart_worker (s : NetcatWin32 Th) (th : Th) (worker : Worker)
    (same : worker.holds data = (s.worker th).holds data) : Apart data s (s.setWorker th worker) := by
  refine ⟨rfl, rfl, ?_, rfl, rfl, rfl, rfl, id, id⟩
  intro other
  by_cases equal : other = th
  · subst equal
    simpa [NetcatWin32.setWorker] using same
  · simp [NetcatWin32.setWorker, equal]

theorem apart_quit (s : NetcatWin32 Th) (th : Th) (leave : Bool) (free : (s.worker th).holds data = none) :
    Apart data s (s.quit th leave) := by
  have moved : Apart data s (s.setWorker th (.quitting THREAD_COUNT leave)) :=
    apart_worker s th _ (by rw [free]; rfl)
  exact { moved with quits := fun _ => rfl }

end Aparts

def InPlaces (build : CatBuild) (s : NetcatWin32 Th) : Prop := ∀ data, ∃ place, HeldAt build s data place

section Steps

variable {build : CatBuild} {s next : NetcatWin32 Th}

theorem InPlaces.step (places : InPlaces build s) (data : IoData)
    (others : ∀ other, other ≠ data → Apart other s next) (place : Place Th)
    (here : HeldAt build next data place) : InPlaces build next := by
  intro other
  by_cases same : other = data
  · subst same
    exact ⟨place, here⟩
  · obtain ⟨its, held⟩ := places other
    exact ⟨its, held.apart (others other same)⟩

theorem InPlaces.still (places : InPlaces build s) (all : ∀ data, Apart data s next) : InPlaces build next :=
  fun data => (places data).imp (fun _ held => held.apart (all data))

end Steps

section Buffers

theorem fill_take (buffer bytes : List UInt8) : (fill buffer bytes).take bytes.length = bytes := by
  simp [fill]

theorem fill_length (buffer bytes : List UInt8) (fits : bytes.length ≤ buffer.length) :
    (fill buffer bytes).length = buffer.length := by
  simp only [fill, List.length_append, List.length_drop]
  omega

end Buffers

/-- A thread has a block in its hands; `bytes` are those of the buffer that have to go on. -/
structure Carries (s : NetcatWin32 Th) (data : IoData) (th : Th) (point : Point) (bytes : List UInt8) : Prop where
  here : s.At data (.worker th point)
  stream : s.taken data = s.given data ++ bytes
  room : (s.aiobuf data).length = MAX_BUFF_SIZE

section Hands

variable {build : CatBuild} {s : NetcatWin32 Th} {data : IoData} {th : Th} {point : Point} {bytes : List UInt8}

theorem HeldAt.carries (held : HeldAt build s data (.worker th point)) :
    Carries s data th point ((Place.worker th point).bytes data (s.aiobuf data)) :=
  ⟨held.here, held.stream rfl, held.room⟩

theorem Carries.takes (carries : Carries s data th point []) (bytes : List UInt8)
    (fits : bytes.length ≤ MAX_BUFF_SIZE) :
    Carries (s.take data bytes) data th point (((s.take data bytes).aiobuf data).take bytes.length) where
  here := carries.here.congr rfl rfl (fun _ => rfl)
  stream := by
    have before := carries.stream
    rw [List.append_nil] at before
    simp [NetcatWin32.take, fill_take, before]
  room := by
    simp only [NetcatWin32.take, Function.update_self]
    rw [fill_length _ _ (carries.room ▸ fits), carries.room]

theorem Carries.gives (carries : Carries s data th point bytes) (count : Nat) (rest : List UInt8)
    (cut : bytes = (s.aiobuf data).take count ++ rest) :
    Carries (s.give data 0 count) data th point rest where
  here := carries.here.congr rfl rfl (fun _ => rfl)
  stream := by
    simp [NetcatWin32.give, carries.stream, cut]
  room := carries.room

variable [DecidableEq Th]

theorem Carries.moves (carries : Carries s data th point bytes) (after : Point)
    (suits : (Place.worker th after).suits build (s.action data) data)
    (same : (Place.worker th after).bytes data (s.aiobuf data) = bytes) :
    HeldAt build (s.setWorker th (.callback data after)) data (.worker th after) where
  here := carries.here.moves th point after
  suits := suits
  stream := fun _ => same ▸ carries.stream
  ordered := ⟨bytes, carries.stream.symm⟩
  ended := fun dropped => by cases dropped
  room := carries.room

theorem Carries.quits (carries : Carries s data th point bytes) (leave : Bool) :
    HeldAt build (s.quit th leave) data .dropped where
  here := (carries.here.leaves th point (.quitting THREAD_COUNT leave) rfl).congr rfl rfl (fun _ => rfl)
  suits := by cases data <;> trivial
  stream := fun whole => by cases whole
  ordered := ⟨bytes, carries.stream.symm⟩
  ended := fun _ => Or.inl rfl
  room := carries.room

theorem Carries.loops (build : CatBuild) (carries : Carries s .recv th point bytes) (nRet : Nat)
    (fits : nRet ≤ MAX_BUFF_SIZE) (same : (s.aiobuf .recv).take nRet = bytes) :
    ∃ place, HeldAt build (s.loop th .recv nRet) .recv place := by
  unfold NetcatWin32.loop
  split
  · rename_i more
    exact ⟨_, carries.moves (.writeFile nRet) ⟨more, fits⟩ same⟩
  · exact ⟨_, carries.quits false⟩

theorem Carries.begins (build : CatBuild) (carries : Carries s data th point bytes)
    (operation : Operation) (started : Bool)
    (suits : (Place.kernel operation : Place Th).suits build (s.action data) data)
    (same : (Place.kernel operation : Place Th).bytes data (s.aiobuf data) = bytes) :
    ∃ place, HeldAt build (s.begin th data operation started) data place := by
  have dropped := carries.here.leaves th point .waiting rfl
  unfold NetcatWin32.begin
  cases started with
  | true =>
      refine ⟨.kernel operation, ?_, suits, fun _ => same ▸ carries.stream, ⟨bytes, carries.stream.symm⟩, ?_,
        carries.room⟩
      · exact dropped.begins operation
      · intro missing
        cases missing
  | false =>
      refine ⟨.dropped, dropped.congr rfl rfl (fun _ => rfl), ?_, ?_,
        ⟨bytes, carries.stream.symm⟩, ?_, carries.room⟩
      · cases data <;> trivial
      · intro whole
        cases whole
      · exact fun _ => Or.inr rfl

end Hands

section Threads

variable {build : CatBuild} {s next : NetcatWin32 Th} {data other : IoData} {th : Th} {point : Point}

theorem free_other (held : s.worker th = .callback data point) (apart : other ≠ data) :
    (s.worker th).holds other = none := by
  rw [held]
  simp [Worker.holds, Ne.symm apart]

def Point.receives : Point → Bool
  | .recvFirst | .recvMore => true
  | _ => false

theorem HeldAt.receives (here : HeldAt build s data (.worker th point)) (receives : point.receives = true) :
    data = .recv ∧ Carries s data th point [] := by
  have carries := here.carries
  have suits := here.suits
  cases data with
  | send =>
      cases point with
      | recvFirst => exact suits.elim
      | recvMore => exact suits.elim
      | _ => cases receives
  | recv =>
      cases point with
      | recvFirst => exact ⟨rfl, carries⟩
      | recvMore => exact ⟨rfl, carries⟩
      | _ => cases receives

variable [DecidableEq Th]

theorem InPlaces.hand (places : InPlaces build s) (held : s.worker th = .callback data point) :
    HeldAt build s data (.worker th point) := by
  obtain ⟨place, here⟩ := places data
  rw [here.here.holder th point held] at here
  exact here

theorem apart_callback (s : NetcatWin32 Th) (th : Th) (after : Point) (apart : other ≠ data)
    (free : (s.worker th).holds other = none) : Apart other s (s.setWorker th (.callback data after)) := by
  apply apart_worker
  rw [free]
  simp [Worker.holds, Ne.symm apart]

theorem apart_loop (s : NetcatWin32 Th) (th : Th) (nRet : Nat) (apart : other ≠ data)
    (free : (s.worker th).holds other = none) : Apart other s (s.loop th data nRet) := by
  unfold NetcatWin32.loop
  split
  · exact apart_callback s th _ apart free
  · exact apart_quit s th false free

theorem apart_begin (s : NetcatWin32 Th) (th : Th) (operation : Operation) (started : Bool)
    (apart : other ≠ data) (free : (s.worker th).holds other = none) :
    Apart other s (s.begin th data operation started) := by
  have returned : Apart other s (s.setWorker th .waiting) := apart_worker s th .waiting (by rw [free]; rfl)
  unfold NetcatWin32.begin
  cases started with
  | true => exact returned.trans (apart_operation _ data _ apart)
  | false => exact { returned with refused := fun _ => rfl }

theorem InPlaces.quits (places : InPlaces build s) (held : s.worker th = .callback data point) (leave : Bool) :
    InPlaces build (s.quit th leave) :=
  places.step data (fun _ apart => apart_quit s th leave (free_other held apart)) _
    ((places.hand held).carries.quits leave)

theorem InPlaces.switch (places : InPlaces build s) (nRet : Nat)
    (held : s.worker th = .callback data (.switch nRet)) (result : s.switch th data nRet = some next) :
    InPlaces build next := by
  have here := places.hand held
  cases data with
  | send =>
      have action : s.action .send = .byteWrite := here.suits
      simp only [NetcatWin32.switch, action, Option.some.injEq] at result
      subst result
      exact places.step .send (fun _ apart => apart_callback s th _ apart (free_other held apart)) _
        (here.carries.moves .readFile trivial rfl)
  | recv =>
      obtain ⟨fits, action⟩ := here.suits
      have cool (same : build.recvAction = .coolRead) (room : nRet ≤ MAX_BUFF_SIZE) : InPlaces build next := by
        simp only [NetcatWin32.switch, action, same, Option.some.injEq] at result
        subst result
        obtain ⟨place, looped⟩ := here.carries.loops build nRet room rfl
        exact places.step .recv (fun _ apart => apart_loop s th nRet apart (free_other held apart)) place looped
      cases build with
      | plain => exact cool rfl fits
      | disableNonblock => exact cool rfl fits
      | enableZeroCopy =>
          obtain rfl : nRet = 0 := Nat.le_zero.mp fits
          simp only [NetcatWin32.switch, action, CatBuild.recvAction, if_true, Option.some.injEq] at result
          subst result
          exact places.step .recv (fun _ apart => apart_callback s th _ apart (free_other held apart)) _
            (here.carries.moves .recvFirst trivial (by simp [Place.bytes]))

theorem InPlaces.recv (places : InPlaces build s) (held : s.worker th = .callback data point)
    (receives : point.receives = true) (blocked : NetcatWin32 Th) (blocks : InPlaces build blocked)
    (answer : Received) (result : s.recv th data blocked answer = some next) : InPlaces build next := by
  obtain ⟨rfl, carries⟩ := (places.hand held).receives receives
  cases answer with
  | wouldBlock =>
      injection result with same
      exact same ▸ blocks
  | failed =>
      injection result with same
      exact same ▸ places.quits held false
  | data bytes =>
      simp only [NetcatWin32.recv] at result
      split at result
      · rename_i fits
        injection result with same
        subst same
        obtain ⟨place, looped⟩ := (carries.takes bytes fits).loops build bytes.length fits rfl
        apply places.step .recv _ place looped
        intro other apart
        exact (apart_take s .recv bytes apart).trans (apart_loop _ th _ apart (free_other held apart))
      · cases result

theorem InPlaces.written (places : InPlaces build s) (nRet : Nat)
    (held : s.worker th = .callback data (.writeFile nRet)) (transfer : Option Nat)
    (result : s.written build th data nRet transfer = some next) : InPlaces build next := by
  have here := places.hand held
  cases data with
  | send => exact here.suits.elim
  | recv =>
      cases transfer with
      | none =>
          injection result with same
          exact same ▸ places.quits held false
      | some transfer =>
          simp only [NetcatWin32.written] at result
          split at result
          · cases result
          rename_i within
          have cut : (s.aiobuf .recv).take nRet =
              (s.aiobuf .recv).take transfer ++ ((s.aiobuf .recv).take nRet).drop transfer := by
            have front : ((s.aiobuf .recv).take nRet).take transfer = (s.aiobuf .recv).take transfer := by
              rw [List.take_take, Nat.min_eq_left (Nat.not_lt.mp within)]
            rw [← front, List.take_append_drop]
          have gone := here.carries.gives transfer _ cut
          have given : ∀ other, other ≠ .recv → Apart other s (s.give .recv 0 transfer) :=
            fun other apart => apart_give s .recv 0 transfer apart
          split at result
          · injection result with same
            subst same
            exact places.step .recv
              (fun other apart => (given other apart).trans (apart_quit _ th false (free_other held apart))) _
              (gone.quits false)
          · rename_i whole
            have nothing : ((s.aiobuf .recv).take nRet).drop transfer = [] := by
              apply List.drop_eq_nil_of_le
              rw [List.length_take]
              omega
            rw [nothing] at gone
            injection result with same
            subst same
            have next (after : Point) (suits : (Place.worker th after).suits build (s.action .recv) .recv)
                (none : (Place.worker th after).bytes .recv (s.aiobuf .recv) = []) :
                InPlaces build ((s.give .recv 0 transfer).setWorker th (.callback .recv after)) :=
              places.step .recv
                (fun other apart => (given other apart).trans (apart_callback _ th _ apart (free_other held apart)))
                _ (gone.moves after suits none)
            cases build with
            | plain => exact next .recvMore trivial rfl
            | disableNonblock => exact next .postRecv trivial rfl
            | enableZeroCopy => exact next .recvMore trivial rfl

theorem InPlaces.input (places : InPlaces build s) (held : s.worker th = .callback data .readFile)
    (answer : Option (List UInt8)) (result : s.input th data answer = some next) : InPlaces build next := by
  have here := places.hand held
  cases data with
  | recv => exact here.suits.elim
  | send =>
      cases answer with
      | none =>
          injection result with same
          exact same ▸ places.quits held false
      | some bytes =>
          simp only [NetcatWin32.input] at result
          split at result
          · cases result
          rename_i fits
          split at result
          · injection result with same
            exact same ▸ places.quits held false
          · injection result with same
            subst same
            have room : bytes.length ≤ MAX_BUFF_SIZE := Nat.not_lt.mp fits
            have taken : Carries s .send th .readFile [] := here.carries
            apply places.step .send _ _ ((taken.takes bytes room).moves (.postSend bytes.length) room rfl)
            intro other apart
            exact (apart_take s .send bytes apart).trans (apart_callback _ th _ apart (free_other held apart))

theorem InPlaces.marked (places : InPlaces build s) (held : s.worker th = .callback data point) (action : IoAction)
    (after : Point) (suits : (Place.worker th after).suits build action data)
    (same : (Place.worker th after).bytes data (s.aiobuf data) =
      (Place.worker th point).bytes data (s.aiobuf data)) :
    InPlaces build { s.setWorker th (.callback data after) with
      action := Function.update s.action data action } := by
  have carries := (places.hand held).carries
  have changed : Carries { s with action := Function.update s.action data action } data th point
      ((Place.worker th point).bytes data (s.aiobuf data)) :=
    ⟨carries.here.congr rfl rfl (fun _ => rfl), carries.stream, carries.room⟩
  apply places.step data _ _ (changed.moves after (by simpa using suits) same)
  intro other apart
  have written : Apart other s { s with action := Function.update s.action data action } :=
    ⟨rfl, rfl, fun _ => rfl, Function.update_of_ne apart _ _, rfl, rfl, rfl, id, id⟩
  exact written.trans (apart_callback _ th after apart (free_other held apart))

theorem InPlaces.begins (places : InPlaces build s) (held : s.worker th = .callback data point)
    (operation : Operation) (started : Bool)
    (suits : (Place.kernel operation : Place Th).suits build (s.action data) data)
    (same : (Place.kernel operation : Place Th).bytes data (s.aiobuf data) =
      (Place.worker th point).bytes data (s.aiobuf data)) :
    InPlaces build (s.begin th data operation started) := by
  obtain ⟨place, begun⟩ := (places.hand held).carries.begins build operation started suits same
  exact places.step data (fun _ apart => apart_begin s th operation started apart (free_other held apart)) place
    begun

end Threads

section System

variable {build : CatBuild} {s next : NetcatWin32 Th} {data : IoData} {th : Th}

theorem InPlaces.kernel (places : InPlaces build s) (operation : Operation) (rest : List Operation)
    (started : s.operation data = operation :: rest) :
    rest = [] ∧ HeldAt build s data (.kernel operation) := by
  obtain ⟨place, held⟩ := places data
  cases place with
  | kernel own =>
      have one := held.here.1
      rw [started] at one
      injection one with same none
      exact ⟨none, same ▸ held⟩
  | port _ _ => exact absurd held.here.1 (by simp [started])
  | worker _ _ => exact absurd held.here.1 (by simp [started])
  | dropped => exact absurd held.here.1 (by simp [started])

theorem InPlaces.fails (places : InPlaces build s) (operation : Operation)
    (held : HeldAt build s data (.kernel operation)) :
    InPlaces build ((s.setOperation data []).post (.io data false 0)) := by
  apply places.step data _ (.port false 0)
  · refine ⟨held.here.completes operation false 0, ?_, ?_, held.ordered, ?_, held.room⟩
    · cases data with
      | recv => exact ⟨Nat.zero_le _, held.suits.2⟩
      | send =>
          obtain ⟨_, _, _, _, _, action⟩ := held.suits
          exact action
    · intro whole
      cases whole
    · intro dropped
      cases dropped
  · intro other apart
    exact (apart_operation s data [] apart).trans (apart_post _ _ (by simp [Packet.about, Ne.symm apart]))

theorem recvLen_room (build : CatBuild) : build.recvLen ≤ MAX_BUFF_SIZE := by
  cases build with
  | enableZeroCopy => exact Nat.zero_le _
  | _ => exact Nat.le_refl _

theorem InPlaces.received (places : InPlaces build s) (len : Nat) (bytes : List UInt8)
    (held : HeldAt build s data (.kernel (.wsaRecv len))) (fits : bytes.length ≤ len) :
    InPlaces build (((s.take data bytes).setOperation data []).post (.io data true bytes.length)) := by
  cases data with
  | send =>
      obtain ⟨_, _, send, _⟩ := held.suits
      cases send
  | recv =>
      obtain ⟨same, action⟩ := held.suits
      injection same with same
      subst same
      have room : bytes.length ≤ (s.aiobuf .recv).length := by
        rw [held.room]
        exact Nat.le_trans fits (recvLen_room build)
      have whole : (s.take .recv bytes).taken .recv = (s.take .recv bytes).given .recv ++
          ((s.take .recv bytes).aiobuf .recv).take bytes.length := by
        have before : s.taken .recv = s.given .recv ++ [] := held.stream rfl
        rw [List.append_nil] at before
        simp [NetcatWin32.take, fill_take, before]
      have taken : (s.take .recv bytes).At .recv (.kernel (.wsaRecv build.recvLen)) :=
        held.here.congr rfl rfl (fun _ => rfl)
      apply places.step .recv _ (.port true bytes.length)
      · refine ⟨taken.completes _ true bytes.length, ⟨fits, action⟩, fun _ => whole, ⟨_, whole.symm⟩, ?_, ?_⟩
        · intro dropped
          cases dropped
        · change ((s.take .recv bytes).aiobuf .recv).length = MAX_BUFF_SIZE
          simp only [NetcatWin32.take, Function.update_self]
          rw [fill_length _ _ room, held.room]
      · intro other apart
        have taken := (apart_take s .recv bytes apart).trans (apart_operation _ .recv [] apart)
        exact taken.trans (apart_post _ _ (by simp [Packet.about, Ne.symm apart]))

theorem InPlaces.sent (places : InPlaces build s) (len : Nat)
    (held : HeldAt build s data (.kernel (.wsaSend len len))) :
    InPlaces build ((s.setOperation data []).post (.io data true len)) := by
  cases data with
  | recv => cases held.suits.1
  | send =>
      obtain ⟨_, _, _, _, _, action⟩ := held.suits
      apply places.step .send _ (.port true len)
      · refine ⟨held.here.completes _ true len, action, ?_, held.ordered, ?_, held.room⟩
        · intro whole
          have before : s.taken .send = s.given .send := by simpa [Place.bytes] using held.stream rfl
          change s.taken .send = s.given .send ++ []
          rw [List.append_nil, before]
        · intro dropped
          cases dropped
      · intro other apart
        exact (apart_operation s .send [] apart).trans (apart_post _ _ (by simp [Packet.about, Ne.symm apart]))

theorem InPlaces.complete (places : InPlaces build s) (answer : Option (List UInt8))
    (result : s.complete data answer = some next) : InPlaces build next := by
  unfold NetcatWin32.complete at result
  split at result
  · rename_i len rest bytes started
    obtain ⟨rfl, held⟩ := places.kernel _ _ started
    split at result
    · rename_i fits
      injection result with same
      exact same ▸ places.received len bytes held fits
    · cases result
  · rename_i len gone rest _ started
    obtain ⟨rfl, held⟩ := places.kernel _ _ started
    split at result
    · rename_i whole
      subst whole
      injection result with same
      exact same ▸ places.sent gone held
    · cases result
  · rename_i operation rest started
    obtain ⟨rfl, held⟩ := places.kernel _ _ started
    injection result with same
    exact same ▸ places.fails _ held
  · cases result

theorem InPlaces.transmit (places : InPlaces build s) (count : Nat)
    (result : s.transmit data count = some next) : InPlaces build next := by
  unfold NetcatWin32.transmit at result
  split at result
  · rename_i len gone rest started
    obtain ⟨rfl, held⟩ := places.kernel _ _ started
    split at result
    · rename_i within
      injection result with same
      subst same
      cases data with
      | recv => cases held.suits.1
      | send =>
          obtain ⟨_, _, same, _, room, action⟩ := held.suits
          injection same with same
          subst same
          have whole : s.taken .send = (s.given .send ++ ((s.aiobuf .send).drop gone).take count) ++
              ((s.aiobuf .send).drop (gone + count)).take (len - (gone + count)) := by
            have before := held.stream rfl
            rw [before, List.append_assoc, ← List.drop_drop, ← List.take_add]
            have left : len - gone = count + (len - (gone + count)) := by omega
            simp only [Place.bytes]
            rw [left]
          apply places.step .send _ (.kernel (.wsaSend len (gone + count)))
          · refine ⟨⟨?_, held.here.2.1, held.here.2.2⟩, ⟨len, gone + count, rfl, within, room, action⟩, ?_, ?_, ?_,
              held.room⟩
            · simp [NetcatWin32.setOperation]
            · intro _
              simpa [NetcatWin32.setOperation, NetcatWin32.give, Place.bytes] using whole
            · refine ⟨((s.aiobuf .send).drop (gone + count)).take (len - (gone + count)), ?_⟩
              simpa [NetcatWin32.setOperation, NetcatWin32.give] using whole.symm
            · intro dropped
              cases dropped
          · exact fun other apart => (apart_give s .send gone count apart).trans (apart_operation _ .send _ apart)
    · cases result
  · cases result

variable [DecidableEq Th]

theorem InPlaces.dequeue (places : InPlaces build s) (waits : s.worker th = .waiting) (index : Nat)
    (result : s.dequeue th index = some next) : InPlaces build next := by
  obtain ⟨packet, found, same⟩ := Option.map_eq_some_iff.mp result
  subst same
  have free : ∀ data, (s.worker th).holds data = none := by
    intro data
    rw [waits]
    rfl
  cases packet with
  | quit =>
      apply places.still
      intro data
      exact (apart_dequeued s index _ found rfl).trans (apart_worker _ th .leaving (by rw [free]; rfl))
  | io data ok transfer =>
      obtain ⟨place, held⟩ := places data
      obtain ⟨rfl, dropped⟩ := held.here.dequeues index ok transfer found
      have taken : ∀ other, other ≠ data → Apart other s { s with port := s.port.eraseIdx index } :=
        fun other apart => apart_dequeued s index _ found (by simp [Packet.about, Ne.symm apart])
      cases ok with
      | true =>
          apply places.step data _ (.worker th (.switch transfer))
          · refine ⟨dropped.enters th _, ?_, held.stream, held.ordered, ?_, held.room⟩
            · cases data with
              | recv => exact held.suits
              | send => exact held.suits
            · intro missing
              cases missing
          · exact fun other apart => (taken other apart).trans (apart_callback _ th _ apart (free other))
      | false =>
          have quits := apart_quit ({ s with port := s.port.eraseIdx index } : NetcatWin32 Th) th true (free data)
          apply places.step data _ .dropped
          · refine ⟨dropped.congr quits.operation quits.queued quits.holds, ?_, ?_, held.ordered, ?_, held.room⟩
            · cases data with
              | recv => trivial
              | send => trivial
            · intro whole
              cases whole
            · exact fun _ => Or.inl rfl
          · exact fun other apart => (taken other apart).trans (apart_quit _ th true (free other))

end System

end Libtx
