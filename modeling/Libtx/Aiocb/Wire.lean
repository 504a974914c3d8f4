import Libtx.Aiocb.Lifetime
import Libtx.Aiocb.Outgoing
import Libtx.Runs.Simulation

namespace Libtx

open Count

variable {L T W P F O : Type} [DecidableEq F] [DecidableEq O]

section Forgetting

variable {s : Outgoing L T W P F O}

def Outgoing.forget (result : Int × Outgoing L T W P F O) : Int × PortPoller L T W P F O :=
  (result.1, result.2.poller)

variable [DecidableEq L] [DecidableEq T] [DecidableEq W]

theorem wsaSend_port (answer : Start) (memory : Option (List UInt8)) (buf : List UInt8)
    (s : Outgoing L T W P F O) (filp : F) (olaped : O × TxOverlapped F) :
    (s.wsaSend answer memory buf filp olaped).map Outgoing.forget =
      if answer = .failed then some (-1, portServe .output s.poller filp)
      else (portStart .output s.poller filp olaped.1 olaped.2).map fun next => ((buf.length : Int), next) := by
  unfold Outgoing.wsaSend
  split
  · rfl
  · rw [Option.map_map]
    rfl

theorem sendout_port (answer : Start) (sent : Int) (memlock : Bool) (buf : List UInt8)
    (s : Outgoing L T W P F O) (filp : F) :
    (outgoingSendout answer sent memlock buf s filp).map Outgoing.forget =
      txCompletionPortSendout answer sent memlock buf.length s.poller filp := by
  unfold outgoingSendout txCompletionPortSendout
  split
  · split
    · split
      · split
        · rfl
        · rfl
      · cases found : s.poller.olaped filp with
        | none => rfl
        | some olaped =>
            rw [Option.bind_some, Option.bind_some]
            cases memlock with
            | true => exact wsaSend_port answer (some buf) buf s filp olaped
            | false =>
                simp only [Bool.false_eq_true, if_false, false_or]
                split
                · exact wsaSend_port answer none buf (s.copy olaped.1 buf) filp olaped
                · rfl
    · rfl
  · rfl

end Forgetting

section Memory

variable {s : Outgoing L T W P F O}

omit [DecidableEq F] [DecidableEq O] in
theorem rest_empty (address : O) (empty : s.wsaBuf address = WsaBuf.empty) : s.rest address = [] := by
  simp [Outgoing.rest, Outgoing.buffer, empty, WsaBuf.empty]

omit [DecidableEq F] [DecidableEq O] in
theorem rest_same (next : Outgoing L T W P F O) (address : O) (wbuf : next.wsaBuf address = s.wsaBuf address)
    (cache : next.txCache address = s.txCache address) : next.rest address = s.rest address := by
  rw [Outgoing.rest, Outgoing.rest, Outgoing.buffer, Outgoing.buffer, wbuf, cache]

/-- The operations of a port are those that its flags stand for; where bytes have not gone they are
in a buffer of an operation in flight, and no byte is out of order. -/
structure Streams (s : Outgoing L T W P F O) : Prop where
  flight : Flight s.poller
  idle : ∀ address, (address, Side.output) ∉ s.poller.backend.inflight → s.wsaBuf address = WsaBuf.empty
  whole : ∀ address, s.broken address = false → s.accepted address = s.wire address ++ s.rest address
  room : ∀ address, (s.txCache address).length = 8192
  listens : ∀ address, s.listening address = true → s.wsaBuf address = WsaBuf.empty

theorem Streams.port (streams : Streams s) (poller : PortPoller L T W P F O) (flight : Flight poller)
    (more : ∀ operation ∈ s.poller.backend.inflight, operation ∈ poller.backend.inflight) :
    Streams (s.setPoller poller) where
  flight := flight
  idle := fun address absent => streams.idle address (fun flies => absent (more _ flies))
  whole := streams.whole
  room := streams.room
  listens := streams.listens

theorem Streams.copy (streams : Streams s) (address : O) (buf : List UInt8)
    (empty : s.wsaBuf address = WsaBuf.empty) (fits : buf.length ≤ 8192) : Streams (s.copy address buf) where
  flight := streams.flight
  idle := streams.idle
  whole := by
    intro other fine
    by_cases same : other = address
    · subst same
      have before := streams.whole other fine
      rw [rest_empty other empty] at before
      rw [rest_empty other (s := s.copy other buf) empty]
      exact before
    · rw [rest_same (s := s) (s.copy address buf) other rfl (Function.update_of_ne same _ _)]
      exact streams.whole other fine
  room := by
    intro other
    by_cases same : other = address
    · subst same
      have room := streams.room other
      simp only [Outgoing.copy, Function.update_self, List.length_append, List.length_drop, room]
      omega
    · simpa [Outgoing.copy, same] using streams.room other
  listens := streams.listens

end Memory

section Sending

variable {s : Outgoing L T W P F O}

/-- What a call of `tx_outcb_write` or `sendout` takes of its bytes. -/
structure Took (s : Outgoing L T W P F O) (filp : F) (buf : List UInt8) (result : Int × Outgoing L T W P F O) :
    Prop where
  broken : result.2.broken = s.broken
  answer : (result.1 = -1 ∧ result.2.accepted = s.accepted) ∨
    ∃ address, s.poller.backend.txPrivp filp = some address ∧ 0 < result.1 ∧ result.1 ≤ buf.length ∧
      result.2.accepted =
        Function.update s.accepted address (s.accepted address ++ buf.take result.1.toNat)

theorem Streams.emit (streams : Streams s) (address : O) (bytes : List UInt8)
    (empty : s.wsaBuf address = WsaBuf.empty) : Streams ((s.accept address bytes).emit address bytes) where
  flight := streams.flight
  idle := streams.idle
  whole := by
    intro other fine
    have before := streams.whole other fine
    by_cases same : other = address
    · subst same
      have nothing : ((s.accept other bytes).emit other bytes).rest other = [] := rest_empty other empty
      rw [rest_empty other empty, List.append_nil] at before
      rw [nothing, List.append_nil]
      simp [Outgoing.accept, Outgoing.emit, before]
    · have rest : ((s.accept address bytes).emit address bytes).rest other = s.rest other :=
        rest_same _ other rfl rfl
      rw [rest]
      simpa [Outgoing.accept, Outgoing.emit, same] using before
  room := streams.room
  listens := streams.listens

variable [DecidableEq L] [DecidableEq T] [DecidableEq W]

theorem Streams.wsaSend (streams : Streams s) (answer : Start) (memory : Option (List UInt8))
    (buf : List UInt8) (filp : F) (olaped : O × TxOverlapped F) (result : Int × Outgoing L T W P F O)
    (live : (s.poller.filp filp).live = true) (off : (s.poller.filp filp).txFlags.poll .output = false)
    (found : s.poller.olaped filp = some olaped) (full : 0 < buf.length)
    (holds : (memory.getD (s.txCache olaped.1)).take buf.length = buf)
    (quiet : s.listening olaped.1 = true → answer = .failed)
    (called : s.wsaSend answer memory buf filp olaped = some result) :
    Streams result.2 ∧ Took s filp buf result := by
  obtain ⟨held, _⟩ := (olaped_iff s.poller filp olaped.1 olaped.2).mp found
  have landed : (olaped.1, Side.output) ∉ s.poller.backend.inflight :=
    (streams.flight.fits filp olaped.1 held).idle .output off
  have empty := streams.idle olaped.1 landed
  unfold Outgoing.wsaSend at called
  split at called
  · injection called with same
    subst same
    have served := streams.flight.served .output filp off
    exact ⟨streams.port _ served (fun _ flies => flies), rfl, Or.inl ⟨rfl, rfl⟩⟩
  · rename_i starts
    obtain ⟨next, started, same⟩ := Option.map_eq_some_iff.mp called
    subst same
    obtain ⟨_, _, _, _, inflight, _⟩ := start_spec .output s.poller next filp olaped.1 olaped.2 started
    have kept : Flight next := streams.flight.starts .output filp next
      (.started olaped.1 olaped.2 olaped.2 next live off found rfl rfl started)
    refine ⟨⟨kept, ?_, ?_, streams.room, ?_⟩, rfl, Or.inr ⟨olaped.1, held, ?_, ?_, ?_⟩⟩
    · intro other absent
      change (other, Side.output) ∉ next.backend.inflight at absent
      rw [inflight, List.mem_cons, not_or] at absent
      have apart : other ≠ olaped.1 := fun same => absent.1 (same ▸ rfl)
      have before := streams.idle other absent.2
      simpa [Outgoing.setBuf, Outgoing.accept, Outgoing.setPoller, apart] using before
    · intro other fine
      have before := streams.whole other fine
      by_cases same : other = olaped.1
      · subst same
        rw [rest_empty olaped.1 empty, List.append_nil] at before
        have rest : (((s.setPoller next).setBuf olaped.1 ⟨memory, buf.length, 0⟩).accept olaped.1 buf).rest
            olaped.1 = buf := by
          simpa [Outgoing.rest, Outgoing.buffer, Outgoing.setBuf, Outgoing.accept, Outgoing.setPoller] using holds
        rw [rest]
        simp [Outgoing.accept, Outgoing.setBuf, Outgoing.setPoller, before]
      · have rest : (((s.setPoller next).setBuf olaped.1 ⟨memory, buf.length, 0⟩).accept olaped.1 buf).rest
            other = s.rest other := rest_same _ other (Function.update_of_ne same _ _) rfl
        rw [rest]
        simpa [Outgoing.accept, Outgoing.setBuf, Outgoing.setPoller, same] using before
    · intro other listening
      have apart : other ≠ olaped.1 := by
        rintro rfl
        exact starts (quiet listening)
      have before := streams.listens other listening
      simpa [Outgoing.setBuf, Outgoing.accept, Outgoing.setPoller, apart] using before
    · exact Int.natCast_pos.mpr full
    · exact le_refl _
    · change Function.update s.accepted olaped.1 (s.accepted olaped.1 ++ buf) = _
      rw [Int.toNat_natCast, List.take_length]

theorem Streams.sendout (streams : Streams s) (answer : Start) (sent : Int) (memlock : Bool)
    (buf : List UInt8) (filp : F) (result : Int × Outgoing L T W P F O)
    (sendable : s.Sendable filp answer sent buf.length)
    (called : outgoingSendout answer sent memlock buf s filp = some result) :
    Streams result.2 ∧ Took s filp buf result := by
  have same (again : some ((-1 : Int), s) = some result) : Streams result.2 ∧ Took s filp buf result := by
    injection again with same
    subst same
    exact ⟨streams, rfl, Or.inl ⟨rfl, rfl⟩⟩
  unfold outgoingSendout at called
  split at called
  · rename_i off
    split at called
    · rename_i ready
      obtain ⟨live, full⟩ := ready
      split at called
      · rename_i some_sent
        obtain ⟨address, held⟩ := (streams.flight.attached filp).mp live
        rw [held] at called
        injection called with same
        subst same
        have empty := streams.idle address ((streams.flight.fits filp address held).idle .output off)
        exact ⟨streams.emit address _ empty, rfl, Or.inr ⟨address, held, some_sent, sendable.1, rfl⟩⟩
      · obtain ⟨olaped, found, rest⟩ := Option.bind_eq_some_iff.mp called
        obtain ⟨held, _⟩ := (olaped_iff s.poller filp olaped.1 olaped.2).mp found
        have quiet (listening : s.listening olaped.1 = true) : answer = .failed :=
          (sendable.2 olaped.1 held listening).1
        have empty := streams.idle olaped.1 ((streams.flight.fits filp olaped.1 held).idle .output off)
        split at rest
        · exact streams.wsaSend answer (some buf) buf filp olaped result live off found full
            (by simp) quiet rest
        · split at rest
          · rename_i fits
            have copied := streams.copy olaped.1 buf empty fits
            have holds : (((none : Option (List UInt8)).getD ((s.copy olaped.1 buf).txCache olaped.1)).take
                buf.length) = buf := by
              simp [Outgoing.copy]
            obtain ⟨kept, took⟩ := copied.wsaSend answer none buf filp olaped result live off found full holds
              quiet rest
            exact ⟨kept, took.broken, took.answer⟩
          · exact same rest
    · cases called
  · exact same called

theorem Streams.write (streams : Streams s) (answer : Start) (sent : Int) (memlock : Bool) (buf : List UInt8)
    (filp : F) (result : Int × Outgoing L T W P F O)
    (sendable : s.Sendable filp answer sent (min buf.length 8192))
    (called : outgoingWrite answer sent memlock buf s filp = some result) :
    Streams result.2 ∧ Took s filp (buf.take 8192) result := by
  have front : buf.take (if buf.length < 8192 then buf.length else 8192) = buf.take 8192 := by
    split
    · rename_i short
      rw [List.take_length, List.take_of_length_le (Nat.le_of_lt short)]
    · rfl
  have length : (buf.take 8192).length = min buf.length 8192 := by
    rw [List.length_take, Nat.min_comm]
  unfold outgoingWrite at called
  rw [front] at called
  exact streams.sendout answer sent memlock _ filp result (length ▸ sendable) called

end Sending

section Port

variable {s : PortPoller L T W P F O} [DecidableEq L] [DecidableEq T] [DecidableEq W]

theorem starts_flying (side : Side) (filp : F) (next : PortPoller L T W P F O)
    (called : next = s ∨ Starts side s filp next) (operation : O × Side)
    (flies : operation ∈ s.backend.inflight) : operation ∈ next.backend.inflight := by
  rcases called with same | starts
  · exact same ▸ flies
  · cases starts with
    | failed live off => exact flies
    | started address olaped newer _ live off found count owner result =>
        rw [(start_spec side s next filp address newer result).2.2.2.2.1]
        exact List.mem_cons_of_mem _ flies

theorem active_flying (side : Side) (filp : F) (task : Option T) (answer : PortAnswer O)
    (next : PortPoller L T W P F O) (result : genericActive (portOps answer) side s filp task = some next)
    (operation : O × Side) (flies : operation ∈ s.backend.inflight) : operation ∈ next.backend.inflight := by
  unfold genericActive at result
  dsimp only at result
  split at result
  · injection result with same
    exact same ▸ flies
  · split at result
    · injection result with same
      exact same ▸ flies
    · cases side with
      | input =>
          have starts := pollin_starts answer.start answer.newfd _ next filp result
          exact starts_flying .input filp next (starts.imp_left And.right) operation flies
      | output => exact (pollout_spec _ next filp result).2 ▸ flies

theorem init_flying (filp : F) (fd : Int) (answer : PortAnswer O) (next : PortPoller L T W P F O)
    (result : txAiocbInit (portOps answer) (s.setPrivp filp none) filp fd = some next) :
    next.backend.inflight = s.backend.inflight := by
  unfold txAiocbInit at result
  split at result
  · injection result with same
    exact same ▸ rfl
  · injection result with same
    subst same
    exact (attach_spec _ filp answer.fresh (by simp [Poller.setFilp, TxAiocb.fresh])).2.2.1

theorem act_flying (action : PortAction L T W P F O) (next : PortPoller L T W P F O) (flight : Flight s)
    (single : ∀ tells, action ≠ .polling tells) (result : portAct s action = some next)
    (operation : O × Side) (flies : operation ∈ s.backend.inflight) : operation ∈ next.backend.inflight := by
  unfold portAct at result
  cases action with
  | init filp fd answer => exact (init_flying filp fd answer next result) ▸ flies
  | listen filp fd answer =>
      obtain ⟨mid, called, same⟩ := Option.map_eq_some_iff.mp result
      subst same
      exact (init_flying filp fd answer mid called) ▸ flies
  | fini filp answer =>
      change txAiocbFini (portOps answer) s filp = some next at result
      unfold txAiocbFini at result
      split at result
      · injection result with same
        exact same ▸ flies
      · change txCompletionPortDetach s filp = some next at result
        cases live : (s.filp filp).live with
        | true =>
            obtain ⟨address, olaped, found, _⟩ := flight.olaped filp live
            obtain ⟨after, called, _, _, _, _, inflight, _⟩ := detach_spec s filp address olaped found live
            rw [called] at result
            injection result with same
            rw [← same, inflight]
            exact flies
        | false =>
            rw [txCompletionPortDetach, live, if_neg Bool.false_ne_true] at result
            injection result with same
            exact same ▸ flies
  | sendout filp answer sent memlock len =>
      obtain ⟨pair, called, same⟩ := Option.map_eq_some_iff.mp result
      subst same
      exact starts_flying .output filp _ (sendout_starts answer sent memlock len s filp pair called) operation flies
  | write filp answer sent memlock len =>
      obtain ⟨pair, called, same⟩ := Option.map_eq_some_iff.mp result
      subst same
      exact starts_flying .output filp _ (sendout_starts answer sent memlock _ s filp pair called) operation flies
  | connect filp answer =>
      obtain ⟨pair, called, same⟩ := Option.map_eq_some_iff.mp result
      subst same
      exact starts_flying .output filp _ (connect_starts answer s filp pair called) operation flies
  | aioConnect filp task answer =>
      obtain ⟨pair, called, same⟩ := Option.map_eq_some_iff.mp result
      subst same
      obtain ⟨mid, connected, active⟩ := Option.bind_eq_some_iff.mp called
      obtain ⟨after, activated, same⟩ := Option.map_eq_some_iff.mp active
      subst same
      apply active_flying .output filp task answer after activated
      exact starts_flying .output filp _ (connect_starts answer.start s filp mid connected) operation flies
  | poll side filp answer =>
      cases side with
      | input =>
          have starts := pollin_starts answer.start answer.newfd s next filp result
          exact starts_flying .input filp next (starts.imp_left And.right) operation flies
      | output => exact (pollout_spec s next filp result).2 ▸ flies
  | active side filp task answer =>
      have called : genericActive (portOps answer) side s filp task = some next := by cases side <;> exact result
      exact active_flying side filp task answer next called operation flies
  | cancel side filp verify =>
      have same : genericCancel side s filp verify = next := by
        cases side <;> exact Option.some.inj result
      subst same
      unfold genericCancel
      split
      · exact flies
      · exact flies
  | update filp len errno =>
      injection result with same
      subst same
      unfold txAincbUpdate txUpdate
      split
      · exact flies
      · split
        · exact flies
        · exact flies
  | accept filp =>
      obtain ⟨pair, called, same⟩ := Option.map_eq_some_iff.mp result
      subst same
      unfold txCompletionPortAccept at called
      dsimp only at called
      split at called
      · obtain ⟨olaped, _, same⟩ := Option.map_eq_some_iff.mp called
        exact same ▸ flies
      · injection called with same
        exact same ▸ flies
  | polling tells => exact absurd rfl (single tells)
  | loop world =>
      injection result with same
      exact same ▸ flies

theorem batch_flying (tells : List (O × Side)) (next : PortPoller L T W P F O) (flight : Flight s)
    (once : tells.Nodup) (result : tells.foldlM portTell s = some next) (operation : O × Side) :
    operation ∈ next.backend.inflight ↔ operation ∈ s.backend.inflight ∧ operation ∉ tells := by
  induction tells generalizing s with
  | nil =>
      injection result with same
      subst same
      simp
  | cons told rest ih =>
      rw [List.foldlM_cons] at result
      obtain ⟨mid, first, later⟩ := Option.bind_eq_some_iff.mp result
      obtain ⟨_, moved, inflight, _⟩ := flight.tell told mid first
      rw [ih moved (List.nodup_cons.mp once).2 later, inflight, List.mem_cons, not_or]
      by_cases same : operation = told
      · subst same
        have gone : operation ∉ s.backend.inflight.erase operation := flight.sound.once.not_mem_erase
        simp [gone]
      · rw [List.mem_erase_of_ne same]
        simp [same]

end Port

section Steps

variable {s next : Outgoing L T W P F O}

omit [DecidableEq F] in
theorem told_none (s : Outgoing L T W P F O) : s.told [] = s := by
  simp [Outgoing.told]

theorem Streams.born (streams : Streams s) (address : O) (listening : Bool)
    (unused : (address, Side.output) ∉ s.poller.backend.inflight) : Streams (s.born address listening) where
  flight := streams.flight
  idle := by
    intro other absent
    by_cases same : other = address
    · simp [Outgoing.born, same]
    · simpa [Outgoing.born, same] using streams.idle other absent
  whole := by
    intro other fine
    by_cases same : other = address
    · subst same
      have empty : (s.born other listening).rest other = [] := rest_empty other (by simp [Outgoing.born])
      rw [empty]
      simp [Outgoing.born]
    · have rest : (s.born address listening).rest other = s.rest other :=
        rest_same _ other (Function.update_of_ne same _ _) (Function.update_of_ne same _ _)
      rw [rest]
      have kept : s.broken other = false := by simpa [Outgoing.born, same] using fine
      simpa [Outgoing.born, same] using streams.whole other kept
  room := by
    intro other
    by_cases same : other = address
    · subst same
      simp only [Outgoing.born, Function.update_self]
      exact List.length_replicate
    · simpa [Outgoing.born, same] using streams.room other
  listens := by
    intro other listens
    by_cases same : other = address
    · simp [Outgoing.born, same]
    · have before : s.listening other = true := by simpa [Outgoing.born, same] using listens
      simpa [Outgoing.born, same] using streams.listens other before

omit [DecidableEq F] [DecidableEq O] in
theorem births_fresh (s : PortPoller L T W P F O) (action : PortAction L T W P F O) (proper : PortProper s action)
    (address : O) (listening : Bool) (born : action.births = some (address, listening)) :
    s.backend.lapped address = none := by
  have given (fd : Int) (answer : PortAnswer O) (value : Bool) (free : s.backend.lapped answer.fresh = none)
      (born : (if fd = -1 then none else some (answer.fresh, value)) = some (address, listening)) :
      s.backend.lapped address = none := by
    split at born
    · cases born
    · injection born with same
      injection same with place
      exact place ▸ free
  cases action with
  | init filp fd answer => exact given fd answer false proper.2 born
  | listen filp fd answer => exact given fd answer true proper.2 born
  | _ => cases born

theorem Streams.bears (streams : Streams s) (action : PortAction L T W P F O)
    (proper : PortProper s.poller action) : Streams (s.bears action) := by
  unfold Outgoing.bears
  split
  · exact streams
  · rename_i address listening born
    have free := births_fresh s.poller action proper address listening born
    exact streams.born address listening
      (streams.flight.sound.free address .output (by simp [Poller.lease, free]))

omit [DecidableEq F] in
theorem bears_poller (s : Outgoing L T W P F O) (action : PortAction L T W P F O) :
    (s.bears action).poller = s.poller := by
  unfold Outgoing.bears
  split
  · rfl
  · rfl

theorem Streams.tells (streams : Streams s) (tells : List (O × Side)) (poller : PortPoller L T W P F O)
    (flight : Flight poller) (left : ∀ operation, operation ∈ poller.backend.inflight ↔
      operation ∈ s.poller.backend.inflight ∧ operation ∉ tells) :
    Streams ((s.told tells).setPoller poller) where
  flight := flight
  idle := by
    intro address absent
    change (address, Side.output) ∉ poller.backend.inflight at absent
    rw [left, not_and_not_right] at absent
    by_cases told : (address, Side.output) ∈ tells
    · simp [Outgoing.setPoller, Outgoing.told, told]
    · have landed : (address, Side.output) ∉ s.poller.backend.inflight := fun flies => told (absent flies)
      simpa [Outgoing.setPoller, Outgoing.told, told] using streams.idle address landed
  whole := by
    intro address fine
    obtain ⟨kept, lost⟩ := Bool.or_eq_false_iff.mp fine
    have before := streams.whole address kept
    by_cases told : (address, Side.output) ∈ tells
    · have gone : s.rest address = [] := by simpa [told] using lost
      have empty : ((s.told tells).setPoller poller).rest address = [] :=
        rest_empty address (by simp [Outgoing.setPoller, Outgoing.told, told])
      rw [gone] at before
      rw [empty]
      exact before
    · have rest : ((s.told tells).setPoller poller).rest address = s.rest address :=
        rest_same _ address (by simp [Outgoing.setPoller, Outgoing.told, told]) rfl
      rw [rest]
      exact before
  room := streams.room
  listens := by
    intro address listening
    by_cases told : (address, Side.output) ∈ tells
    · simp [Outgoing.setPoller, Outgoing.told, told]
    · simpa [Outgoing.setPoller, Outgoing.told, told] using streams.listens address listening

variable [DecidableEq L] [DecidableEq T] [DecidableEq W]

theorem Streams.transfer (streams : Streams s) (address : O) (count : Nat)
    (result : outgoingAct s (.transfer address count) = some next) : Streams next := by
  simp only [outgoingAct] at result
  split at result
  · rename_i flies
    injection result with same
    subst same
    refine ⟨streams.flight, ?_, ?_, streams.room, ?_⟩
    · intro other absent
      have apart : other ≠ address := by
        rintro rfl
        exact absent flies.1
      simpa [Outgoing.setBuf, Outgoing.emit, apart] using streams.idle other absent
    · intro other fine
      have before := streams.whole other fine
      by_cases same : other = address
      · subst same
        calc s.accepted other
            = s.wire other ++ ((s.rest other).take count ++ (s.rest other).drop count) := by
              rw [List.take_append_drop]
              exact before
          _ = _ := by
              simp [Outgoing.setBuf, Outgoing.emit, Outgoing.rest, Outgoing.buffer, List.drop_drop]
      · have rest : ((s.emit address ((s.rest address).take count)).setBuf address
            { s.wsaBuf address with transfered := (s.wsaBuf address).transfered + count }).rest other =
              s.rest other := rest_same _ other (Function.update_of_ne same _ _) rfl
        rw [rest]
        simpa [Outgoing.setBuf, Outgoing.emit, same] using before
    · intro other listening
      have empty := streams.listens other listening
      by_cases same : other = address
      · subst same
        have none_left : count = 0 := by simpa [rest_empty other empty] using flies.2
        simpa [Outgoing.setBuf, Outgoing.emit, none_left] using empty
      · simpa [Outgoing.setBuf, Outgoing.emit, same] using empty
  · cases result

theorem outgoing_port (s next : Outgoing L T W P F O) (action : PortAction L T W P F O)
    (result : outgoingAct s (.port action) = some next) : ∃ poller, portAct s.poller action = some poller ∧
      next = ((s.bears action).told action.tells).setPoller poller := by
  have given (acts : outgoingAct s (.port action) = (portAct s.poller action).map fun poller =>
      ((s.bears action).told action.tells).setPoller poller) : ∃ poller, portAct s.poller action = some poller ∧
        next = ((s.bears action).told action.tells).setPoller poller := by
    rw [acts] at result
    obtain ⟨poller, acted, same⟩ := Option.map_eq_some_iff.mp result
    exact ⟨poller, acted, same.symm⟩
  cases action with
  | sendout filp answer sent memlock len => cases result
  | write filp answer sent memlock len => cases result
  | _ => exact given rfl

/-- What each action keeps -/
theorem Streams.act (streams : Streams s) (action : OutgoingAction L T W P F O) (proper : s.Proper action)
    (result : outgoingAct s action = some next) : Streams next := by
  cases action with
  | port action =>
      obtain ⟨poller, acted, same⟩ := outgoing_port s next action result
      subst same
      by_cases batch : ∃ tells, action = .polling tells
      · obtain ⟨tells, rfl⟩ := batch
        obtain ⟨mid, _, told, kept, _⟩ := streams.flight.batch tells proper.1 proper.2
        rw [portAct, txCompletionPortPolling, told] at acted
        injection acted with same
        subst same
        exact streams.tells tells _ (kept.same _ rfl rfl)
          (batch_flying tells mid streams.flight proper.1 told)
      · have single : ∀ tells, action ≠ .polling tells := fun tells same => batch ⟨tells, same⟩
        have nothing : action.tells = [] := by
          cases action with
          | polling tells => exact absurd rfl (single tells)
          | _ => rfl
        rw [nothing, told_none]
        obtain ⟨flight, _⟩ := port_act_spec s.poller poller action streams.flight proper acted single
        apply (streams.bears action proper).port poller flight
        rw [bears_poller]
        exact act_flying action poller streams.flight single acted
  | sendout filp answer sent memlock buf =>
      obtain ⟨pair, called, same⟩ := Option.map_eq_some_iff.mp result
      exact same ▸ (streams.sendout answer sent memlock buf filp pair proper called).1
  | write filp answer sent memlock buf =>
      obtain ⟨pair, called, same⟩ := Option.map_eq_some_iff.mp result
      exact same ▸ (streams.write answer sent memlock buf filp pair proper called).1
  | transfer address count => exact streams.transfer address count result
  | addresses address bytes =>
      simp only [outgoingAct] at result
      split at result
      · rename_i listening
        injection result with same
        subst same
        apply streams.copy address bytes (streams.listens address listening.1)
        omega
      · cases result

end Steps

structure OutgoingFresh (s : Outgoing L T W P F O) : Prop where
  poller : PortFresh s.poller
  wsaBuf : ∀ address, s.wsaBuf address = WsaBuf.empty
  accepted : ∀ address, s.accepted address = []
  wire : ∀ address, s.wire address = []
  room : ∀ address, (s.txCache address).length = 8192

theorem streams_fresh (start : Outgoing L T W P F O) (fresh : OutgoingFresh start) : Streams start where
  flight := flight_fresh start.poller fresh.poller
  idle := fun address _ => fresh.wsaBuf address
  whole := by
    intro address _
    rw [fresh.accepted, fresh.wire, rest_empty address (fresh.wsaBuf address)]
    rfl
  room := fresh.room
  listens := fun address _ => fresh.wsaBuf address

section Runs

variable {s : Outgoing L T W P F O}

theorem Streams.writable (streams : Streams s) (filp : F) (address : O)
    (held : s.poller.backend.txPrivp filp = some address)
    (able : (s.poller.filp filp).txFlags.able .output = true) (fine : s.broken address = false) :
    s.wire address = s.accepted address := by
  have fits := streams.flight.fits filp address held
  have off : (s.poller.filp filp).txFlags.poll .output = false := by
    have ready := fits.ready
    rw [able] at ready
    simpa using ready.symm
  have whole := streams.whole address fine
  rw [rest_empty address (streams.idle address (fits.idle .output off)), List.append_nil] at whole
  exact whole.symm

variable [DecidableEq L] [DecidableEq T] [DecidableEq W]

theorem outgoing_acts (s next : Outgoing L T W P F O) (action : OutgoingAction L T W P F O)
    (proper : s.Proper action) (result : outgoingAct s action = some next) :
    next.poller = s.poller ∨
      ∃ shown, PortProper s.poller shown ∧ portAct s.poller shown = some next.poller := by
  have sends (answer : Start) (sent : Int) (memlock : Bool) (buf : List UInt8) (filp : F)
      (pair : Int × Outgoing L T W P F O) (called : outgoingSendout answer sent memlock buf s filp = some pair) :
      portAct s.poller (.sendout filp answer sent memlock buf.length) = some pair.2.poller := by
    rw [portAct, ← sendout_port, called]
    rfl
  cases action with
  | port action =>
      obtain ⟨poller, acted, same⟩ := outgoing_port s next action result
      exact Or.inr ⟨action, proper, same ▸ acted⟩
  | sendout filp answer sent memlock buf =>
      obtain ⟨pair, called, same⟩ := Option.map_eq_some_iff.mp result
      exact Or.inr ⟨.sendout filp answer sent memlock buf.length, trivial,
        same ▸ sends answer sent memlock buf filp pair called⟩
  | write filp answer sent memlock buf =>
      obtain ⟨pair, called, same⟩ := Option.map_eq_some_iff.mp result
      exact Or.inr ⟨.sendout filp answer sent memlock _, trivial,
        same ▸ sends answer sent memlock _ filp pair called⟩
  | transfer address count =>
      simp only [outgoingAct] at result
      split at result
      · injection result with same
        exact Or.inl (same ▸ rfl)
      · cases result
  | addresses address bytes =>
      simp only [outgoingAct] at result
      split at result
      · injection result with same
        exact Or.inl (same ▸ rfl)
      · cases result

theorem broken_act (s next : Outgoing L T W P F O) (streams : Streams s) (action : OutgoingAction L T W P F O)
    (proper : s.Proper action) (result : outgoingAct s action = some next) (address : O)
    (broken : next.broken address = true) :
    s.broken address = true ∨ ∃ tells, action = .port (.polling tells) ∧ (address, Side.output) ∈ tells ∧
      s.rest address ≠ [] := by
  cases action with
  | port action =>
      obtain ⟨poller, _, same⟩ := outgoing_port s next action result
      have bears (bears : (s.bears action).broken address = true) : s.broken address = true := by
        unfold Outgoing.bears at bears
        split at bears
        · exact bears
        · rename_i place listening _
          by_cases here : address = place
          · simp [Outgoing.born, here] at bears
          · simpa [Outgoing.born, here] using bears
      rw [same] at broken
      rcases Bool.or_eq_true_iff.mp broken with before | lost
      · exact Or.inl (bears before)
      · cases action with
        | polling tells =>
            obtain ⟨told, left⟩ := Bool.and_eq_true_iff.mp lost
            exact Or.inr ⟨tells, rfl, of_decide_eq_true told, of_decide_eq_true left⟩
        | _ => exact absurd lost (by simp [PortAction.tells])
  | sendout filp answer sent memlock buf =>
      obtain ⟨pair, called, same⟩ := Option.map_eq_some_iff.mp result
      rw [← same, (streams.sendout answer sent memlock buf filp pair proper called).2.broken] at broken
      exact Or.inl broken
  | write filp answer sent memlock buf =>
      obtain ⟨pair, called, same⟩ := Option.map_eq_some_iff.mp result
      rw [← same, (streams.write answer sent memlock buf filp pair proper called).2.broken] at broken
      exact Or.inl broken
  | transfer address count =>
      simp only [outgoingAct] at result
      split at result
      · injection result with same
        subst same
        exact Or.inl broken
      · cases result
  | addresses address bytes =>
      simp only [outgoingAct] at result
      split at result
      · injection result with same
        subst same
        exact Or.inl broken
      · cases result

/-- The bytes of each object of a port, in any state of a run. -/
structure Outgoing.Sends (s : Outgoing L T W P F O) : Prop where
  lifetime : Lifetime s.poller
  whole : ∀ address, s.broken address = false → s.accepted address = s.wire address ++ s.rest address
  alive : ∀ address, s.rest address ≠ [] → (address, Side.output) ∈ s.poller.backend.inflight ∧
    (s.poller.backend.lapped address).isSome = true
  writable : ∀ filp address, (s.poller.filp filp).live = true → s.poller.backend.txPrivp filp = some address →
    (s.poller.filp filp).txFlags.able .output = true → s.broken address = false →
      s.wire address = s.accepted address
  takes : ∀ filp answer sent memlock buf result, s.Sendable filp answer sent (min buf.length 8192) →
    outgoingWrite answer sent memlock buf s filp = some result → Took s filp (buf.take 8192) result
  breaks : ∀ action next, s.Proper action → outgoingAct s action = some next → ∀ address,
    next.broken address = true → s.broken address = true ∨
      ∃ tells, action = .port (.polling tells) ∧ (address, Side.output) ∈ tells ∧ s.rest address ≠ []

theorem Streams.alive (streams : Streams s) (address : O) (left : s.rest address ≠ []) :
    (address, Side.output) ∈ s.poller.backend.inflight ∧ (s.poller.backend.lapped address).isSome = true := by
  have flies : (address, Side.output) ∈ s.poller.backend.inflight := by
    by_contra landed
    exact left (rest_empty address (streams.idle address landed))
  exact ⟨flies, (streams.flight.allocated address).mpr (Or.inr ⟨.output, flies⟩)⟩

/-- In every run of a completion port what leaves a socket is what `tx_outcb_write` took for it, in
order and unaltered, whatever other objects do and whenever the object is finished. -/
theorem port_sends (start s : Outgoing L T W P F O) (fresh : OutgoingFresh start)
    (actions : List (OutgoingAction L T W P F O))
    (allowed : Runs.Allowed outgoingAct Outgoing.Proper start actions)
    (reached : Runs.run outgoingAct start actions = some s) : s.Sends := by
  have streams : Streams s :=
    Runs.keeps_run Outgoing.Proper Streams
      (fun _ action _ proper streams result => streams.act action proper result) start s actions allowed
      (streams_fresh start fresh) reached
  obtain ⟨shown, fine, same⟩ := Runs.viewed_run Outgoing.poller Outgoing.Proper PortProper Streams
    (fun s action next proper streams result =>
      ⟨streams.act action proper result, outgoing_acts s next action proper result⟩)
    start s actions allowed (streams_fresh start fresh) reached
  obtain ⟨flight, watched⟩ := flight_run start.poller s.poller fresh.poller shown fine same
  constructor
  · exact flight.lifetime watched
  · exact streams.whole
  · exact streams.alive
  · exact fun filp address _ held able fine => streams.writable filp address held able fine
  · exact fun filp answer sent memlock buf result sendable called =>
      (streams.write answer sent memlock buf filp result sendable called).2
  · exact fun action next proper result => broken_act s next streams action proper result

end Runs

def loneOutgoing : Outgoing Unit Bool Unit Unit Unit Nat where
  poller := lonePort
  txCache := fun _ => zeroCache
  wsaBuf := fun _ => WsaBuf.empty
  accepted := fun _ => []
  wire := fun _ => []
  listening := fun _ => false
  broken := fun _ => false

theorem outgoing_fresh : OutgoingFresh loneOutgoing :=
  ⟨fresh_port, fun _ => rfl, fun _ => rfl, fun _ => rfl, fun _ => List.length_replicate⟩

def outgoingActions : List (OutgoingAction Unit Bool Unit Unit Unit Nat) :=
  [.port (.init () 3 ⟨.pending, -1, 0⟩), .write () .pending (-1) false [7, 8, 9], .transfer 0 2,
    .port (.fini () ⟨.pending, -1, 0⟩)]

def outgoingAfter : Outgoing Unit Bool Unit Unit Unit Nat :=
  (Runs.run outgoingAct loneOutgoing outgoingActions).getD loneOutgoing

theorem outgoing_allowed : Runs.Allowed outgoingAct Outgoing.Proper loneOutgoing outgoingActions := by
  apply Runs.allowed_cons _ _ _ _ _ ⟨rfl, rfl⟩ rfl
  apply Runs.allowed_cons _ _ _ _ _ ?_ rfl
  · apply Runs.allowed_cons _ _ _ _ _ trivial rfl
    exact Runs.allowed_cons _ _ _ _ _ trivial rfl trivial
  · refine ⟨by decide, ?_⟩
    intro address held listening
    cases held
    cases listening

theorem port_sends_lone :
    outgoingAfter.Sends ∧ outgoingAfter.wire 0 = [7, 8] ∧ outgoingAfter.rest 0 = [9] ∧
      (outgoingAfter.poller.backend.lapped 0).isSome = true :=
  ⟨port_sends loneOutgoing outgoingAfter outgoing_fresh outgoingActions outgoing_allowed rfl, rfl, rfl, rfl⟩

end Libtx
