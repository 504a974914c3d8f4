import Libtx.Stdio.Attend

namespace Libtx

open Intrusive

variable {L T W P F : Type} [DecidableEq T] [DecidableEq F]

section Own

variable {own : StdioTask L T F} {s : Stdio L T W P F}

structure Beside (own : StdioTask L T F) (s : Stdio L T W P F) (next : EpollPoller L T W P F) : Prop where
  refined : ∃ v, Refines next.world v
  pollTask : next.backend.pollTask = s.poller.backend.pollTask
  loop : (next.world.task own.task).txLoop = (s.poller.world.task own.task).txLoop
  stop : (next.world.loop own.up).txStop = (s.poller.world.loop own.up).txStop

theorem Skips.beside {next : EpollPoller L T W P F} (skips : Skips own.task own.up s.poller next)
    (sound : Sound own s) : Beside own s next where
  refined := skips.refined sound.refined
  pollTask := skips.pollTask
  loop := by rw [skips.task]
  stop := skips.stop

omit [DecidableEq F] in
theorem Busies.beside {next : EpollPoller L T W P F}
    (busies : Busies own.task own.up s.poller.world next.world)
    (pollTask : next.backend.pollTask = s.poller.backend.pollTask) : Beside own s next where
  refined := busies.refined
  pollTask := pollTask
  loop := busies.loop
  stop := busies.stop

theorem Sound.write (sound : Sound own s) (next : EpollPoller L T W P F) (beside : Beside own s next)
    (exact : EpollExact next) (file : TxAiocb T)
    (written : next.filp = Function.update s.poller.filp own.file file) (watched : file.watched)
    (slots : ∀ side, file.txFilter side = some own.task → s.opened = true ∧ side = .input)
    (unread : file.txFilter .input = some own.task → file.txFlags.able .input = false)
    (polled : s.opened = true → file.txFlags.poll .input = true → file.live = true) :
    Sound own (s.setPoller next) where
  refined := beside.refined
  exact := exact
  watched := by
    intro filp
    change (next.filp filp).watched
    rw [written]
    by_cases same : filp = own.file
    · rw [same, Function.update_self]
      exact watched
    · rw [Function.update_of_ne same]
      exact sound.watched filp
  apart := by
    change own.task ≠ next.backend.pollTask
    rw [beside.pollTask]
    exact sound.apart
  loop := by
    change s.opened = true → (next.world.task own.task).txLoop = own.up
    rw [beside.loop]
    exact sound.loop
  slots := by
    intro filp side slot
    change (next.filp filp).txFilter side = some own.task at slot
    rw [written] at slot
    by_cases same : filp = own.file
    · rw [same, Function.update_self] at slot
      obtain ⟨opened, input⟩ := slots side slot
      exact ⟨opened, same, input⟩
    · rw [Function.update_of_ne same] at slot
      exact sound.slots filp side slot
  unread := by
    simp only [Stdio.slot, Stdio.readable, Stdio.setPoller, written, Function.update_self]
    exact unread
  polled := by
    simp only [Stdio.setPoller, written, Function.update_self]
    exact polled
  stops := by
    change (next.world.loop own.up).txStop = s.ended
    rw [beside.stop]
    exact sound.stops

theorem Sound.mark (sound : Sound own s) (next : Stdio L T W P F) (poller : next.poller = s.poller)
    (opened : next.opened = s.opened) (ended : next.ended = s.ended) : Sound own next := by
  have same : next = { next with poller := s.poller, opened := s.opened, ended := s.ended } := by
    rw [← poller, ← opened, ← ended]
  rw [same]
  exact { sound with }

end Own

section Waiting

variable {s next : EpollPoller L T W P F} [DecidableEq L] [DecidableEq W] [DecidableEq P]

theorem EpollExact.awaits (exact : EpollExact s) (task : T) (up : L) (side : Side) (filp : F)
    (named : Option T) (unable : (s.filp filp).txFlags.able side = false)
    (result : genericActive (epollOps none) side s filp named = some next) :
    EpollExact next ∧ Skips task up s next ∧
      next.filp = Function.update s.filp filp ((s.filp filp).await side named) ∧
      ((s.filp filp).txFlags.poll side = true ∨ (s.filp filp).live = true) := by
  have waiting := exact.same _ (same_setFilter s filp side named)
  have passed : Skips task up s (s.setFilter filp side named) := skips_same task up rfl rfl
  cases on : (s.filp filp).txFlags.poll side with
  | true =>
      simp only [genericActive, unable, on, if_true, Bool.false_eq_true, if_false] at result
      injection result with same
      subst same
      refine ⟨waiting, passed, ?_, Or.inl rfl⟩
      rw [TxAiocb.await, arm_again (s.filp filp) side on]
      rfl
  | false =>
      rw [active_arms (epollOps none) side s filp named unable on, epollOps_txPoll] at result
      obtain ⟨kept, written, _⟩ := waiting.poll side filp next result
      refine ⟨kept, passed.trans (skips_txEpollPoll task up none side filp result), ?_, Or.inr ?_⟩
      · rw [written]
        simp [Poller.setFilter, Poller.setFilp, TxAiocb.await, TxAiocb.arm]
      · have off : ((s.setFilter filp side named).filp filp).txFlags.poll side = false := by
          simpa [Poller.setFilter, Poller.setFilp] using on
        have live := txEpollPoll_live none side filp off result
        simpa [Poller.setFilter, Poller.setFilp, TxAiocb.live] using live

end Waiting

/-- The reader has been called: its task is off its queue. -/
structure Turn (own : StdioTask L T F) (s : Stdio L T W P F) : Prop extends Sound own s where
  copied : s.stdout = s.received
  opened : s.opened = true
  going : s.ended = false
  idle : (s.flags own).idle = true

section Turns

variable {own : StdioTask L T F} {s next : Stdio L T W P F}

omit [DecidableEq T] in
theorem update_world (poller : EpollPoller L T W P F) (side : Side) (filp : F) (len : Int) (errno : Errno) :
    (txUpdate side poller filp len errno).world = poller.world := by
  unfold txUpdate
  split
  · rfl
  · split
    · rfl
    · rfl

theorem Sound.update (sound : Sound own s) (side : Side) (len : Int) (errno : Errno) :
    Sound own (s.setPoller (txUpdate side s.poller own.file len errno)) := by
  unfold txUpdate
  split
  · exact sound.mark _ rfl rfl rfl
  · split
    · have skips : Skips own.task own.up s.poller (s.poller.setAble own.file side false) :=
        skips_same own.task own.up rfl rfl
      apply sound.write _ (skips.beside sound) _ _ rfl
      · exact sound.watched own.file
      · exact fun direction slot => ⟨(sound.slots _ direction slot).1, (sound.slots _ direction slot).2.2⟩
      · intro slot
        cases side with
        | input => simp
        | output => simpa [Stdio.readable] using sound.unread slot
      · exact sound.polled
      · exact sound.exact.same _ (same_setAble s.poller own.file side false)
    · exact sound.mark _ rfl rfl rfl

theorem Turn.later (turn : Turn own s) (sound : Sound own next) (world : next.poller.world = s.poller.world)
    (copied : next.stdout = next.received) (opened : next.opened = s.opened) (ended : next.ended = s.ended) :
    Turn own next where
  toSound := sound
  copied := copied
  opened := opened.trans turn.opened
  going := ended.trans turn.going
  idle := by
    rw [Stdio.flags, world]
    exact turn.idle

theorem Turn.request (turn : Turn own s) (wrote : Int) (errno : Errno) (asked : List UInt8) :
    Turn own { s with
      poller := txOutcbWriteFd s.poller own.file wrote errno
      asked := asked
      sent := true } := by
  have sound := turn.toSound.update .output wrote errno
  exact turn.later (sound.mark _ rfl rfl rfl) (update_world s.poller .output own.file wrote errno) turn.copied
    rfl rfl

theorem Turn.reads (turn : Turn own s) (readable : s.readable own = true) (reading : Reading) :
    Sound own (s.read own reading) ∧
      ((s.read own reading).readable own = false → reading.bytes = []) ∧
      (s.read own reading).poller.world = s.poller.world := by
  have sound := turn.toSound.update .input reading.len reading.errno
  refine ⟨sound.mark _ rfl rfl rfl, ?_, update_world s.poller .input own.file reading.len reading.errno⟩
  cases reading with
  | failed errno => exact fun _ => rfl
  | data bytes =>
      have positive : (0 : Int) ≤ bytes.length := Int.natCast_nonneg _
      have kept : (s.read own (.data bytes)).readable own = s.readable own := by
        simp [Stdio.read, Stdio.readable, txAincbUpdate, txUpdate, Reading.len, positive]
      rw [kept, readable]
      intro unread
      cases unread

variable [DecidableEq L] [DecidableEq W]

theorem Turn.ends (turn : Turn own s) (readable : s.readable own = true) :
    Attends own
      { s.setWorld (txLoopStop s.poller.world (s.poller.world.task own.task).txLoop) with ended := true } := by
  have slot : s.slot own ≠ some own.task := by
    intro waits
    rw [turn.unread waits] at readable
    cases readable
  rw [turn.loop turn.opened]
  obtain ⟨v, h⟩ := turn.refined
  have still := still_unheld s.poller (txLoopStop s.poller.world own.up)
    ((unheld_refl s.poller.world).setLoop own.up (fun loop => { loop with txStop := true }) (fun _ => rfl))
  constructor
  · exact {
      refined := refines_step _ _ (.stop s.poller.world own.up) v h
      exact := turn.exact.same _ ⟨still, rfl⟩
      watched := turn.watched
      apart := turn.apart
      loop := turn.loop
      slots := turn.slots
      unread := turn.unread
      polled := turn.polled
      stops := by simp [Stdio.setWorld, Stdio.setPoller, txLoopStop] }
  · exact turn.copied
  · exact ⟨.ended, turn.opened, rfl, turn.idle, slot⟩

variable [DecidableEq P]

theorem Sound.awaits (sound : Sound own s) (opened : s.opened = true) (unread : s.readable own = false)
    (awaited : s.await own none = some next) :
    Sound own next ∧ next.flags own = s.flags own ∧ next.slot own = some own.task ∧
      (next.poller.filp own.file).live = true ∧ ∃ poller, next = s.setPoller poller := by
  obtain ⟨poller, result, same⟩ := Option.map_eq_some_iff.mp awaited
  subst same
  obtain ⟨exact, skips, written, armed⟩ := sound.exact.awaits own.task own.up .input own.file
    (some own.task) unread result
  have live : (s.poller.filp own.file).live = true := armed.elim (sound.polled opened) id
  have task : (s.setPoller poller).flags own = s.flags own := by
    change (poller.world.task own.task).txFlags = _
    rw [skips.task]
    rfl
  refine ⟨?_, task, ?_, ?_, poller, rfl⟩
  · apply sound.write poller (skips.beside sound) exact _ written
    · exact watched_await _ .input _ (sound.watched own.file)
    · intro side slot
      cases side with
      | input => exact ⟨opened, rfl⟩
      | output =>
          have before : (s.poller.filp own.file).txFilter .output = some own.task := by
            simpa [TxAiocb.await] using slot
          exact ⟨opened, (sound.slots own.file .output before).2.2⟩
    · exact fun _ => unread
    · exact fun _ _ => live
  · simp [Stdio.slot, Stdio.setPoller, written, TxAiocb.await]
  · simpa [Stdio.setPoller, written, TxAiocb.await, TxAiocb.arm, TxAiocb.live] using live

theorem Turn.awaits (turn : Turn own s) (unread : s.readable own = false)
    (awaited : s.await own none = some next) : Attends own next := by
  obtain ⟨sound, flags, slot, live, poller, same⟩ := turn.toSound.awaits turn.opened unread awaited
  refine ⟨sound, ?_, .waiting, ?_, ?_, ?_, slot, live⟩
  · rw [same]
    exact turn.copied
  · rw [same]
    exact turn.opened
  · rw [same]
    exact turn.going
  · rw [flags]
    exact turn.idle

theorem Turn.loop_attends (turn : Turn own s) (readable : s.readable own = true) (readings : List Reading)
    (returned : updateStdioLoop own none s readings = some next) : Attends own next := by
  induction readings generalizing s with
  | nil => cases returned
  | cons reading rest ih =>
      obtain ⟨sound, lost, world⟩ := turn.reads readable reading
      rw [updateStdioLoop] at returned
      dsimp only at returned
      split at returned
      · rename_i unread
        have copied : (s.read own reading).stdout = (s.read own reading).received := by
          change s.stdout = s.received ++ reading.bytes
          rw [lost unread, List.append_nil, turn.copied]
        exact (turn.later sound world copied rfl rfl).awaits unread returned
      · rename_i reads
        rw [Bool.not_eq_false] at reads
        split at returned
        · rename_i last
          have nothing : reading.bytes = [] := by
            cases reading with
            | failed errno => rfl
            | data bytes =>
                have short : bytes.length ≤ 0 := Int.ofNat_le.mp last
                exact List.eq_nil_of_length_eq_zero (Nat.le_zero.mp short)
          have copied : (s.read own reading).stdout = (s.read own reading).received := by
            change s.stdout = s.received ++ reading.bytes
            rw [nothing, List.append_nil, turn.copied]
          injection returned with same
          rw [← same]
          exact (turn.later sound world copied rfl rfl).ends reads
        · have copied : s.stdout ++ reading.bytes = s.received ++ reading.bytes := by rw [turn.copied]
          have again : Turn own { s.read own reading with stdout := s.stdout ++ reading.bytes } :=
            turn.later (sound.mark _ rfl rfl rfl) world copied rfl rfl
          exact ih again reads returned

theorem Turn.attends (turn : Turn own s)
    (queued : s.readable own = true ∨ s.sent = false ∧ (s.poller.filp own.file).live = true)
    (answers : StdioAnswers) (arm : answers.arm = none) (returned : updateStdio own s answers = some next) :
    Attends own next := by
  unfold updateStdio at returned
  rw [arm] at returned
  dsimp only at returned
  split at returned
  · have asked := turn.request answers.wrote answers.errno (answers.request.take answers.wrote.toNat)
    split at returned
    · rename_i unread
      exact asked.awaits unread returned
    · rename_i reads
      exact asked.loop_attends (Bool.eq_true_of_not_eq_false reads) answers.readings returned
  · rename_i sent
    exact turn.loop_attends (queued.resolve_right (fun unsent => sent unsent.1)) answers.readings returned

end Turns

section Returns

variable {own : StdioTask L T F} {s next : Stdio L T W P F}

omit [DecidableEq T] in
theorem read_flows (reading : Reading) (flows : reading.blocks = false) :
    s.read own reading = { s with received := s.received ++ reading.bytes } := by
  cases reading with
  | data bytes =>
      have nonneg : (0 : Int) ≤ bytes.length := Int.natCast_nonneg bytes.length
      simp [Stdio.read, txAincbUpdate, txUpdate, Reading.len, nonneg]
  | failed errno =>
      have other : errno ≠ .eagain := by simpa [Reading.blocks] using flows
      simp [Stdio.read, txAincbUpdate, txUpdate, Reading.len, Reading.errno, other]

omit [DecidableEq T] in
theorem request_file (poller : EpollPoller L T W P F) (filp : F) (wrote : Int) (errno : Errno) :
    ((txOutcbWriteFd poller filp wrote errno).filp filp).txFlags.able .input =
        (poller.filp filp).txFlags.able .input ∧
      ((txOutcbWriteFd poller filp wrote errno).filp filp).live = (poller.filp filp).live := by
  unfold txOutcbWriteFd txOutcbUpdate txUpdate
  split
  · exact ⟨rfl, rfl⟩
  · split
    · simp [Poller.setAble, Poller.setFlags, Poller.setFilp, TxAiocb.live]
    · exact ⟨rfl, rfl⟩

variable [DecidableEq L] [DecidableEq P]

omit [DecidableEq T] in
theorem txEpollPoll_returns (answer : Option Errno) (side : Side) (poller : EpollPoller L T W P F) (filp : F) :
    (txEpollPoll answer side poller filp).isSome =
      ((poller.filp filp).txFlags.poll side || (poller.filp filp).live) := by
  unfold txEpollPoll
  dsimp only
  split
  · rename_i off
    split
    · rename_i live
      rw [live, Bool.or_true]
      split
      · rfl
      · rfl
    · rename_i dead
      rw [off, Bool.eq_false_iff.mpr dead]
      rfl
  · rename_i on
    rw [Bool.not_eq_false] at on
    rw [on]
    rfl

variable [DecidableEq W]

theorem Turn.await_returns (turn : Turn own s) (unread : s.readable own = false) (arm : Option Errno) :
    (s.await own arm).isSome = (s.poller.filp own.file).live := by
  have unable : (s.poller.filp own.file).txFlags.able .input = false := unread
  change ((genericActive (epollOps arm) .input s.poller own.file (some own.task)).map s.setPoller).isSome = _
  rw [Option.isSome_map]
  cases on : (s.poller.filp own.file).txFlags.poll .input with
  | true =>
      rw [turn.polled turn.opened on]
      simp [genericActive, unable, on]
  | false =>
      rw [active_arms (epollOps arm) .input s.poller own.file _ unable on, epollOps_txPoll, txEpollPoll_returns]
      simp [Poller.setFilter, Poller.setFilp, on, TxAiocb.live]

def Stdio.took (s : Stdio L T W P F) (bytes : List UInt8) : Stdio L T W P F :=
  { s with stdout := s.stdout ++ bytes, received := s.received ++ bytes }

theorem flows_more (reading : Reading) (more : 0 < reading.len) : reading.blocks = false := by
  cases reading with
  | data bytes => rfl
  | failed errno => exact absurd more (by simp [Reading.len])

theorem loop_front (arm : Option Errno) (front later : List Reading) (readable : s.readable own = true)
    (more : ∀ reading ∈ front, 0 < reading.len) :
    updateStdioLoop own arm s (front ++ later) =
      updateStdioLoop own arm (s.took (front.flatMap Reading.bytes)) later := by
  induction front generalizing s with
  | nil => simp [Stdio.took]
  | cons reading rest ih =>
      have first := more reading List.mem_cons_self
      have again : (s.took reading.bytes).readable own = true := readable
      have step : updateStdioLoop own arm s (reading :: (rest ++ later)) =
          updateStdioLoop own arm (s.took reading.bytes) (rest ++ later) := by
        have still : ({ s with received := s.received ++ reading.bytes }).readable own = true := readable
        rw [updateStdioLoop, read_flows reading (flows_more reading first)]
        simp only [still, Bool.true_eq_false, if_false, Int.not_le.mpr first]
        rfl
      rw [List.cons_append, step, ih again (fun other member => more other (List.mem_cons_of_mem reading member))]
      simp [Stdio.took]

/-- What the loop of `update_stdio` comes to where `read` has no more data -/
structure Stdio.Settles (own : StdioTask L T F) (s : Stdio L T W P F) (last : Reading)
    (result : Option (Stdio L T W P F)) : Prop where
  returns : result.isSome = true ↔ (s.poller.filp own.file).live = true ∨ last.blocks = false
  stdout : ∀ next, result = some next → next.stdout = s.stdout
  ended : ∀ next, result = some next → (next.ended = true ↔ last.blocks = false)
  sent : ∀ next, result = some next → next.sent = s.sent ∧ next.asked = s.asked

theorem Turn.settles (turn : Turn own s) (readable : s.readable own = true) (last : Reading) (rest : List Reading)
    (final : last.len ≤ 0) : Stdio.Settles own s last (updateStdioLoop own none s (last :: rest)) := by
  obtain ⟨sound, lost, world⟩ := turn.reads readable last
  rw [updateStdioLoop]
  dsimp only
  cases blocks : last.blocks with
  | true =>
      have same : last = .failed .eagain := by simpa [Reading.blocks] using blocks
      subst same
      have unread : (s.read own (.failed .eagain)).readable own = false := by
        simp [Stdio.read, Stdio.readable, txAincbUpdate, txUpdate, Reading.len, Reading.errno,
          Poller.setAble, Poller.setFlags, Poller.setFilp]
      have live : ((s.read own (.failed .eagain)).poller.filp own.file).live =
          (s.poller.filp own.file).live := by
        simp [Stdio.read, txAincbUpdate, txUpdate, Reading.len, Reading.errno, TxAiocb.live,
          Poller.setAble, Poller.setFlags, Poller.setFilp]
      have copied : (s.read own (.failed .eagain)).stdout = (s.read own (.failed .eagain)).received := by
        change s.stdout = s.received ++ []
        rw [List.append_nil, turn.copied]
      have waits : Turn own (s.read own (.failed .eagain)) := turn.later sound world copied rfl rfl
      have returns := waits.await_returns unread none
      rw [if_pos unread]
      constructor
      · rw [returns, live, blocks]
        simp
      all_goals
        intro next awaited
        obtain ⟨poller, _, same⟩ := Option.map_eq_some_iff.mp awaited
        subst same
      · rfl
      · have going : (s.read own (.failed .eagain)).ended = false := turn.going
        simp [Stdio.setPoller, going, blocks]
      · exact ⟨rfl, rfl⟩
  | false =>
      have still : ({ s with received := s.received ++ last.bytes } : Stdio L T W P F).readable own = true :=
        readable
      rw [read_flows last blocks, if_neg (by simp [still]), if_pos final]
      constructor
      · simp [blocks]
      all_goals
        intro next stopped
        injection stopped with same
        subst same
      · rfl
      · simp [blocks]
      · exact ⟨rfl, rfl⟩

def Stdio.asks (s : Stdio L T W P F) (own : StdioTask L T F) : Bool := !s.sent && !s.readable own

/-- What one call of `update_stdio` does, where `read` answers `front` and then `last` -/
structure Stdio.Answered (own : StdioTask L T F) (s : Stdio L T W P F) (answers : StdioAnswers)
    (front : List Reading) (last : Reading) (result : Option (Stdio L T W P F)) : Prop where
  returns : result.isSome = true ↔ (s.poller.filp own.file).live = true ∨ last.blocks = false
  stdout : ∀ next, result = some next →
    next.stdout = s.stdout ++ (if s.asks own then [] else front.flatMap Reading.bytes)
  ended : ∀ next, result = some next → (next.ended = true ↔ s.asks own = false ∧ last.blocks = false)
  sent : ∀ next, result = some next → next.sent = true ∧
    (s.sent = false → next.asked = answers.request.take answers.wrote.toNat)

theorem Turn.loop_settles (turn : Turn own s) (readable : s.readable own = true) (front rest : List Reading)
    (last : Reading) (more : ∀ reading ∈ front, 0 < reading.len) (final : last.len ≤ 0) :
    Stdio.Settles own (s.took (front.flatMap Reading.bytes)) last
      (updateStdioLoop own none s (front ++ last :: rest)) := by
  rw [loop_front none front _ readable more]
  have copied : s.stdout ++ front.flatMap Reading.bytes = s.received ++ front.flatMap Reading.bytes := by
    rw [turn.copied]
  have taken : Turn own (s.took (front.flatMap Reading.bytes)) :=
    turn.later (turn.toSound.mark _ rfl rfl rfl) rfl copied rfl rfl
  exact taken.settles readable last rest final

theorem Turn.answered (turn : Turn own s)
    (queued : s.readable own = true ∨ s.sent = false ∧ (s.poller.filp own.file).live = true)
    (answers : StdioAnswers) (arm : answers.arm = none) (front rest : List Reading) (last : Reading)
    (readings : answers.readings = front ++ last :: rest) (more : ∀ reading ∈ front, 0 < reading.len)
    (final : last.len ≤ 0) : Stdio.Answered own s answers front last (updateStdio own s answers) := by
  unfold updateStdio
  rw [arm, readings]
  dsimp only
  split
  · rename_i unsent
    have asked := turn.request answers.wrote answers.errno (answers.request.take answers.wrote.toNat)
    obtain ⟨same, live⟩ := request_file s.poller own.file answers.wrote answers.errno
    split
    · rename_i unread
      have before : s.readable own = false := same.symm.trans unread
      have asks : s.asks own = true := by simp [Stdio.asks, unsent, before]
      have armed : (s.poller.filp own.file).live = true :=
        (queued.resolve_left (fun readable => by simp [before] at readable)).2
      have returns := asked.await_returns unread none
      constructor
      · rw [returns]
        simp [live, armed]
      all_goals
        intro next awaited
        obtain ⟨poller, _, same⟩ := Option.map_eq_some_iff.mp awaited
        subst same
      · rw [asks, if_pos rfl, List.append_nil]
        rfl
      · rw [asks]
        simp [Stdio.setPoller, turn.going]
      · exact ⟨rfl, fun _ => rfl⟩
    · rename_i reads
      rw [Bool.not_eq_false] at reads
      have readable : s.readable own = true := same.symm.trans reads
      have quiet : s.asks own = false := by simp [Stdio.asks, readable]
      have settles := asked.loop_settles reads front rest last more final
      constructor
      · rw [settles.returns]
        simp [Stdio.took, live]
      · intro next returned
        rw [settles.stdout next returned, quiet]
        rfl
      · intro next returned
        rw [settles.ended next returned, quiet]
        simp
      · intro next returned
        obtain ⟨done, took⟩ := settles.sent next returned
        exact ⟨done, fun _ => took⟩
  · rename_i sent
    rw [Bool.not_eq_false] at sent
    have readable := queued.resolve_right (fun unsent => by simp [sent] at unsent)
    have settles := turn.loop_settles readable front rest last more final
    have quiet : s.asks own = false := by simp [Stdio.asks, sent]
    constructor
    · exact settles.returns
    · intro next returned
      rw [settles.stdout next returned, quiet]
      rfl
    · intro next returned
      rw [settles.ended next returned, quiet]
      simp
    · intro next returned
      refine ⟨(settles.sent next returned).1.trans sent, ?_⟩
      intro unsent
      rw [sent] at unsent
      cases unsent

end Returns

variable [DecidableEq L] [DecidableEq W]

section Called

variable {own : StdioTask L T F} {s : Stdio L T W P F}

theorem Attends.called (attends : Attends own s) (called : World L T W P F)
    (passed : passTest s.poller.world own.up = some called) (calls : inCall called own.up own.task = true) :
    Turn own (s.setWorld called) ∧
      (s.readable own = true ∨ s.sent = false ∧ (s.poller.filp own.file).live = true) := by
  obtain ⟨v, h⟩ := attends.refined
  have linked := (h.called_linked passed calls).1
  obtain ⟨firstRun, atTest, ok⟩ := passTest_ok s.poller.world called own.up passed
  obtain ⟨idle, loop, stops⟩ := passTest_call s.poller.world called own.up own.task passed calls
  have still := still_unheld s.poller called (unheld_test s.poller.world called own.up firstRun ok)
  obtain ⟨phase, here⟩ := attends.phase
  cases phase with
  | queued =>
      refine ⟨⟨⟨?_, ?_, ?_, ?_, ?_, ?_, ?_, ?_, ?_⟩, ?_, ?_, ?_, ?_⟩, here.2.2.2⟩
      · exact refines_step s.poller.world called (.test _ _ _ firstRun atTest ok) v h
      · exact attends.exact.same _ ⟨still, rfl⟩
      · exact attends.watched
      · exact attends.apart
      · exact fun opened => loop.trans (attends.loop opened)
      · exact attends.slots
      · exact attends.unread
      · exact attends.polled
      · exact (stops own.up).trans attends.stops
      · exact attends.copied
      · exact here.1
      · exact here.2.1
      · exact idle
  | fresh => exact absurd here.2.2.1 (by simp [Stdio.flags, linked])
  | waiting => exact absurd here.2.2.1 (by simp [Stdio.flags, linked])
  | ended => exact absurd here.2.2.1 (by simp [Stdio.flags, linked])

end Called

end Libtx
