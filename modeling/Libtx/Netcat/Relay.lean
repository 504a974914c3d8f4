import Libtx.Aiocb.Aiocb
import Libtx.Runs.Partial

/-! `tx_pipling_t::pipling` of `netcat.cpp`: what is received from one object is sent to another,
through a buffer that stays between the calls.

A call is as many steps as it makes system calls; each step is given what the system answers.
The readiness of the objects may be anything when a call starts. -/

namespace Libtx

inductive RecvAnswer (A : Type) where
  | chunk (bytes : List A)
  | ended
  | failed (errno : Errno)

/-- What `tx_outcb_write` answers, and whether it leaves `TX_WRITABLE`. Where it would block it does
not; where it fails nothing changes. -/
inductive WriteAnswer where
  | accepted (count : Nat) (writable : Bool)
  | wouldBlock
  | failed

structure PipAnswer (A : Type) where
  recv : RecvAnswer A
  write : WriteAnswer
  file : Option Nat

/-- Where the call is: at the condition of the loop, after the part that receives, or returned. -/
inductive PipPhase where
  | idle
  | head
  | write
  | returned (value : Int)
  deriving DecidableEq, Repr

/-- `tx_pipling_t` with the objects that it is called for. `received` and `accepted` list all bytes
so far, `failed` tells whether the call met an error, and `registered` what it registered its
task for; no operation reads these. -/
structure Pipling (L T W P F B A : Type) where
  poller : Poller L T W P F B
  eof : Bool
  off : Nat
  len : Nat
  buf : List A
  phase : PipPhase
  received : List A
  accepted : List A
  failed : Bool
  registered : List (F × Side)

inductive PipAction (L T W P F B A : Type) where
  | call (poller : Poller L T W P F B)
  | turn (answer : PipAnswer A)

variable {L T W P F B A : Type}

def Poller.able (s : Poller L T W P F B) (filp : F) (side : Side) : Bool := (s.filp filp).txFlags.able side

def Pipling.pending (s : Pipling L T W P F B A) : List A := (s.buf.take s.len).drop s.off

section Code

variable (ops : TxPollOp (Poller L T W P F B) F) (f : F) (t : Option F) (sk : T) [DecidableEq F]

def pipRecv (s : Pipling L T W P F B A) : RecvAnswer A → Pipling L T W P F B A
  | .chunk bytes =>
      { s with
        buf := bytes ++ s.buf.drop bytes.length
        len := bytes.length
        off := 0
        received := s.received ++ bytes
        phase := .write }
  | .ended => { s with eof := true, len := 0, off := 0, phase := .write }
  | .failed errno =>
      let updated := { s with
        poller := txAincbUpdate s.poller f (-1) errno
        failed := s.failed || decide (errno ≠ Errno.eagain) }
      if updated.poller.able f .input then { updated with phase := .returned 0 }
      else { updated with len := 0, off := 0, phase := .write }

variable [DecidableEq L] [DecidableEq T] [DecidableEq W]

def pipHead (answer : PipAnswer A) (s : Pipling L T W P F B A) : Option (Pipling L T W P F B A) :=
  if s.eof = false ∨ s.off < s.len then
    if s.off = s.len then
      if s.poller.able f .input = false then
        (txAincbActive ops s.poller f (some sk)).map fun next =>
          { s with
            poller := next
            registered := s.registered ++ [(f, .input)]
            phase := .returned 1 }
      else some (pipRecv f s answer.recv)
    else some { s with phase := .write }
  else some { s with phase := .returned 0 }

def Pipling.sent (s : Pipling L T W P F B A) (count : Nat) : Pipling L T W P F B A :=
  { s with
    off := s.off + count
    accepted := s.accepted ++ s.pending.take count
    phase := .head }

def pipSent (s : Pipling L T W P F B A) (target : F) : WriteAnswer → Pipling L T W P F B A
  | .accepted count writable =>
      { s.sent count with poller := s.poller.setAble target .output writable }
  | .wouldBlock =>
      let blocked := { s with poller := s.poller.setAble target .output false }
      if blocked.poller.able target .output then { blocked with phase := .returned 0 }
      else { blocked with phase := .head }
  | .failed =>
      if s.poller.able target .output then { s with failed := true, phase := .returned 0 }
      else { s with failed := true, phase := .head }

def pipWrite (answer : PipAnswer A) (s : Pipling L T W P F B A) : Option (Pipling L T W P F B A) :=
  if s.off < s.len then
    match t with
    | none =>
        match answer.file with
        | none => some { s with failed := true, phase := .returned 0 }
        | some wroted => some (s.sent wroted)
    | some target =>
        if s.poller.able target .output = false then
          (txOutcbPrepare ops s.poller target (some sk)).map fun next =>
            { s with
              poller := next
              registered := s.registered ++ [(target, .output)]
              phase := .returned 1 }
        else some (pipSent s target answer.write)
  else some { s with phase := .head }

def pipAct (s : Pipling L T W P F B A) : PipAction L T W P F B A → Option (Pipling L T W P F B A)
  | .call poller =>
      match s.phase with
      | .idle | .returned _ => some { s with poller := poller, phase := .head, failed := false, registered := [] }
      | .head | .write => none
  | .turn answer =>
      match s.phase with
      | .head => pipHead ops f sk answer s
      | .write => pipWrite ops t sk answer s
      | .idle | .returned _ => none

/-- A chunk has a byte and fits the buffer, and what is accepted is a front of what is there. -/
def PipProper (s : Pipling L T W P F B A) : PipAction L T W P F B A → Prop
  | .call _ => True
  | .turn answer =>
      (∀ bytes, answer.recv = .chunk bytes → 0 < bytes.length ∧ bytes.length ≤ s.buf.length) ∧
        (∀ count writable, answer.write = .accepted count writable → 0 < count) ∧
        (s.off < s.len →
          (∀ count writable, answer.write = .accepted count writable → count ≤ s.len - s.off) ∧
            ∀ wroted, answer.file = some wroted → wroted ≤ s.len - s.off)

end Code

structure PipFresh (s : Pipling L T W P F B A) : Prop where
  eof : s.eof = false
  off : s.off = 0
  len : s.len = 0
  buf : s.buf.length = 8192 * 16
  phase : s.phase = .idle
  received : s.received = []
  accepted : s.accepted = []

section Steps

variable {ops : TxPollOp (Poller L T W P F B) F} {f : F} {t : Option F} {sk : T} {s : Pipling L T W P F B A}

structure Pipling.Balanced (s : Pipling L T W P F B A) : Prop where
  front : s.off ≤ s.len
  room : s.len ≤ s.buf.length
  whole : s.accepted ++ s.pending = s.received

structure Pipling.Kept (s : Pipling L T W P F B A) : Prop extends s.Balanced where
  quiet : s.phase = .head ∨ s.phase = .write → s.registered = []
  ended : s.phase = .returned 0 → s.failed = false → s.eof = true ∧ s.off = s.len

theorem pending_empty (empty : s.off = s.len) : s.pending = [] := by
  apply List.drop_eq_nil_of_le
  rw [List.length_take, empty]
  exact Nat.min_le_left _ _

theorem Pipling.Balanced.same (balanced : s.Balanced) (next : Pipling L T W P F B A) (off : next.off = s.off)
    (len : next.len = s.len) (buf : next.buf = s.buf) (received : next.received = s.received)
    (accepted : next.accepted = s.accepted) : next.Balanced where
  front := by rw [off, len]; exact balanced.front
  room := by rw [len, buf]; exact balanced.room
  whole := by rw [Pipling.pending, off, len, buf, received, accepted]; exact balanced.whole

theorem Pipling.Balanced.emptied (balanced : s.Balanced) (empty : s.off = s.len)
    (next : Pipling L T W P F B A) (off : next.off = 0) (len : next.len = 0)
    (received : next.received = s.received) (accepted : next.accepted = s.accepted) : next.Balanced where
  front := by rw [off]; exact Nat.zero_le _
  room := by rw [len]; exact Nat.zero_le _
  whole := by
    have whole := balanced.whole
    rw [pending_empty empty] at whole
    rw [pending_empty (off.trans len.symm), received, accepted]
    exact whole

theorem Pipling.Balanced.chunk (balanced : s.Balanced) (empty : s.off = s.len) (bytes : List A)
    (next : Pipling L T W P F B A) (off : next.off = 0) (len : next.len = bytes.length)
    (buf : next.buf = bytes ++ s.buf.drop bytes.length) (received : next.received = s.received ++ bytes)
    (accepted : next.accepted = s.accepted) : next.Balanced where
  front := by rw [off]; exact Nat.zero_le _
  room := by rw [len, buf, List.length_append]; exact Nat.le_add_right _ _
  whole := by
    have whole := balanced.whole
    rw [pending_empty empty, List.append_nil] at whole
    rw [Pipling.pending, off, len, buf, received, accepted, whole, List.take_left, List.drop_zero]

theorem Pipling.Balanced.sent (balanced : s.Balanced) (count : Nat) (fits : count ≤ s.len - s.off) :
    (s.sent count).Balanced where
  front := by
    have front := balanced.front
    change s.off + count ≤ s.len
    omega
  room := balanced.room
  whole := by
    calc (s.sent count).accepted ++ (s.sent count).pending
        = s.accepted ++ (s.pending.take count ++ s.pending.drop count) := by
          rw [Pipling.sent, Pipling.pending, Pipling.pending, List.drop_drop, List.append_assoc]
      _ = s.accepted ++ s.pending := by rw [List.take_append_drop]
      _ = s.received := balanced.whole

variable [DecidableEq F]

theorem update_blocked (poller : Poller L T W P F B) :
    (txAincbUpdate poller f (-1) Errno.eagain).able f .input = false := by
  simp [txAincbUpdate, txUpdate, Poller.able, Poller.setAble, Poller.setFlags, Poller.setFilp]

theorem able_setAble (poller : Poller L T W P F B) (side : Side) (value : Bool) :
    (poller.setAble f side value).able f side = value := by
  simp [Poller.able, Poller.setAble, Poller.setFlags, Poller.setFilp]

variable [DecidableEq L] [DecidableEq T] [DecidableEq W]

/-- The side that the call waits for is the one that blocks, and the task is registered for it. -/
def Blocked (ops : TxPollOp (Poller L T W P F B) F) (f : F) (t : Option F) (sk : T)
    (s next : Pipling L T W P F B A) : Prop :=
  (s.off = s.len ∧ s.poller.able f .input = false ∧
      txAincbActive ops s.poller f (some sk) = some next.poller ∧
      next.registered = s.registered ++ [(f, .input)]) ∨
    ∃ target, t = some target ∧ s.off < s.len ∧ s.poller.able target .output = false ∧
      txOutcbPrepare ops s.poller target (some sk) = some next.poller ∧
      next.registered = s.registered ++ [(target, .output)]

structure Turns (ops : TxPollOp (Poller L T W P F B) F) (f : F) (t : Option F) (sk : T)
    (s next : Pipling L T W P F B A) : Prop where
  balanced : next.Balanced
  quiet : next.phase = .head ∨ next.phase = .write → next.registered = s.registered
  waits : next.phase = .returned 1 → Blocked ops f t sk s next
  ended : next.phase = .returned 0 → next.failed = false → next.eof = true ∧ next.off = next.len

theorem Turns.stays {next : Pipling L T W P F B A} (balanced : next.Balanced)
    (phase : next.phase = .head ∨ next.phase = .write) (registered : next.registered = s.registered) :
    Turns ops f t sk s next := by
  have inside (value : Int) : next.phase ≠ .returned value := by
    intro returned
    rcases phase with phase | phase
    · cases phase.symm.trans returned
    · cases phase.symm.trans returned
  exact ⟨balanced, fun _ => registered, fun returned => absurd returned (inside 1),
    fun returned => absurd returned (inside 0)⟩

theorem Turns.leaves {next : Pipling L T W P F B A} (value : Int) (balanced : next.Balanced)
    (phase : next.phase = .returned value) (waits : value = 1 → Blocked ops f t sk s next)
    (ended : value = 0 → next.failed = false → next.eof = true ∧ next.off = next.len) :
    Turns ops f t sk s next := by
  have given (other : Int) (returned : next.phase = .returned other) : value = other := by
    injection phase.symm.trans returned
  refine ⟨balanced, ?_, fun returned => waits (given 1 returned), fun returned => ended (given 0 returned)⟩
  rintro (inside | inside)
  · cases phase.symm.trans inside
  · cases phase.symm.trans inside

theorem recv_turns (balanced : s.Balanced) (empty : s.off = s.len) (answer : RecvAnswer A) :
    Turns ops f t sk s (pipRecv f s answer) := by
  cases answer with
  | chunk bytes => exact Turns.stays (balanced.chunk empty bytes _ rfl rfl rfl rfl rfl) (Or.inr rfl) rfl
  | ended => exact Turns.stays (balanced.emptied empty _ rfl rfl rfl rfl) (Or.inr rfl) rfl
  | failed errno =>
      unfold pipRecv
      dsimp only
      split
      · rename_i able
        refine Turns.leaves 0 (balanced.same _ rfl rfl rfl rfl rfl) rfl (fun one => by cases one) ?_
        -- Where `recv` would block, `TX_READABLE` is off.
        intro _ fine
        have blocks : errno = Errno.eagain := by simpa using (Bool.or_eq_false_iff.mp fine).2
        rw [blocks, update_blocked] at able
        cases able
      · exact Turns.stays (balanced.emptied empty _ rfl rfl rfl rfl) (Or.inr rfl) rfl

theorem head_turns (balanced : s.Balanced) (answer : PipAnswer A) (next : Pipling L T W P F B A)
    (result : pipHead ops f sk answer s = some next) : Turns ops f t sk s next := by
  unfold pipHead at result
  split at result
  · split at result
    · rename_i empty
      split at result
      · rename_i unable
        obtain ⟨poller, active, same⟩ := Option.map_eq_some_iff.mp result
        subst same
        refine Turns.leaves 1 (balanced.same _ rfl rfl rfl rfl rfl) rfl ?_ ?_
        · exact fun _ => Or.inl ⟨empty, unable, active, rfl⟩
        · exact fun zero => by cases zero
      · injection result with same
        exact same ▸ recv_turns balanced empty answer.recv
    · injection result with same
      exact same ▸ Turns.stays (balanced.same _ rfl rfl rfl rfl rfl) (Or.inr rfl) rfl
  · rename_i ended
    injection result with same
    subst same
    obtain ⟨seen, done⟩ := not_or.mp ended
    refine Turns.leaves 0 (balanced.same _ rfl rfl rfl rfl rfl) rfl (fun one => by cases one) ?_
    exact fun _ _ => ⟨by simpa using seen, Nat.le_antisymm balanced.front (Nat.not_lt.mp done)⟩

theorem sent_turns (balanced : s.Balanced) (target : F) (answer : WriteAnswer)
    (fits : ∀ count writable, answer = .accepted count writable → count ≤ s.len - s.off) :
    Turns ops f t sk s (pipSent s target answer) := by
  cases answer with
  | accepted count writable =>
      have sent := balanced.sent count (fits count writable rfl)
      exact Turns.stays (sent.same _ rfl rfl rfl rfl rfl) (Or.inl rfl) rfl
  | wouldBlock =>
      unfold pipSent
      dsimp only
      rw [able_setAble, if_neg Bool.false_ne_true]
      exact Turns.stays (balanced.same _ rfl rfl rfl rfl rfl) (Or.inl rfl) rfl
  | failed =>
      unfold pipSent
      dsimp only
      split
      · refine Turns.leaves 0 (balanced.same _ rfl rfl rfl rfl rfl) rfl (fun one => by cases one) ?_
        exact fun _ fine => by cases fine
      · exact Turns.stays (balanced.same _ rfl rfl rfl rfl rfl) (Or.inl rfl) rfl

theorem write_turns (balanced : s.Balanced) (answer : PipAnswer A) (next : Pipling L T W P F B A)
    (proper : PipProper s (.turn answer : PipAction L T W P F B A))
    (result : pipWrite ops t sk answer s = some next) : Turns ops f t sk s next := by
  unfold pipWrite at result
  split at result
  · rename_i more
    obtain ⟨accepts, files⟩ := proper.2.2 more
    split at result
    · split at result
      · injection result with same
        subst same
        refine Turns.leaves 0 (balanced.same _ rfl rfl rfl rfl rfl) rfl (fun one => by cases one) ?_
        exact fun _ fine => by cases fine
      · rename_i wroted given
        injection result with same
        exact same ▸ Turns.stays (balanced.sent wroted (files wroted given)) (Or.inl rfl) rfl
    · rename_i target
      split at result
      · rename_i unable
        obtain ⟨poller, active, same⟩ := Option.map_eq_some_iff.mp result
        subst same
        refine Turns.leaves 1 (balanced.same _ rfl rfl rfl rfl rfl) rfl ?_ ?_
        · exact fun _ => Or.inr ⟨target, rfl, more, unable, active, rfl⟩
        · exact fun zero => by cases zero
      · injection result with same
        exact same ▸ sent_turns balanced target answer.write accepts
  · injection result with same
    exact same ▸ Turns.stays (balanced.same _ rfl rfl rfl rfl rfl) (Or.inl rfl) rfl

theorem turn_turns (balanced : s.Balanced) (answer : PipAnswer A) (next : Pipling L T W P F B A)
    (proper : PipProper s (.turn answer : PipAction L T W P F B A))
    (result : pipAct ops f t sk s (.turn answer) = some next) :
    (s.phase = .head ∨ s.phase = .write) ∧ Turns ops f t sk s next := by
  unfold pipAct at result
  dsimp only at result
  split at result
  · rename_i phase
    exact ⟨Or.inl phase, head_turns balanced answer next result⟩
  · rename_i phase
    exact ⟨Or.inr phase, write_turns balanced answer next proper result⟩
  · cases result
  · cases result

theorem Pipling.Kept.step (kept : s.Kept) (action : PipAction L T W P F B A) (next : Pipling L T W P F B A)
    (proper : PipProper s action) (result : pipAct ops f t sk s action = some next) : next.Kept := by
  cases action with
  | call poller =>
      have started : next = { s with poller := poller, phase := .head, failed := false, registered := [] } := by
        unfold pipAct at result
        dsimp only at result
        split at result
        · exact (Option.some.inj result).symm
        · exact (Option.some.inj result).symm
        · cases result
        · cases result
      subst started
      exact ⟨kept.toBalanced.same _ rfl rfl rfl rfl rfl, fun _ => rfl, fun phase => by cases phase⟩
  | turn answer =>
      obtain ⟨phase, turns⟩ := turn_turns kept.toBalanced answer next proper result
      exact ⟨turns.balanced, fun inside => (turns.quiet inside).trans (kept.quiet phase), turns.ended⟩

end Steps

/-- What the source gave is what the target has and what is still in the buffer, in order; a call
that returns 1 has registered its task for the one side that blocks; and a call that returns 0
without an error has sent everything up to the end of file. -/
structure Relayed [DecidableEq L] [DecidableEq T] [DecidableEq W] [DecidableEq F]
    (ops : TxPollOp (Poller L T W P F B) F) (f : F) (t : Option F) (sk : T) (s : Pipling L T W P F B A) :
    Prop where
  whole : s.accepted ++ s.pending = s.received
  waits : ∀ answer next, PipProper s (.turn answer : PipAction L T W P F B A) →
    pipAct ops f t sk s (.turn answer) = some next → next.phase = .returned 1 →
      s.registered = [] ∧ Blocked ops f t sk s next
  ended : s.phase = .returned 0 → s.failed = false → s.eof = true ∧ s.accepted = s.received

section Runs

theorem kept_fresh (s : Pipling L T W P F B A) (fresh : PipFresh s) : s.Kept := by
  refine ⟨⟨?_, ?_, ?_⟩, ?_, ?_⟩
  · rw [fresh.off]
    exact Nat.zero_le _
  · rw [fresh.len]
    exact Nat.zero_le _
  · rw [pending_empty (fresh.off.trans fresh.len.symm), fresh.accepted, fresh.received]
    rfl
  · intro phase
    rw [fresh.phase] at phase
    rcases phase with phase | phase <;> cases phase
  · intro phase
    rw [fresh.phase] at phase
    cases phase

theorem proper_quiet (s : Pipling L T W P F B A) (write : WriteAnswer)
    (accepts : ∀ count writable, write = .accepted count writable → 0 < count ∧ count ≤ s.len - s.off) :
    PipProper s (.turn ⟨.ended, write, none⟩ : PipAction L T W P F B A) := by
  refine ⟨?_, ?_, ?_⟩
  · intro bytes given
    cases given
  · exact fun count writable given => (accepts count writable given).1
  · intro _
    exact ⟨fun count writable given => (accepts count writable given).2, fun wroted given => by cases given⟩

theorem proper_chunk (s : Pipling L T W P F B A) (bytes : List A) (some_byte : 0 < bytes.length)
    (fits : bytes.length ≤ s.buf.length) :
    PipProper s (.turn ⟨.chunk bytes, .failed, none⟩ : PipAction L T W P F B A) := by
  refine ⟨?_, ?_, ?_⟩
  · intro _ given
    cases given
    exact ⟨some_byte, fits⟩
  · intro count writable given
    cases given
  · exact fun _ => ⟨fun count writable given => (by cases given), fun wroted given => (by cases given)⟩

variable [DecidableEq L] [DecidableEq T] [DecidableEq W] [DecidableEq F]

/-- Relaying loses, repeats and reorders nothing, in every run of calls. -/
theorem pipling_relays (ops : TxPollOp (Poller L T W P F B) F) (f : F) (t : Option F) (sk : T)
    (start s : Pipling L T W P F B A) (fresh : PipFresh start) (actions : List (PipAction L T W P F B A))
    (allowed : Runs.Allowed (pipAct ops f t sk) PipProper start actions)
    (reached : Runs.run (pipAct ops f t sk) start actions = some s) : Relayed ops f t sk s := by
  have kept : s.Kept := by
    apply Runs.keeps_run PipProper Pipling.Kept _ start s actions allowed (kept_fresh start fresh) reached
    exact fun s action next proper kept step => kept.step action next proper step
  constructor
  · exact kept.whole
  · intro answer next proper result waits
    obtain ⟨phase, turns⟩ := turn_turns kept.toBalanced answer next proper result
    exact ⟨kept.quiet phase, turns.waits waits⟩
  · intro returned fine
    obtain ⟨seen, empty⟩ := kept.ended returned fine
    have whole := kept.whole
    rw [pending_empty empty, List.append_nil] at whole
    exact ⟨seen, whole⟩

def pipPoller (able : Bool) : Poller Unit Bool Unit Unit Bool Unit where
  world :=
    World.start
      { heap := ⟨fun _ => none, fun _ => none, fun _ => .next (.task false)⟩
        task := fun _ => ⟨⟨true, false, false, false⟩, none, ()⟩
        loop := fun _ => txLoopNew
        main := fun _ => none
        history := fun _ => [] }
      (fun _ => ())
  filp := fun _ => ⟨3, ⟨false, fun _ => false, fun _ => able, true, false⟩, fun _ => none⟩
  backend := ()
  calls := []

def pipStart : Pipling Unit Bool Unit Unit Bool Unit Nat where
  poller := pipPoller false
  eof := false
  off := 0
  len := 0
  buf := List.replicate (8192 * 16) 0
  phase := .idle
  received := []
  accepted := []
  failed := false
  registered := []

def pipCall : List (PipAction Unit Bool Unit Unit Bool Unit Nat) :=
  [.call (pipPoller true),
    .turn ⟨.chunk [1, 2, 3], .failed, none⟩,
    .turn ⟨.ended, .accepted 2 true, none⟩,
    .turn ⟨.ended, .failed, none⟩,
    .turn ⟨.ended, .wouldBlock, none⟩,
    .turn ⟨.ended, .failed, none⟩,
    .turn ⟨.ended, .failed, none⟩]

def pipOps : TxPollOp (Poller Unit Bool Unit Unit Bool Unit) Bool :=
  ⟨fun s _ => some s, fun s _ => some s, fun s _ => some s, fun s _ => some s⟩

theorem pip_fresh : PipFresh pipStart where
  eof := rfl
  off := rfl
  len := rfl
  buf := List.length_replicate
  phase := rfl
  received := rfl
  accepted := rfl

theorem pip_proper : Runs.Allowed (pipAct pipOps false (some true) false) PipProper pipStart pipCall := by
  apply Runs.allowed_cons _ _ _ _ _ trivial rfl
  apply Runs.allowed_cons _ _ _ _ _ (proper_chunk _ [1, 2, 3] (by decide) ?_) rfl
  · apply Runs.allowed_cons _ _ _ _ _ (proper_quiet _ (.accepted 2 true) ?_) rfl
    · apply Runs.allowed_cons _ _ _ _ _ (proper_quiet _ .failed (fun _ _ given => by cases given)) rfl
      apply Runs.allowed_cons _ _ _ _ _ (proper_quiet _ .wouldBlock (fun _ _ given => by cases given)) rfl
      apply Runs.allowed_cons _ _ _ _ _ (proper_quiet _ .failed (fun _ _ given => by cases given)) rfl
      exact Runs.allowed_cons _ _ _ _ _ (proper_quiet _ .failed (fun _ _ given => by cases given)) rfl trivial
    · intro count writable given
      cases given
      exact ⟨by decide, by decide⟩
  · change 3 ≤ pipStart.buf.length
    rw [pip_fresh.buf]
    decide

theorem pipling_relays_full : ∃ s,
    Runs.run (pipAct pipOps false (some true) false) pipStart pipCall = some s ∧
      s.phase = .returned 1 ∧ s.registered = [(true, .output)] ∧ s.accepted = [1, 2] ∧
        s.pending = [3] ∧ Relayed pipOps false (some true) false s := by
  refine ⟨_, rfl, rfl, rfl, rfl, rfl, ?_⟩
  apply pipling_relays pipOps false (some true) false pipStart _ pip_fresh pipCall pip_proper rfl

end Runs

end Libtx
