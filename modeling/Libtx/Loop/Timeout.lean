import Libtx.Loop.History
import Libtx.Rounds.Orderly
import Mathlib.Data.List.Chain

namespace Libtx

open Intrusive

variable {L T W P R : Type}

structure Tally where
  busy : BitVec 32
  actives : BitVec 32

/-- What an event does to the counters. A discard leaves them alone. -/
def Tally.count (tally : Tally) : Rounds.Event T → Tally
  | .activate _ => ⟨tally.busy ||| 1, tally.actives + 1⟩
  | .serve _ claim => ⟨tally.busy, if claim then tally.actives - 1 else tally.actives⟩
  | .turn _ => ⟨tally.busy <<< 1, if tally.busy &&& 1 ≠ 0 then tally.actives else 0⟩
  | _ => tally

def Tally.Room (tally : Tally) (event : Rounds.Event T) : Prop :=
  ∀ task, event = .activate task → tally.actives ≠ .intMax 32

/-- No activation of `events` finds `tx_actives` at the largest `int`. -/
def Tally.Fits (tally : Tally) : List (Rounds.Event T) → Prop
  | [] => True
  | event :: events => tally.Room event ∧ (tally.count event).Fits events

def tallied (events : List (Rounds.Event T)) : Tally := events.foldl Tally.count ⟨0, 0⟩

theorem fits_append (tally : Tally) (before after : List (Rounds.Event T)) :
    tally.Fits (before ++ after) ↔ tally.Fits before ∧ (before.foldl Tally.count tally).Fits after := by
  induction before generalizing tally with
  | nil => simp [Tally.Fits]
  | cons event before ih => simp [Tally.Fits, ih, and_assoc]

theorem fits_still (tally : Tally) (events : List (Rounds.Event T)) (still : ∀ task, .activate task ∉ events) :
    tally.Fits events := by
  induction events generalizing tally with
  | nil => trivial
  | cons event events ih =>
      refine ⟨?_, ih _ fun task member => still task (List.mem_cons_of_mem event member)⟩
      intro task same
      exact absurd (same ▸ List.mem_cons_self) (still task)

theorem toInt_incr (count : BitVec 32) (room : count ≠ .intMax 32) : (count + 1).toInt = count.toInt + 1 := by
  have value : count.toNat ≠ (BitVec.intMax 32).toNat := fun same => room (BitVec.eq_of_toNat_eq same)
  rw [BitVec.toNat_intMax] at value
  rw [BitVec.toInt_eq_toNat_cond, BitVec.toInt_eq_toNat_cond, BitVec.toNat_add]
  have below := count.isLt
  have one : (1 : BitVec 32).toNat = 1 := rfl
  split <;> split <;> omega

theorem toInt_decr (count : BitVec 32) (positive : 0 < count.toInt) : (count - 1).toInt = count.toInt - 1 := by
  rw [BitVec.toInt_eq_toNat_cond] at positive
  rw [BitVec.toInt_eq_toNat_cond, BitVec.toInt_eq_toNat_cond, BitVec.toNat_sub]
  have below := count.isLt
  have one : (1 : BitVec 32).toNat = 1 := rfl
  split at positive <;> split <;> omega

theorem toInt_incr_le (count : BitVec 32) : (count + 1).toInt ≤ count.toInt + 1 := by
  rw [BitVec.toInt_eq_toNat_cond, BitVec.toInt_eq_toNat_cond, BitVec.toNat_add]
  have below := count.isLt
  have one : (1 : BitVec 32).toNat = 1 := rfl
  split <;> split <;> omega

theorem tallied_snoc (events : List (Rounds.Event T)) (event : Rounds.Event T) :
    tallied (events ++ [event]) = (tallied events).count event := by
  simp [tallied]

def Counted (s : World L T W P R) : Prop :=
  ∀ up, tallied (s.history up) = ⟨(s.loop up).txBusy, (s.loop up).txActives⟩

section Count

variable {s : World L T W P R} [DecidableEq L]

theorem Counted.event (counted : Counted s) (next : World L T W P R) (up : L)
    (event : Rounds.Event T) (loop : TxLoop P T)
    (history : next.history = Function.update s.history up (s.history up ++ [event]))
    (loops : next.loop = Function.update s.loop up loop)
    (counts : (⟨loop.txBusy, loop.txActives⟩ : Tally) =
      (⟨(s.loop up).txBusy, (s.loop up).txActives⟩ : Tally).count event) : Counted next := by
  intro other
  rw [history, loops]
  by_cases same : other = up
  · subst same
    simp only [Function.update_self]
    rw [tallied_snoc, counted other, counts]
  · simp only [Function.update_of_ne same]
    exact counted other

variable [DecidableEq T]

theorem Counted.call (counted : Counted s) (up : L) (task : T) (firstRun : Bool) :
    Counted (txLoopMainCall s up task firstRun) := by
  apply counted.event _ up (.serve task (s.task task).txFlags.busy)
  · rfl
  · rfl
  · rfl

variable [DecidableEq W]

theorem Counted.drop (counted : Counted s) (task : T) : Counted (txTaskDrop s (some task)) := by
  cases idle : (s.task task).txFlags.idle with
  | true =>
      rw [txTaskDrop_idle task idle]
      exact counted
  | false =>
      rw [txTaskDrop_linked task idle]
      apply counted.event _ (s.task task).txLoop (.discard task (s.task task).txFlags.busy)
        (s.loop (s.task task).txLoop)
      · rfl
      · simp
      · rfl

theorem Counted.active (counted : Counted s) (task : T) (reason : Option R) :
    Counted (txTaskActive s (some task) reason) := by
  by_cases effective : (s.loop (s.task task).txLoop).txStop = false ∧ (s.task task).txFlags.busy = false
  · have dropped := counted.drop task
    simp only [txTaskActive, if_pos effective]
    apply dropped.event _ (s.task task).txLoop (.activate task)
    · rfl
    · rfl
    · rfl
  · rw [txTaskActive_refused task reason effective]
    exact counted

theorem Counted.wakeup_from (counted : Counted s) (reason : Option R) (fuel : Nat)
    (cur : Option (Node L T)) (woken : World L T W P R)
    (result : txTaskWakeupFrom reason fuel s cur = some woken) : Counted woken := by
  apply wakeup_from_keeps Counted reason _ fuel s woken cur counted result
  intro world task kept
  have cleared : Counted (world.setFlags task (fun flags => { flags with pending := false })) := kept
  exact cleared.active task reason

theorem Counted.poll (counted : Counted s) (poll : T) : Counted (txPollActive s poll) := by
  unfold txPollActive
  dsimp only
  split
  · apply counted.event _ (s.task poll).txLoop (.link poll)
    · rfl
    · rfl
    · simp [Tally.count]
  · exact counted

theorem Counted.phony (counted : Counted s) (up : L) : Counted (txLoopMainPhony s up) := by
  unfold txLoopMainPhony
  dsimp only
  split
  · apply counted.event _ up (.turn true)
    · rfl
    · simp [txLoopMainLeave]
      rfl
    · simp [Tally.count]
  · apply counted.event _ up (.turn false)
    · rfl
    · rfl
    · rfl

theorem Counted.step (counted : Counted s) (next : World L T W P R) (step : Step s next) :
    Counted next := by
  cases step with
  | active task reason =>
      cases task with
      | none => exact counted
      | some task => exact counted.active task reason
  | drop task =>
      cases task with
      | none => exact counted
      | some task => exact counted.drop task
  | record taskq task =>
      have dropped := counted.drop task
      exact dropped
  | wakeup _ taskq reason fuel result live =>
      unfold txTaskWakeup at result
      obtain ⟨woken, done, same⟩ := Option.map_eq_some_iff.mp result
      have kept := counted.wakeup_from reason fuel _ woken done
      exact same ▸ kept
  | pollActive poll => exact counted.poll poll
  | mark task => exact counted
  | breaks up | stop up | holder up holder =>
      intro other
      by_cases same : other = up
      · subst same
        simpa [txLoopBreak, txLoopStop, setHolder] using counted other
      · simpa [txLoopBreak, txLoopStop, setHolder, same] using counted other
  | enter up left =>
      apply counted.event _ up .enter (s.loop up)
      · rfl
      · simp [txLoopMainEnter]
      · rfl
  | test _ up firstRun atTest passed =>
      rcases test_cases _ up firstRun passed with ⟨_, ⟨_, same⟩ | ⟨task, _, same⟩⟩ | ⟨_, same⟩
      · have removed : Counted (s.onHeap (fun heap => heap.listRemove (.phony up))) := counted
        exact same ▸ removed.phony up
      · have removed : Counted (s.onHeap (fun heap => heap.listRemove (.task task))) := counted
        exact same ▸ removed.call up task firstRun
      · rw [same]
        apply counted.event _ up .halt (s.loop up)
        · rfl
        · simp [txLoopMainLeave]
        · rfl
  | returned up firstRun task inCall => exact counted

end Count

/-- The counters cover the open claims of the queue: `tx_actives` counts no fewer, those of
the next round have seen no shift of `tx_busy`, and those of this round at most one. -/
structure Covers (tally : Tally) (q : Rounds.Queue T) : Prop where
  count : (q.linked.countP q.claim : Int) ≤ tally.actives.toInt
  later : ∀ task ∈ q.later, q.claim task = true → tally.busy.toNat % 2 ≠ 0
  ready : ∀ task ∈ q.ready, q.claim task = true → tally.busy.toNat % 4 ≠ 0

theorem covers_link (tally : Tally) (q : Rounds.Queue T) (task : T) (sound : q.Sound)
    (fresh : task ∉ q.linked) (covers : Covers tally q) :
    Covers (tally.count (.link task)) (q.insert task) := by
  have unclaimed : q.claim task = false := by
    cases claimed : q.claim task with
    | false => rfl
    | true => exact absurd (sound.claimed task claimed) fresh
  refine ⟨?_, ?_, ?_⟩
  · rw [Rounds.linked_insert q task sound.resting, List.countP_append]
    simp only [Rounds.claim_insert, List.countP_singleton, unclaimed, Tally.count]
    simpa using covers.count
  · intro other member claimed
    rw [Rounds.claim_insert] at claimed
    have apart : other ≠ task := fun same => absurd (same ▸ claimed) (by simp [unclaimed])
    apply covers.later other _ claimed
    cases running : q.running <;> simpa [Rounds.Queue.insert, running, apart] using member
  · intro other member claimed
    rw [Rounds.claim_insert] at claimed
    have apart : other ≠ task := fun same => absurd (same ▸ claimed) (by simp [unclaimed])
    apply covers.ready other _ claimed
    cases running : q.running <;> simpa [Rounds.Queue.insert, running, apart] using member

theorem busy_and_one (b : BitVec 32) : b &&& 1 = 0 ↔ b.toNat % 2 = 0 := by
  rw [← BitVec.toNat_inj, BitVec.toNat_and]
  simp [Nat.and_one_is_mod]

theorem busy_shift (b : BitVec 32) : (b <<< 1).toNat % 4 = 2 * (b.toNat % 2) := by
  rw [BitVec.toNat_shiftLeft, Nat.shiftLeft_eq]
  omega

/-- `tx_actives` is reset only when the round that ends leaves no open claim behind. -/
theorem covers_turn (tally : Tally) (q : Rounds.Queue T) (leaves : Bool) (done : q.ready = [])
    (covers : Covers tally q) :
    Covers (tally.count (.turn leaves : Rounds.Event T))
      { q with ready := q.later, later := [], running := !leaves } := by
  have shifted := busy_shift tally.busy
  have linked : q.linked = q.later := by simp [Rounds.Queue.linked, done]
  refine ⟨?_, by simp, ?_⟩
  · simp only [Rounds.Queue.linked, List.append_nil, Tally.count]
    have bound := covers.count
    rw [linked] at bound
    by_cases even : tally.busy &&& 1 = 0
    · have none : q.later.countP q.claim = 0 := by
        apply List.countP_eq_zero.mpr
        intro task member claimed
        exact covers.later task member claimed ((busy_and_one tally.busy).mp even)
      rw [none, if_neg (not_not.mpr even)]
      decide
    · rw [if_pos even]
      exact bound
  · intro task member claimed
    have odd := covers.later task member claimed
    simp only [Tally.count]
    omega

theorem covers_empty : Covers ⟨0, 0⟩ (.empty : Rounds.Queue T) :=
  ⟨by simp [Rounds.Queue.empty, Rounds.Queue.linked], by simp [Rounds.Queue.empty],
    by simp [Rounds.Queue.empty]⟩

theorem busy_quiet (tally : Tally) (events : List (Rounds.Event T))
    (quiet : ∀ task, .activate task ∉ events) :
    (events.foldl Tally.count tally).busy = tally.busy <<< Rounds.turns events := by
  induction events generalizing tally with
  | nil => simp [Rounds.turns]
  | cons event events ih =>
      have rest := ih (tally.count event)
        (fun task member => quiet task (List.mem_cons_of_mem event member))
      rw [List.foldl_cons, rest]
      cases event with
      | activate task => exact absurd List.mem_cons_self (quiet task)
      | turn leaves =>
          have count : Rounds.turns (.turn leaves :: events) = 1 + Rounds.turns events := by
            simp [Rounds.turns, List.countP_cons, Rounds.Event.isTurn, Nat.add_comm]
          rw [count, BitVec.shiftLeft_add]
          rfl
      | link task | serve task claim | discard task claim | enter | halt => rfl

theorem busy_or_one (b : BitVec 32) : (b ||| 1).toNat % 2 = 1 := by
  rw [BitVec.toNat_or]
  simp [Nat.or_mod_two_eq_one]

variable [DecidableEq T]

theorem countP_mark (tasks : List T) (claim : T → Bool) (task : T) (value : Bool)
    (absent : task ∉ tasks) : tasks.countP (Function.update claim task value) = tasks.countP claim := by
  apply List.countP_congr
  intro other member
  have apart : other ≠ task := fun same => absent (same ▸ member)
  rw [Function.update_of_ne apart]

theorem covers_activate (tally : Tally) (q : Rounds.Queue T) (task : T) (sound : q.Sound)
    (fresh : task ∉ q.linked) (room : tally.actives ≠ .intMax 32) (covers : Covers tally q) :
    Covers (tally.count (.activate task)) ((q.insert task).mark task true) := by
  have odd := busy_or_one tally.busy
  have more := toInt_incr tally.actives room
  refine ⟨?_, ?_, ?_⟩
  · rw [Rounds.linked_mark, Rounds.linked_insert q task sound.resting, List.countP_append]
    simp only [Rounds.Queue.mark, Rounds.claim_insert, countP_mark q.linked q.claim task true fresh,
      List.countP_singleton, Function.update_self, if_true, Tally.count]
    have bound := covers.count
    omega
  · intro other _ _
    simp only [Tally.count]
    omega
  · intro other _ _
    simp only [Tally.count]
    omega

theorem covers_serve (tally : Tally) (q : Rounds.Queue T) (task : T) (rest : List T) (sound : q.Sound)
    (front : q.ready = task :: rest) (covers : Covers tally q) :
    Covers (tally.count (.serve task (q.claim task))) ({ q with ready := rest }.mark task false) := by
  have linked : q.linked = task :: (rest ++ q.later) := by simp [Rounds.Queue.linked, front]
  have absent : task ∉ rest ++ q.later := by
    have nodup := sound.nodup
    rw [linked] at nodup
    exact (List.nodup_cons.mp nodup).1
  have bound := covers.count
  rw [linked, List.countP_cons] at bound
  refine ⟨?_, ?_, ?_⟩
  · simp only [Rounds.Queue.mark, Rounds.Queue.linked, Tally.count,
      countP_mark (rest ++ q.later) q.claim task false absent]
    cases claimed : q.claim task with
    | false => simpa [claimed] using bound
    | true =>
        simp only [claimed, if_true] at bound ⊢
        rw [toInt_decr tally.actives (by omega)]
        omega
  · intro other member claimed
    have apart : other ≠ task := fun same => absent (same ▸ List.mem_append_right _ member)
    rw [Rounds.claim_mark, if_neg apart] at claimed
    exact covers.later other member claimed
  · intro other member claimed
    have apart : other ≠ task := fun same => absent (same ▸ List.mem_append_left _ member)
    rw [Rounds.claim_mark, if_neg apart] at claimed
    exact covers.ready other (front ▸ List.mem_cons_of_mem task member) claimed

theorem covers_discard (tally : Tally) (q : Rounds.Queue T) (task : T) (covers : Covers tally q) :
    Covers (tally.count (.discard task (q.claim task))) ((q.remove task).mark task false) := by
  refine ⟨?_, ?_, ?_⟩
  · have absent : task ∉ (q.remove task).linked := by simp [Rounds.linked_remove]
    have fewer := List.Sublist.countP_le (p := q.claim)
      (List.filter_sublist (p := fun other => decide (other ≠ task)) (l := q.linked))
    have bound := covers.count
    have same : ((q.remove task).mark task false).linked.countP ((q.remove task).mark task false).claim =
        (q.remove task).linked.countP q.claim :=
      countP_mark (q.remove task).linked q.claim task false absent
    rw [same, Rounds.linked_remove]
    simp only [Tally.count]
    omega
  · intro other member claimed
    have inside := List.mem_filter.mp member
    have apart : other ≠ task := by simpa using inside.2
    rw [Rounds.claim_mark, if_neg apart] at claimed
    exact covers.later other inside.1 claimed
  · intro other member claimed
    have inside := List.mem_filter.mp member
    have apart : other ≠ task := by simpa using inside.2
    rw [Rounds.claim_mark, if_neg apart] at claimed
    exact covers.ready other inside.1 claimed

theorem covers_accepts (tally : Tally) (q next : Rounds.Queue T) (event : Rounds.Event T)
    (accepted : Rounds.Accepts q event next) (sound : q.Sound) (room : tally.Room event)
    (covers : Covers tally q) : Covers (tally.count event) next := by
  cases accepted with
  | activate task fresh => exact covers_activate tally q task sound fresh (room task rfl) covers
  | link task fresh => exact covers_link tally q task sound fresh covers
  | serve task rest running front => exact covers_serve tally q task rest sound front covers
  | discard task => exact covers_discard tally q task covers
  | turn leaves running done => exact covers_turn tally q leaves done covers
  | enter resting => exact ⟨covers.count, covers.later, covers.ready⟩
  | halt running =>
      refine ⟨by simpa [Rounds.Queue.linked, Tally.count] using covers.count, by simp, ?_⟩
      intro task member claimed
      rcases List.mem_append.mp member with inside | inside
      · exact covers.ready task inside claimed
      · have odd := covers.later task inside claimed
        simp only [Tally.count]
        omega

theorem covers_steps (tally : Tally) (q last : Rounds.Queue T) (events : List (Rounds.Event T))
    (steps : Rounds.Steps q events last) (sound : q.Sound) (fits : tally.Fits events)
    (covers : Covers tally q) : Covers (events.foldl Tally.count tally) last := by
  induction steps generalizing tally with
  | nil => exact covers
  | cons q middle last event events head tail ih =>
      exact ih (tally.count event) (Rounds.sound_accepts q middle event head sound) fits.2
        (covers_accepts tally q middle event head sound fits.1 covers)

/-- No activation on the loop has found `tx_actives` at the largest `int`. -/
def Unwrapped (s : World L T W P R) (up : L) : Prop := Tally.Fits ⟨0, 0⟩ (s.history up)

theorem Refines.covers {s : World L T W P R} {v : View L T W} (h : Refines s v) (counted : Counted s) (up : L)
    (unwrapped : Unwrapped s up) :
    Covers ⟨(s.loop up).txBusy, (s.loop up).txActives⟩ (v.queue up) := by
  have covers := covers_steps ⟨0, 0⟩ .empty (v.queue up) (s.history up) (h.steps up) Rounds.sound_empty
    unwrapped covers_empty
  have counters := counted up
  unfold tallied at counters
  rw [counters] at covers
  exact covers

section

variable [DecidableEq L] [DecidableEq W]

theorem counted_reachable (s : World L T W P R) (reachable : Reachable s) : Counted s := by
  obtain ⟨memory, loopOf, run⟩ := reachable
  induction run with
  | refl =>
      intro up
      rfl
  | tail _ step ih => exact ih.step _ step

theorem busy_and_three (b : BitVec 32) : b &&& 3 = 0 ↔ b.toNat % 4 = 0 := by
  rw [← BitVec.toNat_inj, BitVec.toNat_and]
  have low := Nat.and_two_pow_sub_one_eq_mod b.toNat 2
  simpa using low ▸ Iff.rfl

theorem busy_two_turns (b : BitVec 32) (count : Nat) (two : 2 ≤ count) :
    (b <<< count) &&& 3 = 0 := by
  obtain ⟨more, rfl⟩ := Nat.exists_eq_add_of_le two
  rw [busy_and_three, BitVec.shiftLeft_add, BitVec.toNat_shiftLeft, Nat.shiftLeft_eq,
    BitVec.toNat_shiftLeft, Nat.shiftLeft_eq]
  have dvd : 4 ∣ b.toNat * 2 ^ 2 % 2 ^ 32 * 2 ^ more := by
    apply Nat.dvd_mul_right_of_dvd
    omega
  omega

/-- An activation of the step finds `tx_actives` of a loop at the largest `int`. -/
def Overflows (s next : World L T W P R) : Prop :=
  ∃ up added, next.history up = s.history up ++ added ∧
    ¬ Tally.Fits ⟨(s.loop up).txBusy, (s.loop up).txActives⟩ added

theorem unwrapped_step {s next : World L T W P R} (counted : Counted s) (step : Step s next)
    (fits : ¬ Overflows s next) (up : L) (unwrapped : Unwrapped s up) : Unwrapped next up := by
  have grown : ∃ added, next.history up = s.history up ++ added := by
    cases notes_step step with
    | rouses adds | drops _ adds | steady adds =>
        obtain ⟨added, history, _⟩ := adds up
        exact ⟨added, history⟩
  obtain ⟨added, history⟩ := grown
  rw [Unwrapped, history, fits_append]
  refine ⟨unwrapped, ?_⟩
  have counters := counted up
  unfold tallied at counters
  rw [counters]
  by_contra wraps
  exact fits ⟨up, added, history, wraps⟩

end

section Reach

variable [DecidableEq P]

/-- Two rounds without an activation let the holder, or anyone when there is none, block. -/
def MayBlock (s : World L T W P R) : Prop :=
  ∀ up before after, s.history up = before ++ after → (∀ task, .activate task ∉ after) →
    2 ≤ Rounds.turns after → (s.loop up).txBreak = false →
      ∀ verify : Option P, (s.loop up).txHolder = none ∨ (s.loop up).txHolder = verify →
        txLoopTimeout (s.loop up) verify ≠ 0

omit [DecidableEq T] in
theorem may_block {s : World L T W P R} (counted : Counted s) : MayBlock s := by
  intro up before after split quiet two unbroken verify holder
  have counters := counted up
  rw [split, tallied, List.foldl_append] at counters
  have shifted := busy_quiet (before.foldl Tally.count ⟨0, 0⟩) after quiet
  rw [counters] at shifted
  simp only at shifted
  have clear : (s.loop up).txBusy &&& 3 = 0 := by
    rw [shifted]
    exact busy_two_turns _ _ two
  rw [txLoopTimeout, if_neg (fun busy => busy.1 clear), if_neg (by simp [unbroken])]
  rcases holder with absent | same
  · simp [absent]
  · simp [same]

theorem Refines.busy_timeout {s : World L T W P R} {v : View L T W} (refines : Refines s v)
    (counted : Counted s) (up : L) (unwrapped : Unwrapped s up) (task : T)
    (busy : (s.task task).txFlags.busy = true) (queued : task ∈ (v.queue up).linked) (verify : Option P) :
    txLoopTimeout (s.loop up) verify = 0 := by
  have claimed : (v.queue up).claim task = true := by
    rw [← refines.own up task queued, ← refines.busy task]
    exact busy
  have covers := refines.covers counted up unwrapped
  have actives : 0 < (s.loop up).txActives.toInt := by
    have some : 0 < (v.queue up).linked.countP (v.queue up).claim :=
      List.countP_pos_iff.mpr ⟨task, queued, claimed⟩
    have bound := covers.count
    simp only at bound
    omega
  have shifted : (s.loop up).txBusy &&& 3 ≠ 0 := by
    intro clear
    have low := (busy_and_three (s.loop up).txBusy).mp clear
    rcases List.mem_append.mp queued with ready | later
    · exact covers.ready task ready claimed low
    · have odd := covers.later task later claimed
      simp only at odd
      omega
  rw [txLoopTimeout, if_pos ⟨shifted, actives⟩]

def NeverBlocks (s : World L T W P R) : Prop :=
  ∀ up task, (s.task task).txFlags.busy = true → Holds s.heap (.taskq up) (.task task) →
    ∀ verify : Option P, txLoopTimeout (s.loop up) verify = 0

theorem never_blocks {s : World L T W P R} {v : View L T W} (refines : Refines s v) (counted : Counted s)
    (unwrapped : ∀ up, Unwrapped s up) : NeverBlocks s := by
  intro up task busy linked verify
  have member := (holds_iff s.heap v.nodes refines.linked (.taskq up) (.task task)).mp linked
  have queued := (mem_queueNodes up (v.queue up) task).mp member
  exact refines.busy_timeout counted up (unwrapped up) task busy queued verify

variable [DecidableEq L] [DecidableEq W]

theorem active_wraps {s : World L T W P R} {v : View L T W} (refines : Refines s v) (task : T)
    (reason : Option R) (live : (s.loop (s.task task).txLoop).txStop = false)
    (idle : (s.task task).txFlags.busy = false)
    (full : (s.loop (s.task task).txLoop).txActives = .intMax 32)
    (unbroken : (s.loop (s.task task).txLoop).txBreak = false) :
    ¬ NeverBlocks (txTaskActive s (some task) reason) := by
  intro never
  obtain ⟨busy, linked⟩ := refines.activated task reason live
  have home : ((txTaskActive s (some task) reason).task task).txLoop = (s.task task).txLoop :=
    txTaskActive_task_loop task task reason
  rw [home] at linked
  have loop : (txTaskActive s (some task) reason).loop (s.task task).txLoop =
      { s.loop (s.task task).txLoop with
        txActives := .intMax 32 + 1
        txBusy := (s.loop (s.task task).txLoop).txBusy ||| 1 } := by
    simp [txTaskActive, live, idle, txTaskDrop_loops, full]
  have quick := never (s.task task).txLoop task busy linked (s.loop (s.task task).txLoop).txHolder
  have below : ¬ 0 < (BitVec.intMax 32 + 1).toInt := by decide
  rw [loop, txLoopTimeout, if_neg (fun busy => below busy.2), if_neg (by simp [unbroken])] at quick
  simp at quick

theorem run_never_blocks (s : World L T W P R) (later : List (World L T W P R))
    (steps : List.IsChain Step (s :: later)) (fits : List.IsChain (fun s next => ¬ Overflows s next) (s :: later))
    (refined : ∃ v, Refines s v) (counted : Counted s) (unwrapped : ∀ up, Unwrapped s up) :
    ∀ world ∈ s :: later, NeverBlocks world := by
  induction later generalizing s with
  | nil =>
      intro world member
      obtain ⟨v, refines⟩ := refined
      exact List.mem_singleton.mp member ▸ never_blocks refines counted unwrapped
  | cons next later ih =>
      obtain ⟨step, rest⟩ := List.isChain_cons_cons.mp steps
      obtain ⟨fit, more⟩ := List.isChain_cons_cons.mp fits
      obtain ⟨v, refines⟩ := refined
      intro world member
      rcases List.mem_cons.mp member with same | inside
      · exact same ▸ never_blocks refines counted unwrapped
      · exact ih next rest more (refines_step s next step v refines) (counted.step next step)
          (fun up => unwrapped_step counted step fit up (unwrapped up)) world inside

/-- In a run from new loops in which no activation overflows `tx_actives`, no poller blocks while a
busy task is queued; two rounds without an activation let it block in every run; and an activation
that overflows lets it block beside the task. -/
theorem timeout_exact (memory : World L T W P R) (loopOf : T → L) (later : List (World L T W P R))
    (steps : List.IsChain Step (World.start memory loopOf :: later)) :
    (List.IsChain (fun s next => ¬ Overflows s next) (World.start memory loopOf :: later) →
      ∀ s ∈ World.start memory loopOf :: later, NeverBlocks s) ∧
    (∀ s ∈ World.start memory loopOf :: later, MayBlock s) ∧
    ∀ s ∈ World.start memory loopOf :: later, ∀ task reason,
      (s.loop (s.task task).txLoop).txStop = false → (s.task task).txFlags.busy = false →
        (s.loop (s.task task).txLoop).txActives = .intMax 32 →
          (s.loop (s.task task).txLoop).txBreak = false → ¬ NeverBlocks (txTaskActive s (some task) reason) := by
  have refined : ∃ v, Refines (World.start memory loopOf) v := ⟨_, refines_start memory loopOf⟩
  have counted : Counted (World.start memory loopOf) :=
    counted_reachable _ ⟨memory, loopOf, Relation.ReflTransGen.refl⟩
  have kept := steps.induction (fun s => (∃ v, Refines s v) ∧ Counted s) _
    (fun s next step ⟨⟨v, refines⟩, counts⟩ => ⟨refines_step s next step v refines, counts.step next step⟩)
    (fun _ => ⟨refined, counted⟩)
  refine ⟨?_, ?_, ?_⟩
  · intro fits
    exact run_never_blocks _ later steps fits refined counted fun up => trivial
  · intro s member
    exact may_block (kept s member).2
  · intro s member task reason live idle full unbroken
    obtain ⟨v, refines⟩ := (kept s member).1
    exact active_wraps refines task reason live idle full unbroken

end Reach

omit [DecidableEq T] in
theorem fits_added {s next : World L T W P R} (added : L → List (Rounds.Event T))
    (history : ∀ up, next.history up = s.history up ++ added up)
    (fits : ∀ up, Tally.Fits ⟨(s.loop up).txBusy, (s.loop up).txActives⟩ (added up)) : ¬ Overflows s next := by
  rintro ⟨up, events, grown, wraps⟩
  rw [history up, List.append_cancel_left_eq] at grown
  exact wraps (grown ▸ fits up)

def pairLater : List (World Unit Bool Unit Unit Unit) :=
  [txTaskRecord pairStart () false, pairActive, txLoopMainEnter pairActive (), pairCalled,
    pairCalled.setMain () (some ⟨true, none⟩), pairPhony (pairCalled.setMain () (some ⟨true, none⟩)), pairQuiet]

theorem pair_steps : List.IsChain Step (pairStart :: pairLater) := by
  refine List.isChain_cons_cons.mpr ⟨.record _ () false, ?_⟩
  refine List.isChain_cons_cons.mpr ⟨.active _ (some true) none, ?_⟩
  refine List.isChain_cons_cons.mpr ⟨.enter _ () rfl, ?_⟩
  refine List.isChain_cons_cons.mpr ⟨.test _ _ () true rfl rfl, ?_⟩
  refine List.isChain_cons_cons.mpr ⟨.returned _ () true true rfl, ?_⟩
  refine List.isChain_cons_cons.mpr ⟨.test _ _ () true rfl rfl, ?_⟩
  exact List.isChain_cons_cons.mpr ⟨.test _ _ () false rfl rfl, List.isChain_singleton _⟩

theorem pair_fits : List.IsChain (fun s next => ¬ Overflows s next) (pairStart :: pairLater) := by
  have still (s next : World Unit Bool Unit Unit Unit) (added : List (Rounds.Event Bool))
      (history : next.history () = s.history () ++ added) (still : ∀ task, .activate task ∉ added) :
      ¬ Overflows s next := fits_added (fun _ => added) (fun _ => history) fun _ => fits_still _ _ still
  refine List.isChain_cons_cons.mpr ⟨still _ _ [] rfl (by simp), ?_⟩
  refine List.isChain_cons_cons.mpr ⟨fits_added (fun _ => [.activate true]) (fun _ => rfl) ?_, ?_⟩
  · intro up
    refine ⟨fun task _ => ?_, trivial⟩
    change (0 : BitVec 32) ≠ .intMax 32
    decide
  refine List.isChain_cons_cons.mpr ⟨still _ _ [.enter] rfl (by simp), ?_⟩
  refine List.isChain_cons_cons.mpr ⟨still _ _ [.serve true true] rfl (by simp), ?_⟩
  refine List.isChain_cons_cons.mpr ⟨still _ _ [] rfl (by simp), ?_⟩
  refine List.isChain_cons_cons.mpr ⟨still _ _ [.turn false] rfl (by simp), ?_⟩
  exact List.isChain_cons_cons.mpr ⟨still _ _ [.turn false] rfl (by simp), List.isChain_singleton _⟩

theorem timeout_exact_pair :
    txLoopTimeout (pairActive.loop ()) (none : Option Unit) = 0 ∧
      txLoopTimeout (pairQuiet.loop ()) (some ()) ≠ 0 := by
  have linked : Holds pairActive.heap (.taskq ()) (.task true) :=
    ⟨[.task true, .tailer ()], ⟨rfl, rfl, rfl, rfl, rfl⟩, by simp⟩
  have exact_run := timeout_exact _ _ pairLater pair_steps
  constructor
  · exact exact_run.1 pair_fits pairActive (by simp [pairLater]) () true rfl linked none
  · apply exact_run.2.1 pairQuiet (by simp [pairLater]) ()
      [.activate true] [.enter, .serve true true, .turn false, .turn false] rfl
    · simp
    · decide
    · rfl
    · exact Or.inl rfl

def pairWorn : Nat → World Unit Bool Unit Unit Unit
  | 0 => pairStart
  | times + 1 => txTaskDrop (txTaskActive (pairWorn times) (some true) none) (some true)

theorem pair_worn (times : Nat) : Reachable (pairWorn times) ∧
    ((pairWorn times).task true).txFlags.busy = false ∧
      (pairWorn times).loop () =
        ⟨((pairWorn times).loop ()).txBusy, false, false, .ofNat 32 times, 0, none, none⟩ := by
  induction times with
  | zero => exact ⟨⟨_, _, .refl⟩, rfl, rfl⟩
  | succ times ih =>
      obtain ⟨⟨memory, loopOf, run⟩, idle, loop⟩ := ih
      have live : ((pairWorn times).loop ()).txStop = false := congrArg TxLoop.txStop loop
      have active : ((txTaskActive (pairWorn times) (some true) none).task true).txFlags.idle = false := by
        simp [txTaskActive, live, idle]
      refine ⟨⟨memory, loopOf, (run.tail (.active _ (some true) none)).tail (.drop _ (some true))⟩, ?_, ?_⟩
      · rw [pairWorn, txTaskDrop_linked true active]
        simp
      · have counts : (txTaskActive (pairWorn times) (some true) none).loop () =
            { (pairWorn times).loop () with
              txActives := ((pairWorn times).loop ()).txActives + 1
              txBusy := ((pairWorn times).loop ()).txBusy ||| 1 } := by
          simp [txTaskActive, live, idle, txTaskDrop_loops]
        rw [pairWorn, txTaskDrop_loops, counts, loop, BitVec.ofNat_add]
        rfl

theorem worn_wraps (times : Nat) (full : BitVec.ofNat 32 times = .intMax 32) :
    Reachable (txTaskActive (pairWorn times) (some true) none) ∧
      ¬ NeverBlocks (txTaskActive (pairWorn times) (some true) none) := by
  obtain ⟨reachable, idle, loop⟩ := pair_worn times
  obtain ⟨v, refines⟩ := refines_reachable _ reachable
  obtain ⟨memory, loopOf, run⟩ := reachable
  refine ⟨⟨memory, loopOf, run.tail (.active _ (some true) none)⟩, ?_⟩
  rw [full] at loop
  apply active_wraps refines true none
  · exact congrArg TxLoop.txStop loop
  · exact idle
  · exact congrArg TxLoop.txActives loop
  · exact congrArg TxLoop.txBreak loop

/-- After `2 ^ 31 - 1` drops of the busy task its next activation lets the pollers block. -/
theorem timeout_wraps : Reachable (txTaskActive (pairWorn 2147483647) (some true) none) ∧
    ¬ NeverBlocks (txTaskActive (pairWorn 2147483647) (some true) none) :=
  worn_wraps 2147483647 (by decide)

end Libtx
