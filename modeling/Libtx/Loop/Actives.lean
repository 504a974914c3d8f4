import Libtx.Count.Holder
import Libtx.Loop.Timeout

namespace Libtx

open Intrusive Count

variable {L T W P R : Type}

def Exact (tally : Tally) (q : Rounds.Queue T) : Prop := tally.actives.toInt = (q.linked.countP q.claim : Int)

variable [DecidableEq T]

section Queue

variable {tally : Tally} {q next : Rounds.Queue T}

theorem accepts_unique (event : Rounds.Event T) (other : Rounds.Queue T)
    (first : Rounds.Accepts q event next) (second : Rounds.Accepts q event other) : other = next := by
  cases first with
  | activate task fresh =>
      cases second
      rfl
  | link task fresh =>
      cases second
      rfl
  | serve task rest running front =>
      generalize claimed : q.claim task = claim at second
      cases second with
      | serve _ rest' _ front' =>
          rw [front] at front'
          injection front' with _ same
          rw [same]
  | discard task =>
      generalize claimed : q.claim task = claim at second
      cases second
      rfl
  | turn leaves running done =>
      cases second
      rfl
  | enter resting =>
      cases second
      rfl
  | halt running =>
      cases second
      rfl

theorem steps_unique (events : List (Rounds.Event T)) (other : Rounds.Queue T)
    (first : Rounds.Steps q events next) (second : Rounds.Steps q events other) : other = next := by
  induction first with
  | nil q =>
      cases second
      rfl
  | cons q middle last event events head tail ih =>
      cases second with
      | cons _ middle' _ _ _ head' tail' =>
          have same := accepts_unique event middle' head head'
          exact ih (same ▸ tail')

/-- A discard takes the claim of the task away with it. -/
theorem countP_discard (q : Rounds.Queue T) (task : T) (sound : q.Sound) :
    (((q.remove task).mark task false).linked.countP ((q.remove task).mark task false).claim : Int) +
      (q.claim task).toNat = (q.linked.countP q.claim : Int) := by
  have absent : task ∉ (q.remove task).linked := by simp [Rounds.linked_remove]
  have same : ((q.remove task).mark task false).linked.countP ((q.remove task).mark task false).claim =
      (q.remove task).linked.countP q.claim :=
    countP_mark (q.remove task).linked q.claim task false absent
  rw [same, Rounds.linked_remove]
  cases claimed : q.claim task with
  | false =>
      have rest : (q.linked.filter (fun other => decide (other ≠ task))).countP q.claim =
          q.linked.countP q.claim := by
        rw [List.countP_filter]
        apply List.countP_congr
        intro other _
        by_cases equal : other = task
        · simp [equal, claimed]
        · simp [equal]
      rw [rest]
      simp
  | true =>
      have member := sound.claimed task claimed
      have filtered : q.linked.filter (fun other => decide (other ≠ task)) = q.linked.erase task := by
        rw [List.Nodup.erase_eq_filter sound.nodup]
        apply List.filter_congr
        intro other _
        simp [bne, beq_eq_decide]
      rw [filtered, List.countP_erase, if_pos ⟨member, claimed⟩]
      have positive : 0 < q.linked.countP q.claim := List.countP_pos_iff.mpr ⟨task, member, claimed⟩
      simp only [Bool.toNat_true]
      omega

theorem countP_activate (q : Rounds.Queue T) (task : T) (sound : q.Sound) (fresh : task ∉ q.linked) :
    ((q.insert task).mark task true).linked.countP ((q.insert task).mark task true).claim =
      q.linked.countP q.claim + 1 := by
  rw [Rounds.linked_mark, Rounds.linked_insert q task sound.resting, List.countP_append]
  simp only [Rounds.Queue.mark, Rounds.claim_insert, countP_mark q.linked q.claim task true fresh,
    List.countP_singleton, Function.update_self, if_true]

theorem exact_accepts (event : Rounds.Event T) (accepted : Rounds.Accepts q event next) (sound : q.Sound)
    (covers : Covers tally q) (room : tally.Room event) (harmless : ∀ task, event ≠ .discard task true)
    (exact : Exact tally q) : Exact (tally.count event) next := by
  cases accepted with
  | activate task fresh =>
      have more := toInt_incr tally.actives (room task rfl)
      rw [Exact] at exact
      rw [Exact, countP_activate q task sound fresh]
      simp only [Tally.count]
      omega
  | link task fresh =>
      have unclaimed : q.claim task = false := by
        cases claimed : q.claim task with
        | false => rfl
        | true => exact absurd (sound.claimed task claimed) fresh
      rw [Exact, Rounds.linked_insert q task sound.resting, List.countP_append]
      simpa [unclaimed, Tally.count, Exact] using exact
  | serve task rest running front =>
      have linked : q.linked = task :: (rest ++ q.later) := by simp [Rounds.Queue.linked, front]
      have absent : task ∉ rest ++ q.later := by
        have nodup := sound.nodup
        rw [linked] at nodup
        exact (List.nodup_cons.mp nodup).1
      rw [Exact, linked, List.countP_cons] at exact
      have left : ({ q with ready := rest }.mark task false).linked.countP
          ({ q with ready := rest }.mark task false).claim = (rest ++ q.later).countP q.claim :=
        countP_mark (rest ++ q.later) q.claim task false absent
      rw [Exact, left]
      cases claimed : q.claim task with
      | false => simpa [Tally.count, claimed] using exact
      | true =>
          rw [claimed] at exact
          simp only [if_true] at exact
          simp only [Tally.count, if_true]
          rw [toInt_decr tally.actives (by omega)]
          omega
  | discard task =>
      have counts := countP_discard q task sound
      cases claimed : q.claim task with
      | false =>
          rw [claimed] at counts
          simp only [Bool.toNat_false] at counts
          rw [Exact] at exact
          rw [Exact]
          simp only [Tally.count]
          omega
      | true => exact absurd (congrArg (Rounds.Event.discard task) claimed) (harmless task)
  | turn leaves running done =>
      have linked : q.linked = q.later := by simp [Rounds.Queue.linked, done]
      rw [Exact, linked] at exact
      simp only [Exact, Rounds.Queue.linked, List.append_nil, Tally.count]
      by_cases even : tally.busy &&& 1 = 0
      · -- no claim is left behind by a round in which nothing was activated
        have none : q.later.countP q.claim = 0 := by
          apply List.countP_eq_zero.mpr
          intro task member claimed
          exact covers.later task member claimed ((busy_and_one tally.busy).mp even)
        rw [if_neg (not_not.mpr even), none]
        rfl
      · rw [if_pos even]
        exact exact
  | enter resting => exact exact
  | halt running => simpa [Exact, Rounds.Queue.linked, Tally.count] using exact

theorem exact_steps (events : List (Rounds.Event T)) (steps : Rounds.Steps q events next) (sound : q.Sound)
    (covers : Covers tally q) (fits : tally.Fits events) (harmless : ∀ task, .discard task true ∉ events)
    (exact : Exact tally q) : Exact (events.foldl Tally.count tally) next := by
  induction steps generalizing tally with
  | nil => exact exact
  | cons q middle last event events head tail ih =>
      apply ih (Rounds.sound_accepts q middle event head sound)
        (covers_accepts tally q middle event head sound fits.1 covers) fits.2
      · intro task member
        exact harmless task (List.mem_cons_of_mem event member)
      · apply exact_accepts event head sound covers fits.1 _ exact
        intro task same
        exact harmless task (same ▸ List.mem_cons_self)

theorem exact_discard (task : T) (accepted : Rounds.Accepts q (.discard task true) next) (sound : q.Sound)
    (exact : Exact tally q) : ¬ Exact (tally.count (.discard task true)) next := by
  generalize claimed : true = claim at accepted
  cases accepted with
  | discard =>
      have counts := countP_discard q task sound
      rw [← claimed] at counts
      intro again
      rw [Exact] at exact again
      simp only [Tally.count] at again
      simp only [Bool.toNat_true] at counts
      omega

/-- The counter is below the number of open claims. -/
def Lags (tally : Tally) (q : Rounds.Queue T) : Prop := tally.actives.toInt < (q.linked.countP q.claim : Int)

theorem lags_accepts (event : Rounds.Event T) (rouses : Rouses event) (accepted : Rounds.Accepts q event next)
    (sound : q.Sound) (lags : Lags tally q) : Lags (tally.count event) next := by
  cases accepted with
  | activate task fresh =>
      have bound := toInt_incr_le tally.actives
      rw [Lags] at lags
      rw [Lags, countP_activate q task sound fresh]
      simp only [Tally.count]
      omega
  | discard task =>
      have counts := countP_discard q task sound
      cases claimed : q.claim task with
      | false =>
          rw [claimed] at counts
          simp only [Bool.toNat_false] at counts
          rw [Lags] at lags
          rw [Lags]
          simp only [Tally.count]
          omega
      | true =>
          rw [claimed] at rouses
          cases rouses
  | link task fresh => cases rouses
  | serve task rest running front => cases rouses
  | turn leaves running done => cases rouses
  | enter resting => cases rouses
  | halt running => cases rouses

theorem lags_steps (events : List (Rounds.Event T)) (steps : Rounds.Steps q events next)
    (rouses : ∀ event ∈ events, Rouses event) (sound : q.Sound) (lags : Lags tally q) :
    Lags (events.foldl Tally.count tally) next := by
  induction steps generalizing tally with
  | nil => exact lags
  | cons q middle last event events head tail ih =>
      exact ih (fun other member => rouses other (List.mem_cons_of_mem event member))
        (Rounds.sound_accepts q middle event head sound)
        (lags_accepts event (rouses event List.mem_cons_self) head sound lags)

theorem overflow_steps (events : List (Rounds.Event T)) (steps : Rounds.Steps q events next)
    (rouses : ∀ event ∈ events, Rouses event) (sound : q.Sound) (covers : Covers tally q)
    (wraps : ¬ tally.Fits events) (exact : Exact tally q) : Lags (events.foldl Tally.count tally) next := by
  induction steps generalizing tally with
  | nil => exact absurd trivial wraps
  | cons q middle last event events head tail ih =>
      have after := Rounds.sound_accepts q middle event head sound
      have more (other) (member : other ∈ events) := rouses other (List.mem_cons_of_mem event member)
      by_cases room : tally.Room event
      · refine ih more after (covers_accepts tally q middle event head sound room covers)
          (fun fits => wraps ⟨room, fits⟩) (exact_accepts event head sound covers room ?_ exact)
        rintro task rfl
        exact rouses _ List.mem_cons_self
      · refine lags_steps events tail more after ?_
        simp only [Tally.Room, not_forall, not_not] at room
        obtain ⟨task, same, full⟩ := room
        subst same
        cases head with
        | activate _ fresh =>
            have largest : (BitVec.intMax 32).toInt = 2 ^ 31 - 1 := by decide
            have wrapped : (BitVec.intMax 32 + 1).toInt = -2 ^ 31 := by decide
            rw [Exact, full, largest] at exact
            rw [Lags, countP_activate q task sound fresh]
            simp only [Tally.count, full, wrapped]
            omega

end Queue

/-- `tx_actives` of every loop is the number of busy tasks on its queue; so where there are
none, and no break is asked for, the holder may block. -/
structure ActivesExact (s : World L T W P R) : Prop where
  counts : ∀ up, Counts (fun task => (s.task task).txFlags.busy = true ∧
    Holds s.heap (.taskq up) (.task task)) (s.loop up).txActives.toInt
  blocks : ∀ [DecidableEq P] (up : L) (verify : Option P),
    (∀ task, (s.task task).txFlags.busy = true → ¬ Holds s.heap (.taskq up) (.task task)) →
      (s.loop up).txBreak = false → (s.loop up).txHolder = none ∨ (s.loop up).txHolder = verify →
        txLoopTimeout (s.loop up) verify ≠ 0

section Refined

variable {s next : World L T W P R} {v after : View L T W}

omit [DecidableEq T] in
theorem actives_block [DecidableEq P] (up : L) (verify : Option P)
    (counts : Counts (fun task => (s.task task).txFlags.busy = true ∧
      Holds s.heap (.taskq up) (.task task)) (s.loop up).txActives.toInt)
    (quiet : ∀ task, (s.task task).txFlags.busy = true → ¬ Holds s.heap (.taskq up) (.task task))
    (unbroken : (s.loop up).txBreak = false)
    (holder : (s.loop up).txHolder = none ∨ (s.loop up).txHolder = verify) :
    txLoopTimeout (s.loop up) verify ≠ 0 := by
  have idle : ¬ 0 < (s.loop up).txActives.toInt := by
    rw [counts.pos]
    rintro ⟨task, busy, linked⟩
    exact quiet task busy linked
  rw [txLoopTimeout, if_neg (fun busy => idle busy.2), if_neg (by simp [unbroken])]
  rcases holder with absent | same
  · simp [absent]
  · simp [same]

theorem Refines.exact_iff (h : Refines s v) (up : L) :
    Counts (fun task => (s.task task).txFlags.busy = true ∧ Holds s.heap (.taskq up) (.task task))
      (s.loop up).txActives.toInt ↔ Exact ⟨(s.loop up).txBusy, (s.loop up).txActives⟩ (v.queue up) := by
  have listed := counts_list (v.queue up).linked (h.sound up).nodup (v.queue up).claim
  have busy_linked : Counts (fun task => (s.task task).txFlags.busy = true ∧
      Holds s.heap (.taskq up) (.task task)) ((v.queue up).linked.countP (v.queue up).claim) := by
    apply listed.congr
    intro task
    rw [holds_iff s.heap v.nodes h.linked]
    have queued : .task task ∈ v.nodes (.taskq up) ↔ task ∈ (v.queue up).linked :=
      mem_queueNodes up (v.queue up) task
    rw [queued, and_comm]
    apply and_congr_right
    intro member
    rw [h.busy task, h.own up task member]
  constructor
  · intro counts
    exact counts.unique busy_linked
  · intro same
    rw [Exact] at same
    rw [same]
    exact busy_linked

/-- What a step adds to the history takes the queue before it to the queue after it. -/
theorem Refines.added (h : Refines s v) (refined : Refines next after) (up : L)
    (added : List (Rounds.Event T)) (history : next.history up = s.history up ++ added) :
    Rounds.Steps (v.queue up) added (after.queue up) := by
  have steps := refined.steps up
  rw [history] at steps
  obtain ⟨middle, early, late⟩ := (Rounds.steps_append _ _ _ _).mp steps
  have same := steps_unique (s.history up) middle (h.steps up) early
  exact same ▸ late

omit [DecidableEq T] in
theorem Counted.added (counted : Counted s) (recounted : Counted next) (up : L) (added : List (Rounds.Event T))
    (history : next.history up = s.history up ++ added) :
    (⟨(next.loop up).txBusy, (next.loop up).txActives⟩ : Tally) =
      added.foldl Tally.count ⟨(s.loop up).txBusy, (s.loop up).txActives⟩ := by
  rw [← recounted up, history, tallied, List.foldl_append]
  exact congrArg (fun tally => added.foldl Tally.count tally) (counted up)

variable [DecidableEq L] [DecidableEq W]

theorem actives_keep (h : Refines s v) (counted : Counted s) (unwrapped : ∀ up, Unwrapped s up)
    (refined : Refines next after) (recounted : Counted next) (step : Step s next)
    (harmless : ¬ DropsBusy s next) (fits : ¬ Overflows s next) (exact : ActivesExact s) :
    ActivesExact next := by
  have counts : ∀ up, Counts (fun task => (next.task task).txFlags.busy = true ∧
      Holds next.heap (.taskq up) (.task task)) (next.loop up).txActives.toInt := by
    intro up
    obtain ⟨added, history, quiet⟩ : ∃ added, next.history up = s.history up ++ added ∧
        ∀ task, .discard task true ∉ added := by
      cases notes_step step with
      | drops busy _ => exact absurd busy harmless
      | rouses adds | steady adds =>
          obtain ⟨added, history, kinds⟩ := adds up
          exact ⟨added, history, fun task member => kinds _ member⟩
    have fit : Tally.Fits ⟨(s.loop up).txBusy, (s.loop up).txActives⟩ added := by
      by_contra wraps
      exact fits ⟨up, added, history, wraps⟩
    have before := (h.exact_iff up).mp (exact.counts up)
    rw [refined.exact_iff up, counted.added recounted up added history]
    exact exact_steps added (h.added refined up added history) (h.sound up) (h.covers counted up (unwrapped up))
      fit quiet before
  exact ⟨counts, fun up verify => actives_block up verify (counts up)⟩

theorem actives_lost (h : Refines s v) (counted : Counted s) (refined : Refines next after)
    (recounted : Counted next) (drops : DropsBusy s next) (exact : ActivesExact s) : ¬ ActivesExact next := by
  have discarded : ∃ up task, next.history up = s.history up ++ [.discard task true] := by
    have dropped (task : T) (busy : (s.task task).txFlags.busy = true) :
        (txTaskDrop s (some task)).history (s.task task).txLoop =
          s.history (s.task task).txLoop ++ [.discard task true] := by
      have linked : (s.task task).txFlags.idle = false := by
        cases idle : (s.task task).txFlags.idle with
        | false => rfl
        | true =>
            rw [h.idle_busy task idle] at busy
            cases busy
      rw [txTaskDrop_linked task linked]
      simp [busy]
    cases drops with
    | drop task busy => exact ⟨_, task, dropped task busy⟩
    | record taskq task busy =>
        refine ⟨(s.task task).txLoop, task, ?_⟩
        exact dropped task busy
  obtain ⟨up, task, history⟩ := discarded
  intro again
  have before := (h.exact_iff up).mp (exact.counts up)
  have now := (refined.exact_iff up).mp (again.counts up)
  rw [counted.added recounted up _ history] at now
  cases h.added refined up _ history with
  | cons _ last _ _ _ head tail =>
      cases tail with
      | nil => exact exact_discard task head (h.sound up) before now

theorem actives_lag (h : Refines s v) (counted : Counted s) (unwrapped : ∀ up, Unwrapped s up)
    (refined : Refines next after) (recounted : Counted next) (step : Step s next)
    (wraps : Overflows s next) (exact : ActivesExact s) : ¬ ActivesExact next := by
  intro again
  obtain ⟨up, added, history, wraps⟩ := wraps
  have still (quiet : ∀ task, .activate task ∉ added) : False := wraps (fits_still _ added quiet)
  have known {kind : Rounds.Event T → Prop} (adds : Adds kind up s next) : ∀ event ∈ added, kind event := by
    obtain ⟨events, grown, kinds⟩ := adds
    rw [history, List.append_cancel_left_eq] at grown
    exact grown ▸ kinds
  cases notes_step step with
  | steady adds => exact still fun task member => known (adds up) _ member
  | drops _ adds =>
      apply still
      intro task member
      obtain ⟨other, same⟩ := known (adds up) _ member
      cases same
  | rouses adds =>
      have before := (h.exact_iff up).mp (exact.counts up)
      have now := (refined.exact_iff up).mp (again.counts up)
      rw [counted.added recounted up added history] at now
      have lags := overflow_steps added (h.added refined up added history) (known (adds up)) (h.sound up)
        (h.covers counted up (unwrapped up)) wraps before
      exact absurd now lags.ne

end Refined

variable [DecidableEq L] [DecidableEq W]

/-- In a run from new loops the counters are exact all along if and only if no step drops or
records a busy task, and no activation overflows. -/
theorem actives_exact (memory : World L T W P R) (loopOf : T → L) (later : List (World L T W P R))
    (steps : List.IsChain Step (World.start memory loopOf :: later)) :
    (∀ s ∈ World.start memory loopOf :: later, ActivesExact s) ↔
      List.IsChain (fun s next => ¬ DropsBusy s next ∧ ¬ Overflows s next)
        (World.start memory loopOf :: later) := by
  have fresh : ActivesExact (World.start memory loopOf) := by
    have counts : ∀ up, Counts (fun task => ((World.start memory loopOf).task task).txFlags.busy = true ∧
        Holds (World.start memory loopOf).heap (.taskq up) (.task task))
          ((World.start memory loopOf).loop up).txActives.toInt := by
      intro up
      apply counts_none
      simp [World.start, txTaskInit]
    exact ⟨counts, fun up verify => actives_block up verify (counts up)⟩
  have refined : ∃ v, Refines (World.start memory loopOf) v := ⟨_, refines_start memory loopOf⟩
  have counted : Counted (World.start memory loopOf) :=
    counted_reachable _ ⟨memory, loopOf, Relation.ReflTransGen.refl⟩
  have unwrapped : ∀ up, Unwrapped (World.start memory loopOf) up := fun up => trivial
  generalize World.start memory loopOf = s at steps fresh refined counted unwrapped
  induction later generalizing s with
  | nil => simp [fresh]
  | cons next later ih =>
      obtain ⟨step, rest⟩ := List.isChain_cons_cons.mp steps
      obtain ⟨v, h⟩ := refined
      obtain ⟨after, refined⟩ := refines_step s next step v h
      have recounted := counted.step next step
      have unwraps (fits : ¬ Overflows s next) (up : L) : Unwrapped next up :=
        unwrapped_step counted step fits up (unwrapped up)
      rw [List.isChain_cons_cons]
      constructor
      · intro always
        have exact : ActivesExact next := always next (by simp)
        have harmless : ¬ DropsBusy s next :=
          fun drops => actives_lost h counted refined recounted drops fresh exact
        have fits : ¬ Overflows s next :=
          fun wraps => actives_lag h counted unwrapped refined recounted step wraps fresh exact
        refine ⟨⟨harmless, fits⟩, (ih next rest exact ⟨after, refined⟩ recounted (unwraps fits)).mp ?_⟩
        intro other member
        exact always other (List.mem_cons_of_mem s member)
      · intro good other member
        have exact := actives_keep h counted unwrapped refined recounted step good.1.1 good.1.2 fresh
        rcases List.mem_cons.mp member with same | inside
        · exact same ▸ fresh
        · exact (ih next rest exact ⟨after, refined⟩ recounted (unwraps good.1.2)).mpr good.2 other inside

def pairDropped : World Unit Bool Unit Unit Unit :=
  txTaskDrop (txTaskActive pairStart (some true) none) (some true)

theorem pair_harmless (next : World Unit Bool Unit Unit Unit) : ¬ DropsBusy pairStart next := by
  intro drops
  cases drops with
  | drop task busy => cases busy
  | record taskq task busy => cases busy

theorem actives_exact_pair :
    ActivesExact pairStart ∧ ActivesExact (txTaskActive pairStart (some true) none) := by
  have steps : List.IsChain Step [pairStart, txTaskActive pairStart (some true) none] :=
    List.isChain_cons_cons.mpr ⟨.active _ (some true) none, List.isChain_singleton _⟩
  have fits : ¬ Overflows pairStart (txTaskActive pairStart (some true) none) := by
    apply fits_added (fun _ => [.activate true]) (fun _ => rfl)
    intro up
    refine ⟨fun task _ => ?_, trivial⟩
    change (0 : BitVec 32) ≠ .intMax 32
    decide
  have exact_all := (actives_exact _ _ _ steps).mpr
    (List.isChain_cons_cons.mpr ⟨⟨pair_harmless _, fits⟩, List.isChain_singleton _⟩)
  exact ⟨exact_all _ List.mem_cons_self, exact_all _ (List.mem_cons_of_mem _ List.mem_cons_self)⟩

theorem actives_too_many :
    List.IsChain Step [pairStart, txTaskActive pairStart (some true) none, pairDropped] ∧
      ¬ ActivesExact pairDropped := by
  constructor
  · refine List.isChain_cons_cons.mpr ⟨.active _ (some true) none, ?_⟩
    exact List.isChain_cons_cons.mpr ⟨.drop _ (some true), List.isChain_singleton _⟩
  · intro exact
    have one : (pairDropped.loop ()).txActives.toInt = 1 := by decide
    have counts := exact.counts ()
    rw [one] at counts
    obtain ⟨task, busy, _⟩ := counts.pos.mp (by decide)
    cases task with
    | false => cases busy
    | true => cases busy

end Libtx
