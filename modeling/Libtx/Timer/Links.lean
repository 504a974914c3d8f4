import Libtx.Intrusive.Drain
import Libtx.Timer.Drain

/-! The lists of a timer ring as links in memory. The operations that move timers are
written with the `LIST` macros, and they do to the links what the operations on lists say. -/

namespace Libtx

open Intrusive

/-- A ring whose lists are the links of its timers; the other fields are those of `Timers`. -/
structure TimerLinks (T : Type) where
  heap : Heap Bucket T
  txStTick : UInt64
  tick : Hand → UInt64
  wheel : Hand → UInt64
  timer : T → TxTimer
  txTicks : UInt32
  calls : List T

variable {T : Type}

namespace TimerLinks

def onHeap (s : TimerLinks T) (change : Heap Bucket T → Heap Bucket T) : TimerLinks T :=
  { s with heap := change s.heap }

def bucket (s : TimerLinks T) (interval : UInt32) : Bucket :=
  txTimerBucket ⟨s.txStTick, s.tick, s.wheel, fun _ => ([] : List T)⟩ interval

/-- Where `tx_timer_polling` sends a timer: to no list when it fires. -/
def place (s : TimerLinks T) (ticks : UInt32) (timer : T) : Option Bucket :=
  if asInt ((s.timer timer).interval - ticks - 15) < 0 then none
  else some (s.bucket (s.txTicks + ((s.timer timer).interval - ticks)))

theorem place_fires (ticks : UInt32) (s : TimerLinks T) (cur : T)
    (fires : Fires ticks (s.timer cur).interval) : s.place ticks cur = none := if_pos fires

theorem place_waits (ticks : UInt32) (s : TimerLinks T) (cur : T)
    (waits : ¬ Fires ticks (s.timer cur).interval) :
    s.place ticks cur = some (s.bucket (s.txTicks + ((s.timer cur).interval - ticks))) := if_neg waits

variable [DecidableEq T]

def setTimer (s : TimerLinks T) (timer : T) (value : TxTimer) : TimerLinks T :=
  { s with timer := Function.update s.timer timer value }

def setIdle (s : TimerLinks T) (timer : T) : TimerLinks T :=
  s.setTimer timer { s.timer timer with idle := true }

def txTaskActiveBy (s : TimerLinks T) (timer : T) : TimerLinks T :=
  { s with calls := s.calls ++ [timer] }

def txTimerResetIdle (s : TimerLinks T) (timer : T) (umilsec : UInt32) : TimerLinks T :=
  let interval := s.txTicks + umilsec
  (s.setTimer timer ⟨false, interval⟩).onHeap (fun heap => heap.listInsertHead (s.bucket interval) timer)

def txTimerReset (s : TimerLinks T) (timer : T) (umilsec : UInt32) : TimerLinks T :=
  if (s.timer timer).idle then s.txTimerResetIdle timer umilsec
  else ((s.onHeap (fun heap => heap.listRemove timer)).setIdle timer).txTimerResetIdle timer umilsec

def txTimerDrain (s : TimerLinks T) (timer : T) : TimerLinks T :=
  if (s.timer timer).idle = false then
    ((s.onHeap (fun heap => heap.listRemove timer)).setIdle timer).txTaskActiveBy timer
  else s

def txTimerStop (s : TimerLinks T) (timer : T) : TimerLinks T :=
  if (s.timer timer).idle = false then (s.setIdle timer).onHeap (fun heap => heap.listRemove timer)
  else s

def txTimerPollingEach (ticks : UInt32) (s : TimerLinks T) (cur : T) : TimerLinks T :=
  let removed := s.onHeap (fun heap => heap.listRemove cur)
  let interval := (removed.timer cur).interval
  if asInt (interval - ticks - 15) < 0 then (removed.setIdle cur).txTaskActiveBy cur
  else (removed.setIdle cur).txTimerReset cur (interval - ticks)

def txTimerPollingFrom (ticks : UInt32) : Nat → TimerLinks T → Option T → Option (TimerLinks T)
  | _, s, none => some s
  | 0, _, some _ => none
  | fuel + 1, s, some cur =>
      let next := s.heap.leNext cur
      txTimerPollingFrom ticks fuel (s.txTimerPollingEach ticks cur) next

def txTimerPollingList (ticks : UInt32) (fuel : Nat) (s : TimerLinks T) (bucket : Bucket) :
    Option (TimerLinks T) :=
  let timerq := s.heap.lhFirst bucket
  txTimerPollingFrom ticks fuel (s.onHeap (fun heap => heap.listInit bucket)) timerq

theorem each_fires (ticks : UInt32) (s : TimerLinks T) (cur : T)
    (fires : Fires ticks (s.timer cur).interval) :
    s.txTimerPollingEach ticks cur =
      ((s.onHeap (fun heap => heap.listRemove cur)).setIdle cur).txTaskActiveBy cur := if_pos fires

theorem each_waits (ticks : UInt32) (s : TimerLinks T) (cur : T)
    (waits : ¬ Fires ticks (s.timer cur).interval) :
    s.txTimerPollingEach ticks cur =
      ((s.onHeap (fun heap => heap.listRemove cur)).setIdle cur).txTimerResetIdle cur
        ((s.timer cur).interval - ticks) := by
  have idle : (((s.onHeap (fun heap => heap.listRemove cur)).setIdle cur).timer cur).idle = true := by
    simp [setIdle, setTimer]
  calc s.txTimerPollingEach ticks cur
      = ((s.onHeap (fun heap => heap.listRemove cur)).setIdle cur).txTimerReset cur
          ((s.timer cur).interval - ticks) := if_neg waits
    _ = _ := if_pos idle

theorem each_heap (ticks : UInt32) (s : TimerLinks T) (cur : T) :
    (s.txTimerPollingEach ticks cur).heap = s.heap.relink (s.place ticks) cur := by
  by_cases fires : Fires ticks (s.timer cur).interval
  · rw [each_fires ticks s cur fires, Heap.relink, place_fires ticks s cur fires]
    rfl
  · rw [each_waits ticks s cur fires, Heap.relink, place_waits ticks s cur fires]
    rfl

theorem each_place (ticks : UInt32) (s : TimerLinks T) (cur other : T) (apart : other ≠ cur) :
    (s.txTimerPollingEach ticks cur).place ticks other = s.place ticks other := by
  by_cases fires : Fires ticks (s.timer cur).interval
  · rw [each_fires ticks s cur fires]
    simp [place, bucket, onHeap, txTaskActiveBy, setIdle, setTimer, apart]
  · rw [each_waits ticks s cur fires]
    simp [place, bucket, onHeap, txTimerResetIdle, setIdle, setTimer, apart]

theorem each_calls (ticks : UInt32) (s : TimerLinks T) (cur : T) :
    (s.txTimerPollingEach ticks cur).calls =
      s.calls ++ [cur].filter (fun timer => decide (s.place ticks timer = none)) := by
  by_cases fires : Fires ticks (s.timer cur).interval
  · rw [each_fires ticks s cur fires, List.filter_cons_of_pos (by simp [place_fires ticks s cur fires])]
    rfl
  · rw [each_waits ticks s cur fires, List.filter_cons_of_neg (by simp [place_waits ticks s cur fires])]
    exact (List.append_nil s.calls).symm

/-- The loop is a drain whose decisions are those the code would take at its start: no element
changes what decides about another. -/
theorem pollingFrom_drain (decision : T → Option Bucket) (ticks : UInt32) (fuel : Nat) (s : TimerLinks T)
    (cur : Option T) (last : Heap Bucket T) (visited : List T)
    (drains : Heap.drainFrom decision fuel s.heap cur = some (last, visited)) (nodup : visited.Nodup)
    (decides : ∀ timer ∈ visited, s.place ticks timer = decision timer) :
    txTimerPollingFrom ticks fuel s cur = some (visited.foldl (txTimerPollingEach ticks) s) ∧
      (visited.foldl (txTimerPollingEach ticks) s).heap = last := by
  induction fuel generalizing s cur visited with
  | zero =>
      cases cur with
      | none =>
          injection drains with same
          injection same with heap none
          subst none
          exact ⟨rfl, heap⟩
      | some cur => exact absurd drains (by simp [Heap.drainFrom])
  | succ fuel ih =>
      cases cur with
      | none =>
          injection drains with same
          injection same with heap none
          subst none
          exact ⟨rfl, heap⟩
      | some cur =>
          obtain ⟨result, rest, same⟩ := Option.map_eq_some_iff.mp drains
          injection same with heap visits
          subst heap visits
          have fresh := List.nodup_cons.mp nodup
          have relinked : s.heap.relink decision cur = (s.txTimerPollingEach ticks cur).heap := by
            rw [each_heap, Heap.relink, Heap.relink, decides cur List.mem_cons_self]
          rw [relinked] at rest
          have later : ∀ timer ∈ result.2,
              (s.txTimerPollingEach ticks cur).place ticks timer = decision timer := by
            intro timer member
            have apart : timer ≠ cur := fun same => fresh.1 (same ▸ member)
            rw [each_place ticks s cur timer apart]
            exact decides timer (List.mem_cons_of_mem cur member)
          exact ih (s.txTimerPollingEach ticks cur) _ result.2 rest fresh.2 later

theorem foldl_calls (ticks : UInt32) (s : TimerLinks T) (todo : List T) (nodup : todo.Nodup) :
    (todo.foldl (txTimerPollingEach ticks) s).calls =
      s.calls ++ todo.filter (fun timer => decide (s.place ticks timer = none)) := by
  induction todo generalizing s with
  | nil => exact (List.append_nil s.calls).symm
  | cons cur rest ih =>
      have fresh := List.nodup_cons.mp nodup
      have same : rest.filter
          (fun timer => decide ((s.txTimerPollingEach ticks cur).place ticks timer = none)) =
          rest.filter (fun timer => decide (s.place ticks timer = none)) := by
        apply List.filter_congr
        intro timer member
        have apart : timer ≠ cur := fun same => fresh.1 (same ▸ member)
        rw [each_place ticks s cur timer apart]
      rw [List.foldl_cons, ih _ fresh.2, same, each_calls, List.append_assoc, ← List.filter_append]
      rfl

theorem pollingList_drain (ticks : UInt32) (s : TimerLinks T) (lists : Bucket → List T)
    (linked : Linked s.heap lists) (bucket : Bucket) :
    ∃ next, (∀ fuel, (lists bucket).length ≤ fuel →
        s.txTimerPollingList ticks fuel bucket = some next ∧
        s.heap.drain (s.place ticks) fuel bucket = some (next.heap, lists bucket)) ∧
      next = (lists bucket).foldl (txTimerPollingEach ticks) (s.onHeap (fun heap => heap.listInit bucket)) ∧
      Linked next.heap (drained (s.place ticks) lists bucket) := by
  obtain ⟨last, drains, final⟩ := linked_drain (s.place ticks) s.heap lists linked bucket
  have nodup := linked_nodup s.heap lists linked bucket
  have loop (fuel : Nat) (enough : (lists bucket).length ≤ fuel) :=
    pollingFrom_drain (s.place ticks) ticks fuel (s.onHeap (fun heap => heap.listInit bucket)) _ last _
      (drains fuel enough) nodup (fun _ _ => rfl)
  have heap := (loop _ (Nat.le_refl _)).2
  refine ⟨_, fun fuel enough => ⟨(loop fuel enough).1, ?_⟩, rfl, ?_⟩
  · rw [heap]
    exact drains fuel enough
  · rw [heap]
    exact final

end TimerLinks

structure SameFields (s : TimerLinks T) (lists : Timers T) : Prop where
  stTick : s.txStTick = lists.ring.txStTick
  tick : s.tick = lists.ring.tick
  wheel : s.wheel = lists.ring.wheel
  timer : s.timer = lists.timer
  ticks : s.txTicks = lists.txTicks
  calls : s.calls = lists.calls

structure Spells (s : TimerLinks T) (lists : Timers T) : Prop extends SameFields s lists where
  linked : Linked s.heap lists.ring.timers

section Fields

variable {s : TimerLinks T} {lists : Timers T}

theorem SameFields.bucket (same : SameFields s lists) (interval : UInt32) :
    s.bucket interval = txTimerBucket lists.ring interval := by
  simp only [TimerLinks.bucket, txTimerBucket, same.tick, same.wheel]

theorem SameFields.onHeap (same : SameFields s lists) (change : Heap Bucket T → Heap Bucket T) :
    SameFields (s.onHeap change) lists :=
  ⟨same.stTick, same.tick, same.wheel, same.timer, same.ticks, same.calls⟩

theorem SameFields.onTimers (same : SameFields s lists)
    (change : (Bucket → List T) → Bucket → List T) : SameFields s (lists.onTimers change) :=
  ⟨same.stTick, same.tick, same.wheel, same.timer, same.ticks, same.calls⟩

theorem SameFields.activeBy (same : SameFields s lists) (timer : T) :
    SameFields (s.txTaskActiveBy timer) (txTaskActiveBy lists timer) :=
  ⟨same.stTick, same.tick, same.wheel, same.timer, same.ticks, congrArg (· ++ [timer]) same.calls⟩

theorem SameFields.place_fires (same : SameFields s lists) (ticks : UInt32) (timer : T)
    (fires : Fires ticks (lists.timer timer).interval) : s.place ticks timer = none := by
  rw [← same.timer] at fires
  exact TimerLinks.place_fires ticks s timer fires

theorem SameFields.place_waits (same : SameFields s lists) (ticks : UInt32) (timer : T)
    (waits : ¬ Fires ticks (lists.timer timer).interval) :
    s.place ticks timer =
      some (txTimerBucket lists.ring (lists.txTicks + ((lists.timer timer).interval - ticks))) := by
  rw [← same.timer] at waits ⊢
  rw [TimerLinks.place_waits ticks s timer waits, same.bucket, same.ticks]

variable [DecidableEq T]

theorem SameFields.setIdle (same : SameFields s lists) (timer : T) :
    SameFields (s.setIdle timer) (lists.setIdle timer) where
  stTick := same.stTick
  tick := same.tick
  wheel := same.wheel
  timer := by simp only [TimerLinks.setIdle, TimerLinks.setTimer, Timers.setIdle, Timers.setTimer, same.timer]
  ticks := same.ticks
  calls := same.calls

theorem SameFields.resetIdle (same : SameFields s lists) (timer : T) (umilsec : UInt32) :
    SameFields (s.txTimerResetIdle timer umilsec) (txTimerResetIdle lists timer umilsec) where
  stTick := same.stTick
  tick := same.tick
  wheel := same.wheel
  timer := by
    simp only [TimerLinks.txTimerResetIdle, TimerLinks.onHeap, TimerLinks.setTimer, txTimerResetIdle,
      Timers.listInsertHead, Timers.onTimers, Timers.setTimer, same.timer, same.ticks]
  ticks := same.ticks
  calls := same.calls

theorem SameFields.each (same : SameFields s lists) (ticks : UInt32) (cur : T) :
    SameFields (s.txTimerPollingEach ticks cur) (txTimerPollingEach ticks lists cur) := by
  have removed := (same.onHeap (fun heap => heap.listRemove cur)).setIdle cur
  by_cases fires : Fires ticks (s.timer cur).interval
  · have fires' := fires
    rw [same.timer] at fires'
    rw [TimerLinks.each_fires ticks s cur fires, pollingEach_fires ticks lists cur fires']
    exact removed.activeBy cur
  · have waits := fires
    rw [same.timer] at waits
    rw [TimerLinks.each_waits ticks s cur fires, pollingEach_waits ticks lists cur waits, ← same.timer]
    exact removed.resetIdle cur _

theorem SameFields.foldl (same : SameFields s lists) (ticks : UInt32) (todo : List T) :
    SameFields (todo.foldl (TimerLinks.txTimerPollingEach ticks) s)
      (todo.foldl (txTimerPollingEach ticks) lists) := by
  induction todo generalizing s lists with
  | nil => exact same
  | cons cur rest ih => exact ih (same.each ticks cur)

theorem SameFields.foldl_timers (same : SameFields s lists) (ticks : UInt32) (todo : List T)
    (nodup : todo.Nodup) (other : Bucket) :
    (todo.foldl (txTimerPollingEach ticks) lists).ring.timers other =
      (todo.filter (fun timer => decide (s.place ticks timer = some other))).reverse ++
        lists.ring.timers other := by
  induction todo generalizing s lists with
  | nil => rfl
  | cons cur rest ih =>
      have fresh := List.nodup_cons.mp nodup
      have kept : rest.filter
          (fun timer => decide ((s.txTimerPollingEach ticks cur).place ticks timer = some other)) =
          rest.filter (fun timer => decide (s.place ticks timer = some other)) := by
        apply List.filter_congr
        intro timer member
        have apart : timer ≠ cur := fun same => fresh.1 (same ▸ member)
        rw [TimerLinks.each_place ticks s cur timer apart]
      rw [List.foldl_cons, ih (same.each ticks cur) fresh.2, kept]
      by_cases fires : Fires ticks (lists.timer cur).interval
      · have own := same.place_fires ticks cur fires
        rw [pollingEach_fires ticks lists cur fires, List.filter_cons_of_neg (by simp [own])]
        rfl
      · have own := same.place_waits ticks cur fires
        have timers : (txTimerPollingEach ticks lists cur).ring.timers =
            Function.update lists.ring.timers
              (txTimerBucket lists.ring (lists.txTicks + ((lists.timer cur).interval - ticks)))
              (cur :: lists.ring.timers
                (txTimerBucket lists.ring (lists.txTicks + ((lists.timer cur).interval - ticks)))) := by
          rw [pollingEach_waits ticks lists cur fires]
          rfl
        rw [timers]
        by_cases here : other =
            txTimerBucket lists.ring (lists.txTicks + ((lists.timer cur).interval - ticks))
        · rw [List.filter_cons_of_pos (by simp [own, here]), List.reverse_cons, List.append_assoc, here,
            Function.update_self]
          rfl
        · rw [List.filter_cons_of_neg (by simp [own, Ne.symm here]), Function.update_of_ne here]

theorem Spells.pollingList (spells : Spells s lists) (ticks : UInt32) (bucket : Bucket) :
    ∃ next, (∀ fuel, (lists.ring.timers bucket).length ≤ fuel →
        s.txTimerPollingList ticks fuel bucket = some next) ∧
      Spells next (txTimerPollingList ticks lists bucket) := by
  obtain ⟨next, result, same, linked⟩ :=
    TimerLinks.pollingList_drain ticks s lists.ring.timers spells.linked bucket
  have nodup := linked_nodup s.heap lists.ring.timers spells.linked bucket
  have started : SameFields (s.onHeap (fun heap => heap.listInit bucket)) (lists.listInit bucket) :=
    (spells.toSameFields.onHeap _).onTimers _
  refine ⟨next, fun fuel enough => (result fuel enough).1, ?_⟩
  have fields := started.foldl ticks (lists.ring.timers bucket)
  rw [← same] at fields
  refine ⟨fields, ?_⟩
  have timers : (txTimerPollingList ticks lists bucket).ring.timers =
      drained (s.place ticks) lists.ring.timers bucket := by
    funext other
    rw [txTimerPollingList, started.foldl_timers ticks (lists.ring.timers bucket) nodup other, drained]
    congr 1
    simp [Timers.listInit, Timers.onTimers, Function.update_apply]
  rw [timers]
  exact linked

theorem Spells.listRemove (spells : Spells s lists) (timer : T) (bucket : Bucket)
    (linked : timer ∈ lists.ring.timers bucket) :
    Spells (s.onHeap (fun heap => heap.listRemove timer)) (lists.listRemove timer) :=
  ⟨(spells.toSameFields.onHeap _).onTimers _,
    linked_listRemove s.heap lists.ring.timers spells.linked bucket timer linked⟩

theorem Spells.resetIdle (spells : Spells s lists) (timer : T) (umilsec : UInt32)
    (fresh : ∀ bucket, timer ∉ lists.ring.timers bucket) :
    Spells (s.txTimerResetIdle timer umilsec) (txTimerResetIdle lists timer umilsec) := by
  refine ⟨spells.toSameFields.resetIdle timer umilsec, ?_⟩
  have linked := linked_listInsertHead s.heap lists.ring.timers spells.linked
    (s.bucket (s.txTicks + umilsec)) timer fresh
  rw [spells.toSameFields.bucket, spells.ticks] at linked
  rw [TimerLinks.txTimerResetIdle, TimerLinks.onHeap, spells.toSameFields.bucket, spells.ticks]
  exact linked

theorem Spells.unarm (spells : Spells s lists) (placed : Placed [] lists) (timer : T)
    (armed : (lists.timer timer).idle = false) :
    Spells ((s.onHeap (fun heap => heap.listRemove timer)).setIdle timer)
      ((lists.listRemove timer).setIdle timer) := by
  obtain ⟨bucket, member⟩ := placed.linked timer armed
  have removed := spells.listRemove timer bucket member
  exact ⟨removed.toSameFields.setIdle timer, removed.linked⟩

theorem Spells.reset (spells : Spells s lists) (placed : Placed [] lists) (timer : T) (umilsec : UInt32) :
    Spells (s.txTimerReset timer umilsec) (txTimerReset lists timer umilsec) := by
  rw [TimerLinks.txTimerReset, txTimerReset, spells.timer]
  cases armed : (lists.timer timer).idle with
  | true => exact spells.resetIdle timer umilsec ((placed.idle timer).mp armed).2
  | false =>
      have unarmed := spells.unarm placed timer armed
      have free := (placed.listRemove timer armed).free timer List.mem_cons_self
      exact unarmed.resetIdle timer umilsec free

theorem Spells.drain (spells : Spells s lists) (placed : Placed [] lists) (timer : T) :
    Spells (s.txTimerDrain timer) (txTimerDrain lists timer) := by
  rw [TimerLinks.txTimerDrain, txTimerDrain, spells.timer]
  cases armed : (lists.timer timer).idle with
  | true => exact spells
  | false =>
      have unarmed := spells.unarm placed timer armed
      exact ⟨unarmed.toSameFields.activeBy timer, unarmed.linked⟩

theorem Spells.stop (spells : Spells s lists) (placed : Placed [] lists) (timer : T) :
    Spells (s.txTimerStop timer) (txTimerStop lists timer) := by
  rw [TimerLinks.txTimerStop, txTimerStop, spells.timer]
  cases armed : (lists.timer timer).idle with
  | true => exact spells
  | false => exact spells.unarm placed timer armed

end Fields

variable [DecidableEq T]

structure Settles (place : T → Option Bucket) (lists after : Bucket → List T) (bucket : Bucket) : Prop where
  fired : ∀ timer ∈ lists bucket, place timer = none → ∀ other, timer ∉ after other
  moved : ∀ timer ∈ lists bucket, ∀ target, place timer = some target →
    (after target).count timer = 1 ∧ ∀ other, other ≠ target → timer ∉ after other
  kept : ∀ other, other ≠ bucket → ∃ front, after other = front ++ lists other ∧
    ∀ timer ∈ front, timer ∈ lists bucket ∧ place timer = some other
  refilled : ∀ timer, timer ∈ after bucket ↔ timer ∈ lists bucket ∧ place timer = some bucket

theorem settles_drained (place : T → Option Bucket) (lists : Bucket → List T)
    (bucket : Bucket) (heap last : Heap Bucket T) (linked : Linked heap lists)
    (final : Linked last (drained place lists bucket)) :
    Settles place lists (drained place lists bucket) bucket where
  fired := by
    intro timer member fires other inside
    rcases (mem_drained place lists bucket timer other).mp inside with ⟨_, sent⟩ | ⟨apart, again⟩
    · exact absurd (fires.symm.trans sent) (by simp)
    · exact apart (linked_one_head heap lists linked other bucket timer again member)
  moved := by
    intro timer member target sent
    have inside := (mem_drained place lists bucket timer target).mpr (Or.inl ⟨member, sent⟩)
    constructor
    · exact List.count_eq_one_of_mem (linked_nodup last _ final target) inside
    · exact fun other apart again => apart (linked_one_head last _ final other target timer again inside)
  kept := by
    intro other apart
    refine ⟨_, by rw [drained, if_neg apart], ?_⟩
    intro timer member
    simpa using member
  refilled := by
    intro timer
    rw [mem_drained]
    simp

/-- Whatever is decided about each timer, the drain of one list of a well-formed ring returns,
visits the timers of the list once and in their order, and leaves well-formed lists with the
contents that the decisions say. The drain of `tx_timer_polling` is the case of its own
decisions, and does to the lists what the drain of lists does. -/
theorem bucket_drain (s : TimerLinks T) (lists : Bucket → List T) (linked : Linked s.heap lists)
    (bucket : Bucket) :
    (∀ place : T → Option Bucket, ∃ last, (∀ fuel, (lists bucket).length ≤ fuel →
        s.heap.drain place fuel bucket = some (last, lists bucket)) ∧
      (lists bucket).Nodup ∧ Linked last (drained place lists bucket) ∧
      Settles place lists (drained place lists bucket) bucket) ∧
    ∀ ticks, ∃ next, (∀ fuel, (lists bucket).length ≤ fuel →
        s.txTimerPollingList ticks fuel bucket = some next ∧
        s.heap.drain (s.place ticks) fuel bucket = some (next.heap, lists bucket)) ∧
      next.calls = s.calls ++ (lists bucket).filter (fun timer => decide (s.place ticks timer = none)) ∧
      ∀ timers : Timers T, Spells s timers → Spells next (txTimerPollingList ticks timers bucket) := by
  have nodup := linked_nodup s.heap lists linked bucket
  constructor
  · intro place
    obtain ⟨last, drains, final⟩ := linked_drain place s.heap lists linked bucket
    exact ⟨last, drains, nodup, final, settles_drained place lists bucket s.heap last linked final⟩
  · intro ticks
    obtain ⟨next, result, same, _⟩ := TimerLinks.pollingList_drain ticks s lists linked bucket
    refine ⟨next, result, ?_, ?_⟩
    · rw [same, TimerLinks.foldl_calls ticks _ (lists bucket) nodup]
      rfl
    · intro timers spells
      obtain ⟨other, returns, refines⟩ := spells.pollingList ticks bucket
      have both := (returns _ (Nat.le_max_right (lists bucket).length _)).symm.trans
        (result _ (Nat.le_max_left _ (timers.ring.timers bucket).length)).1
      exact Option.some.inj both ▸ refines

def linksPair : TimerLinks Bool where
  heap :=
    { lhFirst := fun bucket => if bucket = .wheel .mi 1 then some true else none
      leNext := fun timer => if timer then some false else none
      lePrev := fun timer => if timer then .first (.wheel .mi 1) else .next true }
  txStTick := 0
  tick := fun _ => 0
  wheel := fun _ => 0
  timer := fun timer => ⟨false, if timer then 20 else 10⟩
  txTicks := 0
  calls := []

def pairLists (bucket : Bucket) : List Bool := if bucket = .wheel .mi 1 then [true, false] else []

theorem linked_pair : Linked linksPair.heap pairLists := by
  intro bucket
  by_cases here : bucket = .wheel .mi 1
  · subst here
    exact ⟨rfl, rfl, rfl, rfl, rfl⟩
  · simp [Chain, Heap.read, pairLists, linksPair, here]

theorem bucket_drain_pair :
    (∀ place : Bool → Option Bucket, ∃ last, (∀ fuel, 2 ≤ fuel →
        linksPair.heap.drain place fuel (.wheel .mi 1) = some (last, [true, false])) ∧
      [true, false].Nodup ∧ Linked last (drained place pairLists (.wheel .mi 1)) ∧
      Settles place pairLists (drained place pairLists (.wheel .mi 1)) (.wheel .mi 1)) ∧
    ∀ ticks, ∃ next, (∀ fuel, 2 ≤ fuel →
        linksPair.txTimerPollingList ticks fuel (.wheel .mi 1) = some next ∧
        linksPair.heap.drain (linksPair.place ticks) fuel (.wheel .mi 1) = some (next.heap, [true, false])) ∧
      next.calls = [true, false].filter (fun timer => decide (linksPair.place ticks timer = none)) ∧
      ∀ timers : Timers Bool, Spells linksPair timers →
        Spells next (txTimerPollingList ticks timers (.wheel .mi 1)) :=
  bucket_drain linksPair pairLists linked_pair (.wheel .mi 1)

end Libtx
