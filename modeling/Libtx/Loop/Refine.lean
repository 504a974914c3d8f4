import Libtx.Loop.View

namespace Libtx

open Intrusive

variable {L T W P R : Type} [DecidableEq L] [DecidableEq T]

theorem nodes_drop (v : View L T W) (up : L) (task : T)
    (elsewhere : ∀ other, other ≠ up → task ∉ (v.queue other).linked) :
    (v.drop up task).nodes = unlink v.nodes (.task task) := by
  funext head
  cases head with
  | taskq other =>
      by_cases same : other = up
      · subst same
        simp only [View.nodes, View.drop, Function.update_self, unlink]
        exact queueNodes_drop other (v.queue other) task
      · have absent : .task task ∉ v.nodes (.taskq other) :=
          fun member => elsewhere other same ((mem_queueNodes other _ task).mp member)
        rw [unlink_same v.nodes (.task task) (.taskq other) absent]
        simp only [View.nodes, View.drop, Function.update_of_ne same]
  | waitq taskq => exact (filter_tasks (v.parked taskq) task).symm

theorem mem_drop_linked (v : View L T W) (up other : L) (task member : T)
    (elsewhere : ∀ other, other ≠ up → task ∉ (v.queue other).linked) :
    member ∈ ((v.drop up task).queue other).linked ↔ member ∈ (v.queue other).linked ∧ member ≠ task := by
  by_cases same : other = up
  · subst same
    simp [View.drop, Rounds.linked_remove]
  · simp only [View.drop, Function.update_of_ne same]
    constructor
    · intro inside
      exact ⟨inside, fun equal => elsewhere other same (equal ▸ inside)⟩
    · exact And.left

theorem mem_drop_parked (v : View L T W) (up : L) (taskq : W) (task member : T) :
    member ∈ (v.drop up task).parked taskq ↔ member ∈ v.parked taskq ∧ member ≠ task := by
  simp [View.drop]

theorem claim_drop (v : View L T W) (up other : L) (task member : T) :
    ((v.drop up task).queue other).claim member =
      if other = up ∧ member = task then false else (v.queue other).claim member := by
  by_cases same : other = up
  · subst same
    by_cases equal : member = task
    · subst equal
      simp [View.drop]
    · simp [View.drop, equal, Rounds.Queue.remove]
  · simp [View.drop, same]

theorem running_drop (v : View L T W) (up other : L) (task : T) :
    ((v.drop up task).queue other).running = (v.queue other).running := by
  by_cases same : other = up
  · subst same
    simp [View.drop, Rounds.Queue.mark, Rounds.Queue.remove]
  · simp [View.drop, same]

theorem drop_absent (v : View L T W) (up : L) (task : T) (unqueued : task ∉ (v.queue up).linked)
    (unparked : ∀ taskq, task ∉ v.parked taskq) (unclaimed : (v.queue up).claim task = false) :
    v.drop up task = v := by
  have kept (tasks : List T) (absent : task ∉ tasks) :
      tasks.filter (fun other => decide (other ≠ task)) = tasks := by
    apply List.filter_eq_self.mpr
    intro other member
    have apart : other ≠ task := fun same => absent (same ▸ member)
    simpa using apart
  have ready := kept (v.queue up).ready (fun member => unqueued (List.mem_append_left _ member))
  have later := kept (v.queue up).later (fun member => unqueued (List.mem_append_right _ member))
  have claims : Function.update (v.queue up).claim task false = (v.queue up).claim := by
    rw [← unclaimed, Function.update_eq_self]
  have queue : ((v.queue up).remove task).mark task false = v.queue up := by
    simp only [Rounds.Queue.mark, Rounds.Queue.remove, ready, later, claims]
  have parked : (fun taskq => (v.parked taskq).filter (fun other => decide (other ≠ task))) = v.parked := by
    funext taskq
    exact kept (v.parked taskq) (unparked taskq)
  simp only [View.drop, queue, parked, Function.update_eq_self]

section

variable [DecidableEq W]

omit [DecidableEq T] in
theorem nodes_setQueue (v : View L T W) (up : L) (q : Rounds.Queue T) :
    (v.setQueue up q).nodes = Function.update v.nodes (.taskq up) (queueNodes up q) := by
  funext head
  cases head with
  | taskq other =>
      by_cases same : other = up
      · subst same
        simp [View.nodes, View.setQueue]
      · simp [View.nodes, View.setQueue, same]
  | waitq taskq => rfl

omit [DecidableEq T] in
theorem nodes_park (v : View L T W) (taskq : W) (task : T) :
    (v.park taskq task).nodes =
      Function.update v.nodes (.waitq taskq) (.task task :: v.nodes (.waitq taskq)) := by
  funext head
  cases head with
  | taskq other => rfl
  | waitq other =>
      by_cases same : other = taskq
      · subst same
        simp [View.nodes, View.park]
      · simp [View.nodes, View.park, same]

end

section Drop

variable {s : World L T W P R} {v : View L T W}

omit [DecidableEq L] in
theorem Refines.elsewhere (h : Refines s v) (task : T) (other : L)
    (apart : other ≠ (s.task task).txLoop) : task ∉ (v.queue other).linked :=
  fun member => apart (h.own other task member).symm

variable [DecidableEq W]

theorem txTaskDrop_idle (task : T) (idle : (s.task task).txFlags.idle = true) :
    txTaskDrop s (some task) = s := by
  simp [txTaskDrop, idle]

theorem txTaskDrop_linked (task : T) (linked : (s.task task).txFlags.idle = false) :
    txTaskDrop s (some task) =
      { s with
        heap := s.heap.listRemove (.task task)
        task := Function.update s.task task { s.task task with
          txFlags := ⟨true, false, false, (s.task task).txFlags.userMark⟩ }
        history := Function.update s.history (s.task task).txLoop
          (s.history (s.task task).txLoop ++ [.discard task (s.task task).txFlags.busy]) } := by
  simp [txTaskDrop, linked, World.setFlags, World.onHeap, World.note]

theorem Refines.take (h : Refines s v) (next : World L T W P R) (task : T) (up : L)
    (event : Rounds.Event T) (own : (s.task task).txLoop = up)
    (linked : (s.task task).txFlags.idle = false)
    (heap : next.heap = s.heap.listRemove (.task task))
    (idle : (next.task task).txFlags.idle = true) (busy : (next.task task).txFlags.busy = false)
    (pending : (next.task task).txFlags.pending = false) (loop : (next.task task).txLoop = up)
    (others : ∀ other, other ≠ task → next.task other = s.task other)
    (main : ∀ other, (next.main other).isSome = (s.main other).isSome)
    (history : next.history = Function.update s.history up (s.history up ++ [event]))
    (accepted : Rounds.Accepts (v.queue up) event (((v.queue up).remove task).mark task false))
    (stays : event ≠ .halt) (stops : ∀ other, (next.loop other).txStop = (s.loop other).txStop) :
    Refines next (v.drop up task) := by
  have elsewhere : ∀ other, other ≠ up → task ∉ (v.queue other).linked := by
    intro other apart
    exact h.elsewhere task other (own ▸ apart)
  have held : ∃ head, .task task ∈ v.nodes head := by
    rcases h.placed task linked with queued | ⟨taskq, parked⟩
    · exact ⟨.taskq _, (mem_queueNodes _ _ task).mpr queued⟩
    · exact ⟨.waitq taskq, List.mem_map_of_mem parked⟩
  obtain ⟨head, member⟩ := held
  refine ⟨?_, ?_, ?_, ?_, ?_, ?_, ?_, ?_⟩
  · rw [heap, nodes_drop v up task elsewhere]
    exact linked_listRemove s.heap v.nodes h.linked head (.task task) member
  · intro other inner inside
    have old := (mem_drop_linked v up other task inner elsewhere).mp inside
    rw [others inner old.2]
    exact h.own other inner old.1
  · intro other
    by_cases same : other = task
    · subst same
      simp [idle, mem_drop_linked v up _ other other elsewhere, mem_drop_parked]
    · rw [others other same]
      simp [same, mem_drop_linked v up _ task other elsewhere, mem_drop_parked, h.idle other]
  · intro other
    by_cases same : other = task
    · subst same
      simp [busy, loop, claim_drop]
    · rw [others other same]
      simp [same, claim_drop, h.busy other]
  · intro other
    by_cases same : other = task
    · subst same
      simp [pending, mem_drop_parked]
    · rw [others other same]
      simp [same, mem_drop_parked, h.pending other]
  · intro other
    rw [running_drop, main other]
    exact h.running other
  · intro other
    rw [history]
    exact h.steps_noted up other event _ accepted
  · intro other
    rw [history, stops other]
    exact h.halted_noted up other event (fun same => absurd same stays)

theorem Refines.drop (h : Refines s v) (task : T) :
    Refines (txTaskDrop s (some task)) (v.drop (s.task task).txLoop task) := by
  cases idle : (s.task task).txFlags.idle with
  | true =>
      have nowhere := (h.idle task).mp idle
      have unclaimed := h.idle_busy task idle
      rw [h.busy task] at unclaimed
      rw [txTaskDrop_idle task idle, drop_absent v _ task (nowhere.1 _) nowhere.2 unclaimed]
      exact h
  | false =>
      rw [txTaskDrop_linked task idle]
      apply h.take _ task (s.task task).txLoop (.discard task (s.task task).txFlags.busy) rfl idle
      · rfl
      · simp
      · simp
      · simp
      · simp
      · intro other apart
        simp [apart]
      · intro other
        rfl
      · rfl
      · rw [h.busy task]
        exact .discard (v.queue (s.task task).txLoop) task
      · simp
      · intro other
        rfl

end Drop

section Link

variable {s : World L T W P R} {v : View L T W}

omit [DecidableEq L] in
theorem Refines.idle_pending (h : Refines s v) (task : T) (idle : (s.task task).txFlags.idle = true) :
    (s.task task).txFlags.pending = false := by
  cases pending : (s.task task).txFlags.pending with
  | false => rfl
  | true =>
      obtain ⟨taskq, member⟩ := (h.pending task).mp pending
      exact absurd member (((h.idle task).mp idle).2 taskq)

theorem mem_link_linked (v : View L T W) (up other : L) (task member : T) (claim : Bool)
    (resting : (v.queue up).running = false → (v.queue up).later = []) :
    member ∈ ((v.setQueue up (((v.queue up).insert task).mark task claim)).queue other).linked ↔
      member ∈ (v.queue other).linked ∨ other = up ∧ member = task := by
  by_cases same : other = up
  · subst same
    simp [View.setQueue, Rounds.linked_insert _ task resting]
  · simp [View.setQueue, same]

theorem insert_unclaimed (q : Rounds.Queue T) (task : T) (unclaimed : q.claim task = false) :
    (q.insert task).mark task false = q.insert task := by
  have same : (q.insert task).claim task = false := by rw [Rounds.claim_insert, unclaimed]
  rw [Rounds.Queue.mark, ← same, Function.update_eq_self]

variable [DecidableEq W]

theorem Refines.link (h : Refines s v) (next : World L T W P R) (task : T) (up : L) (claim : Bool)
    (own : (s.task task).txLoop = up) (idle : (s.task task).txFlags.idle = true)
    (heap : next.heap = s.heap.listInsertBefore (.tailer up) (.task task))
    (flags : (next.task task).txFlags = ⟨false, claim, false, (s.task task).txFlags.userMark⟩)
    (loop : (next.task task).txLoop = up)
    (others : ∀ other, other ≠ task → next.task other = s.task other)
    (main : next.main = s.main)
    (history : next.history = Function.update s.history up
      (s.history up ++ [if claim then .activate task else .link task]))
    (stops : ∀ other, (next.loop other).txStop = (s.loop other).txStop) :
    Refines next (v.setQueue up (((v.queue up).insert task).mark task claim)) := by
  have sound := h.sound up
  have nowhere := (h.idle task).mp idle
  obtain ⟨front, before, _, after⟩ := queueNodes_insert up (v.queue up) task claim sound.resting
  have linked := fun other member => mem_link_linked v up other task member claim sound.resting
  refine ⟨?_, ?_, ?_, ?_, ?_, ?_, ?_, ?_⟩
  · rw [heap, nodes_setQueue, after]
    apply linked_listInsertBefore s.heap v.nodes h.linked (.taskq up) front [] (.tailer up)
    · exact before
    · exact h.unlinked task idle
  · intro other member inside
    rcases (linked other member).mp inside with old | ⟨place, new⟩
    · have apart : member ≠ task := fun same => nowhere.1 other (same ▸ old)
      rw [others member apart]
      exact h.own other member old
    · rw [new, place]
      exact loop
  · intro other
    by_cases same : other = task
    · subst same
      have queued := (linked up other).mpr (Or.inr ⟨rfl, rfl⟩)
      rw [flags]
      constructor
      · intro isIdle
        exact absurd isIdle (by simp)
      · intro absent
        exact absurd queued (absent.1 up)
    · rw [others other same, h.idle other]
      simp only [linked, same, and_false, or_false]
      rfl
  · intro other
    by_cases same : other = task
    · subst same
      rw [flags, loop]
      simp [View.setQueue]
    · rw [others other same, h.busy other]
      by_cases equal : (s.task other).txLoop = up
      · simp [View.setQueue, equal, same]
      · simp [View.setQueue, equal]
  · intro other
    by_cases same : other = task
    · subst same
      rw [flags]
      constructor
      · intro pending
        exact absurd pending (by simp)
      · rintro ⟨taskq, member⟩
        exact absurd member (nowhere.2 taskq)
    · rw [others other same]
      exact h.pending other
  · intro other
    rw [main, ← h.running other]
    by_cases same : other = up
    · subst same
      simp [View.setQueue, Rounds.Queue.mark]
    · simp [View.setQueue, same]
  · intro other
    rw [history]
    apply h.steps_noted up other
    cases claim with
    | true => exact .activate (v.queue up) task (nowhere.1 up)
    | false =>
        have unclaimed := h.idle_busy task idle
        rw [h.busy task, own] at unclaimed
        rw [insert_unclaimed (v.queue up) task unclaimed]
        exact .link (v.queue up) task (nowhere.1 up)
  · intro other
    rw [history, stops other]
    apply h.halted_noted up other
    intro halt
    cases claim <;> cases halt

theorem txTaskDrop_idles (task : T) : ((txTaskDrop s (some task)).task task).txFlags.idle = true := by
  cases idle : (s.task task).txFlags.idle with
  | true => rw [txTaskDrop_idle task idle, idle]
  | false =>
      rw [txTaskDrop_linked task idle]
      simp

theorem txTaskDrop_loop (task other : T) :
    ((txTaskDrop s (some task)).task other).txLoop = (s.task other).txLoop := by
  cases idle : (s.task task).txFlags.idle with
  | true => rw [txTaskDrop_idle task idle]
  | false =>
      rw [txTaskDrop_linked task idle]
      by_cases same : other = task
      · subst same
        simp
      · simp [same]

theorem txTaskDrop_loops (task : T) : (txTaskDrop s (some task)).loop = s.loop := by
  cases idle : (s.task task).txFlags.idle with
  | true => rw [txTaskDrop_idle task idle]
  | false => rw [txTaskDrop_linked task idle]

theorem txTaskActive_refused (task : T) (reason : Option R)
    (refused : ¬ ((s.loop (s.task task).txLoop).txStop = false ∧ (s.task task).txFlags.busy = false)) :
    txTaskActive s (some task) reason = s := by
  simp only [txTaskActive, if_neg refused]

theorem Refines.activate (h : Refines s v) (task : T) (reason : Option R)
    (live : (s.loop (s.task task).txLoop).txStop = false) (free : (s.task task).txFlags.busy = false) :
    Refines (txTaskActive s (some task) reason) (v.activate (s.task task).txLoop task) := by
  have dropped := h.drop task
  have idle := txTaskDrop_idles (s := s) task
  have free' := dropped.idle_busy task idle
  have settled := dropped.idle_pending task idle
  simp only [txTaskActive, if_pos (And.intro live free)]
  apply dropped.link _ task (s.task task).txLoop true (txTaskDrop_loop task task) idle
  · rfl
  · simp [settled]
  · simp [txTaskDrop_loop]
  · intro other apart
    simp [apart]
  · rfl
  · simp
  · intro other
    simp

theorem Refines.active (h : Refines s v) (task : T) (reason : Option R) :
    ∃ v', Refines (txTaskActive s (some task) reason) v' := by
  by_cases effective : (s.loop (s.task task).txLoop).txStop = false ∧ (s.task task).txFlags.busy = false
  · exact ⟨_, h.activate task reason effective.1 effective.2⟩
  · rw [txTaskActive_refused task reason effective]
    exact ⟨v, h⟩

theorem Refines.activated (h : Refines s v) (task : T) (reason : Option R)
    (live : (s.loop (s.task task).txLoop).txStop = false) :
    ((txTaskActive s (some task) reason).task task).txFlags.busy = true ∧
      Holds (txTaskActive s (some task) reason).heap
        (.taskq ((txTaskActive s (some task) reason).task task).txLoop) (.task task) := by
  obtain ⟨after, refines, busy⟩ : ∃ after, Refines (txTaskActive s (some task) reason) after ∧
      ((txTaskActive s (some task) reason).task task).txFlags.busy = true := by
    cases taken : (s.task task).txFlags.busy with
    | true =>
        rw [txTaskActive_refused task reason (by simp [taken])]
        exact ⟨v, h, taken⟩
    | false =>
        refine ⟨_, h.activate task reason live taken, ?_⟩
        simp [txTaskActive, live, taken]
  have claimed := busy
  rw [refines.busy task] at claimed
  have member := (refines.sound _).claimed task claimed
  exact ⟨busy, (holds_iff _ _ refines.linked _ _).mpr ((mem_queueNodes _ _ task).mpr member)⟩

theorem Refines.pollActive (h : Refines s v) (poll : T) : ∃ v', Refines (txPollActive s poll) v' := by
  by_cases effective : (s.loop (s.task poll).txLoop).txStop = false ∧ (s.task poll).txFlags.idle = true
  · have idle := effective.2
    have free := h.idle_busy poll idle
    have settled := h.idle_pending poll idle
    refine ⟨v.setQueue (s.task poll).txLoop
      (((v.queue (s.task poll).txLoop).insert poll).mark poll false), ?_⟩
    simp only [txPollActive, if_pos effective]
    apply h.link _ poll (s.task poll).txLoop false rfl idle
    · rfl
    · simp [free, settled]
    · simp
    · intro other apart
      simp [apart]
    · rfl
    · simp
    · intro other
      simp
  · refine ⟨v, ?_⟩
    simp only [txPollActive, if_neg effective]
    exact h

end Link

section Wait

variable {s : World L T W P R} {v : View L T W}

omit [DecidableEq L] in
theorem Refines.not_claimed (h : Refines s v) (taskq : W) (task : T) (parked : task ∈ v.parked taskq) :
    (s.task task).txFlags.busy = false ∧ (s.task task).txFlags.idle = false := by
  constructor
  · rw [h.busy task]
    cases claimed : (v.queue (s.task task).txLoop).claim task with
    | false => rfl
    | true =>
        have member := (h.sound (s.task task).txLoop).claimed task claimed
        exact absurd parked (h.not_parked _ taskq task member)
  · cases idle : (s.task task).txFlags.idle with
    | false => rfl
    | true => exact absurd parked (((h.idle task).mp idle).2 taskq)

theorem parked_activate (v : View L T W) (up : L) (taskq : W) (task : T) :
    (v.activate up task).parked taskq = (v.parked taskq).filter (fun other => decide (other ≠ task)) := rfl

variable [DecidableEq W]

theorem Refines.record (h : Refines s v) (taskq : W) (task : T) :
    Refines (txTaskRecord s taskq task) ((v.drop (s.task task).txLoop task).park taskq task) := by
  have dropped := h.drop task
  have idle := txTaskDrop_idles (s := s) task
  have nowhere := (dropped.idle task).mp idle
  have free := dropped.idle_busy task idle
  generalize v.drop (s.task task).txLoop task = d at dropped nowhere
  have parked : ∀ other member, member ∈ (d.park taskq task).parked other ↔
      member ∈ d.parked other ∨ (other = taskq ∧ member = task) := by
    intro other member
    by_cases same : other = taskq
    · subst same
      simp [View.park, or_comm]
    · simp [View.park, same]
  simp only [txTaskRecord, World.onHeap, World.setFlags]
  refine ⟨?_, ?_, ?_, ?_, ?_, dropped.running, dropped.steps, dropped.halted⟩
  · rw [nodes_park]
    exact linked_listInsertHead _ d.nodes dropped.linked (.waitq taskq) (.task task)
      (dropped.unlinked task idle)
  · intro up member inside
    have old := dropped.own up member inside
    by_cases same : member = task
    · subst same
      simpa using old
    · simpa [same] using old
  · intro other
    by_cases same : other = task
    · subst same
      simp only [Function.update_self, Bool.false_eq_true, false_iff, not_and]
      intro _ absent
      exact absent taskq ((parked taskq other).mpr (Or.inr ⟨rfl, rfl⟩))
    · have queues : (d.park taskq task).queue = d.queue := rfl
      simp [same, parked, dropped.idle other, queues]
  · intro other
    by_cases same : other = task
    · subst same
      simpa [View.park] using dropped.busy other
    · simpa [same, View.park] using dropped.busy other
  · intro other
    by_cases same : other = task
    · subst same
      simp only [Function.update_self, true_iff]
      exact ⟨taskq, (parked taskq other).mpr (Or.inr ⟨rfl, rfl⟩)⟩
    · simp [same, parked, dropped.pending other]

/-- Clearing the pending flag first makes no difference: the drop clears it again. -/
theorem txTaskActive_unpended (task : T) (reason : Option R)
    (live : (s.loop (s.task task).txLoop).txStop = false) (free : (s.task task).txFlags.busy = false)
    (linked : (s.task task).txFlags.idle = false) :
    txTaskActive (s.setFlags task (fun flags => { flags with pending := false })) (some task) reason =
      txTaskActive s (some task) reason := by
  have dropped : txTaskDrop (s.setFlags task (fun flags => { flags with pending := false })) (some task) =
      txTaskDrop s (some task) := by
    rw [txTaskDrop_linked task (by simpa using linked), txTaskDrop_linked task linked]
    simp
  have own : ((s.setFlags task (fun flags => { flags with pending := false })).task task).txLoop =
      (s.task task).txLoop := by
    simp
  have flags : ((s.setFlags task (fun flags => { flags with pending := false })).task task).txFlags.busy =
      (s.task task).txFlags.busy := by
    simp
  have loops : (s.setFlags task (fun flags => { flags with pending := false })).loop = s.loop := rfl
  simp only [txTaskActive, own, flags, loops, dropped, if_pos (And.intro live free)]

theorem txTaskActive_task_loop (task other : T) (reason : Option R) :
    ((txTaskActive s (some task) reason).task other).txLoop = (s.task other).txLoop := by
  by_cases effective : (s.loop (s.task task).txLoop).txStop = false ∧ (s.task task).txFlags.busy = false
  · simp only [txTaskActive, if_pos effective]
    by_cases same : other = task
    · subst same
      simp [txTaskDrop_loop]
    · simp [txTaskDrop_loop, same]
  · rw [txTaskActive_refused task reason effective]

theorem txTaskActive_stops (task : T) (other : L) (reason : Option R) :
    ((txTaskActive s (some task) reason).loop other).txStop = (s.loop other).txStop := by
  by_cases effective : (s.loop (s.task task).txLoop).txStop = false ∧ (s.task task).txFlags.busy = false
  · simp only [txTaskActive, if_pos effective]
    simp [txTaskDrop_loops]
  · rw [txTaskActive_refused task reason effective]

def View.wake (v : View L T W) (loopOf : T → L) (tasks : List T) : View L T W :=
  tasks.foldl (fun view task => view.activate (loopOf task) task) v

theorem wakeup_from_keeps (keep : World L T W P R → Prop) (reason : Option R)
    (visit : ∀ world task, keep world →
      keep (txTaskActive (world.setFlags task (fun flags => { flags with pending := false })) (some task)
        reason))
    (fuel : Nat) (s woken : World L T W P R) (cur : Option (Node L T)) (kept : keep s)
    (result : txTaskWakeupFrom reason fuel s cur = some woken) : keep woken := by
  induction fuel generalizing s cur with
  | zero =>
      cases cur with
      | none =>
          injection result with same
          exact same ▸ kept
      | some node => cases node <;> exact absurd result (by simp [txTaskWakeupFrom])
  | succ fuel ih =>
      cases cur with
      | none =>
          injection result with same
          exact same ▸ kept
      | some node =>
          cases node with
          | task task => exact ih _ _ (visit s task kept) result
          | tailer up => exact absurd result (by simp [txTaskWakeupFrom])
          | phony up => exact absurd result (by simp [txTaskWakeupFrom])

def World.wake (s : World L T W P R) (reason : Option R) (tasks : List T) : World L T W P R :=
  tasks.foldl (fun world task => txTaskActive world (some task) reason) s

theorem Refines.wakeup_from (h : Refines s v) (taskq : W) (tasks : List T) (reason : Option R)
    (parked : v.parked taskq = tasks) (fuel : Nat)
    (live : ∀ task ∈ tasks, (s.loop (s.task task).txLoop).txStop = false) :
    (fuel < tasks.length → txTaskWakeupFrom reason fuel s (s.heap.lhFirst (.waitq taskq)) = none) ∧
    (tasks.length ≤ fuel →
      txTaskWakeupFrom reason fuel s (s.heap.lhFirst (.waitq taskq)) = some (s.wake reason tasks) ∧
        Refines (s.wake reason tasks) (v.wake (fun task => (s.task task).txLoop) tasks) ∧
        (v.wake (fun task => (s.task task).txLoop) tasks).parked taskq = []) := by
  induction tasks generalizing s v fuel with
  | nil =>
      have first := chain_head s.heap (.first (.waitq taskq)) _ (h.linked (.waitq taskq))
      rw [read_first, View.nodes, parked] at first
      refine ⟨by simp, fun _ => ⟨?_, h, parked⟩⟩
      rw [first]
      cases fuel <;> rfl
  | cons task rest ih =>
      have nodup := linked_nodup s.heap v.nodes h.linked (.waitq taskq)
      have split : v.nodes (.waitq taskq) = [] ++ .task task :: rest.map .task := by
        rw [View.nodes, parked]
        rfl
      have first := chain_head s.heap (.first (.waitq taskq)) _ (h.linked (.waitq taskq))
      rw [read_first, split] at first
      have after := chain_head s.heap (.next (.task task)) _
        (linked_split s.heap v.nodes h.linked (.waitq taskq) [] _ (.task task) split).2.2
      rw [read_next] at after
      have state := h.not_claimed taskq task (by rw [parked]; exact List.mem_cons_self)
      have liveTask := live task List.mem_cons_self
      have next := h.activate task reason liveTask state.1
      have remaining : (v.activate (s.task task).txLoop task).parked taskq = rest := by
        rw [split] at nodup
        have absent : task ∉ rest := by
          intro member
          exact (List.nodup_cons.mp nodup).1 (List.mem_map_of_mem member)
        rw [parked_activate, parked, List.filter_cons_of_neg (by simp)]
        apply List.filter_eq_self.mpr
        intro other member
        have apart : other ≠ task := fun same => absent (same ▸ member)
        simpa using apart
      have following := chain_head (txTaskActive s (some task) reason).heap (.first (.waitq taskq)) _
        (next.linked (.waitq taskq))
      rw [read_first, View.nodes, remaining] at following
      have loops : (fun other => ((txTaskActive s (some task) reason).task other).txLoop) =
          fun other => (s.task other).txLoop := by
        funext other
        exact txTaskActive_task_loop task other reason
      cases fuel with
      | zero =>
          refine ⟨fun _ => ?_, by simp⟩
          rw [first]
          rfl
      | succ fuel =>
          have step : txTaskWakeupFrom reason (fuel + 1) s (s.heap.lhFirst (.waitq taskq)) =
              txTaskWakeupFrom reason fuel (txTaskActive s (some task) reason)
                ((txTaskActive s (some task) reason).heap.lhFirst (.waitq taskq)) := by
            rw [first, following, ← after, ← txTaskActive_unpended task reason liveTask state.1 state.2]
            rfl
          have result := ih next remaining fuel (by
            intro other member
            rw [txTaskActive_task_loop, txTaskActive_stops]
            exact live other (List.mem_cons_of_mem task member))
          rw [loops] at result
          rw [step]
          refine ⟨fun short => result.1 (by simpa using short), fun enough => ?_⟩
          exact result.2 (by simpa using enough)

theorem Refines.wakeup (h : Refines s v) (taskq : W) (reason : Option R) (fuel : Nat)
    (enough : (v.parked taskq).length ≤ fuel)
    (live : ∀ task ∈ v.parked taskq, (s.loop (s.task task).txLoop).txStop = false) :
    txTaskWakeup fuel s taskq reason =
        some ((s.wake reason (v.parked taskq)).onHeap (fun heap => heap.listInit (.waitq taskq))) ∧
      Refines ((s.wake reason (v.parked taskq)).onHeap (fun heap => heap.listInit (.waitq taskq)))
        (v.wake (fun task => (s.task task).txLoop) (v.parked taskq)) ∧
      (v.wake (fun task => (s.task task).txLoop) (v.parked taskq)).parked taskq = [] := by
  obtain ⟨result, refines, emptied⟩ :=
    (h.wakeup_from taskq (v.parked taskq) reason rfl fuel live).2 enough
  refine ⟨by simp [txTaskWakeup, result], ?_, emptied⟩
  generalize s.wake reason (v.parked taskq) = woken at refines
  generalize v.wake (fun task => (s.task task).txLoop) (v.parked taskq) = w at refines emptied
  have none : Function.update w.nodes (.waitq taskq) [] = w.nodes := by
    have empty : w.nodes (.waitq taskq) = [] := by rw [View.nodes, emptied, List.map_nil]
    rw [← empty, Function.update_eq_self]
  have linked := linked_listInit woken.heap w.nodes refines.linked (.waitq taskq)
  rw [none] at linked
  exact ⟨linked, refines.own, refines.idle, refines.busy, refines.pending, refines.running,
    refines.steps, refines.halted⟩

theorem Refines.wakeup_short (h : Refines s v) (taskq : W) (reason : Option R) (fuel : Nat)
    (short : fuel < (v.parked taskq).length)
    (live : ∀ task ∈ v.parked taskq, (s.loop (s.task task).txLoop).txStop = false) :
    txTaskWakeup fuel s taskq reason = none := by
  rw [txTaskWakeup, (h.wakeup_from taskq (v.parked taskq) reason rfl fuel live).1 short]
  rfl

end Wait

section Main

variable {s : World L T W P R} {v : View L T W}

omit [DecidableEq T] in
theorem setQueue_twice (up : L) (first second : Rounds.Queue T) :
    (v.setQueue up first).setQueue up second = v.setQueue up second := by
  simp [View.setQueue]

omit [DecidableEq L] in
theorem Refines.frame (h : Refines s v) (next : World L T W P R) (heap : next.heap = s.heap)
    (loops : ∀ task, (next.task task).txLoop = (s.task task).txLoop)
    (idle : ∀ task, (next.task task).txFlags.idle = (s.task task).txFlags.idle)
    (busy : ∀ task, (next.task task).txFlags.busy = (s.task task).txFlags.busy)
    (pending : ∀ task, (next.task task).txFlags.pending = (s.task task).txFlags.pending)
    (main : ∀ up, (next.main up).isSome = (s.main up).isSome)
    (history : next.history = s.history)
    (stops : ∀ up, (s.loop up).txStop = true → (next.loop up).txStop = true) : Refines next v where
  linked := heap ▸ h.linked
  own := fun up task member => (loops task).trans (h.own up task member)
  idle := fun task => by rw [idle task]; exact h.idle task
  busy := fun task => by rw [busy task, loops task]; exact h.busy task
  pending := fun task => by rw [pending task]; exact h.pending task
  running := fun up => (h.running up).trans (main up).symm
  steps := fun up => history ▸ h.steps up
  halted := fun up halted => stops up (h.halted up (history ▸ halted))

theorem Refines.requeue (h : Refines s v) (next : World L T W P R) (up : L) (q : Rounds.Queue T)
    (event : Rounds.Event T) (linked : Linked next.heap (v.setQueue up q).nodes)
    (sameTasks : q.linked = (v.queue up).linked) (sameClaim : q.claim = (v.queue up).claim)
    (task : next.task = s.task) (running : q.running = (next.main up).isSome)
    (main : ∀ other, other ≠ up → next.main other = s.main other)
    (history : next.history = Function.update s.history up (s.history up ++ [event]))
    (accepted : Rounds.Accepts (v.queue up) event q)
    (stops : ∀ other, (next.loop other).txStop = (s.loop other).txStop)
    (halts : event = .halt → (s.loop up).txStop = true) : Refines next (v.setQueue up q) := by
  have tasks : ∀ other, ((v.setQueue up q).queue other).linked = (v.queue other).linked := by
    intro other
    by_cases same : other = up
    · subst same
      simpa [View.setQueue] using sameTasks
    · simp [View.setQueue, same]
  have claims : ∀ other, ((v.setQueue up q).queue other).claim = (v.queue other).claim := by
    intro other
    by_cases same : other = up
    · subst same
      simpa [View.setQueue] using sameClaim
    · simp [View.setQueue, same]
  refine ⟨linked, ?_, ?_, ?_, ?_, ?_, ?_, ?_⟩
  · intro other member inside
    rw [tasks other] at inside
    rw [task]
    exact h.own other member inside
  · intro member
    simp only [task, tasks]
    exact h.idle member
  · intro member
    rw [task, claims]
    exact h.busy member
  · intro member
    rw [task]
    exact h.pending member
  · intro other
    by_cases same : other = up
    · subst same
      simpa [View.setQueue] using running
    · simpa [View.setQueue, same, main other same] using h.running other
  · intro other
    rw [history]
    exact h.steps_noted up other event q accepted
  · intro other
    rw [history, stops other]
    exact h.halted_noted up other event halts

variable [DecidableEq W]

theorem linked_phony_in (heap : Heap (Head L W) (Node L T)) (linked : Linked heap v.nodes) (up : L)
    (resting : (v.queue up).running = false) (none : (v.queue up).later = []) :
    Linked (heap.listInsertBefore (.tailer up) (.phony up))
      (v.setQueue up { v.queue up with running := true }).nodes := by
  have before : v.nodes (.taskq up) = (v.queue up).ready.map .task ++ .tailer up :: [] := by
    simp [View.nodes, queueNodes, resting, none]
  have after : queueNodes up { v.queue up with running := true } =
      (v.queue up).ready.map .task ++ .phony up :: .tailer up :: [] := by
    simp [queueNodes, none]
  rw [nodes_setQueue, after]
  apply linked_listInsertBefore heap v.nodes linked (.taskq up) _ [] (.tailer up) (.phony up) before
  intro head
  cases head with
  | taskq other =>
      intro member
      obtain ⟨same, runs⟩ := (phony_queueNodes other up (v.queue other)).mp member
      subst same
      exact absurd (resting.symm.trans runs) (by simp)
  | waitq taskq => simp [View.nodes]

theorem linked_phony_out (heap : Heap (Head L W) (Node L T)) (linked : Linked heap v.nodes) (up : L)
    (running : (v.queue up).running = true) :
    Linked (heap.listRemove (.phony up))
      (v.setQueue up ⟨(v.queue up).linked, [], (v.queue up).claim, false⟩).nodes := by
  have before : v.nodes (.taskq up) =
      (v.queue up).ready.map .task ++ .phony up :: ((v.queue up).later.map .task ++ [.tailer up]) := by
    simp [View.nodes, queueNodes, running]
  have member : .phony up ∈ v.nodes (.taskq up) := by simp [before]
  have removed := linked_listRemove heap v.nodes linked (.taskq up) (.phony up) member
  have lists : unlink v.nodes (.phony up) =
      (v.setQueue up ⟨(v.queue up).linked, [], (v.queue up).claim, false⟩).nodes := by
    rw [nodes_setQueue]
    funext head
    by_cases same : head = .taskq up
    · subst same
      rw [unlink_split v.nodes (.phony up) (.taskq up) _ _ before
        (linked_nodup heap v.nodes linked (.taskq up))]
      simp [queueNodes, Rounds.Queue.linked]
    · rw [Function.update_of_ne same]
      apply List.filter_eq_self.mpr
      intro node inside
      have apart : node ≠ .phony up := by
        intro equal
        exact same (linked_one_head heap v.nodes linked head (.taskq up) (.phony up)
          (equal ▸ inside) member)
      simpa using apart
  exact lists ▸ removed

theorem Refines.enter (h : Refines s v) (up : L) (left : s.main up = none) :
    Refines (txLoopMainEnter s up) (v.setQueue up { v.queue up with running := true }) := by
  have resting : (v.queue up).running = false := by simpa [left] using h.running up
  have none := (h.sound up).resting resting
  apply h.requeue (txLoopMainEnter s up) up { v.queue up with running := true } .enter
  · exact linked_phony_in s.heap h.linked up resting none
  · rfl
  · rfl
  · rfl
  · simp [txLoopMainEnter]
  · intro other apart
    simp [txLoopMainEnter, apart]
  · rfl
  · exact .enter (v.queue up) resting
  · intro other
    rfl
  · simp

theorem Refines.halt (h : Refines s v) (up : L) (frame : Frame T) (inside : s.main up = some frame)
    (stopped : (s.loop up).txStop = true) :
    Refines ((txLoopMainLeave s up).note up .halt)
      (v.setQueue up ⟨(v.queue up).linked, [], (v.queue up).claim, false⟩) := by
  have running : (v.queue up).running = true := by simpa [inside] using h.running up
  apply h.requeue _ up _ .halt
  · exact linked_phony_out s.heap h.linked up running
  · simp [Rounds.Queue.linked]
  · rfl
  · rfl
  · simp [txLoopMainLeave]
  · intro other apart
    simp [txLoopMainLeave, apart]
  · rfl
  · exact .halt (v.queue up) running
  · intro other
    rfl
  · exact fun _ => stopped

def turned (q : Rounds.Queue T) (leaves : Bool) : Rounds.Queue T :=
  { q with ready := q.later, later := [], running := !leaves }

theorem Refines.phony (h : Refines s v) (up : L) (frame : Frame T) (inside : s.main up = some frame)
    (done : (v.queue up).ready = []) :
    Refines (txLoopMainPhony (s.onHeap (fun heap => heap.listRemove (.phony up))) up)
      (v.setQueue up (turned (v.queue up) (s.loop up).txBreak)) := by
  have running : (v.queue up).running = true := by simpa [inside] using h.running up
  have removed := linked_phony_out s.heap h.linked up running
  have out : (⟨(v.queue up).linked, [], (v.queue up).claim, false⟩ : Rounds.Queue T) =
      turned (v.queue up) true := by
    simp [turned, Rounds.Queue.linked, done]
  rw [out] at removed
  have queue (q : Rounds.Queue T) : (v.setQueue up q).queue up = q := by simp [View.setQueue]
  have inserted := linked_phony_in _ removed up (by rw [queue]; rfl) (by rw [queue]; rfl)
  rw [setQueue_twice, queue] at inserted
  have back : ({ turned (v.queue up) true with running := true } : Rounds.Queue T) =
      turned (v.queue up) false := rfl
  rw [back] at inserted
  cases breaks : (s.loop up).txBreak with
  | false =>
      apply h.requeue _ up _ (.turn false)
      · simpa [txLoopMainPhony, breaks] using inserted
      · simp [turned, Rounds.Queue.linked, done]
      · rfl
      · simp [txLoopMainPhony, breaks]
      · simp [txLoopMainPhony, breaks, turned]
      · intro other apart
        simp [txLoopMainPhony, breaks, apart]
      · simp [txLoopMainPhony, breaks]
      · exact .turn (v.queue up) false running done
      · intro other
        simp [txLoopMainPhony, breaks]
      · simp
  | true =>
      have left := linked_phony_out _ inserted up (by rw [queue]; rfl)
      rw [setQueue_twice, queue] at left
      have gone : (⟨(turned (v.queue up) false).linked, [], (turned (v.queue up) false).claim, false⟩ :
          Rounds.Queue T) = turned (v.queue up) true := by
        simp [turned, Rounds.Queue.linked]
      rw [gone] at left
      apply h.requeue _ up _ (.turn true)
      · simpa [txLoopMainPhony, txLoopMainLeave, breaks] using left
      · simp [turned, Rounds.Queue.linked, done]
      · rfl
      · simp [txLoopMainPhony, txLoopMainLeave, breaks]
      · simp [txLoopMainPhony, txLoopMainLeave, breaks, turned]
      · intro other apart
        simp [txLoopMainPhony, txLoopMainLeave, breaks, apart]
      · simp [txLoopMainPhony, txLoopMainLeave, breaks]
      · exact .turn (v.queue up) true running done
      · intro other
        simp [txLoopMainPhony, txLoopMainLeave, breaks]
      · simp

theorem remove_front (q : Rounds.Queue T) (task : T) (rest : List T) (sound : q.Sound)
    (front : q.ready = task :: rest) : q.remove task = { q with ready := rest } := by
  have nodup := sound.nodup
  rw [Rounds.Queue.linked, front, List.cons_append] at nodup
  have absent := (List.nodup_cons.mp nodup).1
  have kept (tasks : List T) (inside : ∀ other ∈ tasks, other ∈ rest ++ q.later) :
      tasks.filter (fun other => decide (other ≠ task)) = tasks := by
    apply List.filter_eq_self.mpr
    intro other member
    have apart : other ≠ task := fun same => absent (same ▸ inside other member)
    simpa using apart
  have ready := kept rest (fun other member => List.mem_append_left _ member)
  have later := kept q.later (fun other member => List.mem_append_right _ member)
  rw [Rounds.Queue.remove, front, List.filter_cons_of_neg (by simp), ready, later]

theorem Refines.call (h : Refines s v) (up : L) (firstRun : Bool) (task : T) (rest : List T)
    (inside : s.main up = some ⟨firstRun, none⟩) (front : (v.queue up).ready = task :: rest) :
    Refines (txLoopMainCall (s.onHeap (fun heap => heap.listRemove (.task task))) up task firstRun)
      (v.drop up task) := by
  have running : (v.queue up).running = true := by simpa [inside] using h.running up
  have member : task ∈ (v.queue up).linked := by simp [Rounds.Queue.linked, front]
  have own := h.own up task member
  have linked : (s.task task).txFlags.idle = false := by
    cases idle : (s.task task).txFlags.idle with
    | false => rfl
    | true => exact absurd member (((h.idle task).mp idle).1 up)
  have unparked : (s.task task).txFlags.pending = false := by
    cases pending : (s.task task).txFlags.pending with
    | false => rfl
    | true =>
        obtain ⟨taskq, parked⟩ := (h.pending task).mp pending
        exact absurd parked (h.not_parked up taskq task member)
  apply h.take _ task up (.serve task (s.task task).txFlags.busy) own linked
  · rfl
  · simp [txLoopMainCall]
  · simp [txLoopMainCall]
  · simp [txLoopMainCall, unparked]
  · simp [txLoopMainCall, own]
  · intro other apart
    simp [txLoopMainCall, apart]
  · intro other
    by_cases same : other = up
    · subst same
      simp [txLoopMainCall, inside]
    · simp [txLoopMainCall, same]
  · rfl
  · rw [h.busy task, own, remove_front _ task rest (h.sound up) front]
    exact .serve (v.queue up) task rest running front
  · simp
  · intro other
    simp [txLoopMainCall]

omit [DecidableEq L] [DecidableEq W] in
theorem Refines.first (h : Refines s v) (up : L) (frame : Frame T) (inside : s.main up = some frame) :
    s.heap.lhFirst (.taskq up) =
      match (v.queue up).ready with
      | [] => some (.phony up)
      | task :: _ => some (.task task) := by
  have running : (v.queue up).running = true := by simpa [inside] using h.running up
  have first := chain_head s.heap (.first (.taskq up)) _ (h.linked (.taskq up))
  rw [read_first] at first
  rw [first, View.nodes, queueNodes, running]
  cases (v.queue up).ready <;> rfl

/-- All that a pass of the loop can do, from its test on. -/
theorem test_cases (next : World L T W P R) (up : L) (firstRun : Bool)
    (passed : txLoopMainTest s up firstRun = .ok next) :
    (((s.loop up).txStop = false ∨ firstRun = true) ∧
      (s.heap.lhFirst (.taskq up) = some (.phony up) ∧
          next = txLoopMainPhony (s.onHeap (fun heap => heap.listRemove (.phony up))) up ∨
        ∃ task, s.heap.lhFirst (.taskq up) = some (.task task) ∧
          next = txLoopMainCall (s.onHeap (fun heap => heap.listRemove (.task task))) up task firstRun)) ∨
    ¬ ((s.loop up).txStop = false ∨ firstRun = true) ∧ next = (txLoopMainLeave s up).note up .halt := by
  unfold txLoopMainTest at passed
  split at passed
  · rename_i goes
    refine Or.inl ⟨goes, ?_⟩
    split at passed
    · cases passed
    · cases passed
    · rename_i other first
      split at passed
      · rename_i own
        injection passed with same
        exact Or.inl ⟨own ▸ first, same.symm⟩
      · cases passed
    · rename_i task first
      injection passed with same
      exact Or.inr ⟨task, first, same.symm⟩
  · rename_i halts
    injection passed with same
    exact Or.inr ⟨halts, same.symm⟩

/-- The loop test never finds a null head, the tailer or another loop's phony. -/
theorem Refines.test (h : Refines s v) (up : L) (firstRun : Bool)
    (inside : s.main up = some ⟨firstRun, none⟩) :
    ∃ next v', txLoopMainTest s up firstRun = .ok next ∧ Refines next v' := by
  have first := h.first up ⟨firstRun, none⟩ inside
  by_cases goes : (s.loop up).txStop = false ∨ firstRun = true
  · cases ready : (v.queue up).ready with
    | nil =>
        rw [ready] at first
        refine ⟨_, _, ?_, h.phony up ⟨firstRun, none⟩ inside ready⟩
        simp [txLoopMainTest, goes, first]
    | cons task rest =>
        rw [ready] at first
        refine ⟨_, _, ?_, h.call up firstRun task rest inside ready⟩
        simp [txLoopMainTest, goes, first]
  · have stopped : (s.loop up).txStop = true := by
      cases stop : (s.loop up).txStop with
      | true => rfl
      | false => exact absurd (Or.inl stop) goes
    refine ⟨_, _, ?_, h.halt up ⟨firstRun, none⟩ inside stopped⟩
    rw [txLoopMainTest, if_neg goes]

end Main

variable [DecidableEq W]

/-- Every step of the code is one of the view, or leaves it. -/
theorem refines_step (s next : World L T W P R) (step : Step s next) (v : View L T W)
    (h : Refines s v) : ∃ v', Refines next v' := by
  cases step with
  | active task reason =>
      cases task with
      | none => exact ⟨v, h⟩
      | some task => exact h.active task reason
  | drop task =>
      cases task with
      | none => exact ⟨v, h⟩
      | some task => exact ⟨_, h.drop task⟩
  | record taskq task => exact ⟨_, h.record taskq task⟩
  | wakeup _ taskq reason fuel result live =>
      have loops : ∀ task ∈ v.parked taskq, (s.loop (s.task task).txLoop).txStop = false := by
        intro task member
        apply live task
        exact (holds_iff s.heap v.nodes h.linked (.waitq taskq) (.task task)).mpr (List.mem_map_of_mem member)
      by_cases enough : (v.parked taskq).length ≤ fuel
      · obtain ⟨returned, refines, _⟩ := h.wakeup taskq reason fuel enough loops
        rw [result] at returned
        injection returned with same
        exact ⟨_, same ▸ refines⟩
      · rw [h.wakeup_short taskq reason fuel (by omega) loops] at result
        exact absurd result (by simp)
  | pollActive poll => exact h.pollActive poll
  | mark task =>
      refine ⟨v, h.frame _ rfl ?_ ?_ ?_ ?_ (fun _ => rfl) rfl (fun _ stop => stop)⟩
      all_goals
        intro other
        by_cases same : other = task
        · simp [txTaskMark, same]
        · simp [txTaskMark, same]
  | breaks up =>
      refine ⟨v, h.frame _ rfl (fun _ => rfl) (fun _ => rfl) (fun _ => rfl) (fun _ => rfl)
        (fun _ => rfl) rfl ?_⟩
      intro other stop
      simpa [txLoopBreak] using stop
  | stop up =>
      refine ⟨v, h.frame _ rfl (fun _ => rfl) (fun _ => rfl) (fun _ => rfl) (fun _ => rfl)
        (fun _ => rfl) rfl ?_⟩
      intro other stop
      by_cases same : other = up
      · simp [txLoopStop, same]
      · simpa [txLoopStop, same] using stop
  | holder up holder =>
      refine ⟨v, h.frame _ rfl (fun _ => rfl) (fun _ => rfl) (fun _ => rfl) (fun _ => rfl)
        (fun _ => rfl) rfl ?_⟩
      intro other stop
      simpa [setHolder] using stop
  | enter up left => exact ⟨_, h.enter up left⟩
  | test _ up firstRun atTest passed =>
      obtain ⟨after, v', result, refines⟩ := h.test up firstRun atTest
      rw [passed] at result
      injection result with same
      exact ⟨v', same ▸ refines⟩
  | returned up firstRun task inCall =>
      refine ⟨v, h.frame _ rfl (fun _ => rfl) (fun _ => rfl) (fun _ => rfl) (fun _ => rfl) ?_ rfl
        (fun _ stop => stop)⟩
      intro other
      by_cases same : other = up
      · simp [same, inCall]
      · simp [same]

theorem refines_reachable (s : World L T W P R) (reachable : Reachable s) : ∃ v, Refines s v := by
  obtain ⟨memory, loopOf, run⟩ := reachable
  induction run with
  | refl => exact ⟨_, refines_start memory loopOf⟩
  | tail _ step ih =>
      obtain ⟨v, refines⟩ := ih
      exact refines_step _ _ step v refines

end Libtx
