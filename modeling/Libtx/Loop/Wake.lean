import Libtx.Loop.Membership

/-! Parking and waking tasks: what a wakeup appends to the queue of a running loop, and
what it leaves behind when a loop has been stopped. -/

namespace Libtx

open Intrusive

inductive TaskUse (T W R : Type) where
  | active (task : Option T) (reason : Option R)
  | drop (task : Option T)
  | record (taskq : W) (task : T)

variable {L T W P R : Type}

def TaskUse.about : TaskUse T W R → Option T
  | .active task _ => task
  | .drop task => task
  | .record _ task => some task

variable [DecidableEq L] [DecidableEq T]

section

variable [DecidableEq W]

def useTask (s : World L T W P R) : TaskUse T W R → World L T W P R
  | .active task reason => txTaskActive s task reason
  | .drop task => txTaskDrop s task
  | .record taskq task => txTaskRecord s taskq task

def useTasks (s : World L T W P R) (uses : List (TaskUse T W R)) : World L T W P R := uses.foldl useTask s

def untouched (uses : List (TaskUse T W R)) (task : T) : Bool :=
  uses.all (fun use => decide (use.about ≠ some task))

def TaskUse.parks (taskq : W) : TaskUse T W R → List T
  | .record other task => if other = taskq then [task] else []
  | _ => []

/-- The tasks whose last record is on the queue and which no later use is about, the most
recently recorded first. -/
def standing (taskq : W) : List (TaskUse T W R) → List T
  | [] => []
  | use :: later => standing taskq later ++ (use.parks taskq).filter (untouched later)

theorem standing_about (taskq : W) (uses : List (TaskUse T W R)) (task : T)
    (stands : task ∈ standing taskq uses) : ∃ use ∈ uses, use.about = some task := by
  induction uses with
  | nil => exact absurd stands (by simp [standing])
  | cons use later ih =>
      rw [standing, List.mem_append] at stands
      rcases stands with old | new
      · obtain ⟨other, member, about⟩ := ih old
        exact ⟨other, List.mem_cons_of_mem use member, about⟩
      · refine ⟨use, List.mem_cons_self, ?_⟩
        have parks := List.mem_of_mem_filter new
        cases use with
        | active about reason => simp [TaskUse.parks] at parks
        | drop about => simp [TaskUse.parks] at parks
        | record other about =>
            simp only [TaskUse.parks] at parks
            split at parks
            · rw [List.mem_singleton.mp parks]
              rfl
            · simp at parks

end

section Uses

variable {s : World L T W P R} {v : View L T W}

/-- The use changes no list that its task is on neither before nor after. -/
def Confined (lists after : Head L W → List (Node L T)) (use : TaskUse T W R) : Prop :=
  ∀ task, use.about = some task → ∀ head, .task task ∉ lists head → .task task ∉ after head →
    after head = lists head

omit [DecidableEq L] [DecidableEq T] in
theorem confined_refl (lists : Head L W → List (Node L T)) (use : TaskUse T W R) :
    Confined lists lists use := fun _ _ _ _ _ => rfl

theorem Refines.nodes_drop (h : Refines s v) (task : T) :
    (v.drop (s.task task).txLoop task).nodes = unlink v.nodes (.task task) :=
  Libtx.nodes_drop v (s.task task).txLoop task (h.elsewhere task)

theorem activate_holds (v : View L T W) (up : L) (task : T) :
    .task task ∈ (v.activate up task).nodes (.taskq up) := by
  rw [View.nodes, mem_queueNodes, View.activate, View.setQueue]
  dsimp only
  rw [Function.update_self]
  cases running : ((v.drop up task).queue up).running <;>
    simp [Rounds.Queue.linked, Rounds.Queue.insert, Rounds.Queue.mark, running]

variable [DecidableEq W]

theorem useTask_loop (s : World L T W P R) (use : TaskUse T W R) (task : T) :
    ((useTask s use).task task).txLoop = (s.task task).txLoop := by
  cases use with
  | active about reason =>
      cases about with
      | none => rfl
      | some about => exact txTaskActive_task_loop about task reason
  | drop about =>
      cases about with
      | none => rfl
      | some about => exact txTaskDrop_loop about task
  | record taskq about =>
      have dropped := txTaskDrop_loop (s := s) about task
      by_cases same : task = about
      · subst same
        simpa [useTask, txTaskRecord] using dropped
      · simpa [useTask, txTaskRecord, same] using dropped

theorem useTask_stop (s : World L T W P R) (use : TaskUse T W R) (up : L) :
    ((useTask s use).loop up).txStop = (s.loop up).txStop := by
  cases use with
  | active about reason =>
      cases about with
      | none => rfl
      | some about => exact txTaskActive_stops about up reason
  | drop about =>
      cases about with
      | none => rfl
      | some about => rw [useTask, txTaskDrop_loops]
  | record taskq about =>
      have dropped := txTaskDrop_loops (s := s) about
      simp [useTask, txTaskRecord, dropped]

theorem Refines.nodes_activate (h : Refines s v) (task : T) (head : Head L W)
    (apart : head ≠ .taskq (s.task task).txLoop) :
    (v.activate (s.task task).txLoop task).nodes head = unlink v.nodes (.task task) head := by
  rw [View.activate, nodes_setQueue, Function.update_of_ne apart, h.nodes_drop task]

theorem Refines.use (h : Refines s v) (use : TaskUse T W R) :
    ∃ after, Refines (useTask s use) after ∧ Confined v.nodes after.nodes use := by
  cases use with
  | active about reason =>
      cases about with
      | none => exact ⟨v, h, confined_refl v.nodes _⟩
      | some task =>
          by_cases effective : (s.loop (s.task task).txLoop).txStop = false ∧
              (s.task task).txFlags.busy = false
          · refine ⟨_, h.activate task reason effective.1 effective.2, ?_⟩
            intro other same head before after
            injection same with same
            subst same
            have apart : head ≠ .taskq (s.task task).txLoop := by
              intro equal
              subst equal
              exact after (activate_holds v _ task)
            rw [h.nodes_activate task head apart, unlink_same v.nodes _ head before]
          · refine ⟨v, ?_, confined_refl v.nodes _⟩
            rw [useTask, txTaskActive_refused task reason effective]
            exact h
  | drop about =>
      cases about with
      | none => exact ⟨v, h, confined_refl v.nodes _⟩
      | some task =>
          refine ⟨_, h.drop task, ?_⟩
          intro other same head before _
          injection same with same
          subst same
          rw [h.nodes_drop task, unlink_same v.nodes _ head before]
  | record taskq task =>
      refine ⟨_, h.record taskq task, ?_⟩
      intro other same head before after
      injection same with same
      subst same
      rw [nodes_park] at after ⊢
      have apart : head ≠ .waitq taskq := by
        intro equal
        subst equal
        simp at after
      rw [Function.update_of_ne apart, h.nodes_drop task, unlink_same v.nodes _ head before]

omit [DecidableEq W] in
theorem View.parked_untouched (v : View L T W) (up : L) (task : T) (taskq : W) (use : TaskUse T W R)
    (about : use.about = some task) :
    (v.drop up task).parked taskq = (v.parked taskq).filter (untouched [use]) := by
  apply List.filter_congr
  intro other _
  simp [untouched, about, eq_comm]

omit [DecidableEq L] [DecidableEq W] in
theorem View.parked_absent (v : View L T W) (taskq : W) (use : TaskUse T W R)
    (absent : ∀ task, use.about = some task → task ∉ v.parked taskq) :
    (v.parked taskq).filter (untouched [use]) = v.parked taskq := by
  apply List.filter_eq_self.mpr
  intro task member
  have apart : use.about ≠ some task := fun about => absent task about member
  simpa [untouched] using apart

theorem Refines.use_parked (h : Refines s v) (use : TaskUse T W R) (taskq : W)
    (live : ∀ task, use.about = some task → (s.loop (s.task task).txLoop).txStop = false) :
    ∃ after, Refines (useTask s use) after ∧
      after.parked taskq = use.parks taskq ++ (v.parked taskq).filter (untouched [use]) := by
  cases use with
  | active about reason =>
      cases about with
      | none => exact ⟨v, h, (v.parked_absent taskq _ (fun _ same => absurd same (by simp [TaskUse.about]))).symm⟩
      | some task =>
          cases taken : (s.task task).txFlags.busy with
          | true =>
              -- a busy task is on its loop's queue, so on no wait queue
              refine ⟨v, ?_, (v.parked_absent taskq _ ?_).symm⟩
              · rw [useTask, txTaskActive_refused task reason (by simp [taken])]
                exact h
              · intro other same parked
                injection same with same
                subst same
                exact absurd (h.not_claimed taskq task parked).1 (by simp [taken])
          | false =>
              exact ⟨_, h.activate task reason (live task rfl) taken,
                v.parked_untouched (s.task task).txLoop task taskq (.active (some task) reason) rfl⟩
  | drop about =>
      cases about with
      | none => exact ⟨v, h, (v.parked_absent taskq _ (fun _ same => absurd same (by simp [TaskUse.about]))).symm⟩
      | some task => exact ⟨_, h.drop task,
          v.parked_untouched (s.task task).txLoop task taskq (.drop (some task) : TaskUse T W R) rfl⟩
  | record other task =>
      refine ⟨_, h.record other task, ?_⟩
      have dropped := v.parked_untouched (s.task task).txLoop task taskq (.record other task : TaskUse T W R) rfl
      by_cases same : taskq = other
      · subst same
        simp [View.park, TaskUse.parks, dropped]
      · simp [View.park, TaskUse.parks, dropped, same, Ne.symm same]

/-- After any uses a queue holds the tasks standing on it, and behind them what it held before
of the tasks that no use was about. -/
theorem Refines.uses (h : Refines s v) (uses : List (TaskUse T W R)) (taskq : W)
    (live : ∀ use ∈ uses, ∀ task, use.about = some task →
      (s.loop (s.task task).txLoop).txStop = false) :
    ∃ after, Refines (useTasks s uses) after ∧
      after.parked taskq =
        standing taskq uses ++ (v.parked taskq).filter (untouched uses) := by
  induction uses generalizing s v with
  | nil =>
      have all : (v.parked taskq).filter (untouched ([] : List (TaskUse T W R))) = v.parked taskq :=
        List.filter_eq_self.mpr (fun _ _ => rfl)
      exact ⟨v, h, by rw [all]; rfl⟩
  | cons use later ih =>
      obtain ⟨one, refines, first⟩ := h.use_parked use taskq (live use List.mem_cons_self)
      have kept : ∀ other ∈ later, ∀ task, other.about = some task →
          ((useTask s use).loop ((useTask s use).task task).txLoop).txStop = false := by
        intro other member task about
        rw [useTask_loop, useTask_stop]
        exact live other (List.mem_cons_of_mem use member) task about
      obtain ⟨after, final, rest⟩ := ih refines kept
      refine ⟨after, final, ?_⟩
      have both : ∀ task, untouched (use :: later) task =
          (untouched later task && untouched [use] task) := by
        intro task
        simp [untouched, Bool.and_comm]
      calc
        after.parked taskq = standing taskq later ++ (one.parked taskq).filter (untouched later) := rest
        _ = standing taskq later ++ ((use.parks taskq).filter (untouched later) ++
            ((v.parked taskq).filter (untouched [use])).filter (untouched later)) := by
          rw [first, List.filter_append]
        _ = standing taskq (use :: later) ++ (v.parked taskq).filter (untouched (use :: later)) := by
          rw [standing, List.append_assoc, List.filter_filter, funext both]

theorem useTasks_loop (s : World L T W P R) (uses : List (TaskUse T W R)) (task : T) :
    ((useTasks s uses).task task).txLoop = (s.task task).txLoop := by
  induction uses generalizing s with
  | nil => rfl
  | cons use later ih => exact (ih (useTask s use)).trans (useTask_loop s use task)

theorem useTasks_stop (s : World L T W P R) (uses : List (TaskUse T W R)) (up : L) :
    ((useTasks s uses).loop up).txStop = (s.loop up).txStop := by
  induction uses generalizing s with
  | nil => rfl
  | cons use later ih => exact (ih (useTask s use)).trans (useTask_stop s use up)

end Uses

section Wakeup

variable {s : World L T W P R} {v : View L T W}

theorem resting_activate (v : View L T W) (up : L) (task : T)
    (resting : (v.queue up).running = false → (v.queue up).later = []) :
    ((v.activate up task).queue up).running = false → ((v.activate up task).queue up).later = [] := by
  intro running
  have before : (v.queue up).running = false := by
    rw [← running_drop v up up task]
    cases dropped : ((v.drop up task).queue up).running <;>
      simp [View.activate, View.setQueue, Rounds.Queue.insert, Rounds.Queue.mark, dropped] at running ⊢
  have empty := resting before
  simp [View.activate, View.setQueue, View.drop, Rounds.Queue.insert, Rounds.Queue.mark,
    Rounds.Queue.remove, before, empty]

theorem wake_congr (v : View L T W) (loopOf other : T → L) (tasks : List T)
    (same : ∀ task ∈ tasks, loopOf task = other task) : v.wake loopOf tasks = v.wake other tasks := by
  induction tasks generalizing v with
  | nil => rfl
  | cons task rest ih =>
      rw [View.wake, View.wake, List.foldl_cons, List.foldl_cons, same task List.mem_cons_self]
      exact ih _ (fun later member => same later (List.mem_cons_of_mem task member))

variable [DecidableEq W]

theorem activate_append (v : View L T W) (up : L) (task : T) (front : List (Node L T))
    (resting : (v.queue up).running = false → (v.queue up).later = [])
    (elsewhere : ∀ other, other ≠ up → task ∉ (v.queue other).linked)
    (absent : .task task ∉ v.nodes (.taskq up)) (split : v.nodes (.taskq up) = front ++ [.tailer up]) :
    (v.activate up task).nodes (.taskq up) = front ++ [.task task, .tailer up] := by
  have dropped : (v.drop up task).nodes (.taskq up) = v.nodes (.taskq up) := by
    rw [nodes_drop v up task elsewhere]
    exact unlink_same v.nodes (.task task) (.taskq up) absent
  have empty : ((v.drop up task).queue up).running = false → ((v.drop up task).queue up).later = [] := by
    intro running
    rw [running_drop] at running
    simp [View.drop, Rounds.Queue.mark, Rounds.Queue.remove, resting running]
  obtain ⟨old, before, _, after⟩ := queueNodes_insert up ((v.drop up task).queue up) task true empty
  have shared : old ++ [.tailer up] = front ++ [.tailer up] := by
    rw [← before, ← split, ← dropped]
    rfl
  have same := List.append_cancel_right shared
  rw [View.activate, nodes_setQueue, Function.update_self, after, same]

theorem wake_nodes (v : View L T W) (up : L) (taskq : W) (tasks : List T) (front : List (Node L T))
    (nodup : tasks.Nodup) (resting : (v.queue up).running = false → (v.queue up).later = [])
    (only : ∀ task ∈ tasks, ∀ head, head ≠ .waitq taskq → .task task ∉ v.nodes head)
    (split : v.nodes (.taskq up) = front ++ [.tailer up]) :
    (v.wake (fun _ => up) tasks).nodes (.taskq up) = front ++ tasks.map .task ++ [.tailer up] ∧
      ∀ head, head ≠ .taskq up → head ≠ .waitq taskq →
        (v.wake (fun _ => up) tasks).nodes head = v.nodes head := by
  induction tasks generalizing v front with
  | nil => exact ⟨by simpa [View.wake] using split, fun _ _ _ => rfl⟩
  | cons task rest ih =>
      have alone := only task List.mem_cons_self
      have elsewhere : ∀ other, other ≠ up → task ∉ (v.queue other).linked := by
        intro other _ member
        exact alone (.taskq other) (by simp) ((mem_queueNodes other _ task).mpr member)
      have appended := activate_append v up task front resting elsewhere (alone (.taskq up) (by simp)) split
      have others : ∀ head, head ≠ .taskq up →
          (v.activate up task).nodes head = unlink v.nodes (.task task) head := by
        intro head apart
        rw [View.activate, nodes_setQueue, Function.update_of_ne apart, nodes_drop v up task elsewhere]
      have kept : ∀ head, head ≠ .taskq up → head ≠ .waitq taskq →
          (v.activate up task).nodes head = v.nodes head := by
        intro head queue wait
        rw [others head queue, unlink_same v.nodes (.task task) head (alone head wait)]
      have remaining : ∀ other ∈ rest, ∀ head, head ≠ .waitq taskq →
          .task other ∉ (v.activate up task).nodes head := by
        intro other member head wait inside
        have old := only other (List.mem_cons_of_mem task member) head wait
        by_cases queue : head = .taskq up
        · subst queue
          rw [appended] at inside
          rw [split] at old
          have apart : other ≠ task := fun same => (List.nodup_cons.mp nodup).1 (same ▸ member)
          simp [apart] at inside old
          exact old inside
        · rw [kept head queue wait] at inside
          exact old inside
      have split' : (v.activate up task).nodes (.taskq up) = (front ++ [.task task]) ++ [.tailer up] := by
        rw [appended]
        simp
      have later := ih (v.activate up task) (front ++ [.task task]) (List.nodup_cons.mp nodup).2
        (resting_activate v up task resting) remaining split'
      constructor
      · have woken := later.1
        rw [List.append_assoc front] at woken
        exact woken
      · intro head queue wait
        exact (later.2 head queue wait).trans (kept head queue wait)

def Woken (reason : Option R) (task : TxTask L R) : Prop :=
  task.txFlags.busy = true ∧ task.txFlags.pending = false ∧ task.txReason = reason

theorem txTaskDrop_other (s : World L T W P R) (task other : T) (apart : other ≠ task) :
    (txTaskDrop s (some task)).task other = s.task other := by
  cases idle : (s.task task).txFlags.idle with
  | true => rw [txTaskDrop_idle task idle]
  | false =>
      rw [txTaskDrop_linked task idle]
      simp [apart]

theorem txTaskActive_other (s : World L T W P R) (task other : T) (reason : Option R)
    (apart : other ≠ task) : (txTaskActive s (some task) reason).task other = s.task other := by
  have dropped := txTaskDrop_other s task other apart
  by_cases effective : (s.loop (s.task task).txLoop).txStop = false ∧ (s.task task).txFlags.busy = false
  · simp [txTaskActive, effective, apart, dropped]
  · rw [txTaskActive_refused task reason effective]

theorem wake_other (s : World L T W P R) (reason : Option R) (tasks : List T) (other : T)
    (absent : other ∉ tasks) : (s.wake reason tasks).task other = s.task other := by
  induction tasks generalizing s with
  | nil => rfl
  | cons task rest ih =>
      have apart : other ≠ task := fun same => absent (same ▸ List.mem_cons_self)
      have later := ih (txTaskActive s (some task) reason) (fun member => absent (List.mem_cons_of_mem task member))
      exact later.trans (txTaskActive_other s task other reason apart)

theorem woken_active (s : World L T W P R) (task : T) (reason : Option R)
    (live : (s.loop (s.task task).txLoop).txStop = false) (free : (s.task task).txFlags.busy = false)
    (linked : (s.task task).txFlags.idle = false) :
    Woken reason ((txTaskActive s (some task) reason).task task) := by
  simp [Woken, txTaskActive, live, free, txTaskDrop_linked task linked]

theorem wake_woken (s : World L T W P R) (reason : Option R) (tasks : List T) (nodup : tasks.Nodup)
    (ready : ∀ task ∈ tasks, (s.loop (s.task task).txLoop).txStop = false ∧
      (s.task task).txFlags.busy = false ∧ (s.task task).txFlags.idle = false) :
    ∀ task ∈ tasks, Woken reason ((s.wake reason tasks).task task) := by
  induction tasks generalizing s with
  | nil => simp
  | cons task rest ih =>
      have state := ready task List.mem_cons_self
      have absent := (List.nodup_cons.mp nodup).1
      intro member inside
      rcases List.mem_cons.mp inside with same | later
      · have kept := wake_other (txTaskActive s (some task) reason) reason rest task absent
        rw [same, World.wake, List.foldl_cons, ← World.wake, kept]
        exact woken_active s task reason state.1 state.2.1 state.2.2
      · apply ih (txTaskActive s (some task) reason) (List.nodup_cons.mp nodup).2 _ member later
        intro other inRest
        have apart : other ≠ task := fun same => absent (same ▸ inRest)
        rw [txTaskActive_stops, txTaskActive_other s task other reason apart]
        exact ready other (List.mem_cons_of_mem task inRest)

/-- The tasks of the wait queue, in their order, have moved behind what the loop had queued. -/
structure Handover (s woken : World L T W P R) (lists after : Head L W → List (Node L T)) (up : L)
    (taskq : W) (reason : Option R) (tasks : List T) : Prop where
  before : Linked s.heap lists
  linked : Linked woken.heap after
  appended : ∃ front, lists (.taskq up) = front ++ [.tailer up] ∧
    after (.taskq up) = front ++ tasks.map .task ++ [.tailer up]
  once : (after (.taskq up)).Nodup
  emptied : after (.waitq taskq) = []
  others : ∀ head, head ≠ .taskq up → head ≠ .waitq taskq → after head = lists head
  marked : ∀ task ∈ tasks, Woken reason (woken.task task)

theorem Refines.handover (h : Refines s v) (up : L) (taskq : W) (reason : Option R)
    (live : (s.loop up).txStop = false) (own : ∀ task ∈ v.parked taskq, (s.task task).txLoop = up) :
    ∃ fuel woken after, txTaskWakeup fuel s taskq reason = some woken ∧
      Handover s woken v.nodes after up taskq reason (v.parked taskq) := by
  have lives : ∀ task ∈ v.parked taskq, (s.loop (s.task task).txLoop).txStop = false := by
    intro task member
    rw [own task member]
    exact live
  obtain ⟨result, refines, emptied⟩ := h.wakeup taskq reason _ (Nat.le_refl _) lives
  have loops := wake_congr v (fun task => (s.task task).txLoop) (fun _ => up) (v.parked taskq) own
  rw [loops] at refines emptied
  have nodes : v.nodes (.taskq up) = _ ++ [.tailer up] := rfl
  have listed : ((v.parked taskq).map (.task : T → Node L T)).Nodup :=
    linked_nodup s.heap v.nodes h.linked (.waitq taskq)
  have nodup := List.Nodup.of_map _ listed
  have only : ∀ task ∈ v.parked taskq, ∀ head, head ≠ .waitq taskq → .task task ∉ v.nodes head := by
    intro task member head apart inside
    exact apart (linked_one_head s.heap v.nodes h.linked head (.waitq taskq) (.task task) inside
      (List.mem_map_of_mem member))
  obtain ⟨appended, others⟩ := wake_nodes v up taskq (v.parked taskq) _ nodup (h.sound up).resting only nodes
  have ready : ∀ task ∈ v.parked taskq, (s.loop (s.task task).txLoop).txStop = false ∧
      (s.task task).txFlags.busy = false ∧ (s.task task).txFlags.idle = false :=
    fun task member => ⟨lives task member, h.not_claimed taskq task member⟩
  exact ⟨_, _, _, result, h.linked, refines.linked, ⟨_, nodes, appended⟩,
    linked_nodup _ _ refines.linked (.taskq up), by rw [View.nodes, emptied, List.map_nil], others,
    wake_woken s reason (v.parked taskq) nodup ready⟩

end Wakeup

variable [DecidableEq W]

/-- After any uses of tasks of a running loop, a wakeup hands over exactly the tasks that stand
on the queue: those recorded there last, the newest first, and behind them what it held before
and no use was about. -/
theorem wakeup_complete (s : World L T W P R) (reachable : Reachable s) (up : L)
    (live : (s.loop up).txStop = false) (uses : List (TaskUse T W R))
    (own : ∀ use ∈ uses, ∀ task, use.about = some task → (s.task task).txLoop = up) (taskq : W)
    (held : List T) (chain : Chain s.heap (.first (.waitq taskq)) (held.map .task))
    (ownHeld : ∀ task ∈ held, (s.task task).txLoop = up) (reason : Option R) :
    ∃ fuel woken lists after, txTaskWakeup fuel (useTasks s uses) taskq reason = some woken ∧
      Handover (useTasks s uses) woken lists after up taskq reason
        (standing taskq uses ++ held.filter (untouched uses)) := by
  obtain ⟨v, refines⟩ := refines_reachable s reachable
  have parked : v.parked taskq = held := by
    have same := chain_unique s.heap _ _ _ (refines.linked (.waitq taskq)) chain
    exact List.map_injective_iff.mpr (fun _ _ equal => Node.task.inj equal) same
  have lives : ∀ use ∈ uses, ∀ task, use.about = some task →
      (s.loop (s.task task).txLoop).txStop = false := by
    intro use member task about
    rw [own use member task about]
    exact live
  obtain ⟨used, usedRefines, stands⟩ := refines.uses uses taskq lives
  rw [parked] at stands
  have owns : ∀ task ∈ used.parked taskq, ((useTasks s uses).task task).txLoop = up := by
    intro task member
    rw [useTasks_loop]
    rw [stands] at member
    rcases List.mem_append.mp member with recorded | kept
    · obtain ⟨use, inside, about⟩ := standing_about taskq uses task recorded
      exact own use inside task about
    · exact ownHeld task (List.mem_of_mem_filter kept)
  have running : ((useTasks s uses).loop up).txStop = false := by rw [useTasks_stop, live]
  obtain ⟨fuel, woken, after, result, done⟩ := usedRefines.handover up taskq reason running owns
  rw [stands] at done
  exact ⟨fuel, woken, _, after, result, done⟩

def pairUses : List (TaskUse Bool Unit Unit) :=
  [.record () true, .record () false, .drop (some true), .record () true]

theorem wakeup_complete_pair : ∃ fuel woken lists after,
    txTaskWakeup fuel (useTasks pairStart pairUses) () none = some woken ∧
      Handover (useTasks pairStart pairUses) woken lists after () () none [true, false] :=
  wakeup_complete pairStart ⟨_, _, .refl⟩ () rfl pairUses (fun _ _ _ _ => rfl) () [] rfl (by simp) none

/-- No task of the wait queue is left between its flags and the lists, and nothing that is done
to them later reaches a list they are not on. -/
structure Consistent (s woken : World L T W P R) (lists : Head L W → List (Node L T)) (taskq : W) :
    Prop where
  linked : Linked woken.heap lists
  emptied : lists (.waitq taskq) = []
  placed : ∀ task, Holds s.heap (.waitq taskq) (.task task) →
    ((lists (.taskq (woken.task task).txLoop)).count (.task task) = 1 ∧
        (∀ head, head ≠ .taskq (woken.task task).txLoop → .task task ∉ lists head) ∧
        (woken.task task).txFlags.busy = true) ∨
      ((∀ head, .task task ∉ lists head) ∧ (woken.task task).txFlags.idle = true)
  confined : ∀ uses use, (∀ other ∈ use :: uses, ∀ task, other.about = some task →
      Holds s.heap (.waitq taskq) (.task task)) →
    ∃ before after, Linked (useTasks woken uses).heap before ∧
      Linked (useTask (useTasks woken uses) use).heap after ∧ Confined before after use

section Stopped

variable {s : World L T W P R} {v : View L T W}

theorem Refines.used (h : Refines s v) (uses : List (TaskUse T W R)) :
    ∃ after, Refines (useTasks s uses) after := by
  induction uses generalizing s v with
  | nil => exact ⟨v, h⟩
  | cons use later ih =>
      obtain ⟨after, refines, _⟩ := h.use use
      exact ih refines

theorem Refines.consistent (h : Refines s v) (taskq : W) (reason : Option R)
    (live : ∀ task ∈ v.parked taskq, (s.loop (s.task task).txLoop).txStop = false) :
    ∃ fuel woken lists, txTaskWakeup fuel s taskq reason = some woken ∧
      Consistent s woken lists taskq := by
  obtain ⟨result, refines, emptied⟩ := h.wakeup taskq reason _ (Nat.le_refl _) live
  refine ⟨_, _, _, result, refines.linked, by rw [View.nodes, emptied, List.map_nil], ?_, ?_⟩
  · intro task holds
    have parked : task ∈ v.parked taskq := by
      have member := (holds_iff s.heap v.nodes h.linked (.waitq taskq) (.task task)).mp holds
      obtain ⟨other, inside, same⟩ := List.mem_map.mp member
      exact Node.task.inj same ▸ inside
    have listed : ((v.parked taskq).map (.task : T → Node L T)).Nodup :=
      linked_nodup s.heap v.nodes h.linked (.waitq taskq)
    have ready : ∀ task ∈ v.parked taskq, (s.loop (s.task task).txLoop).txStop = false ∧
        (s.task task).txFlags.busy = false ∧ (s.task task).txFlags.idle = false :=
      fun task member => ⟨live task member, h.not_claimed taskq task member⟩
    have busy := (wake_woken s reason (v.parked taskq) (List.Nodup.of_map _ listed) ready task parked).1
    have member := refines.membership.busy task busy
    exact Or.inl ⟨(refines.count_once _ _ member).1, (refines.count_once _ _ member).2, busy⟩
  · intro uses use _
    obtain ⟨before, usedRefines⟩ := refines.used uses
    obtain ⟨after, final, confined⟩ := usedRefines.use use
    exact ⟨before.nodes, after.nodes, usedRefines.linked, final.linked, confined⟩

/-- A parked task of a stopped loop: neither a wakeup nor an activation moves its flags. -/
def Stuck (task : T) (s : World L T W P R) : Prop :=
  (s.loop (s.task task).txLoop).txStop = true ∧
    (s.task task).txFlags.idle = false ∧ (s.task task).txFlags.busy = false

theorem stuck_visit (reason : Option R) (task : T) (s : World L T W P R) (other : T)
    (stuck : Stuck task s) :
    Stuck task (txTaskActive (s.setFlags other (fun flags => { flags with pending := false }))
      (some other) reason) := by
  have cleared : Stuck task (s.setFlags other (fun flags => { flags with pending := false })) := by
    by_cases same : task = other
    · subst same
      simpa [Stuck] using stuck
    · simpa [Stuck, same] using stuck
  generalize s.setFlags other (fun flags => { flags with pending := false }) = world at cleared
  by_cases same : task = other
  · subst same
    rw [txTaskActive_refused task reason (by simp [cleared.1])]
    exact cleared
  · rw [Stuck, txTaskActive_stops, txTaskActive_other world other task reason same]
    exact cleared

theorem stuck_wakeup (fuel : Nat) (s woken : World L T W P R) (taskq : W) (reason : Option R) (task : T)
    (stuck : Stuck task s) (result : txTaskWakeup fuel s taskq reason = some woken) : Stuck task woken := by
  obtain ⟨walked, done, same⟩ := Option.map_eq_some_iff.mp result
  subst same
  exact wakeup_from_keeps (Stuck task) reason (stuck_visit reason task) fuel s walked _ stuck done

end Stopped

/-- A wakeup leaves its tasks consistent exactly when no task of the queue belongs to a stopped
loop. -/
theorem wakeup_consistent (s : World L T W P R) (reachable : Reachable s) (taskq : W)
    (reason : Option R) :
    (∃ fuel woken lists, txTaskWakeup fuel s taskq reason = some woken ∧
        Consistent s woken lists taskq) ↔
      ∀ task, Holds s.heap (.waitq taskq) (.task task) →
        (s.loop (s.task task).txLoop).txStop = false := by
  obtain ⟨v, refines⟩ := refines_reachable s reachable
  have parked : ∀ task, Holds s.heap (.waitq taskq) (.task task) ↔ task ∈ v.parked taskq := by
    intro task
    rw [holds_iff s.heap v.nodes refines.linked, View.nodes]
    simp
  constructor
  · intro fine task holds
    obtain ⟨fuel, woken, lists, result, consistent⟩ := fine
    cases stop : (s.loop (s.task task).txLoop).txStop with
    | false => rfl
    | true =>
        have free := refines.not_claimed taskq task ((parked task).mp holds)
        have stuck := stuck_wakeup fuel s woken taskq reason task ⟨stop, free.2, free.1⟩ result
        rcases consistent.placed task holds with ⟨_, _, busy⟩ | ⟨_, idle⟩
        · exact absurd (stuck.2.2.symm.trans busy) (by simp)
        · exact absurd (stuck.2.1.symm.trans idle) (by simp)
  · intro live
    exact refines.consistent taskq reason (fun task member => live task ((parked task).mpr member))

theorem wakeup_consistent_pair : ∃ fuel woken lists,
    txTaskWakeup fuel pairActive () (some ()) = some woken ∧ Consistent pairActive woken lists () :=
  (wakeup_consistent pairActive pair_active () (some ())).mpr (fun _ _ => rfl)

/-- A task recorded before its loop is stopped comes out of the wakeup neither busy nor idle. -/
theorem wakeup_stale : ∃ s : World Unit Bool Unit Unit Unit, Reachable s ∧
    ¬ ∃ fuel woken lists, txTaskWakeup fuel s () none = some woken ∧ Consistent s woken lists () := by
  have recorded : Stuck true (txLoopStop (txTaskRecord pairStart () true) ()) := ⟨rfl, rfl, rfl⟩
  refine ⟨txLoopStop (txTaskRecord pairStart () true) (), ⟨_, _,
    (Relation.ReflTransGen.single (.record _ () true)).tail (.stop _ ())⟩, ?_⟩
  intro fine
  obtain ⟨fuel, woken, lists, result, consistent⟩ := fine
  have stuck := stuck_wakeup fuel _ woken () none true recorded result
  rcases consistent.placed true ⟨[.task true], ⟨rfl, rfl, rfl⟩, List.mem_cons_self⟩ with
    ⟨_, _, busy⟩ | ⟨_, idle⟩
  · exact absurd (stuck.2.2.symm.trans busy) (by simp)
  · exact absurd (stuck.2.1.symm.trans idle) (by simp)

end Libtx
