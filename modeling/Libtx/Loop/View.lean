import Libtx.Loop.Task

/-! What the links of a world spell out: a queue served in rounds for every loop and a
list of parked tasks for every wait queue. Each operation moves this view as its name says. -/

namespace Libtx

open Intrusive

structure View (L T W : Type) where
  queue : L → Rounds.Queue T
  parked : W → List T

variable {L T W P R : Type}

/-- The phony stands between the current round and the next, the tailer at the end. -/
def queueNodes (up : L) (q : Rounds.Queue T) : List (Node L T) :=
  q.ready.map .task ++ (if q.running then [.phony up] else []) ++ q.later.map .task ++ [.tailer up]

def View.nodes (v : View L T W) : Head L W → List (Node L T)
  | .taskq up => queueNodes up (v.queue up)
  | .waitq taskq => (v.parked taskq).map .task

theorem mem_queueNodes (up : L) (q : Rounds.Queue T) (task : T) :
    .task task ∈ queueNodes up q ↔ task ∈ q.linked := by
  cases q.running <;> simp [queueNodes, Rounds.Queue.linked]

theorem phony_queueNodes (up other : L) (q : Rounds.Queue T) :
    (.phony other : Node L T) ∈ queueNodes up q ↔ other = up ∧ q.running = true := by
  cases running : q.running <;> simp [queueNodes, running]

variable [DecidableEq T]

theorem queueNodes_insert (up : L) (q : Rounds.Queue T) (task : T) (claim : Bool)
    (resting : q.running = false → q.later = []) :
    ∃ front, queueNodes up q = front ++ [.tailer up] ∧
      queueNodes up (q.insert task) = front ++ [.task task, .tailer up] ∧
      queueNodes up ((q.insert task).mark task claim) = front ++ [.task task, .tailer up] := by
  cases running : q.running with
  | true =>
      refine ⟨q.ready.map .task ++ [.phony up] ++ q.later.map .task, ?_⟩
      simp [queueNodes, Rounds.Queue.insert, Rounds.Queue.mark, running]
  | false =>
      refine ⟨q.ready.map .task, ?_⟩
      simp [queueNodes, Rounds.Queue.insert, Rounds.Queue.mark, running, resting running]

/-- The world's links and flags say what the view says, and the view's queues are what
the history leads to. -/
structure Refines (s : World L T W P R) (v : View L T W) : Prop where
  linked : Linked s.heap v.nodes
  own : ∀ up task, task ∈ (v.queue up).linked → (s.task task).txLoop = up
  idle : ∀ task, (s.task task).txFlags.idle = true ↔
    (∀ up, task ∉ (v.queue up).linked) ∧ ∀ taskq, task ∉ v.parked taskq
  busy : ∀ task, (s.task task).txFlags.busy = (v.queue (s.task task).txLoop).claim task
  pending : ∀ task, (s.task task).txFlags.pending = true ↔ ∃ taskq, task ∈ v.parked taskq
  running : ∀ up, (v.queue up).running = (s.main up).isSome
  steps : ∀ up, Rounds.Steps .empty (s.history up) (v.queue up)
  halted : ∀ up, .halt ∈ s.history up → (s.loop up).txStop = true

theorem refines_start (memory : World L T W P R) (loopOf : T → L) :
    Refines (World.start memory loopOf) ⟨fun _ => .empty, fun _ => []⟩ where
  linked := by
    intro head
    cases head with
    | taskq up => exact ⟨rfl, rfl, rfl⟩
    | waitq taskq => rfl
  own := by simp [Rounds.Queue.empty, Rounds.Queue.linked]
  idle := by simp [World.start, txTaskInit, Rounds.Queue.empty, Rounds.Queue.linked]
  busy := by simp [World.start, txTaskInit, Rounds.Queue.empty]
  pending := by simp [World.start, txTaskInit]
  running := by simp [World.start, Rounds.Queue.empty]
  steps := fun up => Rounds.Steps.nil .empty
  halted := by simp [World.start]

section

variable [DecidableEq L]

def View.setQueue (v : View L T W) (up : L) (q : Rounds.Queue T) : View L T W :=
  { v with queue := Function.update v.queue up q }

def View.drop (v : View L T W) (up : L) (task : T) : View L T W where
  queue := Function.update v.queue up (((v.queue up).remove task).mark task false)
  parked := fun taskq => (v.parked taskq).filter (fun other => decide (other ≠ task))

def View.activate (v : View L T W) (up : L) (task : T) : View L T W :=
  (v.drop up task).setQueue up ((((v.drop up task).queue up).insert task).mark task true)

variable [DecidableEq W]

def View.park (v : View L T W) (taskq : W) (task : T) : View L T W :=
  { v with parked := Function.update v.parked taskq (task :: v.parked taskq) }

theorem filter_tasks (tasks : List T) (task : T) :
    (tasks.map (.task : T → Node L T)).filter (fun other => decide (other ≠ .task task)) =
      (tasks.filter (fun other => decide (other ≠ task))).map .task := by
  simp [List.filter_map, Function.comp_def]

theorem queueNodes_drop (up : L) (q : Rounds.Queue T) (task : T) :
    queueNodes up ((q.remove task).mark task false) =
      (queueNodes up q).filter (fun other => decide (other ≠ .task task)) := by
  have ready := @filter_tasks L T _ _ q.ready task
  have later := @filter_tasks L T _ _ q.later task
  have last : [(.tailer up : Node L T)].filter (fun other => decide (other ≠ .task task)) = [.tailer up] := by
    simp
  have middle : (if q.running then [(.phony up : Node L T)] else []).filter
      (fun other => decide (other ≠ .task task)) = if q.running then [.phony up] else [] := by
    split <;> simp
  simp only [queueNodes, List.filter_append, ready, later, last, middle, Rounds.Queue.mark,
    Rounds.Queue.remove]
  rfl

end

section Refined

variable {s : World L T W P R} {v : View L T W}

theorem Refines.sound (h : Refines s v) (up : L) : (v.queue up).Sound :=
  Rounds.sound_steps .empty (v.queue up) (s.history up) (h.steps up) Rounds.sound_empty

theorem Refines.not_parked (h : Refines s v) (up : L) (taskq : W) (task : T)
    (member : task ∈ (v.queue up).linked) : task ∉ v.parked taskq := by
  intro parked
  have same := linked_one_head s.heap v.nodes h.linked (.taskq up) (.waitq taskq) (.task task)
    ((mem_queueNodes up (v.queue up) task).mpr member) (List.mem_map_of_mem parked)
  exact absurd same (by simp)

theorem Refines.placed (h : Refines s v) (task : T) (linked : (s.task task).txFlags.idle = false) :
    task ∈ (v.queue (s.task task).txLoop).linked ∨ ∃ taskq, task ∈ v.parked taskq := by
  have notIdle : ¬ ((∀ up, task ∉ (v.queue up).linked) ∧ ∀ taskq, task ∉ v.parked taskq) := by
    intro nowhere
    rw [(h.idle task).mpr nowhere] at linked
    exact absurd linked (by simp)
  by_contra neither
  rw [not_or] at neither
  apply notIdle
  refine ⟨?_, fun taskq parked => neither.2 ⟨taskq, parked⟩⟩
  intro up member
  have same := h.own up task member
  subst same
  exact neither.1 member

theorem Refines.unlinked (h : Refines s v) (task : T) (idle : (s.task task).txFlags.idle = true)
    (head : Head L W) : .task task ∉ v.nodes head := by
  have nowhere := (h.idle task).mp idle
  cases head with
  | taskq up => exact fun member => nowhere.1 up ((mem_queueNodes up _ task).mp member)
  | waitq taskq =>
      intro member
      obtain ⟨other, inside, same⟩ := List.mem_map.mp member
      injection same with same
      exact nowhere.2 taskq (same ▸ inside)

theorem Refines.idle_busy (h : Refines s v) (task : T) (idle : (s.task task).txFlags.idle = true) :
    (s.task task).txFlags.busy = false := by
  rw [h.busy task]
  cases claimed : (v.queue (s.task task).txLoop).claim task with
  | false => rfl
  | true =>
      have member := (h.sound (s.task task).txLoop).claimed task claimed
      exact absurd member (((h.idle task).mp idle).1 _)

variable [DecidableEq L]

theorem Refines.steps_noted (h : Refines s v) (up other : L) (event : Rounds.Event T) (q : Rounds.Queue T)
    (accepted : Rounds.Accepts (v.queue up) event q) :
    Rounds.Steps .empty (Function.update s.history up (s.history up ++ [event]) other)
      (Function.update v.queue up q other) := by
  by_cases same : other = up
  · subst same
    simp only [Function.update_self]
    exact Rounds.steps_snoc .empty (v.queue other) q _ event (h.steps other) accepted
  · simp only [Function.update_of_ne same]
    exact h.steps other

theorem Refines.halted_noted (h : Refines s v) (up other : L) (event : Rounds.Event T)
    (halts : event = .halt → (s.loop up).txStop = true)
    (halted : .halt ∈ Function.update s.history up (s.history up ++ [event]) other) :
    (s.loop other).txStop = true := by
  by_cases same : other = up
  · subst same
    rw [Function.update_self, List.mem_append, List.mem_singleton] at halted
    rcases halted with old | new
    · exact h.halted other old
    · exact halts new.symm
  · rw [Function.update_of_ne same] at halted
    exact h.halted other halted

end Refined

end Libtx
