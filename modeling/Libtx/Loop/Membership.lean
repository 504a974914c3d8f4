import Libtx.Loop.Refine

namespace Libtx

open Intrusive

variable {L T W P R : Type} [DecidableEq L] [DecidableEq T] [DecidableEq W]

/-- `lists` is what the heads of the world lead to, and the flags agree with it. -/
structure Membership (s : World L T W P R) (lists : Head L W → List (Node L T)) : Prop where
  linked : Linked s.heap lists
  idle : ∀ task, (s.task task).txFlags.idle = true ↔ ∀ head, .task task ∉ lists head
  once : ∀ task, (s.task task).txFlags.idle = false → ∃ head,
    (lists head).count (.task task) = 1 ∧ ∀ other, other ≠ head → .task task ∉ lists other
  busy : ∀ task, (s.task task).txFlags.busy = true →
    .task task ∈ lists (.taskq (s.task task).txLoop)
  pending : ∀ task, (s.task task).txFlags.pending = true → ∃ taskq, .task task ∈ lists (.waitq taskq)
  exclusive : ∀ task, ¬ ((s.task task).txFlags.busy = true ∧ (s.task task).txFlags.pending = true)
  tailer : ∀ up, ∃ front, lists (.taskq up) = front ++ [.tailer up] ∧ .tailer up ∉ front
  popped : ∀ up firstRun, s.main up = some ⟨firstRun, none⟩ →
    ∃ next, txLoopMainTest s up firstRun = .ok next
  phony : ∀ up, (s.main up).isSome → (lists (.taskq up)).count (.phony up) = 1 ∧
    ∀ other, other ≠ .taskq up → .phony up ∉ lists other
  phonyLeft : ∀ up, s.main up = none → ∀ head, .phony up ∉ lists head
  woken : ∀ taskq reason, (∀ task, .task task ∈ lists (.waitq taskq) →
      (s.loop (s.task task).txLoop).txStop = false) →
    ∃ fuel next, txTaskWakeup fuel s taskq reason = some next

section Refined

variable {s : World L T W P R} {v : View L T W}

omit [DecidableEq L] [DecidableEq W] in
theorem Refines.phony_iff (h : Refines s v) (up : L) (head : Head L W) :
    .phony up ∈ v.nodes head ↔ head = .taskq up ∧ (s.main up).isSome := by
  cases head with
  | taskq other =>
      rw [View.nodes, phony_queueNodes, ← h.running up]
      constructor
      · rintro ⟨rfl, runs⟩
        exact ⟨rfl, runs⟩
      · rintro ⟨same, runs⟩
        injection same with same
        subst same
        exact ⟨rfl, runs⟩
  | waitq taskq => simp [View.nodes]

omit [DecidableEq W] in
theorem Refines.count_once (h : Refines s v) (head : Head L W) (node : Node L T)
    (member : node ∈ v.nodes head) : (v.nodes head).count node = 1 ∧
      ∀ other, other ≠ head → node ∉ v.nodes other := by
  constructor
  · exact List.count_eq_one_of_mem (linked_nodup s.heap v.nodes h.linked head) member
  · intro other apart inside
    exact apart (linked_one_head s.heap v.nodes h.linked other head node inside member)

theorem Refines.membership (h : Refines s v) : Membership s v.nodes where
  linked := h.linked
  idle := by
    intro task
    constructor
    · exact h.unlinked task
    · intro absent
      apply (h.idle task).mpr
      constructor
      · intro up member
        exact absent (.taskq up) ((mem_queueNodes up _ task).mpr member)
      · intro taskq member
        exact absent (.waitq taskq) (List.mem_map_of_mem member)
  once := by
    intro task linked
    rcases h.placed task linked with queued | ⟨taskq, parked⟩
    · exact ⟨_, h.count_once (.taskq _) (.task task) ((mem_queueNodes _ _ task).mpr queued)⟩
    · exact ⟨_, h.count_once (.waitq taskq) (.task task) (List.mem_map_of_mem parked)⟩
  busy := by
    intro task busy
    rw [h.busy task] at busy
    exact (mem_queueNodes _ _ task).mpr ((h.sound _).claimed task busy)
  pending := by
    intro task pending
    obtain ⟨taskq, parked⟩ := (h.pending task).mp pending
    exact ⟨taskq, List.mem_map_of_mem parked⟩
  exclusive := by
    rintro task ⟨busy, pending⟩
    rw [h.busy task] at busy
    obtain ⟨taskq, parked⟩ := (h.pending task).mp pending
    exact h.not_parked _ taskq task ((h.sound _).claimed task busy) parked
  tailer := by
    intro up
    refine ⟨_, rfl, ?_⟩
    cases (v.queue up).running <;> simp
  popped := by
    intro up firstRun inside
    obtain ⟨next, _, passed, _⟩ := h.test up firstRun inside
    exact ⟨next, passed⟩
  phony := by
    intro up inside
    exact h.count_once (.taskq up) (.phony up) ((h.phony_iff up (.taskq up)).mpr ⟨rfl, inside⟩)
  phonyLeft := by
    intro up left head member
    have inside := ((h.phony_iff up head).mp member).2
    rw [left] at inside
    exact absurd inside (by simp)
  woken := by
    intro taskq reason live
    obtain ⟨result, _⟩ := h.wakeup taskq reason (v.parked taskq).length (Nat.le_refl _)
      (fun task member => live task (List.mem_map_of_mem member))
    exact ⟨_, _, result⟩

end Refined

/-- In every reachable world the flags of every task say where it is linked, the tailer
closes every queue and the phony is linked while its loop runs. -/
theorem task_membership (s : World L T W P R) (reachable : Reachable s) :
    ∃ lists, Membership s lists := by
  obtain ⟨v, refines⟩ := refines_reachable s reachable
  exact ⟨v.nodes, refines.membership⟩

def pairStart : World Unit Bool Unit Unit Unit :=
  World.start
    { heap := ⟨fun _ => none, fun _ => some (.task true), fun _ => .next (.task false)⟩
      task := fun _ => ⟨⟨false, true, true, true⟩, none, ()⟩
      loop := fun _ => txLoopNew
      main := fun _ => none
      history := fun _ => [] }
    (fun _ => ())

def pairActive : World Unit Bool Unit Unit Unit :=
  txTaskActive (txTaskRecord pairStart () false) (some true) none

def pairCalled : World Unit Bool Unit Unit Unit :=
  txLoopMainCall ((txLoopMainEnter pairActive ()).onHeap (fun heap => heap.listRemove (.task true)))
    () true true

def pairPhony (s : World Unit Bool Unit Unit Unit) : World Unit Bool Unit Unit Unit :=
  txLoopMainPhony (s.onHeap (fun heap => heap.listRemove (.phony ()))) ()

def pairQuiet : World Unit Bool Unit Unit Unit :=
  pairPhony (pairPhony (pairCalled.setMain () (some ⟨true, none⟩)))

theorem pair_active : Reachable pairActive :=
  ⟨_, _, (Relation.ReflTransGen.single (.record _ () false)).tail (.active _ (some true) none)⟩

theorem pair_called : Reachable pairCalled := by
  obtain ⟨memory, loopOf, run⟩ := pair_active
  exact ⟨memory, loopOf, (run.tail (.enter _ () rfl)).tail (.test _ _ () true rfl rfl)⟩

theorem task_membership_called : ∃ lists, Membership pairCalled lists :=
  task_membership pairCalled pair_called

end Libtx
