import Libtx.Intrusive.Linked

/-! Draining one list of a heap into the others.

The head is copied and cleared, and each node reached from the copy is unlinked and
may be put in front of any list, the drained one included. The first node still
carries the address of the cleared head, so its removal fills that head again. -/

namespace Intrusive

variable {H N : Type} [DecidableEq H] [DecidableEq N]

/-- `place` is the list that takes the node, or none when it stays unlinked. -/
def Heap.relink (m : Heap H N) (place : N → Option H) (node : N) : Heap H N :=
  match place node with
  | none => m.listRemove node
  | some head => (m.listRemove node).listInsertHead head node

def Heap.drainFrom (place : N → Option H) : Nat → Heap H N → Option N → Option (Heap H N × List N)
  | _, m, none => some (m, [])
  | 0, _, some _ => none
  | fuel + 1, m, some cur =>
      let next := m.leNext cur
      (Heap.drainFrom place fuel (m.relink place cur) next).map
        (fun drained => (drained.1, cur :: drained.2))

def Heap.drain (place : N → Option H) (fuel : Nat) (m : Heap H N) (head : H) :
    Option (Heap H N × List N) :=
  let copy := m.lhFirst head
  Heap.drainFrom place fuel (m.listInit head) copy

def moved (place : N → Option H) (lists : H → List N) (node : N) : H → List N :=
  match place node with
  | none => unlink lists node
  | some head => Function.update (unlink lists node) head (node :: unlink lists node head)

/-- What draining a list means: every list takes its nodes in front, the last one first. -/
def drained (place : N → Option H) (lists : H → List N) (head other : H) : List N :=
  ((lists head).filter (fun node => decide (place node = some other))).reverse ++
    if other = head then [] else lists other

theorem linked_relink (m : Heap H N) (lists : H → List N) (linked : Linked m lists)
    (place : N → Option H) (head : H) (node : N) (member : node ∈ lists head) :
    Linked (m.relink place node) (moved place lists node) := by
  have removed := linked_listRemove m lists linked head node member
  cases sent : place node with
  | none =>
      simp only [Heap.relink, moved, sent]
      exact removed
  | some target =>
      simp only [Heap.relink, moved, sent]
      exact linked_listInsertHead _ _ removed target node (by simp)

theorem moved_suffix (place : N → Option H) (lists : H → List N) (head : H) (front rest : List N)
    (node : N) (split : lists head = front ++ node :: rest) (nodup : (lists head).Nodup) :
    ∃ before, moved place lists node head = before ++ rest := by
  have unlinked := unlink_split lists node head front rest split nodup
  cases sent : place node with
  | none => exact ⟨front, by simp only [moved, sent, unlinked]⟩
  | some target =>
      by_cases same : head = target
      · subst same
        exact ⟨node :: front, by simp [moved, sent, unlinked]⟩
      · exact ⟨front, by simp [moved, sent, same, unlinked]⟩

theorem linked_drainFrom (place : N → Option H) (head : H) (m : Heap H N) (lists : H → List N)
    (linked : Linked m lists) (front todo : List N) (split : lists head = front ++ todo) :
    ∃ last, (∀ fuel, todo.length ≤ fuel →
        Heap.drainFrom place fuel m todo.head? = some (last, todo)) ∧
      Linked last (todo.foldl (moved place) lists) := by
  induction todo generalizing m lists front with
  | nil => exact ⟨m, fun fuel _ => by cases fuel <;> rfl, linked⟩
  | cons cur rest ih =>
      have after := chain_head m (.next cur) rest
        (linked_split m lists linked head front rest cur split).2.2
      rw [read_next] at after
      have member : cur ∈ lists head := by simp [split]
      obtain ⟨before, suffix⟩ := moved_suffix place lists head front rest cur split
        (linked_nodup m lists linked head)
      obtain ⟨last, result, final⟩ := ih _ _ (linked_relink m lists linked place head cur member)
        before suffix
      refine ⟨last, ?_, final⟩
      intro fuel enough
      cases fuel with
      | zero => exact absurd enough (by simp)
      | succ fuel =>
          rw [List.head?_cons, Heap.drainFrom, after, result fuel (by simpa using enough)]
          rfl

theorem listInit_listRemove (m : Heap H N) (head : H) (node : N) (first : m.lePrev node = .first head) :
    (m.listInit head).listRemove node = m.listRemove node := by
  cases after : m.leNext node with
  | none => simp [Heap.listInit, Heap.listRemove, Heap.write, first, after]
  | some successor =>
      by_cases same : node = successor
      · subst same
        simp [Heap.listInit, Heap.listRemove, Heap.write, Heap.setPrev, first, after]
      · simp [Heap.listInit, Heap.listRemove, Heap.write, Heap.setPrev, first, after, same]

theorem drain_in_place (place : N → Option H) (m : Heap H N) (lists : H → List N)
    (linked : Linked m lists) (head : H) (fuel : Nat) :
    m.drain place fuel head = Heap.drainFrom place fuel m (lists head).head? := by
  have first := chain_head m (.first head) (lists head) (linked head)
  rw [read_first] at first
  rw [Heap.drain, first]
  cases todo : lists head with
  | nil =>
      have cleared : m.listInit head = m := by
        rw [todo] at first
        simp only [Heap.listInit, Heap.write, ← show m.lhFirst head = none from first,
          Function.update_eq_self]
      rw [cleared]
  | cons cur rest =>
      have back : m.lePrev cur = .first head := by
        have chain := linked head
        rw [todo] at chain
        exact chain.2.1
      have same : (m.listInit head).relink place cur = m.relink place cur := by
        simp only [Heap.relink, listInit_listRemove m head cur back]
      cases fuel with
      | zero => rfl
      | succ fuel =>
          rw [List.head?_cons, Heap.drainFrom, Heap.drainFrom, same]
          rfl

theorem foldl_moved (place : N → Option H) (todo : List N) (lists : H → List N) (nodup : todo.Nodup)
    (other : H) :
    todo.foldl (moved place) lists other =
      (todo.filter (fun node => decide (place node = some other))).reverse ++
        (lists other).filter (fun node => decide (node ∉ todo)) := by
  induction todo generalizing lists with
  | nil => simp
  | cons cur rest ih =>
      have fresh := (List.nodup_cons.mp nodup).1
      have kept : (unlink lists cur other).filter (fun node => decide (node ∉ rest)) =
          (lists other).filter (fun node => decide (node ∉ cur :: rest)) := by
        rw [unlink, List.filter_filter]
        apply List.filter_congr
        intro node _
        by_cases same : node = cur <;> simp [same]
      rw [List.foldl_cons, ih (moved place lists cur) (List.nodup_cons.mp nodup).2]
      by_cases sent : place cur = some other
      · have front : moved place lists cur other = cur :: unlink lists cur other := by
          simp [moved, sent]
        rw [front, List.filter_cons_of_pos (by simpa using fresh), kept,
          List.filter_cons_of_pos (by simpa using sent), List.reverse_cons, List.append_assoc]
        rfl
      · have behind : moved place lists cur other = unlink lists cur other := by
          cases target : place cur with
          | none => simp [moved, target]
          | some head =>
              have apart : other ≠ head := fun same => sent (same ▸ target)
              simp [moved, target, apart]
        rw [behind, kept, List.filter_cons_of_neg (by simpa using sent)]

/-- The drain visits the nodes of the list in their order and leaves what draining means. -/
theorem linked_drain (place : N → Option H) (m : Heap H N) (lists : H → List N)
    (linked : Linked m lists) (head : H) :
    ∃ last, (∀ fuel, (lists head).length ≤ fuel → m.drain place fuel head = some (last, lists head)) ∧
      Linked last (drained place lists head) := by
  have nodup := linked_nodup m lists linked head
  have meaning : (lists head).foldl (moved place) lists = drained place lists head := by
    funext other
    rw [foldl_moved place (lists head) lists nodup other, drained]
    congr 1
    by_cases same : other = head
    · subst same
      rw [if_pos rfl]
      exact List.filter_eq_nil_iff.mpr (fun node member => by simpa using member)
    · rw [if_neg same]
      apply List.filter_eq_self.mpr
      intro node member
      have absent : node ∉ lists head :=
        fun inside => same (linked_one_head m lists linked other head node member inside)
      simpa using absent
  obtain ⟨last, result, final⟩ := linked_drainFrom place head m lists linked [] (lists head) rfl
  refine ⟨last, ?_, meaning ▸ final⟩
  intro fuel enough
  rw [drain_in_place place m lists linked]
  exact result fuel enough

section Meaning

variable (place : N → Option H) (lists : H → List N) (head : H) (node : N)

omit [DecidableEq N] in
theorem mem_drained (other : H) : node ∈ drained place lists head other ↔
    (node ∈ lists head ∧ place node = some other) ∨ (other ≠ head ∧ node ∈ lists other) := by
  by_cases same : other = head <;> simp [drained, same]

end Meaning

end Intrusive
