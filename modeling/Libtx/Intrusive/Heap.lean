import Mathlib.Data.List.Basic
import Mathlib.Logic.Function.Basic

/-! Doubly linked intrusive lists in a heap of forward and backward links.

A node carries the address of the link that points to it, so it can be unlinked
without knowing the list it is on. The operations are the pointer assignments of
the classical `LIST` macros, in their order. -/

namespace Intrusive

/-- The address of a list head or of the forward link of a node. -/
inductive Slot (H N : Type) where
  | first (head : H)
  | next (node : N)
  deriving DecidableEq, Repr

structure Heap (H N : Type) where
  lhFirst : H → Option N
  leNext : N → Option N
  lePrev : N → Slot H N

variable {H N : Type}

def Heap.read (m : Heap H N) : Slot H N → Option N
  | .first head => m.lhFirst head
  | .next node => m.leNext node

theorem read_first (m : Heap H N) (head : H) : m.read (.first head) = m.lhFirst head := rfl

theorem read_next (m : Heap H N) (node : N) : m.read (.next node) = m.leNext node := rfl

variable [DecidableEq H] [DecidableEq N]

def Heap.write (m : Heap H N) (slot : Slot H N) (value : Option N) : Heap H N :=
  match slot with
  | .first head => { m with lhFirst := Function.update m.lhFirst head value }
  | .next node => { m with leNext := Function.update m.leNext node value }

def Heap.setPrev (m : Heap H N) (node : N) (slot : Slot H N) : Heap H N :=
  { m with lePrev := Function.update m.lePrev node slot }

@[simp] theorem read_write (m : Heap H N) (slot other : Slot H N) (value : Option N) :
    (m.write slot value).read other = if other = slot then value else m.read other := by
  cases slot <;> cases other <;> simp [Heap.write, Heap.read, Function.update_apply]

@[simp] theorem lePrev_write (m : Heap H N) (slot : Slot H N) (value : Option N) :
    (m.write slot value).lePrev = m.lePrev := by
  cases slot <;> rfl

omit [DecidableEq H] in
@[simp] theorem read_setPrev (m : Heap H N) (node : N) (slot other : Slot H N) :
    (m.setPrev node slot).read other = m.read other := by
  cases other <;> rfl

omit [DecidableEq H] in
@[simp] theorem lePrev_setPrev (m : Heap H N) (node other : N) (slot : Slot H N) :
    (m.setPrev node slot).lePrev other = if other = node then slot else m.lePrev other := by
  simp [Heap.setPrev, Function.update_apply]

def Heap.listInit (m : Heap H N) (head : H) : Heap H N := m.write (.first head) none

def Heap.listInsertHead (m : Heap H N) (head : H) (elm : N) : Heap H N :=
  let linked := m.write (.next elm) (m.lhFirst head)
  let patched := match linked.leNext elm with
    | some old => linked.setPrev old (.next elm)
    | none => linked
  (patched.write (.first head) (some elm)).setPrev elm (.first head)

def Heap.listInsertBefore (m : Heap H N) (listelm elm : N) : Heap H N :=
  let back := m.setPrev elm (m.lePrev listelm)
  let front := back.write (.next elm) (some listelm)
  (front.write (front.lePrev listelm) (some elm)).setPrev listelm (.next elm)

def Heap.listRemove (m : Heap H N) (elm : N) : Heap H N :=
  let patched := match m.leNext elm with
    | some after => m.setPrev after (m.lePrev elm)
    | none => m
  patched.write (patched.lePrev elm) (patched.leNext elm)

theorem read_listInsertHead (m : Heap H N) (head : H) (elm : N) (slot : Slot H N) :
    (m.listInsertHead head elm).read slot =
      if slot = .first head then some elm
      else if slot = .next elm then m.lhFirst head else m.read slot := by
  unfold Heap.listInsertHead
  dsimp only
  split <;> simp

theorem lePrev_listInsertHead (m : Heap H N) (head : H) (elm node : N) :
    (m.listInsertHead head elm).lePrev node =
      if node = elm then .first head
      else if m.lhFirst head = some node then .next elm else m.lePrev node := by
  have forward : (m.write (.next elm) (m.lhFirst head)).leNext elm = m.lhFirst head := by
    simp [Heap.write]
  unfold Heap.listInsertHead
  dsimp only
  rw [forward]
  cases found : m.lhFirst head with
  | none => simp
  | some old => by_cases same : node = old <;> simp [same, eq_comm]

theorem read_listInsertBefore (m : Heap H N) (listelm elm : N) (slot : Slot H N) :
    (m.listInsertBefore listelm elm).read slot =
      if slot = m.lePrev listelm then some elm
      else if slot = .next elm then some listelm else m.read slot := by
  simp [Heap.listInsertBefore]

theorem lePrev_listInsertBefore (m : Heap H N) (listelm elm node : N) :
    (m.listInsertBefore listelm elm).lePrev node =
      if node = listelm then .next elm
      else if node = elm then m.lePrev listelm else m.lePrev node := by
  simp [Heap.listInsertBefore]

theorem read_listRemove (m : Heap H N) (elm : N) (slot : Slot H N) :
    (m.listRemove elm).read slot =
      if slot = m.lePrev elm then m.leNext elm else m.read slot := by
  unfold Heap.listRemove
  cases after : m.leNext elm with
  | none => simp [after]
  | some node =>
      have forward : (m.setPrev node (m.lePrev elm)).leNext elm = m.leNext elm := rfl
      simp [forward, after]

theorem lePrev_listRemove (m : Heap H N) (elm node : N) :
    (m.listRemove elm).lePrev node =
      if m.leNext elm = some node then m.lePrev elm else m.lePrev node := by
  unfold Heap.listRemove
  cases after : m.leNext elm with
  | none => simp
  | some successor => by_cases same : node = successor <;> simp [same, eq_comm]

end Intrusive
