import Libtx.Intrusive.Linked

namespace Intrusive

variable {H N A : Type}

def Heap.searchFrom (m : Heap H N) (look : N → Option A) : Nat → Option N → Option (Option A)
  | _, none => some none
  | 0, some _ => none
  | fuel + 1, some cur =>
      match look cur with
      | some found => some (some found)
      | none => m.searchFrom look fuel (m.leNext cur)

def Heap.search (m : Heap H N) (look : N → Option A) (fuel : Nat) (head : H) : Option (Option A) :=
  m.searchFrom look fuel (m.lhFirst head)

/-- A walk that returns has found the first answer of the list. -/
theorem searchFrom_chain (m : Heap H N) (look : N → Option A) (fuel : Nat) (start : Slot H N)
    (nodes : List N) (chain : Chain m start nodes) (found : Option A)
    (returned : m.searchFrom look fuel (m.read start) = some found) : nodes.findSome? look = found := by
  induction nodes generalizing fuel start with
  | nil =>
      rw [chain_head m start [] chain] at returned
      cases fuel with
      | zero =>
          injection returned
      | succ fuel =>
          injection returned
  | cons node nodes ih =>
      rw [chain.1] at returned
      cases fuel with
      | zero => cases returned
      | succ fuel =>
          rw [Heap.searchFrom] at returned
          cases answer : look node with
          | some value =>
              rw [answer] at returned
              rw [List.findSome?_cons_of_isSome (by rw [answer]; rfl), answer]
              injection returned
          | none =>
              rw [answer] at returned
              rw [List.findSome?_cons_of_isNone (by rw [answer]; rfl)]
              exact ih fuel (.next node) chain.2.2 returned

theorem searchFrom_returns (m : Heap H N) (look : N → Option A) (fuel : Nat) (start : Slot H N)
    (nodes : List N) (chain : Chain m start nodes) (enough : nodes.length ≤ fuel) :
    ∃ found, m.searchFrom look fuel (m.read start) = some found := by
  induction nodes generalizing fuel start with
  | nil =>
      rw [chain_head m start [] chain]
      cases fuel with
      | zero => exact ⟨none, rfl⟩
      | succ fuel => exact ⟨none, rfl⟩
  | cons node nodes ih =>
      rw [chain.1]
      cases fuel with
      | zero => exact absurd enough (Nat.not_succ_le_zero nodes.length)
      | succ fuel =>
          rw [Heap.searchFrom]
          cases look node with
          | some value => exact ⟨some value, rfl⟩
          | none => exact ih fuel (.next node) chain.2.2 (Nat.le_of_succ_le_succ enough)

theorem search_linked (m : Heap H N) (lists : H → List N) (linked : Linked m lists)
    (look : N → Option A) (fuel : Nat) (head : H) (found : Option A)
    (returned : m.search look fuel head = some found) : (lists head).findSome? look = found :=
  searchFrom_chain m look fuel (.first head) (lists head) (linked head) found returned

theorem search_returns (m : Heap H N) (lists : H → List N) (linked : Linked m lists)
    (look : N → Option A) (fuel : Nat) (head : H) (enough : (lists head).length ≤ fuel) :
    ∃ found, m.search look fuel head = some found :=
  searchFrom_returns m look fuel (.first head) (lists head) (linked head) enough

end Intrusive
