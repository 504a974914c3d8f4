import Mathlib.Data.Set.Card

namespace Count

variable {A B P : Type} {p q : A → Prop} {n m : Int}

/-- `n` is the number of the things that `p` is true of. -/
def Counts (p : A → Prop) (n : Int) : Prop :=
  ∃ members : Finset A, (∀ a, a ∈ members ↔ p a) ∧ n = members.card

theorem counts_none (none : ∀ a, ¬ p a) : Counts p 0 :=
  ⟨∅, fun a => by simp [none a], by simp⟩

theorem Counts.congr (counts : Counts p n) (same : ∀ a, q a ↔ p a) : Counts q n := by
  obtain ⟨members, exact, size⟩ := counts
  exact ⟨members, fun a => (exact a).trans (same a).symm, size⟩

theorem Counts.insert (counts : Counts p n) (a : A) (fresh : ¬ p a)
    (grown : ∀ b, q b ↔ b = a ∨ p b) : Counts q (n + 1) := by
  classical
  obtain ⟨members, exact, size⟩ := counts
  refine ⟨Insert.insert a members, ?_, ?_⟩
  · intro b
    rw [Finset.mem_insert, exact, grown]
  · rw [Finset.card_insert_of_notMem (fun member => fresh ((exact a).mp member)), size]
    simp

theorem Counts.erase (counts : Counts p n) (a : A) (member : p a)
    (rest : ∀ b, q b ↔ b ≠ a ∧ p b) : Counts q (n - 1) := by
  classical
  obtain ⟨members, exact, size⟩ := counts
  have inside : a ∈ members := (exact a).mpr member
  refine ⟨members.erase a, ?_, ?_⟩
  · intro b
    rw [Finset.mem_erase, exact, rest]
  · have positive := Finset.card_pos.mpr ⟨a, inside⟩
    rw [Finset.card_erase_of_mem inside]
    omega

theorem Counts.mono (larger : Counts p n) (smaller : Counts q m) (inside : ∀ a, q a → p a) : m ≤ n := by
  obtain ⟨all, every, total⟩ := larger
  obtain ⟨some, each, size⟩ := smaller
  have subset : some ⊆ all := fun a member => (every a).mpr (inside a ((each a).mp member))
  have le := Finset.card_le_card subset
  omega

theorem Counts.unique (first : Counts p n) (second : Counts p m) : n = m :=
  Int.le_antisymm (second.mono first (fun _ => id)) (first.mono second (fun _ => id))

theorem counts_list (items : List A) (nodup : items.Nodup) (test : A → Bool) :
    Counts (fun a => a ∈ items ∧ test a = true) (items.countP test) := by
  classical
  refine ⟨(items.filter test).toFinset, ?_, ?_⟩
  · intro a
    rw [List.mem_toFinset, List.mem_filter]
  · rw [List.toFinset_card_of_nodup (nodup.filter _), List.countP_eq_length_filter]

theorem Counts.pos (counts : Counts p n) : 0 < n ↔ ∃ a, p a := by
  obtain ⟨members, exact, size⟩ := counts
  calc 0 < n ↔ 0 < members.card := by omega
    _ ↔ ∃ a, a ∈ members := Finset.card_pos
    _ ↔ ∃ a, p a := exists_congr exact

theorem Counts.nonneg (counts : Counts p n) : 0 ≤ n := by
  obtain ⟨members, exact, size⟩ := counts
  omega

theorem Counts.image (counts : Counts p n) (f : A → B) (apart : ∀ a b, p a → p b → f a = f b → a = b)
    (r : B → Prop) (onto : ∀ b, r b ↔ ∃ a, p a ∧ f a = b) : Counts r n := by
  classical
  obtain ⟨members, exact, size⟩ := counts
  refine ⟨members.image f, ?_, ?_⟩
  · intro b
    rw [Finset.mem_image, onto]
    exact exists_congr (fun a => and_congr_left' (exact a))
  · rw [Finset.card_image_of_injOn, size]
    intro a first b second same
    exact apart a b ((exact a).mp first) ((exact b).mp second) same

theorem Counts.update [DecidableEq A] (table : A → Bool) (a : A) (value : Bool)
    (counts : Counts (fun b => table b = true) n) :
    Counts (fun b => Function.update table a value b = true) (n - (table a).toNat + value.toNat) := by
  cases before : table a with
  | false =>
      cases value with
      | false =>
          rw [← before, Function.update_eq_self]
          simpa using counts
      | true =>
          have grown : Counts (fun b => Function.update table a true b = true) (n + 1) := by
            apply counts.insert a (by simp [before])
            intro b
            by_cases same : b = a
            · simp [same]
            · simp [same]
          simpa using grown
  | true =>
      cases value with
      | false =>
          have fewer : Counts (fun b => Function.update table a false b = true) (n - 1) := by
            apply counts.erase a before
            intro b
            by_cases same : b = a
            · simp [same]
            · simp [same]
          simpa using fewer
      | true =>
          rw [← before, Function.update_eq_self]
          simpa [before] using counts

theorem Counts.ncard (counts : Counts p n) : {a | p a}.Finite ∧ n = ({a | p a}.ncard : Int) := by
  obtain ⟨members, exact, size⟩ := counts
  have same : {a | p a} = (members : Set A) := by
    ext a
    exact (exact a).symm
  rw [same, Set.ncard_coe_finset]
  exact ⟨members.finite_toSet, size⟩

/-- `n` counts the things `p` is true of, and `owner` holds the place while there are any. -/
structure Held (p : A → Prop) (n : Int) (owner : P) (holder : Option P) : Prop where
  counts : Counts p n
  holder : holder = if 0 < n then some owner else none

section Place

variable {owner : P} {holder : Option P}

theorem Held.grow [DecidableEq P] (held : Held p n owner holder) (more : Counts q m)
    (inside : ∀ a, p a → q a) : Held q m owner (if 0 < m ∧ holder = none then some owner else holder) := by
  refine ⟨more, ?_⟩
  have le := more.mono held.counts inside
  rw [held.holder]
  by_cases any : 0 < n
  · have some : 0 < m := by omega
    simp [any, some]
  · simp [any]

theorem Held.shrink [DecidableEq P] (held : Held p n owner holder) (fewer : Counts q m)
    (inside : ∀ a, q a → p a) :
    Held q m owner (if holder = some owner ∧ m = 0 then none else holder) := by
  refine ⟨fewer, ?_⟩
  have le := held.counts.mono fewer inside
  have floor := fewer.nonneg
  rw [held.holder]
  by_cases left : 0 < m
  · have any : 0 < n := by omega
    have some : m ≠ 0 := by omega
    simp [left, any, some]
  · have gone : m = 0 := by omega
    by_cases any : 0 < n
    · simp [gone, any]
    · simp [gone, any]

theorem Held.holder_iff (held : Held p n owner holder) : holder = some owner ↔ 0 < n := by
  rw [held.holder]
  by_cases any : 0 < n
  · simp [any]
  · simp [any]

end Place

end Count
