import Mathlib.Data.List.Basic
import Mathlib.Logic.Function.Basic

namespace Count

structure Custody (O I : Type) where
  cell : O → Option I
  made : List I
  handed : List I
  closed : List I

variable {O I : Type}

/-- No cell has it. -/
def Custody.Free (s : Custody O I) (item : I) : Prop := ∀ place, s.cell place ≠ some item

section

variable [DecidableEq I]

/-- In one cell, handed over once or closed once, and only one of these. -/
def Custody.Kept (s : Custody O I) (item : I) : Prop :=
  (∃ place, s.cell place = some item ∧ (∀ other, s.cell other = some item → other = place) ∧
    item ∉ s.handed ∧ item ∉ s.closed) ∨
  (s.Free item ∧ s.handed.count item = 1 ∧ item ∉ s.closed) ∨
  (s.Free item ∧ item ∉ s.handed ∧ s.closed.count item = 1)

/-- What was made is kept, and nothing else is anywhere. -/
structure Custody.Sound (s : Custody O I) : Prop where
  kept : ∀ item ∈ s.made, s.Kept item
  unknown : ∀ item, item ∉ s.made → s.Free item ∧ item ∉ s.handed ∧ item ∉ s.closed

end

variable [DecidableEq O]

def Custody.put (s : Custody O I) (place : O) (item : I) : Custody O I :=
  { s with cell := Function.update s.cell place (some item), made := s.made ++ [item] }

def Custody.hand (s : Custody O I) (place : O) (item : I) : Custody O I :=
  { s with cell := Function.update s.cell place none, handed := s.handed ++ [item] }

def Custody.refuse (s : Custody O I) (item : I) : Custody O I :=
  { s with made := s.made ++ [item], closed := s.closed ++ [item] }

section Moves

variable {s : Custody O I}

@[simp] theorem put_here (place : O) (item : I) : (s.put place item).cell place = some item :=
  Function.update_self ..

@[simp] theorem hand_here (place : O) (item : I) : (s.hand place item).cell place = none :=
  Function.update_self ..

theorem put_other (place other : O) (item : I) (apart : other ≠ place) :
    (s.put place item).cell other = s.cell other := Function.update_of_ne apart _ _

theorem hand_other (place other : O) (item : I) (apart : other ≠ place) :
    (s.hand place item).cell other = s.cell other := Function.update_of_ne apart _ _

variable [DecidableEq I]

theorem Custody.Kept.elsewhere {item : I} (kept : s.Kept item) (next : Custody O I) (place : O)
    (before : s.cell place ≠ some item) (after : next.cell place ≠ some item)
    (cells : ∀ other, other ≠ place → next.cell other = s.cell other)
    (handed : next.handed.count item = s.handed.count item)
    (closed : next.closed.count item = s.closed.count item) : next.Kept item := by
  have same : ∀ other, next.cell other = some item ↔ s.cell other = some item := by
    intro other
    by_cases equal : other = place
    · subst equal
      exact iff_of_false after before
    · rw [cells other equal]
  have given : item ∈ next.handed ↔ item ∈ s.handed := by
    rw [← List.count_pos_iff, ← List.count_pos_iff, handed]
  have shut : item ∈ next.closed ↔ item ∈ s.closed := by
    rw [← List.count_pos_iff, ← List.count_pos_iff, closed]
  simpa only [Custody.Kept, Custody.Free, ne_eq, same, given, shut, handed, closed] using kept

omit [DecidableEq O] in
theorem Custody.Sound.at (sound : s.Sound) (place : O) (item : I) (here : s.cell place = some item) :
    item ∈ s.made ∧ (∀ other, s.cell other = some item → other = place) ∧ item ∉ s.handed ∧
      item ∉ s.closed := by
  have known : item ∈ s.made := by
    by_contra unknown
    exact (sound.unknown item unknown).1 place here
  refine ⟨known, ?_⟩
  rcases sound.kept item known with ⟨its, _, alone, given, shut⟩ | ⟨free, _⟩ | ⟨free, _⟩
  · refine ⟨?_, given, shut⟩
    intro other also
    exact (alone other also).trans (alone place here).symm
  · exact absurd here (free place)
  · exact absurd here (free place)

theorem Custody.Sound.put (sound : s.Sound) (place : O) (item : I) (fresh : item ∉ s.made)
    (empty : s.cell place = none) : (s.put place item).Sound where
  kept := by
    intro other member
    by_cases same : other = item
    · subst same
      obtain ⟨free, given, shut⟩ := sound.unknown other fresh
      refine Or.inl ⟨place, put_here place other, ?_, given, shut⟩
      intro cell also
      by_contra apart
      rw [put_other place cell other apart] at also
      exact free cell also
    · have known : other ∈ s.made := by
        rcases List.mem_append.mp member with old | new
        · exact old
        · exact absurd (List.mem_singleton.mp new) same
      apply (sound.kept other known).elsewhere _ place
      · simp [empty]
      · simpa using fun equal => same equal.symm
      · exact fun cell apart => put_other place cell item apart
      · rfl
      · rfl
  unknown := by
    intro other absent
    rw [Custody.put, List.mem_append, List.mem_singleton, not_or] at absent
    obtain ⟨free, given, shut⟩ := sound.unknown other absent.1
    refine ⟨?_, given, shut⟩
    intro cell
    by_cases equal : cell = place
    · subst equal
      simpa using fun same => absent.2 same.symm
    · rw [put_other place cell item equal]
      exact free cell

theorem Custody.Sound.hand (sound : s.Sound) (place : O) (item : I) (here : s.cell place = some item) :
    (s.hand place item).Sound where
  kept := by
    obtain ⟨_, alone, given, shut⟩ := sound.at place item here
    intro other member
    by_cases same : other = item
    · subst same
      refine Or.inr (Or.inl ⟨?_, ?_, shut⟩)
      · intro cell
        by_cases equal : cell = place
        · subst equal
          simp
        · rw [hand_other place cell other equal]
          exact fun also => equal (alone cell also)
      · simp [Custody.hand, List.count_append, List.count_eq_zero.mpr given]
    · apply (sound.kept other member).elsewhere _ place
      · rw [here]
        simpa using fun equal => same equal.symm
      · simp
      · exact fun cell apart => hand_other place cell item apart
      · simpa [Custody.hand, List.count_append, List.count_eq_zero] using same
      · rfl
  unknown := by
    obtain ⟨known, _⟩ := sound.at place item here
    intro other absent
    obtain ⟨free, given, shut⟩ := sound.unknown other absent
    refine ⟨?_, ?_, shut⟩
    · intro cell
      by_cases equal : cell = place
      · subst equal
        simp
      · rw [hand_other place cell item equal]
        exact free cell
    · rw [Custody.hand, List.mem_append, List.mem_singleton, not_or]
      exact ⟨given, fun same => absent (same ▸ known)⟩

omit [DecidableEq O] in
theorem Custody.Sound.refuse (sound : s.Sound) (item : I) (fresh : item ∉ s.made) :
    (s.refuse item).Sound where
  kept := by
    obtain ⟨free, given, shut⟩ := sound.unknown item fresh
    intro other member
    by_cases same : other = item
    · subst same
      refine Or.inr (Or.inr ⟨free, given, ?_⟩)
      simp [Custody.refuse, List.count_append, List.count_eq_zero.mpr shut]
    · have known : other ∈ s.made := by
        rcases List.mem_append.mp member with old | new
        · exact old
        · exact absurd (List.mem_singleton.mp new) same
      have closed : (s.refuse item).closed.count other = s.closed.count other := by
        simpa [Custody.refuse, List.count_append, List.count_eq_zero] using same
      have shut_same : other ∈ (s.refuse item).closed ↔ other ∈ s.closed := by
        rw [← List.count_pos_iff, ← List.count_pos_iff, closed]
      have before := sound.kept other known
      simp only [Custody.Kept, closed, shut_same]
      exact before
  unknown := by
    intro other absent
    rw [Custody.refuse, List.mem_append, List.mem_singleton, not_or] at absent
    obtain ⟨free, given, shut⟩ := sound.unknown other absent.1
    refine ⟨free, given, ?_⟩
    rw [Custody.refuse, List.mem_append, List.mem_singleton, not_or]
    exact ⟨shut, absent.2⟩

theorem Custody.Sound.lost (sound : s.Sound) (place : O) (item : I) (here : s.cell place = some item)
    (next : Custody O I) (left : next.cell place ≠ some item)
    (others : ∀ other, next.cell other = some item → other ≠ place → s.cell other = some item)
    (handed : next.handed = s.handed) (closed : next.closed = s.closed) : ¬ next.Kept item := by
  obtain ⟨known, alone, given, shut⟩ := sound.at place item here
  have free : next.Free item := by
    intro other also
    by_cases same : other = place
    · exact left (same ▸ also)
    · exact same (alone other (others other also same))
  rintro (⟨cell, its, _⟩ | ⟨_, once, _⟩ | ⟨_, _, once⟩)
  · exact free cell its
  · rw [handed, List.count_eq_zero.mpr given] at once
    cases once
  · rw [closed, List.count_eq_zero.mpr shut] at once
    cases once

end Moves

end Count
