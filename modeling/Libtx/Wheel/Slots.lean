import Mathlib.Data.Nat.ModEq

/-! A timing wheel: a pointer that turns over `size` slots, one slot for each `step` of
the clock. What is due `distance` steps after `tick` waits `distance` slots ahead. -/

namespace Wheel

/-- `slot` is the slot for `deadline` on a wheel whose pointer shows `hand` since `tick`. -/
def Due (step size tick hand slot deadline : Nat) : Prop :=
  ∃ distance, 1 ≤ distance ∧ distance < size ∧ slot = (hand + distance) % size ∧
    tick + step * distance ≤ deadline ∧ deadline < tick + step * (distance + 1)

variable (step size tick hand slot deadline : Nat)

theorem due_place (positive : 0 < step) (later : tick + step ≤ deadline)
    (room : (deadline - tick) / step < size) :
    Due step size tick hand ((hand + (deadline - tick) / step) % size) deadline := by
  refine ⟨(deadline - tick) / step, ?_, room, rfl, ?_, ?_⟩
  · exact (Nat.le_div_iff_mul_le positive).mpr (by omega)
  · have floor := Nat.mul_div_le (deadline - tick) step
    omega
  · have ceiling := Nat.lt_mul_div_succ (deadline - tick) positive
    omega

theorem due_later (due : Due step size tick hand slot deadline) : tick + step ≤ deadline := by
  obtain ⟨distance, near, _, _, low, _⟩ := due
  have bound : step * 1 ≤ step * distance := Nat.mul_le_mul_left step near
  omega

theorem distance_unique (first second : Nat) (firstBound : first < size) (secondBound : second < size)
    (same : (hand + first) % size = (hand + second) % size) : first = second := by
  have congruent : first % size = second % size := Nat.ModEq.add_left_cancel' hand same
  rw [Nat.mod_eq_of_lt firstBound, Nat.mod_eq_of_lt secondBound] at congruent
  exact congruent

theorem due_next (due : Due step size tick hand slot deadline) (next : slot = (hand + 1) % size) :
    deadline < tick + step + step := by
  obtain ⟨distance, near, far, place, _, high⟩ := due
  have one : distance = 1 :=
    distance_unique size hand distance 1 far (by omega) (place.symm.trans next)
  subst one
  omega

theorem due_turn (due : Due step size tick hand slot deadline) (other : slot ≠ (hand + 1) % size) :
    Due step size (tick + step) (hand + 1) slot deadline := by
  obtain ⟨distance, near, far, place, low, high⟩ := due
  have apart : distance ≠ 1 := by
    intro same
    exact other (same ▸ place)
  obtain ⟨ahead, rfl⟩ := Nat.exists_eq_add_of_le near
  refine ⟨ahead, by omega, by omega, ?_, ?_, ?_⟩
  · rw [place, Nat.add_assoc]
  · rw [Nat.mul_add] at low
    omega
  · rw [Nat.mul_add, Nat.mul_add] at high
    rw [Nat.mul_add]
    omega

end Wheel
