import Mathlib.Logic.Function.Iterate

namespace Runs

variable {S : Type}

/-- From `start` the loop makes that many turns and stops at `last`, where its test first fails. -/
def Ends (test : S → Prop) (body : S → S) (turns : Nat) (start last : S) : Prop :=
  body^[turns] start = last ∧ ¬ test last ∧ ∀ earlier, earlier < turns → test (body^[earlier] start)

theorem ends_now (test : S → Prop) (body : S → S) (s : S) (done : ¬ test s) : Ends test body 0 s s := by
  refine ⟨rfl, done, ?_⟩
  intro earlier before
  exact absurd before (Nat.not_lt_zero earlier)

theorem ends_later (test : S → Prop) (body : S → S) (turns : Nat) (s last : S) (goes : test s)
    (rest : Ends test body turns (body s) last) : Ends test body (turns + 1) s last := by
  refine ⟨rest.1, rest.2.1, ?_⟩
  intro earlier before
  cases earlier with
  | zero => exact goes
  | succ earlier => exact rest.2.2 earlier (Nat.lt_of_succ_lt_succ before)

theorem ends_keeps (test : S → Prop) (body : S → S) (keeps : S → Prop)
    (turn : ∀ s, keeps s → test s → keeps (body s)) (turns : Nat) (start last : S)
    (ends : Ends test body turns start last) (held : keeps start) : keeps last ∧ ¬ test last := by
  have along : ∀ count, count ≤ turns → keeps (body^[count] start) := by
    intro count
    induction count with
    | zero => exact fun _ => held
    | succ count ih =>
        intro within
        rw [Function.iterate_succ_apply']
        exact turn _ (ih (Nat.le_of_succ_le within)) (ends.2.2 count within)
  exact ⟨ends.1 ▸ along turns (Nat.le_refl turns), ends.2.1⟩

end Runs
