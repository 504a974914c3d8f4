import Libtx.Runs.Partial

namespace Runs

variable {S A X B : Type} {act : S → A → Option S} {other : X → B → Option X}

/-- Where each allowed action and its image take related states to related states, or both fail, so do
whole runs. -/
theorem related_run (related : S → X → Prop) (ok : S → A → Prop) (image : A → B)
    (step : ∀ s x action, ok s action → related s x →
      Option.Rel related (act s action) (other x (image action)))
    (s : S) (x : X) (actions : List A) (allowed : Allowed act ok s actions) (start : related s x) :
    Option.Rel related (run act s actions) (run other x (actions.map image)) := by
  induction actions generalizing s x with
  | nil => exact .some start
  | cons action actions ih =>
      have first := step s x action allowed.1 start
      rw [List.map_cons, run, run]
      cases left : act s action with
      | none =>
          rw [left] at first
          cases right : other x (image action) with
          | none => exact .none
          | some after =>
              rw [right] at first
              cases first
      | some next =>
          rw [left] at first
          cases right : other x (image action) with
          | none =>
              rw [right] at first
              cases first
          | some after =>
              rw [right] at first
              cases first with
              | some both => exact ih next after (allowed.2 next left) both

/-- Where each allowed action that keeps `keeps` is, in a view of the state, an allowed action of
another machine or none, each run is a run of that machine. -/
theorem viewed_run (view : S → X) (ok : S → A → Prop) (also : X → B → Prop) (keeps : S → Prop)
    (step : ∀ s action next, ok s action → keeps s → act s action = some next → keeps next ∧
      (view next = view s ∨ ∃ shown, also (view s) shown ∧ other (view s) shown = some (view next)))
    (s last : S) (actions : List A) (allowed : Allowed act ok s actions) (start : keeps s)
    (ended : run act s actions = some last) :
    ∃ shown, Allowed other also (view s) shown ∧ run other (view s) shown = some (view last) := by
  induction actions generalizing s with
  | nil =>
      injection ended with same
      exact ⟨[], trivial, by rw [same]; rfl⟩
  | cons action actions ih =>
      obtain ⟨next, first, rest⟩ := (run_cons s last action actions).mp ended
      obtain ⟨kept, seen⟩ := step s action next allowed.1 start first
      obtain ⟨shown, fine, reached⟩ := ih next (allowed.2 next first) kept rest
      rcases seen with same | ⟨here, good, stepped⟩
      · exact ⟨shown, same ▸ fine, same ▸ reached⟩
      · refine ⟨here :: shown, allowed_cons also _ _ here shown good stepped fine, ?_⟩
        exact (run_cons _ _ here shown).mpr ⟨_, stepped, reached⟩

end Runs
