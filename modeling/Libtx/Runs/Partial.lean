import Mathlib.Data.List.Basic

namespace Runs

variable {S A : Type} (act : S → A → Option S)

def run (s : S) : List A → Option S
  | [] => some s
  | action :: actions => (act s action).bind (fun next => run next actions)

def Allowed (ok : S → A → Prop) : S → List A → Prop
  | _, [] => True
  | s, action :: actions => ok s action ∧ ∀ next, act s action = some next → Allowed ok next actions

variable {act}

theorem run_cons (s last : S) (action : A) (actions : List A) :
    run act s (action :: actions) = some last ↔
      ∃ next, act s action = some next ∧ run act next actions = some last := by
  rw [run, Option.bind_eq_some_iff]

theorem run_append (s last : S) (front back : List A) :
    run act s (front ++ back) = some last ↔
      ∃ mid, run act s front = some mid ∧ run act mid back = some last := by
  induction front generalizing s with
  | nil => simp [run]
  | cons action front ih =>
      simp only [List.cons_append, run_cons, ih]
      constructor
      · rintro ⟨next, step, mid, ahead, rest⟩
        exact ⟨mid, ⟨next, step, ahead⟩, rest⟩
      · rintro ⟨mid, ⟨next, step, ahead⟩, rest⟩
        exact ⟨next, step, mid, ahead, rest⟩

theorem keeps_run (ok : S → A → Prop) (keeps : S → Prop)
    (step : ∀ s action next, ok s action → keeps s → act s action = some next → keeps next)
    (s last : S) (actions : List A) (allowed : Allowed act ok s actions) (start : keeps s)
    (ended : run act s actions = some last) : keeps last := by
  induction actions generalizing s with
  | nil =>
      injection ended with same
      exact same ▸ start
  | cons action actions ih =>
      obtain ⟨next, first, rest⟩ := (run_cons s last action actions).mp ended
      exact ih next (allowed.2 next first) (step s action next allowed.1 start first) rest

theorem allowed_cons (ok : S → A → Prop) (s next : S) (action : A) (actions : List A) (here : ok s action)
    (first : act s action = some next) (rest : Allowed act ok next actions) :
    Allowed act ok s (action :: actions) := by
  refine ⟨here, ?_⟩
  intro other step
  rw [first] at step
  injection step with same
  exact same ▸ rest

theorem allowed_any (s : S) (actions : List A) : Allowed act (fun _ _ => True) s actions := by
  induction actions generalizing s with
  | nil => trivial
  | cons action actions ih => exact ⟨trivial, fun next _ => ih next⟩

theorem allowed_every (good : A → Prop) (s : S) (actions : List A) (each : ∀ action ∈ actions, good action) :
    Allowed act (fun _ action => good action) s actions := by
  induction actions generalizing s with
  | nil => trivial
  | cons action actions ih =>
      refine ⟨each action List.mem_cons_self, fun next _ => ih next ?_⟩
      exact fun other member => each other (List.mem_cons_of_mem action member)

theorem allowed_front (ok : S → A → Prop) (s : S) (front back : List A)
    (allowed : Allowed act ok s (front ++ back)) : Allowed act ok s front := by
  induction front generalizing s with
  | nil => trivial
  | cons action front ih => exact ⟨allowed.1, fun next step => ih next (allowed.2 next step)⟩

theorem allowed_back (ok : S → A → Prop) (s mid : S) (front back : List A)
    (allowed : Allowed act ok s (front ++ back)) (reached : run act s front = some mid) :
    Allowed act ok mid back := by
  induction front generalizing s with
  | nil =>
      injection reached with same
      exact same ▸ allowed
  | cons action front ih =>
      obtain ⟨next, first, rest⟩ := (run_cons s mid action front).mp reached
      exact ih next (allowed.2 next first) rest

theorem allowed_both (ok also : S → A → Prop) (s : S) (actions : List A)
    (first : Allowed act ok s actions) (second : Allowed act also s actions) :
    Allowed act (fun s action => ok s action ∧ also s action) s actions := by
  induction actions generalizing s with
  | nil => trivial
  | cons action actions ih =>
      exact ⟨⟨first.1, second.1⟩, fun next step => ih next (first.2 next step) (second.2 next step)⟩

/-- Where an invariant implies `holds`, every harmless action keeps it and every harmful one
breaks `holds`, it holds all through a run exactly when the run has no harmful action. -/
theorem harmless_iff (ok harm : S → A → Prop) (keeps holds : S → Prop)
    (implies : ∀ s, keeps s → holds s)
    (harmless : ∀ s action next, ok s action → ¬ harm s action → keeps s →
      act s action = some next → keeps next)
    (harmful : ∀ s action next, ok s action → harm s action → keeps s →
      act s action = some next → ¬ holds next)
    (s last : S) (actions : List A) (allowed : Allowed act ok s actions) (start : keeps s)
    (ended : run act s actions = some last) :
    (∀ front back mid, actions = front ++ back → run act s front = some mid → holds mid) ↔
      Allowed act (fun s action => ¬ harm s action) s actions := by
  constructor
  · intro always
    induction actions generalizing s with
    | nil => trivial
    | cons action actions ih =>
        obtain ⟨next, first, rest⟩ := (run_cons s last action actions).mp ended
        have said : holds next :=
          always [action] actions next rfl ((run_cons s next action []).mpr ⟨next, first, rfl⟩)
        have good : ¬ harm s action := fun bad => harmful s action next allowed.1 bad start first said
        apply allowed_cons _ s next action actions good first
        apply ih next (allowed.2 next first) (harmless s action next allowed.1 good start first) rest
        intro front back mid split reached
        exact always (action :: front) back mid (by rw [split, List.cons_append])
          ((run_cons s mid action front).mpr ⟨next, first, reached⟩)
  · intro good front back mid split reached
    subst split
    apply implies
    apply keeps_run (fun s action => ok s action ∧ ¬ harm s action) keeps
      (fun s action next fine held step => harmless s action next fine.1 fine.2 held step)
      s mid front _ start reached
    exact allowed_both ok _ s front (allowed_front ok s front back allowed)
      (allowed_front _ s front back good)

end Runs
