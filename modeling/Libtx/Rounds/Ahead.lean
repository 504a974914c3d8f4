import Libtx.Rounds.Orderly

namespace Rounds

variable {T : Type}

def Queue.Ahead (q : Queue T) (first second : T) : Prop := [first, second].Sublist q.linked

variable [DecidableEq T]

def Event.serves (task : T) : Event T → Bool
  | .serve other _ => decide (other = task)
  | _ => false

def served (task : T) (events : List (Event T)) : Nat := events.countP (Event.serves task)

variable {q last : Queue T} {first second : T}

omit [DecidableEq T] in
theorem ahead_insert (sound : q.Sound) (member : first ∈ q.linked) :
    (q.insert second).Ahead first second := by
  rw [Queue.Ahead, linked_insert q second sound.resting]
  exact (List.singleton_sublist.mpr member).append (List.Sublist.refl [second])

omit [DecidableEq T] in
/-- No overtaking: the one behind is not at the front. -/
theorem Queue.Ahead.front (ahead : q.Ahead first second) (sound : q.Sound) (rest : List T) :
    q.ready ≠ second :: rest := by
  intro front
  have nodup := sound.nodup
  have order := ahead
  rw [Queue.Ahead, Queue.linked, front, List.cons_append] at order
  rw [Queue.linked, front, List.cons_append] at nodup
  have absent := (List.nodup_cons.mp nodup).1
  rcases List.sublist_cons_iff.mp order with kept | ⟨tail, split, kept⟩
  · exact absent (kept.subset (List.mem_cons_of_mem first List.mem_cons_self))
  · injection split with _ same
    exact absent (kept.subset (same ▸ List.mem_cons_self))

theorem served_append (task : T) (front back : List (Event T)) :
    served task (front ++ back) = served task front + served task back :=
  List.countP_append

theorem served_untaken (task : T) (events : List (Event T))
    (untaken : ∀ event ∈ events, ¬ event.Takes task) : served task events = 0 := by
  apply List.countP_eq_zero.mpr
  intro event member serves
  cases event with
  | serve other claim =>
      have same : other = task := of_decide_eq_true serves
      exact untaken _ member same
  | activate other | link other | discard other claim | turn leaves | enter | halt => cases serves

theorem Queue.Ahead.steps (ahead : q.Ahead first second) (sound : q.Sound) (events : List (Event T))
    (steps : Steps q events last) (kept : ∀ event ∈ events, ¬ event.Takes first)
    (stays : ∀ event ∈ events, ¬ event.Takes second) : last.Ahead first second := by
  apply linked_steps q last events steps sound [first, second] _ ahead
  intro event member task one
  rcases List.mem_pair.mp one with same | same
  · exact same ▸ kept event member
  · exact same ▸ stays event member

end Rounds
