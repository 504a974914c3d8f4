import Libtx.Rounds.Queue
import Mathlib.Data.List.Induction

namespace Rounds

variable {T : Type}

def Event.Settles (task : T) : Event T → Prop
  | .serve other claim => other = task ∧ claim = true
  | .discard other claim => other = task ∧ claim = true
  | _ => False

def Event.Takes (task : T) : Event T → Prop
  | .serve other _ => other = task
  | .discard other _ => other = task
  | _ => False

def Event.Adds (task : T) : Event T → Prop
  | .activate other => other = task
  | .link other => other = task
  | _ => False

def Event.isTurn : Event T → Bool
  | .turn _ => true
  | _ => false

def turns (events : List (Event T)) : Nat := events.countP Event.isTurn

def Event.stays (running : Bool) : Event T → Bool
  | .enter => true
  | .turn leaves => !leaves
  | .halt => false
  | _ => running

def serving (events : List (Event T)) : Bool := events.foldl Event.stays false

/-- The number of rounds that end before an element added after `events` may be served. -/
def delay (events : List (Event T)) : Nat := if serving events then 1 else 0

variable [DecidableEq T]

theorem linked_accepts (q next : Queue T) (event : Event T) (accepted : Accepts q event next)
    (sound : q.Sound) (tasks : List T) (untaken : ∀ task ∈ tasks, ¬ event.Takes task)
    (inOrder : tasks.Sublist q.linked) : tasks.Sublist next.linked := by
  cases accepted with
  | activate task fresh =>
      rw [linked_mark, linked_insert q task sound.resting]
      exact inOrder.trans (List.sublist_append_left _ _)
  | link task fresh =>
      rw [linked_insert q task sound.resting]
      exact inOrder.trans (List.sublist_append_left _ _)
  | serve task rest running front =>
      rw [Queue.linked, front, List.cons_append] at inOrder
      rcases List.sublist_cons_iff.mp inOrder with kept | ⟨tail, split, kept⟩
      · exact kept
      · exact absurd rfl (untaken task (by rw [split]; exact List.mem_cons_self))
  | discard task =>
      rw [linked_mark, linked_remove]
      have kept : tasks.filter (fun other => decide (other ≠ task)) = tasks := by
        apply List.filter_eq_self.mpr
        intro other member
        have apart : other ≠ task := fun same => untaken other member same.symm
        simpa using apart
      rw [← kept]
      exact inOrder.filter _
  | turn leaves running done => simpa [Queue.linked, done] using inOrder
  | enter resting => exact inOrder
  | halt running => simpa [Queue.linked] using inOrder

theorem linked_steps (q last : Queue T) (events : List (Event T)) (steps : Steps q events last)
    (sound : q.Sound) (tasks : List T)
    (untaken : ∀ event ∈ events, ∀ task ∈ tasks, ¬ event.Takes task)
    (inOrder : tasks.Sublist q.linked) : tasks.Sublist last.linked := by
  have kept := steps_keep (fun q => q.Sound ∧ tasks.Sublist q.linked)
    (fun event => ∀ task ∈ tasks, ¬ event.Takes task)
    (fun q event next untaken accepted held =>
      ⟨sound_accepts q next event accepted held.1,
        linked_accepts q next event accepted held.1 tasks untaken held.2⟩)
    q last events steps untaken ⟨sound, inOrder⟩
  exact kept.2

section Runs

variable (last : Queue T)

end Runs

end Rounds
