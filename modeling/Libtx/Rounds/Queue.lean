import Mathlib.Data.List.Basic
import Mathlib.Data.List.Nodup
import Mathlib.Logic.Function.Basic

/-! A queue that is served in rounds.

The elements of the current round are served in order. What is added while the
server runs waits for the next round; what is added while it rests belongs to the
first round after it resumes. -/

namespace Rounds

/-- `activate` adds an element with a claim to be served, `link` adds it without one.
`serve` and `discard` take it out and tell whether the claim was still open. `turn`
ends a round and tells whether the server leaves there; `halt` leaves within a round. -/
inductive Event (T : Type) where
  | activate (task : T)
  | link (task : T)
  | serve (task : T) (claim : Bool)
  | discard (task : T) (claim : Bool)
  | turn (leaves : Bool)
  | enter
  | halt
  deriving DecidableEq, Repr

structure Queue (T : Type) where
  ready : List T
  later : List T
  claim : T → Bool
  running : Bool

variable {T : Type}

def Queue.linked (q : Queue T) : List T := q.ready ++ q.later

def Queue.empty : Queue T := ⟨[], [], fun _ => false, false⟩

def Queue.insert (q : Queue T) (task : T) : Queue T :=
  if q.running then { q with later := q.later ++ [task] } else { q with ready := q.ready ++ [task] }

/-- No element is queued twice, a claim is held by queued elements only, and only a
running server has something waiting for the next round. -/
structure Queue.Sound (q : Queue T) : Prop where
  nodup : q.linked.Nodup
  claimed : ∀ task, q.claim task = true → task ∈ q.linked
  resting : q.running = false → q.later = []

theorem sound_empty : (Queue.empty : Queue T).Sound :=
  ⟨by simp [Queue.empty, Queue.linked], by simp [Queue.empty], by simp [Queue.empty]⟩

theorem linked_insert (q : Queue T) (task : T) (sound : q.running = false → q.later = []) :
    (q.insert task).linked = q.linked ++ [task] := by
  unfold Queue.insert Queue.linked
  cases running : q.running with
  | true => simp
  | false => simp [sound running]

section

variable [DecidableEq T]

def Queue.mark (q : Queue T) (task : T) (claim : Bool) : Queue T :=
  { q with claim := Function.update q.claim task claim }

def Queue.remove (q : Queue T) (task : T) : Queue T :=
  { q with
    ready := q.ready.filter (fun other => decide (other ≠ task))
    later := q.later.filter (fun other => decide (other ≠ task)) }

/-- The events a queue allows, and what they leave. -/
inductive Accepts : Queue T → Event T → Queue T → Prop where
  | activate (q : Queue T) (task : T) (fresh : task ∉ q.linked) :
      Accepts q (.activate task) ((q.insert task).mark task true)
  | link (q : Queue T) (task : T) (fresh : task ∉ q.linked) :
      Accepts q (.link task) (q.insert task)
  | serve (q : Queue T) (task : T) (rest : List T) (running : q.running = true)
      (front : q.ready = task :: rest) :
      Accepts q (.serve task (q.claim task)) ({ q with ready := rest }.mark task false)
  | discard (q : Queue T) (task : T) :
      Accepts q (.discard task (q.claim task)) ((q.remove task).mark task false)
  | turn (q : Queue T) (leaves : Bool) (running : q.running = true) (done : q.ready = []) :
      Accepts q (.turn leaves) { q with ready := q.later, later := [], running := !leaves }
  | enter (q : Queue T) (resting : q.running = false) :
      Accepts q .enter { q with running := true }
  | halt (q : Queue T) (running : q.running = true) :
      Accepts q .halt { q with ready := q.linked, later := [], running := false }

inductive Steps : Queue T → List (Event T) → Queue T → Prop where
  | nil (q : Queue T) : Steps q [] q
  | cons (q middle last : Queue T) (event : Event T) (events : List (Event T))
      (head : Accepts q event middle) (tail : Steps middle events last) : Steps q (event :: events) last

theorem steps_append (q last : Queue T) (front back : List (Event T)) :
    Steps q (front ++ back) last ↔ ∃ middle, Steps q front middle ∧ Steps middle back last := by
  constructor
  · intro steps
    induction front generalizing q with
    | nil => exact ⟨q, Steps.nil q, steps⟩
    | cons event events ih =>
        cases steps with
        | cons _ next _ _ _ head tail =>
            obtain ⟨middle, before, after⟩ := ih next tail
            exact ⟨middle, Steps.cons q next middle event events head before, after⟩
  · rintro ⟨middle, before, after⟩
    induction before with
    | nil => exact after
    | cons q next middle event events head _ ih => exact Steps.cons q next last event _ head (ih after)

theorem steps_snoc (q middle last : Queue T) (events : List (Event T)) (event : Event T)
    (before : Steps q events middle) (head : Accepts middle event last) :
    Steps q (events ++ [event]) last :=
  (steps_append q last events [event]).mpr
    ⟨middle, before, Steps.cons middle last last event [] head (Steps.nil last)⟩

theorem steps_keep (keeps : Queue T → Prop) (ok : Event T → Prop)
    (step : ∀ q event next, ok event → Accepts q event next → keeps q → keeps next)
    (q last : Queue T) (events : List (Event T)) (steps : Steps q events last)
    (allowed : ∀ event ∈ events, ok event) (start : keeps q) : keeps last := by
  induction steps with
  | nil => exact start
  | cons q middle last event events head _ ih =>
      apply ih
      · intro other member
        exact allowed other (List.mem_cons_of_mem event member)
      · exact step q event middle (allowed event List.mem_cons_self) head start

theorem linked_remove (q : Queue T) (task : T) :
    (q.remove task).linked = q.linked.filter (fun other => decide (other ≠ task)) := by
  simp [Queue.remove, Queue.linked]

@[simp] theorem linked_mark (q : Queue T) (task : T) (claim : Bool) :
    (q.mark task claim).linked = q.linked := rfl

@[simp] theorem claim_mark (q : Queue T) (task other : T) (claim : Bool) :
    (q.mark task claim).claim other = if other = task then claim else q.claim other := by
  simp [Queue.mark, Function.update_apply]

end

@[simp] theorem claim_insert (q : Queue T) (task : T) : (q.insert task).claim = q.claim := by
  unfold Queue.insert
  split <;> rfl

@[simp] theorem running_insert (q : Queue T) (task : T) : (q.insert task).running = q.running := by
  unfold Queue.insert
  split <;> rfl

theorem sound_insert (q : Queue T) (task : T) (sound : q.Sound) (fresh : task ∉ q.linked) :
    (q.insert task).linked.Nodup ∧ ((q.insert task).running = false → (q.insert task).later = []) := by
  constructor
  · rw [linked_insert q task sound.resting]
    exact List.nodup_append.mpr ⟨sound.nodup, by simp, by
      intro other member last same
      simp only [List.mem_singleton] at same
      subst same
      intro equal
      exact fresh (equal ▸ member)⟩
  · intro resting
    rw [running_insert] at resting
    simp [Queue.insert, resting, sound.resting resting]

variable [DecidableEq T]

theorem sound_accepts (q next : Queue T) (event : Event T) (accepted : Accepts q event next)
    (sound : q.Sound) : next.Sound := by
  cases accepted with
  | activate task fresh =>
      obtain ⟨nodup, resting⟩ := sound_insert q task sound fresh
      refine ⟨nodup, ?_, resting⟩
      intro other claimed
      rw [linked_mark, linked_insert q task sound.resting]
      by_cases same : other = task
      · simp [same]
      · rw [claim_mark, if_neg same, claim_insert] at claimed
        exact List.mem_append_left _ (sound.claimed other claimed)
  | link task fresh =>
      obtain ⟨nodup, resting⟩ := sound_insert q task sound fresh
      refine ⟨nodup, ?_, resting⟩
      intro other claimed
      rw [claim_insert] at claimed
      rw [linked_insert q task sound.resting]
      exact List.mem_append_left _ (sound.claimed other claimed)
  | serve task rest running front =>
      have nodup : (task :: (rest ++ q.later)).Nodup := by
        have whole := sound.nodup
        rwa [Queue.linked, front] at whole
      refine ⟨(List.nodup_cons.mp nodup).2, ?_, sound.resting⟩
      intro other claimed
      by_cases same : other = task
      · simp [same] at claimed
      · rw [claim_mark, if_neg same] at claimed
        have member := sound.claimed other claimed
        rw [Queue.linked, front] at member
        exact (List.mem_cons.mp member).resolve_left same
  | discard task =>
      refine ⟨?_, ?_, ?_⟩
      · rw [linked_mark, linked_remove]
        exact sound.nodup.filter _
      · intro other claimed
        by_cases same : other = task
        · simp [same] at claimed
        · rw [claim_mark, if_neg same] at claimed
          rw [linked_mark, linked_remove]
          simpa [same] using sound.claimed other claimed
      · intro resting
        simp [Queue.mark, Queue.remove, sound.resting resting]
  | turn leaves running done =>
      have same : q.linked = q.later := by simp [Queue.linked, done]
      refine ⟨?_, ?_, by simp⟩
      · simpa [Queue.linked, done] using sound.nodup
      · intro other claimed
        simpa [Queue.linked, done] using sound.claimed other claimed
  | enter resting => exact ⟨sound.nodup, sound.claimed, by simp⟩
  | halt running =>
      refine ⟨by simpa [Queue.linked] using sound.nodup, ?_, by simp⟩
      intro other claimed
      simpa [Queue.linked] using sound.claimed other claimed

theorem sound_steps (q last : Queue T) (events : List (Event T)) (steps : Steps q events last)
    (sound : q.Sound) : last.Sound :=
  steps_keep Queue.Sound (fun _ => True) (fun q event next _ accepted sound =>
    sound_accepts q next event accepted sound) q last events steps (by simp) sound

end Rounds
