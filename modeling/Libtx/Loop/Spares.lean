import Libtx.Timer.Frames

namespace Libtx

open Intrusive

variable {L T W P R : Type} [DecidableEq T]

structure Spares (task : T) (up : L) (s next : World L T W P R) : Prop where
  refined : (∃ v, Refines s v) → ∃ v, Refines next v
  task : next.task task = s.task task
  stop : (next.loop up).txStop = (s.loop up).txStop

theorem spares_refl (task : T) (up : L) (s : World L T W P R) : Spares task up s s :=
  ⟨id, rfl, rfl⟩

theorem Spares.trans {task : T} {up : L} {s mid next : World L T W P R} (first : Spares task up s mid)
    (second : Spares task up mid next) : Spares task up s next where
  refined := fun refined => second.refined (first.refined refined)
  task := second.task.trans first.task
  stop := second.stop.trans first.stop

/-- The task is on the queue of its loop, where it was or where an activation put it. -/
structure Busies (task : T) (up : L) (s next : World L T W P R) : Prop where
  refined : ∃ v, Refines next v
  busy : (next.task task).txFlags.busy = true
  loop : (next.task task).txLoop = (s.task task).txLoop
  stop : (next.loop up).txStop = (s.loop up).txStop

theorem Busies.trans {task : T} {up : L} {s mid next : World L T W P R} (first : Busies task up s mid)
    (second : Busies task up mid next) : Busies task up s next where
  refined := second.refined
  busy := second.busy
  loop := second.loop.trans first.loop
  stop := second.stop.trans first.stop

theorem Busies.after {task : T} {up : L} {s mid next : World L T W P R} (busies : Busies task up mid next)
    (spares : Spares task up s mid) : Busies task up s next where
  refined := busies.refined
  busy := busies.busy
  loop := by rw [busies.loop, spares.task]
  stop := busies.stop.trans spares.stop

theorem Busies.before {task : T} {up : L} {s mid next : World L T W P R} (busies : Busies task up s mid)
    (spares : Spares task up mid next) : Busies task up s next where
  refined := spares.refined busies.refined
  busy := by rw [spares.task, busies.busy]
  loop := by rw [spares.task, busies.loop]
  stop := spares.stop.trans busies.stop

variable [DecidableEq L]

theorem spares_return (task : T) (up held : L) (s : World L T W P R) : Spares task up s
    (s.setMain held ((s.main held).map (fun frame => ⟨frame.firstRun, none⟩))) := by
  refine ⟨?_, rfl, rfl⟩
  rintro ⟨v, h⟩
  refine ⟨v, h.frame _ rfl (fun _ => rfl) (fun _ => rfl) (fun _ => rfl) (fun _ => rfl) ?_ rfl
    (fun _ stop => stop)⟩
  intro other
  by_cases same : other = held
  · simp [same]
  · simp [same]

variable [DecidableEq W]

theorem spares_active (task : T) (up : L) (s : World L T W P R) (named : Option T) (reason : Option R)
    (apart : named ≠ some task) : Spares task up s (txTaskActive s named reason) := by
  refine ⟨?_, ?_, ?_⟩
  · rintro ⟨v, h⟩
    exact refines_step s _ (.active s named reason) v h
  · cases named with
    | none => rfl
    | some named => exact txTaskActive_other s named task reason (fun same => apart (same ▸ rfl))
  · cases named with
    | none => rfl
    | some named => exact txTaskActive_stops named up reason

theorem spares_holder (task : T) (up : L) (s : World L T W P R) (held : L) (holder : Option P) :
    Spares task up s (setHolder s held holder) := by
  refine ⟨?_, rfl, ?_⟩
  · rintro ⟨v, h⟩
    exact refines_step s _ (.holder s held holder) v h
  · simp [setHolder]

theorem spares_poll (task : T) (up : L) (s : World L T W P R) (poll : T) (apart : task ≠ poll) :
    Spares task up s (txPollActive s poll) := by
  refine ⟨?_, txPollActive_other s poll task apart, txPollActive_stops s poll up⟩
  rintro ⟨v, h⟩
  exact h.pollActive poll

theorem spares_use (task : T) (up : L) (s next : World L T W P R) (v : View L T W) (h : Refines s v)
    (use : LoopUse L T W P R) (live : use.Live s) (used : useLoop s use = some next)
    (unnamed : use.about ≠ some task) (unparked : (s.task task).txFlags.pending = false)
    (uncalled : ∀ other, use = .test other → inCall next other task = false) (goes : use ≠ .stop up) :
    Spares task up s next := by
  refine ⟨?_, h.use_frame use live used task unnamed unparked uncalled, useLoop_stops use used up goes⟩
  rintro ⟨v, h⟩
  exact refines_step s next (useLoop_step use live used) v h

theorem busies_active (s : World L T W P R) (refined : ∃ v, Refines s v) (task : T) (up : L)
    (reason : Option R) (own : (s.task task).txLoop = up) (live : (s.loop up).txStop = false) :
    Busies task up s (txTaskActive s (some task) reason) := by
  obtain ⟨v, h⟩ := refined
  subst own
  exact ⟨h.active task reason, (h.activated task reason live).1, txTaskActive_task_loop task task reason,
    txTaskActive_stops task _ reason⟩

theorem Refines.busy_pending {s : World L T W P R} {v : View L T W} (h : Refines s v) (task : T)
    (busy : (s.task task).txFlags.busy = true) : (s.task task).txFlags.pending = false := by
  cases pending : (s.task task).txFlags.pending with
  | false => rfl
  | true => exact absurd ⟨busy, pending⟩ (h.membership.exclusive task)

end Libtx
