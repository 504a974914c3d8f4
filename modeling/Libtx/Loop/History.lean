import Libtx.Loop.Membership

namespace Libtx

open Intrusive

variable {L T W P R : Type}

/-- The history of the loop has grown by events of one kind. -/
def Adds (kind : Rounds.Event T → Prop) (up : L) (s next : World L T W P R) : Prop :=
  ∃ added, next.history up = s.history up ++ added ∧ ∀ event ∈ added, kind event

section Events

variable {kind : Rounds.Event T → Prop} {up : L} {s mid next : World L T W P R}

theorem adds_same (same : next.history = s.history) : Adds kind up s next :=
  ⟨[], by rw [same, List.append_nil], fun _ member => by cases member⟩

theorem Adds.trans (first : Adds kind up s mid) (second : Adds kind up mid next) : Adds kind up s next := by
  obtain ⟨early, before, some⟩ := first
  obtain ⟨late, after, more⟩ := second
  refine ⟨early ++ late, by rw [after, before, List.append_assoc], ?_⟩
  intro event member
  rcases List.mem_append.mp member with inside | inside
  · exact some event inside
  · exact more event inside

variable [DecidableEq L]

theorem adds_event (held : L) (event : Rounds.Event T) (fits : kind event)
    (history : next.history = Function.update s.history held (s.history held ++ [event])) :
    Adds kind up s next := by
  by_cases same : up = held
  · subst same
    refine ⟨[event], by rw [history, Function.update_self], ?_⟩
    intro other member
    exact List.mem_singleton.mp member ▸ fits
  · refine ⟨[], ?_, fun _ member => by cases member⟩
    rw [history, Function.update_of_ne same, List.append_nil]

end Events

/-- What the activation of a task notes: the task may leave another queue first. -/
def Rouses : Rounds.Event T → Prop
  | .activate _ | .discard _ false => True
  | _ => False

def Steady : Rounds.Event T → Prop
  | .activate _ | .discard _ _ => False
  | _ => True

variable [DecidableEq L] [DecidableEq T] [DecidableEq W]

/-- A step that drops or records a busy task. -/
inductive DropsBusy (s : World L T W P R) : World L T W P R → Prop where
  | drop (task : T) (busy : (s.task task).txFlags.busy = true) : DropsBusy s (txTaskDrop s (some task))
  | record (taskq : W) (task : T) (busy : (s.task task).txFlags.busy = true) :
      DropsBusy s (txTaskRecord s taskq task)

section Growing

variable {up : L} {s next : World L T W P R}

theorem adds_drop (kind : Rounds.Event T → Prop) (task : T)
    (fits : kind (.discard task (s.task task).txFlags.busy)) : Adds kind up s (txTaskDrop s (some task)) := by
  cases idle : (s.task task).txFlags.idle with
  | true => exact adds_same (by rw [txTaskDrop_idle task idle])
  | false =>
      rw [txTaskDrop_linked task idle]
      exact adds_event (s.task task).txLoop _ fits rfl

theorem rouses_active (task : T) (reason : Option R) : Adds Rouses up s (txTaskActive s (some task) reason) := by
  by_cases effective : (s.loop (s.task task).txLoop).txStop = false ∧ (s.task task).txFlags.busy = false
  · have dropped : Adds Rouses up s (txTaskDrop s (some task)) := by
      apply adds_drop
      rw [effective.2]
      trivial
    apply dropped.trans
    simp only [txTaskActive, if_pos effective]
    exact adds_event (s.task task).txLoop (.activate task) trivial rfl
  · rw [txTaskActive_refused task reason effective]
    exact adds_same rfl

theorem rouses_wakeup (taskq : W) (reason : Option R) (fuel : Nat)
    (result : txTaskWakeup fuel s taskq reason = some next) : Adds Rouses up s next := by
  unfold txTaskWakeup at result
  obtain ⟨woken, done, same⟩ := Option.map_eq_some_iff.mp result
  have kept : Adds Rouses up s woken := by
    apply wakeup_from_keeps (Adds Rouses up s) reason _ fuel s woken _ (adds_same rfl) done
    intro world task adds
    have cleared : Adds Rouses up s (world.setFlags task (fun flags => { flags with pending := false })) := adds
    exact cleared.trans (rouses_active task reason)
  exact same ▸ kept

/-- What a step notes on every loop, by the claims that it opens or throws away. -/
inductive Notes (s next : World L T W P R) : Prop where
  | rouses (adds : ∀ up, Adds Rouses up s next)
  | drops (busy : DropsBusy s next) (adds : ∀ up, Adds (fun event => ∃ task, event = .discard task true) up s next)
  | steady (adds : ∀ up, Adds Steady up s next)

theorem notes_step (step : Step s next) : Notes s next := by
  cases step with
  | active task reason =>
      cases task with
      | none => exact .steady fun up => adds_same rfl
      | some task => exact .rouses fun up => rouses_active task reason
  | drop task =>
      cases task with
      | none => exact .steady fun up => adds_same rfl
      | some task =>
          cases busy : (s.task task).txFlags.busy with
          | true => exact .drops (.drop task busy) fun up => adds_drop _ task ⟨task, by rw [busy]⟩
          | false => exact .rouses fun up => adds_drop _ task (by rw [busy]; trivial)
  | record taskq task =>
      cases busy : (s.task task).txFlags.busy with
      | true =>
          refine .drops (.record taskq task busy) fun up => ?_
          have dropped : Adds (fun event => ∃ task, event = .discard task true) up s (txTaskDrop s (some task)) :=
            adds_drop _ task ⟨task, by rw [busy]⟩
          exact dropped
      | false =>
          refine .rouses fun up => ?_
          have dropped : Adds Rouses up s (txTaskDrop s (some task)) := adds_drop _ task (by rw [busy]; trivial)
          exact dropped
  | wakeup _ taskq reason fuel result live => exact .rouses fun up => rouses_wakeup taskq reason fuel result
  | pollActive poll =>
      unfold txPollActive
      dsimp only
      split
      · exact .steady fun up => adds_event (s.task poll).txLoop (.link poll) trivial rfl
      · exact .steady fun up => adds_same rfl
  | mark task | breaks up | stop up | holder up holder => exact .steady fun up => adds_same rfl
  | enter held left => exact .steady fun up => adds_event held .enter trivial rfl
  | test _ held firstRun atTest passed =>
      apply Notes.steady
      intro up
      rcases test_cases _ held firstRun passed with ⟨_, ⟨_, same⟩ | ⟨task, _, same⟩⟩ | ⟨_, same⟩
      · rw [same]
        unfold txLoopMainPhony
        dsimp only
        split
        · exact adds_event held (.turn true) trivial rfl
        · exact adds_event held (.turn false) trivial rfl
      · rw [same]
        exact adds_event held (.serve task (s.task task).txFlags.busy) trivial rfl
      · rw [same]
        exact adds_event held .halt trivial rfl
  | returned held firstRun task inCall => exact .steady fun up => adds_same rfl

end Growing

end Libtx
