import Libtx.Loop.Actives
import Libtx.Loop.Spares
import Libtx.Rounds.Ahead

namespace Libtx

open Intrusive

variable {L T W P R : Type}

/-- The history of the loop has grown by events that do not take the task off its queue. -/
def Unmoved (task : T) (up : L) (s next : World L T W P R) : Prop :=
  Adds (fun event => ¬ event.Takes task) up s next

section Events

variable {task : T} {up : L} {s mid next : World L T W P R}

theorem unmoved_same (same : next.history = s.history) : Unmoved task up s next := adds_same same

theorem Unmoved.trans (first : Unmoved task up s mid) (second : Unmoved task up mid next) :
    Unmoved task up s next :=
  Adds.trans first second

variable [DecidableEq T]

theorem Unmoved.served (unmoved : Unmoved task up s next) :
    Rounds.served task (next.history up) = Rounds.served task (s.history up) := by
  obtain ⟨added, grown, untaken⟩ := unmoved
  rw [grown, Rounds.served_append, Rounds.served_untaken task added untaken, Nat.add_zero]

variable [DecidableEq L]

omit [DecidableEq T] in
theorem unmoved_event (held : L) (event : Rounds.Event T) (quiet : ¬ event.Takes task)
    (history : next.history = Function.update s.history held (s.history held ++ [event])) :
    Unmoved task up s next :=
  adds_event held event quiet history

variable [DecidableEq W]

theorem unmoved_drop (named : T) (apart : named ≠ task) : Unmoved task up s (txTaskDrop s (some named)) := by
  cases idle : (s.task named).txFlags.idle with
  | true => exact unmoved_same (by rw [txTaskDrop_idle named idle])
  | false =>
      rw [txTaskDrop_linked named idle]
      exact unmoved_event (s.task named).txLoop (.discard named (s.task named).txFlags.busy) apart rfl

theorem unmoved_active (named : T) (reason : Option R) (apart : named ≠ task) :
    Unmoved task up s (txTaskActive s (some named) reason) := by
  by_cases effective : (s.loop (s.task named).txLoop).txStop = false ∧ (s.task named).txFlags.busy = false
  · apply (unmoved_drop named apart).trans
    simp only [txTaskActive, if_pos effective]
    exact unmoved_event (s.task named).txLoop (.activate named) id rfl
  · rw [txTaskActive_refused named reason effective]
    exact unmoved_same rfl

theorem unmoved_wake (reason : Option R) (tasks : List T) (absent : task ∉ tasks) :
    Unmoved task up s (s.wake reason tasks) := by
  induction tasks generalizing s with
  | nil => exact unmoved_same rfl
  | cons named rest ih =>
      have apart : named ≠ task := fun same => absent (same ▸ List.mem_cons_self)
      exact (unmoved_active named reason apart).trans
        (ih (fun member => absent (List.mem_cons_of_mem named member)))

theorem unmoved_pollActive (poll : T) : Unmoved task up s (txPollActive s poll) := by
  unfold txPollActive
  dsimp only
  split
  · exact unmoved_event (s.task poll).txLoop (.link poll) id rfl
  · exact unmoved_same rfl

theorem Refines.unmoved_wakeup {v : View L T W} (h : Refines s v) (taskq : W) (reason : Option R) (fuel : Nat)
    (woken : txTaskWakeup fuel s taskq reason = some next)
    (live : ∀ task, Holds s.heap (.waitq taskq) (.task task) →
      (s.loop (s.task task).txLoop).txStop = false)
    (unparked : (s.task task).txFlags.pending = false) : Unmoved task up s next := by
  have lives : ∀ other ∈ v.parked taskq, (s.loop (s.task other).txLoop).txStop = false := by
    intro other member
    apply live other
    exact (holds_iff s.heap v.nodes h.linked (.waitq taskq) (.task other)).mpr (List.mem_map_of_mem member)
  have absent : task ∉ v.parked taskq := by
    intro member
    exact absurd ((h.pending task).mpr ⟨taskq, member⟩) (by simp [unparked])
  by_cases enough : (v.parked taskq).length ≤ fuel
  · have returned := (h.wakeup taskq reason fuel enough lives).1
    rw [woken] at returned
    injection returned with same
    rw [same]
    exact unmoved_wake reason (v.parked taskq) absent
  · rw [h.wakeup_short taskq reason fuel (by omega) lives] at woken
    cases woken

theorem unmoved_test (other : L) (firstRun : Bool) (passed : txLoopMainTest s other firstRun = .ok next)
    (uncalled : inCall next other task = false) : Unmoved task up s next := by
  rcases test_cases next other firstRun passed with ⟨_, ⟨_, same⟩ | ⟨named, _, same⟩⟩ | ⟨_, same⟩
  · rw [same]
    unfold txLoopMainPhony
    dsimp only
    split
    · exact unmoved_event other (.turn true) id rfl
    · exact unmoved_event other (.turn false) id rfl
  · subst same
    have apart : named ≠ task := by
      intro called
      simp [inCall, txLoopMainCall, called] at uncalled
    exact unmoved_event other (.serve named (s.task named).txFlags.busy) apart rfl
  · rw [same]
    exact unmoved_event other .halt id rfl

theorem Refines.unmoved_use {v : View L T W} (h : Refines s v) (use : LoopUse L T W P R) (live : use.Live s)
    (used : useLoop s use = some next) (unnamed : use.about ≠ some task)
    (unparked : (s.task task).txFlags.pending = false)
    (uncalled : ∀ other, use = .test other → inCall next other task = false) : Unmoved task up s next := by
  cases use with
  | task use =>
      cases used
      cases use with
      | active named reason =>
          cases named with
          | none => exact unmoved_same rfl
          | some named => exact unmoved_active named reason (fun same => unnamed (same ▸ rfl))
      | drop named =>
          cases named with
          | none => exact unmoved_same rfl
          | some named => exact unmoved_drop named (fun same => unnamed (same ▸ rfl))
      | record taskq named =>
          have dropped : Unmoved task up s (txTaskDrop s (some named)) :=
            unmoved_drop named (fun same => unnamed (same ▸ rfl))
          exact dropped.trans (unmoved_same rfl)
  | wakeup taskq reason fuel =>
      exact h.unmoved_wakeup taskq reason fuel used (live taskq reason fuel rfl) unparked
  | pollActive poll =>
      cases used
      exact unmoved_pollActive poll
  | mark named | breaks other | stop other | holder other holder =>
      cases used
      exact unmoved_same rfl
  | enter other =>
      rw [(useLoop_enter other used).2]
      exact unmoved_event other .enter id rfl
  | test other =>
      obtain ⟨firstRun, _, ok⟩ := passTest_ok s next other used
      exact unmoved_test other firstRun ok (uncalled other rfl)
  | returned other =>
      obtain ⟨_, _, _, same⟩ := useLoop_returned other used
      rw [same]
      exact unmoved_same rfl

end Events

variable [DecidableEq T]

/-- Both are on the queue of the loop, and `task` stands before `poll`. -/
def Ahead (task poll : T) (up : L) (s : World L T W P R) : Prop :=
  ∃ v, Refines s v ∧ (v.queue up).Ahead task poll

section Queues

variable {task poll : T} {up : L} {s next : World L T W P R} {v after : View L T W}

theorem Refines.grown (h : Refines s v) (refined : Refines next after) (added : List (Rounds.Event T))
    (history : next.history up = s.history up ++ added) :
    Rounds.Steps (v.queue up) added (after.queue up) := by
  have steps := refined.steps up
  rw [history, Rounds.steps_append] at steps
  obtain ⟨middle, before, rest⟩ := steps
  have same : middle = v.queue up := steps_unique (s.history up) middle (h.steps up) before
  exact same ▸ rest

theorem Ahead.unmoved (ahead : Ahead task poll up s) (refined : ∃ after, Refines next after)
    (first : Unmoved task up s next) (second : Unmoved poll up s next) : Ahead task poll up next := by
  obtain ⟨v, h, order⟩ := ahead
  obtain ⟨after, refines⟩ := refined
  obtain ⟨added, history, untaken⟩ := first
  obtain ⟨others, again, stays⟩ := second
  have same : others = added := List.append_cancel_left (again.symm.trans history)
  subst same
  exact ⟨after, refines, order.steps (h.sound up) others (h.grown refines others history) untaken stays⟩

variable [DecidableEq L] [DecidableEq W]

theorem Refines.called_front (h : Refines s v) (passed : passTest s up = some next)
    (calls : inCall next up task = true) : ∃ rest, (v.queue up).ready = task :: rest := by
  obtain ⟨firstRun, atTest, ok⟩ := passTest_ok s next up passed
  have first := h.first up ⟨firstRun, none⟩ atTest
  rcases test_cases next up firstRun ok with ⟨_, ⟨_, same⟩ | ⟨named, front, same⟩⟩ | ⟨_, same⟩
  · subst same
    exact absurd calls (by simp [phony_uncalled])
  · subst same
    have own : named = task := by simpa [inCall, txLoopMainCall] using calls
    cases ready : (v.queue up).ready with
    | nil =>
        rw [ready, front] at first
        cases first
    | cons head rest =>
        rw [ready, front] at first
        injection first with first
        injection first with same
        exact ⟨rest, by rw [← same, own]⟩
  · subst same
    exact absurd calls (by simp [inCall, txLoopMainLeave])

theorem Refines.called_linked (h : Refines s v) (passed : passTest s up = some next)
    (calls : inCall next up task = true) :
    (s.task task).txFlags.idle = false ∧ (s.task task).txLoop = up := by
  obtain ⟨rest, ready⟩ := h.called_front passed calls
  have member : task ∈ (v.queue up).linked := by simp [Rounds.Queue.linked, ready]
  refine ⟨?_, h.own up task member⟩
  rw [Bool.eq_false_iff]
  exact fun idle => ((h.idle task).mp idle).1 up member

theorem Refines.spared_use (h : Refines s v) (use : LoopUse L T W P R) (live : use.Live s)
    (used : useLoop s use = some next) (other : T) (home : (s.task other).txLoop = up)
    (unparked : (s.task other).txFlags.pending = false) (unnamed : use.about ≠ some other)
    (uncalled : use = .test up → inCall next up other = false) :
    next.task other = s.task other ∧ Unmoved other up s next := by
  have quiet : ∀ held, use = .test held → inCall next held other = false := by
    intro held same
    rw [Bool.eq_false_iff]
    intro called
    have passed : passTest s held = some next := by
      rw [same] at used
      exact used
    have own := (h.called_linked passed called).2
    have here : held = up := own.symm.trans home
    subst here
    exact absurd called (by simp [uncalled same])
  exact ⟨h.use_frame use live used other unnamed unparked quiet,
    h.unmoved_use use live used unnamed unparked quiet⟩

theorem called_served (world called : World L T W P R) (passed : passTest world up = some called)
    (calls : inCall called up task = true) :
    Rounds.served task (called.history up) = Rounds.served task (world.history up) + 1 := by
  obtain ⟨firstRun, _, ok⟩ := passTest_ok world called up passed
  rcases test_cases called up firstRun ok with ⟨_, ⟨_, same⟩ | ⟨named, _, same⟩⟩ | ⟨_, same⟩
  · subst same
    exact absurd calls (by simp [phony_uncalled])
  · subst same
    have own : named = task := by simpa [inCall, txLoopMainCall] using calls
    subst own
    simp [txLoopMainCall, Rounds.served, Rounds.Event.serves]
  · subst same
    exact absurd calls (by simp [inCall, txLoopMainLeave])

theorem called_other (poll : T) (passed : passTest s up = some next) (calls : inCall next up poll = true)
    (apart : task ≠ poll) : next.task task = s.task task ∧ Unmoved task up s next := by
  obtain ⟨firstRun, _, ok⟩ := passTest_ok s next up passed
  have uncalled := inCall_unique up poll task calls apart
  exact ⟨(passTest_frame s next up passed).1 task uncalled, unmoved_test up firstRun ok uncalled⟩

theorem linked_other (up : L) (s : World L T W P R) (poll : T) (frame : Option (Frame T)) (apart : task ≠ poll) :
    ((txPollActive s poll).setMain up frame).task task = s.task task ∧
      Unmoved task up s ((txPollActive s poll).setMain up frame) :=
  ⟨txPollActive_other s poll task apart, (unmoved_pollActive poll).trans (unmoved_same rfl)⟩

theorem Ahead.uncalled (ahead : Ahead task poll up s) (passed : passTest s up = some next) :
    inCall next up poll = false := by
  obtain ⟨v, h, order⟩ := ahead
  rw [Bool.eq_false_iff]
  intro calls
  obtain ⟨rest, ready⟩ := h.called_front passed calls
  exact order.front (h.sound up) rest ready

theorem ahead_linked (refined : ∃ v, Refines s v) (live : (s.loop up).txStop = false)
    (busy : (s.task task).txFlags.busy = true) (own : (s.task task).txLoop = up)
    (idle : (s.task poll).txFlags.idle = true) (loop : (s.task poll).txLoop = up) :
    Ahead task poll up (txPollActive s poll) := by
  obtain ⟨v, h⟩ := refined
  obtain ⟨after, refines⟩ := h.pollActive poll
  have claimed := busy
  rw [h.busy task, own] at claimed
  have member := (h.sound up).claimed task claimed
  have history : (txPollActive s poll).history up = s.history up ++ [.link poll] := by
    simp [txPollActive, loop, live, idle]
  have steps := h.grown refines [.link poll] history
  refine ⟨after, refines, ?_⟩
  generalize after.queue up = last at steps
  cases steps with
  | cons _ middle _ _ _ head tail =>
      cases tail
      cases head
      exact Rounds.ahead_insert (h.sound up) member

end Queues

end Libtx
