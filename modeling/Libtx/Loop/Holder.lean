import Libtx.Loop.Refine

namespace Libtx

open Intrusive

variable {L T W P R : Type}

structure Unheld (s next : World L T W P R) : Prop where
  own : ∀ task, (next.task task).txLoop = (s.task task).txLoop
  holder : ∀ up, (next.loop up).txHolder = (s.loop up).txHolder

theorem unheld_refl (s : World L T W P R) : Unheld s s := ⟨fun _ => rfl, fun _ => rfl⟩

theorem Unheld.trans {s mid next : World L T W P R} (first : Unheld s mid) (second : Unheld mid next) :
    Unheld s next where
  own task := (second.own task).trans (first.own task)
  holder up := (second.holder up).trans (first.holder up)

section Setters

variable {s next : World L T W P R}

theorem Unheld.onHeap (held : Unheld s next)
    (change : Heap (Head L W) (Node L T) → Heap (Head L W) (Node L T)) : Unheld s (next.onHeap change) :=
  held.trans ⟨fun _ => rfl, fun _ => rfl⟩

section

variable [DecidableEq L]

theorem Unheld.setLoop (held : Unheld s next) (up : L) (change : TxLoop P T → TxLoop P T)
    (keeps : ∀ loop, (change loop).txHolder = loop.txHolder) : Unheld s (next.setLoop up change) := by
  refine held.trans ⟨fun _ => rfl, ?_⟩
  intro other
  by_cases same : other = up
  · simp [same, keeps]
  · simp [same]

theorem Unheld.setMain (held : Unheld s next) (up : L) (frame : Option (Frame T)) :
    Unheld s (next.setMain up frame) :=
  held.trans ⟨fun _ => rfl, fun _ => rfl⟩

theorem Unheld.note (held : Unheld s next) (up : L) (event : Rounds.Event T) :
    Unheld s (next.note up event) :=
  held.trans ⟨fun _ => rfl, fun _ => rfl⟩

end

variable [DecidableEq T]

theorem Unheld.setFlags (held : Unheld s next) (task : T) (change : TaskFlags → TaskFlags) :
    Unheld s (next.setFlags task change) := by
  refine held.trans ⟨?_, fun _ => rfl⟩
  intro other
  by_cases same : other = task
  · simp [same]
  · simp [same]

theorem Unheld.setReason (held : Unheld s next) (task : T) (reason : Option R) :
    Unheld s (next.setReason task reason) := by
  refine held.trans ⟨?_, fun _ => rfl⟩
  intro other
  by_cases same : other = task
  · simp [same]
  · simp [same]

end Setters

/-- A poller that does not hold the loop does not sleep while another one does. -/
theorem held_timeout [DecidableEq P] (loop : TxLoop P T) (holder : P) (verify : Option P)
    (held : loop.txHolder = some holder) (other : verify ≠ some holder) : txLoopTimeout loop verify = 0 := by
  have taken : loop.txHolder ≠ none := by simp [held]
  have apart : loop.txHolder ≠ verify := fun same => other (same ▸ held)
  rw [txLoopTimeout, if_neg taken, if_neg apart]
  split
  · rfl
  · split <;> rfl

variable [DecidableEq L] [DecidableEq T] [DecidableEq W]

theorem unheld_drop (s : World L T W P R) (task : Option T) : Unheld s (txTaskDrop s task) := by
  cases task with
  | none => exact unheld_refl s
  | some task =>
      simp only [txTaskDrop]
      split
      · exact ((((unheld_refl s).setFlags task _).onHeap _).setFlags task _).note _ _
      · exact unheld_refl s

theorem unheld_active (s : World L T W P R) (task : Option T) (reason : Option R) :
    Unheld s (txTaskActive s task reason) := by
  cases task with
  | none => exact unheld_refl s
  | some task =>
      simp only [txTaskActive]
      split
      · apply Unheld.note
        apply Unheld.setLoop
        · exact (((unheld_drop s (some task)).onHeap _).setFlags task _).setReason task reason
        · exact fun _ => rfl
      · exact unheld_refl s

theorem unheld_wakeup_from (reason : Option R) (fuel : Nat) (s woken : World L T W P R)
    (cur : Option (Node L T)) (result : txTaskWakeupFrom reason fuel s cur = some woken) :
    Unheld s woken := by
  apply wakeup_from_keeps (Unheld s) reason _ fuel s woken cur (unheld_refl s) result
  intro world task kept
  have cleared := kept.setFlags task (fun flags => { flags with pending := false })
  exact cleared.trans (unheld_active _ (some task) reason)

theorem unheld_poll (s : World L T W P R) (poll : T) : Unheld s (txPollActive s poll) := by
  unfold txPollActive
  dsimp only
  split
  · apply Unheld.note
    apply Unheld.setLoop
    · exact ((unheld_refl s).onHeap _).setFlags poll _
    · exact fun _ => rfl
  · exact unheld_refl s

theorem unheld_phony (s : World L T W P R) (up : L) : Unheld s (txLoopMainPhony s up) := by
  have counted := ((unheld_refl s).onHeap
    (fun heap => heap.listInsertBefore (.tailer up) (.phony up))).setLoop up (fun loop =>
      { loop with
        txActives := if loop.txBusy &&& 1 ≠ 0 then loop.txActives else 0
        txBusy := loop.txBusy <<< 1
        txUpcount := loop.txUpcount + 1 }) (fun _ => rfl)
  unfold txLoopMainPhony
  dsimp only
  split
  · have broken := counted.setLoop up (fun loop => { loop with txBreak := false }) (fun _ => rfl)
    exact ((broken.onHeap _).setMain up none).note up _
  · exact (counted.setMain up _).note up _

theorem unheld_test (s next : World L T W P R) (up : L) (firstRun : Bool)
    (passed : txLoopMainTest s up firstRun = .ok next) : Unheld s next := by
  rcases test_cases next up firstRun passed with ⟨_, ⟨_, same⟩ | ⟨task, _, same⟩⟩ | ⟨_, same⟩
  · rw [same]
    exact ((unheld_refl s).onHeap _).trans (unheld_phony _ up)
  · have marked := ((unheld_refl s).onHeap (fun heap => heap.listRemove (.task task))).setFlags task
      (fun flags => { flags with busy := false, idle := true, userMark := false })
    rw [same]
    apply Unheld.note
    apply Unheld.setMain
    exact marked.setLoop up _ (fun _ => rfl)
  · rw [same]
    exact (((unheld_refl s).onHeap _).setMain up none).note up _

theorem step_unheld (s next : World L T W P R) (step : Step s next) :
    Unheld s next ∨ ∃ up holder, next = setHolder s up holder := by
  cases step with
  | active task reason => exact Or.inl (unheld_active s task reason)
  | drop task => exact Or.inl (unheld_drop s task)
  | record taskq task =>
      have linked := (unheld_drop s (some task)).onHeap
        (fun heap => heap.listInsertHead (.waitq taskq) (.task task))
      exact Or.inl (linked.setFlags task (fun flags => { flags with pending := true, idle := false }))
  | wakeup _ taskq reason fuel result live =>
      obtain ⟨woken, done, same⟩ := Option.map_eq_some_iff.mp result
      exact Or.inl (same ▸ (unheld_wakeup_from reason fuel s woken _ done).onHeap _)
  | pollActive poll => exact Or.inl (unheld_poll s poll)
  | mark task => exact Or.inl ((unheld_refl s).setFlags task _)
  | breaks up => exact Or.inl ((unheld_refl s).setLoop up _ (fun _ => rfl))
  | stop up => exact Or.inl ((unheld_refl s).setLoop up _ (fun _ => rfl))
  | holder up holder => exact Or.inr ⟨up, holder, rfl⟩
  | enter up left => exact Or.inl ((((unheld_refl s).onHeap _).setMain up _).note up _)
  | test _ up firstRun atTest passed => exact Or.inl (unheld_test s next up firstRun passed)
  | returned up firstRun task inCall => exact Or.inl ((unheld_refl s).setMain up _)

theorem step_own (s next : World L T W P R) (step : Step s next) (task : T) :
    (next.task task).txLoop = (s.task task).txLoop := by
  rcases step_unheld s next step with unheld | ⟨up, holder, same⟩
  · exact unheld.own task
  · exact same ▸ rfl

end Libtx
