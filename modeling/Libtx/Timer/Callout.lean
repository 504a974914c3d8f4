import Libtx.Loop.Order
import Libtx.Timer.Teardown

namespace Libtx

open Relation

variable {L T W P R K : Type}

section Calls

variable {s : Timers K} [DecidableEq K]

theorem calls_grow (s : Timers K) (reading : Nat) (slept : Option Nat) :
    s.calls <+: (txTimerPolling s reading slept).calls := by
  have each (ticks : UInt32) (next : Timers K) (cur : K) (kept : s.calls <+: next.calls) :
      s.calls <+: (txTimerPollingEach ticks next cur).calls := by
    by_cases fires : Fires ticks (next.timer cur).interval
    · rw [pollingEach_fires ticks next cur fires]
      exact kept.trans (List.prefix_append next.calls [cur])
    · rw [pollingEach_waits ticks next cur fires]
      exact kept
  have list (ticks : UInt32) (next : Timers K) (bucket : Bucket) (kept : s.calls <+: next.calls) :
      s.calls <+: (txTimerPollingList ticks next bucket).calls :=
    foldl_rule ticks (fun _ later => s.calls <+: later.calls) (fun cur _ later => each ticks later cur) _ _ kept
  have wheel (hand : Hand) (ticks : UInt32) (next : Timers K) (kept : s.calls <+: next.calls) :
      s.calls <+: (txTimerPollingWheel hand ticks next).calls :=
    (wheel_rule hand ticks (fun later => s.calls <+: later.calls)
      (fun later held _ => list ticks (later.advance hand) _ held) next kept).1
  have scan (ticks : UInt32) (next : Timers K) (kept : s.calls <+: next.calls) :
      s.calls <+: (txTimerPollingSt ticks next).calls := by
    unfold txTimerPollingSt
    split
    · exact list ticks (next.setStTick ticks) .st kept
    · exact kept
  have polled : s.calls <+: (s.polledAt reading).calls :=
    scan _ _ (wheel .ma _ _ (wheel .mi _ _ (List.prefix_refl s.calls)))
  rw [polling_eq]
  cases slept with
  | none => exact polled
  | some last => exact polled

theorem calls_fired (s : Timers K) (reading : Nat) (slept : Option Nat) :
    (txTimerPolling s reading slept).calls =
      s.calls ++ (txTimerPolling s reading slept).calls.drop s.calls.length :=
  (List.prefix_iff_eq_append.mp (calls_grow s reading slept)).symm

end Calls

variable [DecidableEq L] [DecidableEq T] [DecidableEq W]

section

variable [DecidableEq P] [DecidableEq K]

/-- A polling, with the world in which the ring's poll is called and the one in which its timers have
woken their tasks. -/
structure RingLoop.Polls (callout : Callout T P R K) (up : L) (s : RingLoop L T W P R K) (reading : Nat)
    (slept : Option Nat) (fired : List K) (called woken : World L T W P R) (next : RingLoop L T W P R K) :
    Prop where
  passed : passTest s.world up = some called
  calls : inCall called up callout.poll = true
  adds : (txTimerPolling s.timers reading slept).calls = s.timers.calls ++ fired
  wakes : woken = wakeFired callout s.txTask called fired
  pauses : slept.isSome = decide (txLoopTimeout (woken.loop up) (some callout.ring) ≠ 0)
  timers : next.timers = txTimerPolling s.timers reading slept
  txTask : next.txTask = s.txTask
  world : next.world = (txPollActive woken callout.poll).setMain up
    (((txPollActive woken callout.poll).main up).map (fun frame => ⟨frame.firstRun, none⟩))

end

section Polling

variable {callout : Callout T P R K} {up : L} {s next : RingLoop L T W P R K} {reading : Nat}
  {slept : Option Nat}

omit [DecidableEq L] [DecidableEq W] in
theorem inCall_frame (world : World L T W P R) (task : T) (calls : inCall world up task = true) :
    ∃ firstRun, world.main up = some ⟨firstRun, some task⟩ := by
  cases inside : world.main up with
  | none => simp [inCall, inside] at calls
  | some frame =>
      have called : frame.calling = some task := by simpa [inCall, inside] using calls
      exact ⟨frame.firstRun, by rw [← called]⟩

theorem wakeFired_path (txTask : K → Option T) (fired : List K) (world : World L T W P R) :
    ReflTransGen Step world (wakeFired callout txTask world fired) := by
  induction fired generalizing world with
  | nil => exact .refl
  | cons timer rest ih => exact .head (.active world (txTask timer) (some (callout.timer timer))) (ih _)

theorem main_active (world : World L T W P R) (named : Option T) (reason : Option R) :
    (txTaskActive world named reason).main = world.main := by
  cases named with
  | none => rfl
  | some task =>
      by_cases effective : (world.loop (world.task task).txLoop).txStop = false ∧
          (world.task task).txFlags.busy = false
      · simp only [txTaskActive, if_pos effective]
        cases idle : (world.task task).txFlags.idle with
        | true => simp [txTaskDrop_idle task idle]
        | false => simp [txTaskDrop_linked task idle]
      · rw [txTaskActive_refused task reason effective]

theorem main_wakeFired (txTask : K → Option T) (fired : List K) (world : World L T W P R) :
    (wakeFired callout txTask world fired).main = world.main := by
  induction fired generalizing world with
  | nil => rfl
  | cons timer rest ih => exact (ih _).trans (main_active world (txTask timer) _)

theorem main_pollActive (world : World L T W P R) (poll : T) : (txPollActive world poll).main = world.main := by
  unfold txPollActive
  dsimp only
  split
  · rfl
  · rfl

variable [DecidableEq P] [DecidableEq K]

theorem RingLoop.polls (own : (s.world.task callout.poll).txLoop = up)
    (polled : s.polling callout reading slept = some next) :
    ∃ fired called woken, s.Polls callout up reading slept fired called woken next := by
  subst own
  obtain ⟨called, passed, rest⟩ := Option.bind_eq_some_iff.mp polled
  dsimp only at rest
  split at rest
  · rename_i calls
    cases rest
    exact ⟨_, called, _, passed, calls.1, calls_fired s.timers reading slept, rfl, calls.2, rfl, rfl, rfl⟩
  · cases rest

theorem RingLoop.Polls.path {fired : List K} {called woken : World L T W P R}
    (polls : s.Polls callout up reading slept fired called woken next) :
    ReflTransGen Step s.world called ∧ ReflTransGen Step called woken ∧
      ReflTransGen Step woken next.world := by
  obtain ⟨firstRun, atTest, ok⟩ := passTest_ok s.world called up polls.passed
  obtain ⟨frame, inside⟩ := inCall_frame called callout.poll polls.calls
  refine ⟨.single (.test s.world called up firstRun atTest ok), ?_, ?_⟩
  · rw [polls.wakes]
    exact wakeFired_path s.txTask fired called
  · have still : (txPollActive woken callout.poll).main up = some ⟨frame, some callout.poll⟩ := by
      rw [main_pollActive, polls.wakes, main_wakeFired, inside]
    rw [polls.world, still]
    exact .head (.pollActive woken callout.poll)
      (.single (.returned (txPollActive woken callout.poll) up frame callout.poll still))

end Polling

section Paths

variable {s next : World L T W P R}

theorem refines_path (path : ReflTransGen Step s next) (refined : ∃ v, Refines s v) :
    ∃ v, Refines next v := by
  induction path with
  | refl => exact refined
  | tail _ step ih =>
      obtain ⟨v, h⟩ := ih
      exact refines_step _ _ step v h

theorem counted_path (path : ReflTransGen Step s next) (counted : Counted s) : Counted next := by
  induction path with
  | refl => exact counted
  | tail _ step ih => exact ih.step _ step

end Paths

section Woken

variable {callout : Callout T P R K} {task : T} {up : L}

theorem wakeFired_spares (callout : Callout T P R K) (up : L) (task : T) (txTask : K → Option T)
    (fired : List K) (world : World L T W P R)
    (quiet : ∀ timer ∈ fired, txTask timer = some task → (world.task task).txFlags.busy = true) :
    (wakeFired callout txTask world fired).task task = world.task task ∧
      Unmoved task up world (wakeFired callout txTask world fired) := by
  induction fired generalizing world with
  | nil => exact ⟨rfl, unmoved_same rfl⟩
  | cons timer rest ih =>
      have first :
          (txTaskActive world (txTask timer) (some (callout.timer timer))).task task = world.task task ∧
          Unmoved task up world (txTaskActive world (txTask timer) (some (callout.timer timer))) := by
        cases named : txTask timer with
        | none => exact ⟨rfl, unmoved_same rfl⟩
        | some other =>
            by_cases same : other = task
            · subst same
              have busy := quiet timer List.mem_cons_self named
              rw [txTaskActive_refused other _ (by simp [busy])]
              exact ⟨rfl, unmoved_same rfl⟩
            · exact ⟨txTaskActive_other world other task _ (Ne.symm same), unmoved_active other _ same⟩
      have later := ih (txTaskActive world (txTask timer) (some (callout.timer timer)))
        (fun other member own => by rw [first.1]; exact quiet other (List.mem_cons_of_mem timer member) own)
      exact ⟨later.1.trans first.1, first.2.trans later.2⟩

theorem wakeFired_stops (txTask : K → Option T) (fired : List K) (world : World L T W P R) :
    ((wakeFired callout txTask world fired).loop up).txStop = (world.loop up).txStop := by
  induction fired generalizing world with
  | nil => rfl
  | cons timer rest ih =>
      apply (ih _).trans
      dsimp only
      cases txTask timer with
      | none => rfl
      | some named => exact txTaskActive_stops named up _

theorem idle_active (world : World L T W P R) (reason : Option R)
    (idle : (world.task task).txFlags.idle = true) :
    Unmoved task up world (txTaskActive world (some task) reason) := by
  by_cases effective : (world.loop (world.task task).txLoop).txStop = false ∧
      (world.task task).txFlags.busy = false
  · simp only [txTaskActive, if_pos effective, txTaskDrop_idle task idle]
    exact unmoved_event (world.task task).txLoop (.activate task) id rfl
  · rw [txTaskActive_refused task reason effective]
    exact unmoved_same rfl

theorem wakeFired_wakes (callout : Callout T P R K) (up : L) (txTask : K → Option T) (fired : List K)
    (world : World L T W P R) (refined : ∃ v, Refines world v)
    (named : ∃ timer ∈ fired, txTask timer = some task) (idle : (world.task task).txFlags.idle = true)
    (own : (world.task task).txLoop = up) (live : (world.loop up).txStop = false) :
    ((wakeFired callout txTask world fired).task task).txFlags.busy = true ∧
      ((wakeFired callout txTask world fired).task task).txLoop = up ∧
        Unmoved task up world (wakeFired callout txTask world fired) := by
  induction fired generalizing world with
  | nil =>
      obtain ⟨timer, member, _⟩ := named
      cases member
  | cons timer rest ih =>
      have activates : wakeFired callout txTask world (timer :: rest) =
          wakeFired callout txTask (txTaskActive world (txTask timer) (some (callout.timer timer))) rest := rfl
      rw [activates]
      by_cases same : txTask timer = some task
      · rw [same]
        have busies := busies_active world refined task up (some (callout.timer timer)) own live
        have after := wakeFired_spares callout up task txTask rest
          (txTaskActive world (some task) (some (callout.timer timer))) (fun _ _ _ => busies.busy)
        rw [after.1]
        exact ⟨busies.busy, busies.loop.trans own, (idle_active world _ idle).trans after.2⟩
      · have spares := spares_active task up world (txTask timer) (some (callout.timer timer)) same
        have unmoved : Unmoved task up world
            (txTaskActive world (txTask timer) (some (callout.timer timer))) := by
          cases held : txTask timer with
          | none => exact unmoved_same rfl
          | some other => exact unmoved_active other _ (fun equal => same (held.trans (congrArg some equal)))
        have later : ∃ other ∈ rest, txTask other = some task := by
          obtain ⟨other, member, owned⟩ := named
          rcases List.mem_cons.mp member with here | there
          · exact absurd (here ▸ owned) same
          · exact ⟨other, there, owned⟩
        have woken := ih _ (spares.refined refined) later (by rw [spares.task, idle])
          (by rw [spares.task, own]) (spares.stop.trans live)
        exact ⟨woken.1, woken.2.1, unmoved.trans woken.2.2⟩

end Woken

end Libtx
