import Libtx.Loop.Stack

namespace Libtx

variable {C D : Type}

/-- `_tx_task_stack_callback` up to its call: the function and the data it is called with. -/
def txTaskStackCallback (s : TxTaskStack C D) : Option (Option C × Option D) :=
  if 0 < s.txTop then
    let ball := s.txBalls (s.txTop - 1)
    some (ball.txCall, ball.txData)
  else none

/-- Every pop answers a push, and the flag is only written while a pushed frame is current.
`depth` pushes are still unanswered. -/
def Nests : Nat → List (StackAction C D) → Prop
  | depth, [] => depth = 0
  | depth, .push _ _ :: actions => Nests (depth + 1) actions
  | depth, .pop0 :: actions => 0 < depth ∧ Nests (depth - 1) actions
  | depth, .pop1 _ :: actions => 0 < depth ∧ Nests (depth - 1) actions
  | depth, .write _ :: actions => 0 < depth ∧ Nests depth actions

/-- The pushes that no pop has answered, the last one first. -/
def opened (frames : List (Option C × Option D)) : List (StackAction C D) → List (Option C × Option D)
  | [] => frames
  | .push call ctx :: actions => opened ((call, ctx) :: frames) actions
  | .pop0 :: actions => opened frames.tail actions
  | .pop1 _ :: actions => opened frames.tail actions
  | .write _ :: actions => opened frames actions

def Used (s : TxTaskStack C D) (actions : List (StackAction C D)) (slot : Nat) : Prop :=
  ∃ front back mid, actions = front ++ back ∧ Runs.run TxTaskStack.act s front = some mid ∧
    slot < mid.txTop

/-- What a nested run from `s` to `last` leaves, and what it calls on its way. -/
structure Restores (s last : TxTaskStack C D) (actions : List (StackAction C D)) : Prop where
  top : last.txTop = s.txTop
  uflag : last.txUflag = s.txUflag
  balls : ∀ slot, slot < s.txTop → last.txBalls slot = s.txBalls slot
  cleared : ∀ slot, s.txTop ≤ slot → Used s actions slot →
    (last.txBalls slot).txCall = none ∧ (last.txBalls slot).txData = none
  reports : (actions.getLast? = some .pop0 ∧ last.txFlag = STACK_NONE_VALUE ∧ last.txCode = 0) ∨
    ∃ code, actions.getLast? = some (.pop1 code) ∧ last.txFlag = STACK_CODE_VALUE ∧ last.txCode = code
  called : ∀ front back mid, actions = front ++ back → Runs.run TxTaskStack.act s front = some mid →
    txTaskStackCallback mid = (opened [] front).head?.or (txTaskStackCallback s)

def framesBelow (balls : Nat → TxTaskBall C D) : Nat → Int → List (TxTaskBall C D)
  | 0, _ => []
  | top + 1, uflag => { balls top with txUflag := uflag } :: framesBelow balls top (balls top).txUflag

def flagBelow (balls : Nat → TxTaskBall C D) : Nat → Int → Int
  | 0, uflag => uflag
  | top + 1, _ => flagBelow balls top (balls top).txUflag

theorem framesBelow_length (balls : Nat → TxTaskBall C D) (top : Nat) (uflag : Int) :
    (framesBelow balls top uflag).length = top := by
  induction top generalizing uflag with
  | zero => rfl
  | succ top ih => exact congrArg (· + 1) (ih (balls top).txUflag)

theorem framesBelow_flag (balls : Nat → TxTaskBall C D) (top : Nat) (uflag : Int) :
    flagOf (flagBelow balls top uflag) (framesBelow balls top uflag) = uflag := by
  cases top with
  | zero => rfl
  | succ top => rfl

theorem framesBelow_saved (balls : Nat → TxTaskBall C D) (top : Nat) (uflag : Int) :
    Saved balls (flagBelow balls top uflag) (framesBelow balls top uflag) := by
  induction top generalizing uflag with
  | zero => trivial
  | succ top ih =>
      refine ⟨?_, ih (balls top).txUflag⟩
      rw [framesBelow_length, flagBelow, framesBelow_flag]

theorem stacked_any (s : TxTaskStack C D) :
    Stacked s ⟨flagBelow s.txBalls s.txTop s.txUflag, framesBelow s.txBalls s.txTop s.txUflag⟩ :=
  ⟨(framesBelow_length s.txBalls s.txTop s.txUflag).symm,
    (framesBelow_flag s.txBalls s.txTop s.txUflag).symm, framesBelow_saved s.txBalls s.txTop s.txUflag⟩

theorem saved_agree (balls others : Nat → TxTaskBall C D) (below : Int) (frames : List (TxTaskBall C D))
    (first : Saved balls below frames) (second : Saved others below frames) (slot : Nat)
    (lower : slot < frames.length) : others slot = balls slot := by
  induction frames with
  | nil => cases lower
  | cons frame rest ih =>
      by_cases last : slot = rest.length
      · rw [last, first.1, second.1]
      · apply ih first.2 second.2
        rw [List.length_cons] at lower
        omega

def TxTaskBall.called (ball : TxTaskBall C D) : Option C × Option D := (ball.txCall, ball.txData)

theorem Stacked.callback {s : TxTaskStack C D} {f : TaskFrames C D} (stacked : Stacked s f) :
    txTaskStackCallback s = f.frames.head?.map TxTaskBall.called := by
  obtain ⟨below, frames⟩ := f
  have top : s.txTop = frames.length := stacked.top
  cases frames with
  | nil => simp [txTaskStackCallback, top]
  | cons frame rest =>
      have slot := stacked.saved.1
      simp [txTaskStackCallback, top, slot, TxTaskBall.called]

theorem frames_nested (f after : TaskFrames C D) (inner base : List (TxTaskBall C D))
    (front back : List (StackAction C D)) (split : f.frames = inner ++ base) (filled : base ≠ [])
    (nested : Nests inner.length (front ++ back)) (ended : Runs.run TaskFrames.act f front = some after) :
    ∃ left, after = ⟨f.below, left ++ base⟩ ∧ Nests left.length back ∧
      left.map TxTaskBall.called = opened (inner.map TxTaskBall.called) front := by
  induction front generalizing f inner with
  | nil =>
      injection ended with same
      subst same
      exact ⟨inner, by rw [← split], nested, rfl⟩
  | cons action front ih =>
      obtain ⟨next, step, rest⟩ := (Runs.run_cons f after action front).mp ended
      have popped (some_inner : 0 < inner.length) (pops : f.pop = some next)
          (deeper : Nests (inner.length - 1) (front ++ back)) :
          ∃ left, after = ⟨f.below, left ++ base⟩ ∧ Nests left.length back ∧
            left.map TxTaskBall.called = opened (inner.map TxTaskBall.called).tail front := by
        cases inner with
        | nil => cases some_inner
        | cons frame inner =>
            have some_left := List.append_ne_nil_of_right_ne_nil inner filled
            obtain ⟨under, lower, more⟩ := List.exists_cons_of_ne_nil some_left
            have shorter : next = { f with frames := inner ++ base } := by
              rw [TaskFrames.pop, split, List.cons_append, more] at pops
              rw [more]
              exact (Option.some.inj pops).symm
            subst shorter
            exact ih { f with frames := inner ++ base } inner rfl deeper rest
      cases action with
      | push call ctx =>
          injection step with same
          subst same
          have longer : ({ f with frames := ⟨0, ctx, call⟩ :: f.frames } : TaskFrames C D).frames =
              (⟨0, ctx, call⟩ :: inner) ++ base := by
            rw [split, List.cons_append]
          exact ih { f with frames := ⟨0, ctx, call⟩ :: f.frames } (⟨0, ctx, call⟩ :: inner) longer
            nested rest
      | pop0 => exact popped nested.1 step nested.2
      | pop1 code => exact popped nested.1 step nested.2
      | write uflag =>
          cases inner with
          | nil => cases nested.1
          | cons frame inner =>
              injection step with same
              subst same
              have written : f.write uflag =
                  { f with frames := { frame with txUflag := uflag } :: (inner ++ base) } := by
                rw [TaskFrames.write, split, List.cons_append]
              rw [written] at rest
              exact ih { f with frames := { frame with txUflag := uflag } :: (inner ++ base) }
                ({ frame with txUflag := uflag } :: inner) rfl nested.2 rest

section Slots

variable {s next last : TxTaskStack C D}

theorem act_outside (action : StackAction C D) (step : s.act action = some next) (slot : Nat)
    (before : s.txTop ≤ slot) (after : next.txTop ≤ slot) : next.txBalls slot = s.txBalls slot := by
  have pop (flag code : Int) (popped : txTaskStackPop flag code s = some next) :
      next.txBalls slot = s.txBalls slot := by
    have left := pop_spec flag code s next popped
    have many := left.many
    rw [left.balls]
    exact setBall_other _ (s.txTop - 1) slot _ (by omega)
  cases action with
  | push call ctx =>
      have left := push_spec s next call ctx step
      rw [left.top] at after
      rw [left.balls]
      exact Function.update_of_ne (by omega) _ _
  | pop0 => exact pop _ _ step
  | pop1 code => exact pop _ code step
  | write uflag =>
      injection step with same
      subst same
      rfl

theorem act_clears (action : StackAction C D) (step : s.act action = some next) (slot : Nat)
    (before : slot < s.txTop) (after : next.txTop ≤ slot) :
    (next.txBalls slot).txCall = none ∧ (next.txBalls slot).txData = none := by
  have pop (flag code : Int) (popped : txTaskStackPop flag code s = some next) :
      (next.txBalls slot).txCall = none ∧ (next.txBalls slot).txData = none := by
    have left := pop_spec flag code s next popped
    rw [left.top] at after
    have here : slot = s.txTop - 1 := by omega
    rw [left.balls, here]
    simp [TxTaskStack.clearBall, TxTaskStack.setBall]
  cases action with
  | push call ctx =>
      have left := push_spec s next call ctx step
      rw [left.top] at after
      omega
  | pop0 => exact pop _ _ step
  | pop1 code => exact pop _ code step
  | write uflag =>
      injection step with same
      subst same
      have lower : s.txTop ≤ slot := after
      omega

theorem used_cons (action : StackAction C D) (actions : List (StackAction C D)) (slot : Nat)
    (step : s.act action = some next) :
    Used s (action :: actions) slot ↔ slot < s.txTop ∨ Used next actions slot := by
  constructor
  · intro used
    obtain ⟨front, back, mid, split, reached, lower⟩ := used
    cases front with
    | nil =>
        injection reached with same
        exact Or.inl (same ▸ lower)
    | cons first front =>
        injection split with same split
        subst same
        obtain ⟨other, stepped, rest⟩ := (Runs.run_cons s mid action front).mp reached
        rw [step] at stepped
        injection stepped with same
        subst same
        exact Or.inr ⟨front, back, mid, split, rest, lower⟩
  · intro either
    rcases either with lower | ⟨front, back, mid, split, reached, lower⟩
    · exact ⟨[], action :: actions, s, rfl, rfl, lower⟩
    · refine ⟨action :: front, back, mid, by rw [split, List.cons_append], ?_, lower⟩
      exact (Runs.run_cons s mid action front).mpr ⟨next, step, reached⟩

theorem used_now (actions : List (StackAction C D)) (slot : Nat) (lower : slot < s.txTop) :
    Used s actions slot := ⟨[], actions, s, rfl, rfl, lower⟩

theorem unused_kept (actions : List (StackAction C D)) (slot : Nat)
    (ended : Runs.run TxTaskStack.act s actions = some last) (unused : ¬ Used s actions slot) :
    last.txBalls slot = s.txBalls slot := by
  induction actions generalizing s with
  | nil =>
      injection ended with same
      rw [same]
  | cons action actions ih =>
      obtain ⟨next, step, rest⟩ := (Runs.run_cons s last action actions).mp ended
      rw [used_cons action actions slot step, not_or] at unused
      have after : next.txTop ≤ slot := by
        by_contra lower
        exact unused.2 (used_now actions slot (Nat.lt_of_not_le lower))
      calc last.txBalls slot
          = next.txBalls slot := ih rest unused.2
        _ = s.txBalls slot := act_outside action step slot (Nat.le_of_not_lt unused.1) after

theorem used_cleared (actions : List (StackAction C D)) (slot : Nat)
    (ended : Runs.run TxTaskStack.act s actions = some last) (used : Used s actions slot)
    (above : last.txTop ≤ slot) :
    (last.txBalls slot).txCall = none ∧ (last.txBalls slot).txData = none := by
  induction actions generalizing s with
  | nil =>
      injection ended with same
      subst same
      obtain ⟨front, back, mid, split, reached, lower⟩ := used
      obtain ⟨rfl, rfl⟩ := List.append_eq_nil_iff.mp split.symm
      injection reached with same
      subst same
      omega
  | cons action actions ih =>
      obtain ⟨next, step, rest⟩ := (Runs.run_cons s last action actions).mp ended
      by_cases later : Used next actions slot
      · exact ih rest later
      · have before : slot < s.txTop :=
          ((used_cons action actions slot step).mp used).resolve_right later
        have after : next.txTop ≤ slot := by
          by_contra lower
          exact later (used_now actions slot (Nat.lt_of_not_le lower))
        rw [unused_kept actions slot rest later]
        exact act_clears action step slot before after

end Slots

theorem nests_last (depth : Nat) (front : List (StackAction C D)) (action : StackAction C D)
    (nested : Nests depth (front ++ [action])) : action = .pop0 ∨ ∃ code, action = .pop1 code := by
  induction front generalizing depth with
  | nil =>
      cases action with
      | push call ctx => cases nested
      | pop0 => exact Or.inl rfl
      | pop1 code => exact Or.inr ⟨code, rfl⟩
      | write uflag =>
          have deep := nested.1
          have flat : depth = 0 := nested.2
          omega
  | cons first front ih =>
      cases first with
      | push call ctx => exact ih (depth + 1) nested
      | pop0 => exact ih (depth - 1) nested.2
      | pop1 code => exact ih (depth - 1) nested.2
      | write uflag => exact ih depth nested.2

/-- However deep a nested use of the stack goes, the frame that began it finds itself and the
frames below it unchanged. -/
theorem stack_restores (s last : TxTaskStack C D) (actions : List (StackAction C D))
    (filled : 1 ≤ s.txTop) (used : actions ≠ []) (nested : Nests 0 actions)
    (ended : Runs.run TxTaskStack.act s actions = some last) : Restores s last actions := by
  have stacked := stacked_any s
  generalize below : flagBelow s.txBalls s.txTop s.txUflag = flag at stacked
  generalize frames : framesBelow s.txBalls s.txTop s.txUflag = base at stacked
  have top : s.txTop = base.length := stacked.top
  have some_frame : base ≠ [] := by
    intro none
    rw [top, none] at filled
    cases filled
  -- the memory at any point of the run, and the frames it stands for
  have part (front back : List (StackAction C D)) (mid : TxTaskStack C D) (split : actions = front ++ back)
      (reached : Runs.run TxTaskStack.act s front = some mid) :
      ∃ left, Stacked mid ⟨flag, left ++ base⟩ ∧ Nests left.length back ∧
        left.map TxTaskBall.called = opened [] front := by
    obtain ⟨after, run, held⟩ := stacked_run s mid ⟨flag, base⟩ stacked front reached
    obtain ⟨left, same, open_left, calls⟩ :=
      frames_nested ⟨flag, base⟩ after [] base front back rfl some_frame (split ▸ nested) run
    exact ⟨left, same ▸ held, open_left, calls⟩
  obtain ⟨left, held, flat, _⟩ := part actions [] last (List.append_nil actions).symm ended
  have closed : left = [] := List.eq_nil_of_length_eq_zero flat
  subst closed
  have same_top : last.txTop = s.txTop := held.top.trans top.symm
  constructor
  · exact same_top
  · exact held.uflag.trans stacked.uflag.symm
  · intro slot lower
    exact saved_agree s.txBalls last.txBalls flag base stacked.saved held.saved slot (top ▸ lower)
  · intro slot above occupied
    exact used_cleared actions slot ended occupied (same_top ▸ above)
  · obtain ⟨front, action, split⟩ := (List.eq_nil_or_concat' actions).resolve_left used
    subst split
    obtain ⟨mid, _, final⟩ := (Runs.run_append s last front [action]).mp ended
    obtain ⟨next, step, done⟩ := (Runs.run_cons mid last action []).mp final
    injection done with same
    subst same
    rw [List.getLast?_concat]
    rcases nests_last 0 front action nested with rfl | ⟨code, rfl⟩
    · have popped := pop_spec _ _ mid next step
      exact Or.inl ⟨rfl, popped.flag, popped.code⟩
    · have popped := pop_spec _ _ mid next step
      exact Or.inr ⟨code, rfl, popped.flag, popped.code⟩
  · intro front back mid split reached
    obtain ⟨inner, holds, _, calls⟩ := part front back mid split reached
    rw [holds.callback, stacked.callback, ← calls]
    cases inner with
    | nil => simp
    | cons frame inner => rfl

def nestedPushes : List (StackAction Unit Unit) :=
  [.push (some ()) none, .write 7, .push none (some ()), .write 9, .pop1 4, .pop0]

def oneFrame : TxTaskStack Unit Unit := ⟨1, STACK_WAIT_VALUE, 0, 5, fun _ => ⟨0, none, some ()⟩⟩

def oneFrameAfter : TxTaskStack Unit Unit :=
  (Runs.run TxTaskStack.act oneFrame nestedPushes).getD oneFrame

theorem stack_restores_one : Restores oneFrame oneFrameAfter nestedPushes ∧ oneFrameAfter.txUflag = 5 :=
  ⟨stack_restores oneFrame oneFrameAfter nestedPushes (Nat.le_refl 1) (by simp [nestedPushes])
    (by simp [nestedPushes, Nests]) rfl, rfl⟩

end Libtx
