import Libtx.Aiocb.Core
import Libtx.Loop.Membership

namespace Libtx

variable {L T W P F B K : Type}

def TxAiocb.arm (file : TxAiocb T) (side : Side) : TxAiocb T :=
  { file with txFlags := { file.txFlags with poll := Function.update file.txFlags.poll side true } }

def TxAiocb.setAble (file : TxAiocb T) (able : Side → Bool) : TxAiocb T :=
  { file with txFlags := { file.txFlags with able := able } }

def TxAiocb.await (file : TxAiocb T) (side : Side) (task : Option T) : TxAiocb T :=
  { file.arm side with txFilter := Function.update file.txFilter side task }

theorem arm_again (file : TxAiocb T) (side : Side) (on : file.txFlags.poll side = true) :
    file.arm side = file := by
  rw [TxAiocb.arm, ← on, Function.update_eq_self]

def TxAiocb.watched (file : TxAiocb T) : Prop :=
  file.live = true → ∀ side, file.txFilter side ≠ none → file.txFlags.poll side = true

theorem watched_arm (file : TxAiocb T) (side : Side) (watched : file.watched) : (file.arm side).watched := by
  intro live other waiter
  have before := watched live other waiter
  by_cases same : other = side
  · simp [TxAiocb.arm, same]
  · simp [TxAiocb.arm, same, before]

theorem watched_await (file : TxAiocb T) (side : Side) (task : Option T) (watched : file.watched) :
    (file.await side task).watched := by
  intro live other waiter
  by_cases same : other = side
  · simp [TxAiocb.await, TxAiocb.arm, same]
  · have slot : file.txFilter other ≠ none := by simpa [TxAiocb.await, same] using waiter
    simpa [TxAiocb.await, TxAiocb.arm, same] using watched live other slot

theorem await_slot (file : TxAiocb T) (side other : Side) (task : Option T) (waiter : T) (before : Option T)
    (one : before = none ∨ before = task) (here : other = side → before = some waiter)
    (elsewhere : other ≠ side → file.txFilter other = some waiter) :
    (file.await side task).txFilter other = some waiter := by
  by_cases same : other = side
  · have slot := here same
    rcases one with empty | again
    · rw [empty] at slot
      cases slot
    · rw [same, ← slot, again]
      exact Function.update_self side task file.txFilter
  · exact (Function.update_of_ne same task file.txFilter).trans (elsewhere same)

theorem watched_empty (file : TxAiocb T) (empty : ∀ side, file.txFilter side = none) : file.watched :=
  fun _ side waiter => absurd (empty side) waiter

section Operations

variable [DecidableEq L] [DecidableEq T] [DecidableEq W] [DecidableEq F]

theorem active_arms (ops : TxPollOp (Poller L T W P F B) F) (side : Side) (s : Poller L T W P F B) (filp : F)
    (task : Option T) (unable : (s.filp filp).txFlags.able side = false)
    (off : (s.filp filp).txFlags.poll side = false) :
    genericActive ops side s filp task = ops.txPoll side (s.setFilter filp side task) filp := by
  simp [genericActive, unable, off]

theorem active_rule (ops : TxPollOp (Poller L T W P F (Backend T P K)) F) (side : Side)
    (s : Poller L T W P F (Backend T P K)) (filp : F) (task : Option T)
    (next : Poller L T W P F (Backend T P K)) (keeps : Poller L T W P F (Backend T P K) → Prop)
    (stable : ∀ mid, Same s mid → keeps mid)
    (arms : ∀ mid, Same s mid → (s.filp filp).txFlags.able side = false →
      ops.txPoll side mid filp = some next →
        keeps next ∧ next.filp = Function.update mid.filp filp ((mid.filp filp).arm side))
    (result : genericActive ops side s filp task = some next) :
    keeps next ∧ (next.filp = s.filp ∨ (s.filp filp).txFlags.able side = false ∧
      next.filp = Function.update s.filp filp ((s.filp filp).await side task)) := by
  cases able : (s.filp filp).txFlags.able side with
  | true =>
      rw [genericActive, able, if_pos rfl] at result
      injection result with same
      subst same
      exact ⟨stable _ (same_taskActiveBy s task filp), Or.inl rfl⟩
  | false =>
      have waiting := same_setFilter s filp side task
      cases on : (s.filp filp).txFlags.poll side with
      | true =>
          simp only [genericActive, able, on, if_true, Bool.false_eq_true, if_false] at result
          injection result with same
          subst same
          refine ⟨stable _ waiting, Or.inr ⟨rfl, ?_⟩⟩
          rw [TxAiocb.await, arm_again (s.filp filp) side on]
          rfl
      | false =>
          rw [active_arms ops side s filp task able on] at result
          obtain ⟨kept, written⟩ := arms _ waiting able result
          refine ⟨kept, Or.inr ⟨rfl, ?_⟩⟩
          rw [written]
          simp [Poller.setFilter, Poller.setFilp, TxAiocb.await, TxAiocb.arm]

theorem connect_rule (ops : TxPollOp (Poller L T W P F (Backend T P K)) F)
    (s : Poller L T W P F (Backend T P K)) (filp : F) (error : Option Errno) (task : Option T)
    (next : Poller L T W P F (Backend T P K)) (keeps : Poller L T W P F (Backend T P K) → Prop)
    (stable : ∀ mid, Same s mid → keeps mid)
    (arms : ∀ mid, Same s mid → error = some .einprogress → ops.txPoll .output mid filp = some next →
      keeps next ∧ next.filp = Function.update mid.filp filp ((mid.filp filp).arm .output))
    (result : txAiocbConnect ops s filp error task = some next) :
    keeps next ∧ ∃ able,
      (error = some .einprogress ∧ next.filp =
        Function.update s.filp filp (((s.filp filp).setAble able).await .output task)) ∨
      next.filp = Function.update s.filp filp ((s.filp filp).setAble able) := by
  unfold txAiocbConnect at result
  split at result
  · rename_i pending
    have cleared := same_setFilp s filp
      (fun file => { file with txFlags := { file.txFlags with able := fun _ => false } }) rfl
    have active := active_rule ops .output _ filp task next keeps
      (fun mid same => stable mid (cleared.trans same))
      (fun mid same _ => arms mid (cleared.trans same) pending) result
    obtain ⟨kept, ready | ⟨_, written⟩⟩ := active
    · exact ⟨kept, _, Or.inr ready⟩
    · refine ⟨kept, fun _ => false, Or.inl ⟨pending, ?_⟩⟩
      rw [written]
      simp [Poller.setFilp, TxAiocb.setAble]
  · injection result with same
    subst same
    have written := same_setAble s filp .output true
    cases error with
    | none => exact ⟨stable _ (written.trans (same_taskActiveBy _ task filp)), _, Or.inr rfl⟩
    | some errno =>
        have read := same_setAble (s.setAble filp .output true) filp .input true
        refine ⟨stable _ ((written.trans read).trans (same_taskActiveBy _ task filp)),
          Function.update (Function.update (s.filp filp).txFlags.able .output true) .input true, Or.inr ?_⟩
        simp [taskActiveBy, Poller.setAble, Poller.setFlags, Poller.setFilp, TxAiocb.setAble]

theorem active_keeps (ops : TxPollOp (Poller L T W P F (Backend T P K)) F) (side : Side)
    (s : Poller L T W P F (Backend T P K)) (filp : F) (task : Option T)
    (next : Poller L T W P F (Backend T P K)) (keeps : Poller L T W P F (Backend T P K) → Prop)
    (stable : ∀ mid, Same s mid → keeps mid)
    (arms : ∀ mid, Same s mid → ops.txPoll side mid filp = some next → keeps next)
    (result : genericActive ops side s filp task = some next) : keeps next := by
  have waiting := same_setFilter s filp side task
  unfold genericActive at result
  dsimp only at result
  split at result
  · injection result with same
    exact same ▸ stable _ (same_taskActiveBy s task filp)
  · split at result
    · injection result with same
      exact same ▸ stable _ waiting
    · cases side with
      | input => exact arms _ waiting result
      | output => exact arms _ waiting result

theorem connect_keeps (ops : TxPollOp (Poller L T W P F (Backend T P K)) F)
    (s : Poller L T W P F (Backend T P K)) (filp : F) (error : Option Errno) (task : Option T)
    (next : Poller L T W P F (Backend T P K)) (keeps : Poller L T W P F (Backend T P K) → Prop)
    (stable : ∀ mid, Same s mid → keeps mid)
    (arms : ∀ mid, Same s mid → ops.txPoll .output mid filp = some next → keeps next)
    (result : txAiocbConnect ops s filp error task = some next) : keeps next := by
  unfold txAiocbConnect at result
  split at result
  · have cleared := same_setFilp s filp
      (fun file => { file with txFlags := { file.txFlags with able := fun _ => false } }) rfl
    exact active_keeps ops .output _ filp task next keeps (fun mid same => stable mid (cleared.trans same))
      (fun mid same => arms mid (cleared.trans same)) result
  · injection result with same
    rw [← same]
    apply stable
    apply Same.trans _ (same_taskActiveBy _ task filp)
    split
    · exact same_setAble s filp .output true
    · exact (same_setAble s filp .output true).trans (same_setAble _ filp .input true)

end Operations

section Use

structure Fresh (kernel : K) (s : Poller L T W P F (Backend T P K)) : Prop where
  unattached : ∀ filp, (s.filp filp).live = false
  kernel : s.backend.kernel = kernel
  refcnt : s.backend.epollRefcnt = 0
  holder : s.holder = none

def lonePoller (kernel : K) : Poller Unit Bool Unit Unit Unit (Backend Bool Unit K) where
  world := pairStart
  filp := fun _ => TxAiocb.fresh (-1)
  backend := ⟨(), 0, true, kernel⟩
  calls := []

theorem fresh_lone (kernel : K) : Fresh kernel (lonePoller kernel) := ⟨fun _ => rfl, rfl, rfl, rfl⟩

variable [DecidableEq L] [DecidableEq T] [DecidableEq W]

/-- One `tx_aiocb_fini` for each `tx_aiocb_init`, batches that the system can report, and no
other poller that writes the holder. -/
def Proper {E : Type} (reported : Poller L T W P F (Backend T P K) → List E → Prop)
    (s : Poller L T W P F (Backend T P K)) : PollAction L T W P F E → Prop
  | .init filp _ _ | .listen filp _ _ => (s.filp filp).live = false
  | .fini filp _ => (s.filp filp).txFd = -1 ∨ (s.filp filp).live = true
  | .polling events => reported s events
  | .loop next => Step s.world next ∧ (next.loop s.up).txHolder = s.holder
  | _ => True

/-- One waiter for a direction at a time, as the warnings of the generic operations ask. -/
def OneWaiter {E : Type} (s : Poller L T W P F B) : PollAction L T W P F E → Prop
  | .active side filp task _ =>
      (s.filp filp).txFilter side = none ∨
        (s.filp filp).txFlags.able side = false ∧ (s.filp filp).txFilter side = task
  | .connect filp error task _ =>
      error = some .einprogress →
        (s.filp filp).txFilter .output = none ∨ (s.filp filp).txFilter .output = task
  | _ => True

section Act

variable {E : Type} (ops : Option Errno → TxPollOp (Poller L T W P F B) F)
    (polling : Poller L T W P F B → List E → Poller L T W P F B) (s : Poller L T W P F B) [DecidableEq F]

theorem act_poll (side : Side) (filp : F) (answer : Option Errno) :
    s.act ops polling (.poll side filp answer) = (ops answer).txPoll side s filp := by
  cases side <;> rfl

theorem act_active (side : Side) (filp : F) (task : Option T) (answer : Option Errno) :
    s.act ops polling (.active side filp task answer) = genericActive (ops answer) side s filp task := by
  cases side <;> rfl

theorem act_cancel (side : Side) (filp : F) (verify : Option T) :
    s.act ops polling (.cancel side filp verify) = some (genericCancel side s filp verify) := by
  cases side <;> rfl

theorem act_update (side : Side) (filp : F) (len : Int) (errno : Errno) :
    s.act ops polling (.update side filp len errno) = some (txUpdate side s filp len errno) := by
  cases side <;> rfl

end Act

end Use

end Libtx
