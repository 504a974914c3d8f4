import Libtx.Aiocb.Aiocb
import Libtx.Count.Holder
import Libtx.Loop.Holder

namespace Libtx

structure Core where
  fd : Int
  live : Bool
  poll : Side → Bool

variable {L T W P F B K : Type}

def TxAiocb.core (file : TxAiocb T) : Core := ⟨file.txFd, file.live, file.txFlags.poll⟩

def TxAiocb.serve (file : TxAiocb T) (side : Side) : TxAiocb T :=
  { file with
    txFlags :=
      { file.txFlags with
        poll := Function.update file.txFlags.poll side false
        able := Function.update file.txFlags.able side true }
    txFilter := Function.update file.txFilter side none }

def Poller.core (s : Poller L T W P F B) (filp : F) : Core := (s.filp filp).core

def Core.polled (core : Core) : Bool := core.live && (core.poll .input || core.poll .output)

theorem polled_iff (file : TxAiocb T) :
    (file.live = true ∧ ∃ side, file.txFlags.poll side = true) ↔ file.core.polled = true := by
  have either : (∃ side, file.txFlags.poll side = true) ↔
      (file.txFlags.poll .input || file.txFlags.poll .output) = true := by
    rw [Bool.or_eq_true]
    constructor
    · rintro ⟨side, on⟩
      cases side with
      | input => exact Or.inl on
      | output => exact Or.inr on
    · rintro (on | on)
      · exact ⟨.input, on⟩
      · exact ⟨.output, on⟩
  rw [either, Core.polled, Bool.and_eq_true]
  rfl

structure Still (s next : Poller L T W P F (Backend T P K)) : Prop where
  backend : next.backend = s.backend
  up : next.up = s.up
  holder : next.holder = s.holder

/-- Nothing that the backend keeps account of differs. -/
structure Same (s next : Poller L T W P F (Backend T P K)) : Prop extends Still s next where
  core : next.core = s.core

theorem still_refl (s : Poller L T W P F (Backend T P K)) : Still s s := ⟨rfl, rfl, rfl⟩

theorem same_refl (s : Poller L T W P F (Backend T P K)) : Same s s := ⟨still_refl s, rfl⟩

theorem Still.trans {s mid next : Poller L T W P F (Backend T P K)} (first : Still s mid)
    (second : Still mid next) : Still s next where
  backend := second.backend.trans first.backend
  up := second.up.trans first.up
  holder := second.holder.trans first.holder

theorem Same.trans {s mid next : Poller L T W P F (Backend T P K)} (first : Same s mid)
    (second : Same mid next) : Same s next :=
  ⟨first.toStill.trans second.toStill, second.core.trans first.core⟩

section Objects

variable [DecidableEq F]

theorem core_update (s next : Poller L T W P F B) (filp : F) (file : TxAiocb T)
    (written : next.filp = Function.update s.filp filp file) :
    next.core = Function.update s.core filp file.core := by
  funext other
  by_cases same : other = filp
  · simp [Poller.core, written, same]
  · simp [Poller.core, written, same]

theorem counts_core (core : F → Core) (filp : F) (value : Core) (n : Int)
    (counts : Count.Counts (fun other => (core other).polled = true) n) :
    Count.Counts (fun other => (Function.update core filp value other).polled = true)
      (n - (core filp).polled.toNat + value.polled.toNat) := by
  apply (counts.update (fun other => (core other).polled) filp value.polled).congr
  intro other
  by_cases same : other = filp
  · simp [same]
  · simp [same]

theorem still_setFilp (s : Poller L T W P F (Backend T P K)) (filp : F)
    (change : TxAiocb T → TxAiocb T) : Still s (s.setFilp filp change) := ⟨rfl, rfl, rfl⟩

theorem still_setFlags (s : Poller L T W P F (Backend T P K)) (filp : F)
    (change : AioFlags → AioFlags) : Still s (s.setFlags filp change) := ⟨rfl, rfl, rfl⟩

theorem still_setPoll (s : Poller L T W P F (Backend T P K)) (filp : F) (side : Side) (value : Bool) :
    Still s (s.setPoll filp side value) := ⟨rfl, rfl, rfl⟩

theorem same_setFilp (s : Poller L T W P F (Backend T P K)) (filp : F) (change : TxAiocb T → TxAiocb T)
    (keeps : (change (s.filp filp)).core = (s.filp filp).core) : Same s (s.setFilp filp change) where
  toStill := still_setFilp s filp change
  core := by
    rw [core_update s (s.setFilp filp change) filp _ rfl, keeps]
    exact Function.update_eq_self filp s.core

theorem same_setAble (s : Poller L T W P F (Backend T P K)) (filp : F) (side : Side) (value : Bool) :
    Same s (s.setAble filp side value) := by
  unfold Poller.setAble Poller.setFlags
  apply same_setFilp
  rfl

theorem same_setFilter (s : Poller L T W P F (Backend T P K)) (filp : F) (side : Side)
    (task : Option T) : Same s (s.setFilter filp side task) := by
  unfold Poller.setFilter
  apply same_setFilp
  rfl

theorem same_update (side : Side) (s : Poller L T W P F (Backend T P K)) (filp : F) (len : Int)
    (errno : Errno) : Same s (txUpdate side s filp len errno) := by
  unfold txUpdate
  split
  · exact same_refl s
  · split
    · exact same_setAble s filp side false
    · exact same_refl s

theorem same_cancel [DecidableEq T] (side : Side) (s : Poller L T W P F (Backend T P K)) (filp : F)
    (verify : Option T) : Same s (genericCancel side s filp verify) := by
  unfold genericCancel
  split
  · exact same_setFilter s filp side none
  · exact same_refl s

end Objects

section World

theorem still_world (s : Poller L T W P F (Backend T P K)) (world : World L T W P F)
    (own : (world.task s.backend.pollTask).txLoop = s.up)
    (holder : (world.loop s.up).txHolder = s.holder) : Still s { s with world := world } where
  backend := rfl
  up := own
  holder := by
    unfold Poller.holder Poller.up
    rw [own]
    exact holder

theorem still_unheld (s : Poller L T W P F (Backend T P K)) (world : World L T W P F)
    (unheld : Unheld s.world world) : Still s { s with world := world } :=
  still_world s world (unheld.own _) (unheld.holder _)

variable [DecidableEq L]

section

variable [DecidableEq T] [DecidableEq W]

theorem same_taskActiveBy (s : Poller L T W P F (Backend T P K)) (task : Option T) (filp : F) :
    Same s (taskActiveBy s task filp) := by
  have still := still_unheld s _ (unheld_active s.world task (some filp))
  exact ⟨⟨rfl, still.up, still.holder⟩, rfl⟩

theorem same_relink (s : Poller L T W P F (Backend T P K)) : Same s s.relink :=
  ⟨still_unheld s _ (unheld_poll s.world s.backend.pollTask), rfl⟩

def activated (world : World L T W P F) (calls : List (T × F)) : World L T W P F :=
  calls.foldl (fun world call => txTaskActive world (some call.1) (some call.2)) world

/-- Between the two states the loop was given the tasks of `added` and nothing else. -/
structure Told (s : Poller L T W P F B) (added : List (T × F)) (next : Poller L T W P F B) : Prop where
  world : next.world = activated s.world added
  calls : next.calls = s.calls ++ added

theorem told_nil (s next : Poller L T W P F B) (world : next.world = s.world)
    (calls : next.calls = s.calls) : Told s [] next :=
  ⟨world, by rw [calls, List.append_nil]⟩

theorem Told.trans {s mid next : Poller L T W P F B} {first second : List (T × F)}
    (before : Told s first mid) (after : Told mid second next) : Told s (first ++ second) next where
  world := by rw [after.world, before.world, activated, activated, activated, List.foldl_append]
  calls := by rw [after.calls, before.calls, List.append_assoc]

theorem told_taskActiveBy (s : Poller L T W P F B) (task : Option T) (filp : F) :
    Told s (task.toList.map (fun task => (task, filp))) (taskActiveBy s task filp) where
  world := by cases task <;> rfl
  calls := rfl

end

theorem holder_setHolder (s : Poller L T W P F (Backend T P K)) (holder : Option P) :
    ({ s with world := setHolder s.world s.up holder } : Poller L T W P F (Backend T P K)).holder =
      holder := by
  simp [Poller.holder, Poller.up, setHolder]

variable [DecidableEq P]

theorem holder_hold (s : Poller L T W P F (Backend T P K)) :
    s.hold.holder =
      if 0 < s.backend.epollRefcnt ∧ s.holder = none then some s.backend.address else s.holder := by
  unfold Poller.hold
  split
  · exact holder_setHolder s _
  · rfl

theorem holder_release (s : Poller L T W P F (Backend T P K)) :
    s.release.holder =
      if s.holder = some s.backend.address ∧ s.backend.epollRefcnt = 0 then none else s.holder := by
  unfold Poller.release
  split
  · exact holder_setHolder s _
  · rfl

theorem hold_frame (s : Poller L T W P F (Backend T P K)) :
    s.hold.filp = s.filp ∧ s.hold.backend = s.backend ∧ s.hold.up = s.up ∧ s.hold.calls = s.calls := by
  unfold Poller.hold
  split
  · exact ⟨rfl, rfl, rfl, rfl⟩
  · exact ⟨rfl, rfl, rfl, rfl⟩

theorem release_frame (s : Poller L T W P F (Backend T P K)) :
    s.release.filp = s.filp ∧ s.release.backend = s.backend ∧ s.release.up = s.up ∧
      s.release.calls = s.calls := by
  unfold Poller.release
  split
  · exact ⟨rfl, rfl, rfl, rfl⟩
  · exact ⟨rfl, rfl, rfl, rfl⟩

theorem held_hold {A : Type} {p q : A → Prop} {n : Int} (s : Poller L T W P F (Backend T P K))
    (held : Count.Held p n s.backend.address s.holder) (counts : Count.Counts q s.backend.epollRefcnt)
    (more : ∀ a, p a → q a) :
    Count.Held q s.hold.backend.epollRefcnt s.hold.backend.address s.hold.holder := by
  rw [(hold_frame s).2.1, holder_hold]
  exact held.grow counts more

theorem held_release {A : Type} {p q : A → Prop} {n : Int} (s : Poller L T W P F (Backend T P K))
    (held : Count.Held p n s.backend.address s.holder) (counts : Count.Counts q s.backend.epollRefcnt)
    (fewer : ∀ a, q a → p a) :
    Count.Held q s.release.backend.epollRefcnt s.release.backend.address s.release.holder := by
  rw [(release_frame s).2.1, holder_release]
  exact held.shrink counts fewer

theorem core_hold (s : Poller L T W P F (Backend T P K)) : s.hold.core = s.core := by
  funext other
  rw [Poller.core, Poller.core, (hold_frame s).1]

theorem core_release (s : Poller L T W P F (Backend T P K)) : s.release.core = s.core := by
  funext other
  rw [Poller.core, Poller.core, (release_frame s).1]

end World

end Libtx
