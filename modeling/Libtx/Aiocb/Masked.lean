import Libtx.Aiocb.Core
import Libtx.Aiocb.Epoll

namespace Libtx

variable {F : Type}

section Calls

variable (kernel : Epoll F) (fd : Int) (event : EpollEvent F)

theorem epollCtl_add (free : kernel fd = none) :
    epollCtl none kernel .add fd event = .ok (Function.update kernel fd (some ⟨event, false⟩)) := by
  simp [epollCtl, free]

theorem epollCtl_mod (registration : Registration F) (found : kernel fd = some registration) :
    epollCtl none kernel .mod fd event = .ok (Function.update kernel fd (some ⟨event, false⟩)) := by
  simp [epollCtl, found]

theorem epollCtl_del (registration : Registration F) (found : kernel fd = some registration) :
    epollCtl none kernel .del fd event = .ok (Function.update kernel fd none) := by
  simp [epollCtl, found]

end Calls

/-- Every attached object is registered under its descriptor and armed for the directions
of its flags, unless it is `waiting` to be served after a report. -/
structure Masked (waiting : F → Prop) (core : F → Core) (kernel : Epoll F) : Prop where
  armed : ∀ filp, (core filp).live = true → ∃ registration,
    kernel (core filp).fd = some registration ∧ registration.event.ptr = filp ∧
      ∀ side, registration.armed side = true ↔ (core filp).poll side = true ∧ ¬ waiting filp
  oneshot : ∀ fd registration side, kernel fd = some registration →
    registration.armed side = true → registration.event.oneshot = true
  registered : ∀ fd registration, kernel fd = some registration →
    (core registration.event.ptr).live = true ∧ (core registration.event.ptr).fd = fd

section Rules

variable {waiting : F → Prop} {core : F → Core} {kernel : Epoll F}

theorem Masked.congr (masked : Masked waiting core kernel) (other : F → Prop)
    (same : ∀ filp, other filp ↔ waiting filp) : Masked other core kernel := by
  have equal : other = waiting := funext (fun filp => propext (same filp))
  exact equal ▸ masked

theorem Masked.one_fd (masked : Masked waiting core kernel) (left right : F)
    (first : (core left).live = true) (second : (core right).live = true)
    (same : (core left).fd = (core right).fd) : left = right := by
  obtain ⟨registration, found, ptr, _⟩ := masked.armed left first
  obtain ⟨again, refound, reptr, _⟩ := masked.armed right second
  rw [same, refound] at found
  injection found with equal
  rw [← ptr, ← reptr, equal]

theorem live_apart (core : F → Core) (filp other : F) (dead : (core filp).live = false)
    (lives : (core other).live = true) : other ≠ filp := by
  intro same
  rw [same, dead] at lives
  cases lives

theorem ptr_nodup (core : F → Core) (reports : List (EpollReport F))
    (places : ∀ report ∈ reports, (core report.ptr).fd = report.fd)
    (once : (reports.map EpollReport.fd).Nodup) : (reports.map EpollReport.ptr).Nodup := by
  have same : reports.map EpollReport.fd =
      (reports.map EpollReport.ptr).map (fun filp => (core filp).fd) := by
    rw [List.map_map]
    exact List.map_congr_left (fun report member => (places report member).symm)
  rw [same] at once
  exact once.of_map _

theorem Masked.reported (masked : Masked (fun _ => False) core kernel) (reports : List (EpollReport F))
    (known : ∀ report ∈ reports, ∃ registration,
      kernel report.fd = some registration ∧ registration.event.ptr = report.ptr)
    (filp : F) (live : (core filp).live = true) :
    (core filp).fd ∈ reports.map EpollReport.fd ↔ filp ∈ reports.map EpollReport.ptr := by
  obtain ⟨registration, found, ptr, _⟩ := masked.armed filp live
  rw [List.mem_map, List.mem_map]
  constructor
  · rintro ⟨report, member, same⟩
    obtain ⟨again, refound, reptr⟩ := known report member
    rw [same, found] at refound
    injection refound with equal
    exact ⟨report, member, by rw [← reptr, ← equal, ptr]⟩
  · rintro ⟨report, member, same⟩
    obtain ⟨again, refound, reptr⟩ := known report member
    have place := (masked.registered report.fd again refound).2
    rw [reptr, same] at place
    exact ⟨report, member, place.symm⟩

variable [DecidableEq F]

theorem Masked.elsewhere (masked : Masked waiting core kernel) (filp : F) (value : Core) (fd : Int)
    (registration : Registration F) (found : kernel fd = some registration) (apart : fd ≠ (core filp).fd) :
    (Function.update core filp value registration.event.ptr).live = true ∧
      (Function.update core filp value registration.event.ptr).fd = fd := by
  obtain ⟨lives, place⟩ := masked.registered fd registration found
  have other : registration.event.ptr ≠ filp := by
    intro equal
    exact apart (place ▸ equal ▸ rfl)
  rw [Function.update_of_ne other]
  exact ⟨lives, place⟩

theorem Masked.mod (masked : Masked waiting core kernel) (filp : F) (live : (core filp).live = true)
    (poll : Side → Bool) :
    Masked (fun other => other ≠ filp ∧ waiting other)
      (Function.update core filp { core filp with poll := poll })
      (Function.update kernel (core filp).fd (some ⟨⟨poll, true, filp⟩, false⟩)) where
  armed other lives := by
    by_cases same : other = filp
    · subst same
      refine ⟨⟨⟨poll, true, other⟩, false⟩, by simp, rfl, ?_⟩
      simp [Registration.armed]
    · rw [Function.update_of_ne same] at lives ⊢
      obtain ⟨registration, found, ptr, exact⟩ := masked.armed other lives
      have apart : (core other).fd ≠ (core filp).fd :=
        fun equal => same (masked.one_fd other filp lives live equal)
      refine ⟨registration, by rw [Function.update_of_ne apart, found], ptr, ?_⟩
      simpa [same] using exact
  oneshot fd registration side found := by
    by_cases same : fd = (core filp).fd
    · rw [same, Function.update_self] at found
      injection found with equal
      intro _
      rw [← equal]
    · rw [Function.update_of_ne same] at found
      exact masked.oneshot fd registration side found
  registered fd registration found := by
    by_cases same : fd = (core filp).fd
    · rw [same, Function.update_self] at found
      injection found with equal
      subst equal
      simpa [same] using live
    · rw [Function.update_of_ne same] at found
      exact masked.elsewhere filp _ fd registration found same

theorem Masked.quiet (masked : Masked waiting core kernel) (filp : F) (served : waiting filp)
    (poll : Side → Bool) (none : ∀ side, poll side = false) :
    Masked (fun other => other ≠ filp ∧ waiting other)
      (Function.update core filp { core filp with poll := poll }) kernel where
  armed other lives := by
    by_cases same : other = filp
    · subst same
      rw [Function.update_self] at lives ⊢
      obtain ⟨registration, found, ptr, exact⟩ := masked.armed other lives
      refine ⟨registration, found, ptr, ?_⟩
      intro side
      rw [exact side]
      simp [none side, served]
    · rw [Function.update_of_ne same] at lives ⊢
      obtain ⟨registration, found, ptr, exact⟩ := masked.armed other lives
      refine ⟨registration, found, ptr, ?_⟩
      simpa [same] using exact
  oneshot := masked.oneshot
  registered fd registration found := by
    by_cases same : registration.event.ptr = filp
    · rw [same, Function.update_self]
      exact same ▸ masked.registered fd registration found
    · rw [Function.update_of_ne same]
      exact masked.registered fd registration found

theorem Masked.outside (masked : Masked waiting core kernel) (filp : F)
    (dead : (core filp).live = false) (value : Core) (still : value.live = false) :
    Masked waiting (Function.update core filp value) kernel where
  armed other lives := by
    have apart : other ≠ filp := live_apart _ filp other (by simp [still]) lives
    rw [Function.update_of_ne apart] at lives ⊢
    exact masked.armed other lives
  oneshot := masked.oneshot
  registered fd registration found := by
    obtain ⟨lives, place⟩ := masked.registered fd registration found
    rw [Function.update_of_ne (live_apart core filp _ dead lives)]
    exact ⟨lives, place⟩

theorem Masked.add (masked : Masked waiting core kernel) (filp : F) (dead : (core filp).live = false)
    (fd : Int) (free : kernel fd = none) (poll : Side → Bool) (none : ∀ side, poll side = false) :
    Masked waiting (Function.update core filp ⟨fd, true, poll⟩)
      (Function.update kernel fd (some ⟨⟨fun _ => false, false, filp⟩, false⟩)) where
  armed other lives := by
    by_cases same : other = filp
    · subst same
      refine ⟨⟨⟨fun _ => false, false, other⟩, false⟩, by simp, rfl, ?_⟩
      simp [Registration.armed, none]
    · rw [Function.update_of_ne same] at lives ⊢
      obtain ⟨registration, found, ptr, exact⟩ := masked.armed other lives
      have apart : (core other).fd ≠ fd := by
        intro equal
        rw [equal, free] at found
        exact absurd found (by simp)
      exact ⟨registration, by rw [Function.update_of_ne apart, found], ptr, exact⟩
  oneshot place registration side found := by
    by_cases same : place = fd
    · rw [same, Function.update_self] at found
      injection found with equal
      subst equal
      simp [Registration.armed]
    · rw [Function.update_of_ne same] at found
      exact masked.oneshot place registration side found
  registered place registration found := by
    by_cases same : place = fd
    · rw [same, Function.update_self] at found
      injection found with equal
      subst equal
      simp [same]
    · rw [Function.update_of_ne same] at found
      obtain ⟨lives, stands⟩ := masked.registered place registration found
      rw [Function.update_of_ne (live_apart core filp _ dead lives)]
      exact ⟨lives, stands⟩

theorem Masked.del (masked : Masked waiting core kernel) (filp : F) (live : (core filp).live = true)
    (value : Core) (gone : value.live = false) :
    Masked waiting (Function.update core filp value) (Function.update kernel (core filp).fd none) where
  armed other lives := by
    have apart : other ≠ filp := live_apart _ filp other (by simp [gone]) lives
    rw [Function.update_of_ne apart] at lives ⊢
    have elsewhere : (core other).fd ≠ (core filp).fd :=
      fun equal => apart (masked.one_fd other filp lives live equal)
    rw [Function.update_of_ne elsewhere]
    exact masked.armed other lives
  oneshot fd registration side found := by
    by_cases same : fd = (core filp).fd
    · rw [same, Function.update_self] at found
      cases found
    · rw [Function.update_of_ne same] at found
      exact masked.oneshot fd registration side found
  registered fd registration found := by
    by_cases same : fd = (core filp).fd
    · rw [same, Function.update_self] at found
      cases found
    · rw [Function.update_of_ne same] at found
      exact masked.elsewhere filp _ fd registration found same

theorem Masked.wait (masked : Masked (fun _ => False) core kernel) (reports : List (EpollReport F))
    (known : ∀ report ∈ reports, ∃ registration,
      kernel report.fd = some registration ∧ registration.event.ptr = report.ptr) :
    Masked (fun filp => filp ∈ reports.map EpollReport.ptr) core (epollWait kernel reports) where
  armed filp live := by
    obtain ⟨registration, found, ptr, exact⟩ := masked.armed filp live
    have same := masked.reported reports known filp live
    simp only [epollWait, found, Option.map_some]
    refine ⟨_, rfl, ?_, ?_⟩
    · split <;> exact ptr
    · intro side
      have before := exact side
      rw [not_false_eq_true, and_true] at before
      split
      · rename_i hit
        simp [Registration.armed, same.mp hit.2]
      · rename_i miss
        by_cases member : filp ∈ reports.map EpollReport.ptr
        · have quiet : registration.armed side ≠ true := fun on =>
            miss ⟨masked.oneshot _ registration side found on, same.mpr member⟩
          simp [quiet, member]
        · simp [before, member]
  oneshot fd registration side found := by
    obtain ⟨earlier, refound, result⟩ := Option.map_eq_some_iff.mp found
    subst result
    split
    · rename_i hit
      exact fun _ => hit.1
    · exact masked.oneshot fd earlier side refound
  registered fd registration found := by
    obtain ⟨earlier, refound, result⟩ := Option.map_eq_some_iff.mp found
    have kept : registration.event = earlier.event := by
      rw [← result]
      split <;> rfl
    rw [kept]
    exact masked.registered fd earlier refound

end Rules

end Libtx
