import Libtx.Aiocb.Generic
import Libtx.Aiocb.Kqueue
import Libtx.Runs.Partial

namespace Libtx

open Count

variable {L T W P F : Type}

def bit (core : F → Core) (key : F × Side) : Bool := (core key.1).live && (core key.1).poll key.2

/-- The registered filters are those of the flags, except for those `waiting` to be served. -/
def Filtered (waiting : F × Side → Prop) (core : F → Core) (kernel : Kqueue F) : Prop :=
  ∀ fd side filp, kernel fd side = some filp ↔
    (core filp).fd = fd ∧ bit core (filp, side) = true ∧ ¬ waiting (filp, side)

section Rules

variable {waiting : F × Side → Prop} {core : F → Core} {kernel : Kqueue F}

theorem Filtered.same (filtered : Filtered waiting core kernel) (other : F → Core)
    (bits : ∀ key, bit other key = bit core key)
    (fds : ∀ filp side, bit core (filp, side) = true → (other filp).fd = (core filp).fd) :
    Filtered waiting other kernel := by
  intro fd side filp
  rw [filtered fd side filp, bits (filp, side)]
  constructor
  · rintro ⟨place, on, served⟩
    exact ⟨(fds filp side on).trans place, on, served⟩
  · rintro ⟨place, on, served⟩
    exact ⟨(fds filp side on).symm.trans place, on, served⟩

theorem Filtered.one (filtered : Filtered waiting core kernel) (left right : F) (side : Side)
    (first : bit core (left, side) = true) (second : bit core (right, side) = true)
    (served : ¬ waiting (left, side)) (again : ¬ waiting (right, side))
    (same : (core left).fd = (core right).fd) : left = right := by
  have one := (filtered (core left).fd side left).mpr ⟨rfl, first, served⟩
  have two := (filtered (core left).fd side right).mpr ⟨same.symm, second, again⟩
  rw [one] at two
  exact Option.some.inj two

theorem set_apply (kernel : Kqueue F) (fd place : Int) (side direction : Side) (udata : Option F) :
    kernel.set fd side udata place direction =
      if place = fd ∧ direction = side then udata else kernel place direction := by
  by_cases same : place = fd
  · by_cases equal : direction = side
    · simp [Kqueue.set, same, equal]
    · simp [Kqueue.set, same, equal]
  · simp [Kqueue.set, same]

theorem delete_each (kernel : Kqueue F) (fd : Int) (sides : List Side) (once : sides.Nodup)
    (found : ∀ side ∈ sides, kernel fd side ≠ none) :
    keventEach kernel fd (sides.map (fun side => (side, .delete))) =
      (none, fun place side => if place = fd ∧ side ∈ sides then none else kernel place side) := by
  induction sides generalizing kernel with
  | nil => simp [keventEach]
  | cons head sides ih =>
      have fresh := List.nodup_cons.mp once
      obtain ⟨filp, here⟩ := Option.ne_none_iff_exists'.mp (found head List.mem_cons_self)
      have rest : ∀ side ∈ sides, kernel.set fd head none fd side ≠ none := by
        intro side member
        have apart : side ≠ head := fun same => fresh.1 (same ▸ member)
        rw [set_apply, if_neg (fun both => apart both.2)]
        exact found side (List.mem_cons_of_mem head member)
      simp only [List.map_cons, keventEach, here]
      rw [ih (kernel.set fd head none) fresh.2 rest]
      congr 1
      funext place side
      rw [set_apply]
      by_cases same : place = fd
      · by_cases equal : side = head
        · simp [same, equal]
        · simp [same, equal]
      · simp [same]

theorem Filtered.wait (filtered : Filtered (fun _ => False) core kernel) (reports : List (KqueueReport F))
    (known : ∀ report ∈ reports, kernel report.fd report.filter = some report.udata) :
    Filtered (fun key => key ∈ reports.map (fun report => (report.udata, report.filter))) core
      (kqueueWait kernel reports) := by
  intro fd side filp
  have before := filtered fd side filp
  rw [not_false_eq_true, and_true] at before
  unfold kqueueWait
  split
  · rename_i member
    obtain ⟨report, inside, same⟩ := List.mem_map.mp member
    injection same with place direction
    constructor
    · intro found
      cases found
    · rintro ⟨own, on, unreported⟩
      have found := known report inside
      rw [place, direction, before.mpr ⟨own, on⟩] at found
      injection found with equal
      exact absurd (List.mem_map.mpr ⟨report, inside, by rw [equal, direction]⟩) unreported
  · rename_i absent
    rw [before]
    constructor
    · rintro ⟨own, on⟩
      refine ⟨own, on, ?_⟩
      intro member
      obtain ⟨report, inside, same⟩ := List.mem_map.mp member
      injection same with object direction
      have found := known report inside
      rw [object, direction] at found
      have place := ((filtered report.fd side filp).mp found).1
      exact absent (List.mem_map.mpr ⟨report, inside, by rw [← place, own, direction]⟩)
    · rintro ⟨own, on, _⟩
      exact ⟨own, on⟩

variable [DecidableEq F]

theorem bit_poll (core : F → Core) (filp : F) (side : Side) (value : Bool) :
    bit (Function.update core filp
        { core filp with poll := Function.update (core filp).poll side value }) =
      Function.update (bit core) (filp, side) ((core filp).live && value) := by
  funext key
  obtain ⟨other, direction⟩ := key
  by_cases same : other = filp
  · subst same
    by_cases equal : direction = side
    · subst equal
      simp [bit]
    · simp [bit, equal]
  · simp [bit, same]

theorem bit_dead (core : F → Core) (filp : F) (value : Core) (dead : value.live = false) (key : F × Side) :
    bit (Function.update core filp value) key = (decide (key.1 ≠ filp) && bit core key) := by
  by_cases same : key.1 = filp
  · simp [bit, same, dead]
  · simp [bit, same]

theorem fd_poll (core : F → Core) (filp other : F) (poll : Side → Bool) :
    (Function.update core filp { core filp with poll := poll } other).fd = (core other).fd := by
  by_cases same : other = filp
  · simp [same]
  · simp [same]

theorem Filtered.add (filtered : Filtered waiting core kernel) (filp : F) (side : Side)
    (live : (core filp).live = true) (served : ¬ waiting (filp, side))
    (free : ∀ other, other ≠ filp → (core other).fd = (core filp).fd → bit core (other, side) = false) :
    Filtered waiting
      (Function.update core filp { core filp with poll := Function.update (core filp).poll side true })
      (kernel.set (core filp).fd side (some filp)) := by
  intro fd direction other
  rw [bit_poll, fd_poll, live, set_apply]
  by_cases own : other = filp ∧ direction = side
  · obtain ⟨rfl, rfl⟩ := own
    by_cases same : fd = (core other).fd
    · simp [same, served]
    · have before := filtered fd direction other
      simp [same, Ne.symm same, before]
  · have apart : (other, direction) ≠ (filp, side) := by simpa using own
    rw [Function.update_of_ne apart]
    by_cases same : fd = (core filp).fd ∧ direction = side
    · obtain ⟨rfl, rfl⟩ := same
      have distinct : other ≠ filp := fun equal => own ⟨equal, rfl⟩
      have off := free other distinct
      constructor
      · intro equal
        rw [if_pos ⟨rfl, rfl⟩] at equal
        exact absurd (Option.some.inj equal).symm distinct
      · rintro ⟨place, on, _⟩
        rw [off place] at on
        cases on
    · rw [if_neg same]
      exact filtered fd direction other

theorem Filtered.serve (key : F × Side) (rest : F × Side → Prop) (filtered : Filtered waiting core kernel)
    (due : waiting key) (left : ∀ other, rest other ↔ other ≠ key ∧ waiting other) :
    Filtered rest
      (Function.update core key.1
        { core key.1 with poll := Function.update (core key.1).poll key.2 false }) kernel := by
  intro fd direction other
  rw [bit_poll, fd_poll, filtered fd direction other, left]
  by_cases own : (other, direction) = key
  · subst own
    simp [due]
  · rw [Function.update_of_ne own]
    simp [own]

theorem Filtered.delete (filtered : Filtered (fun _ => False) core kernel) (filp : F) (value : Core)
    (live : (core filp).live = true) (dead : value.live = false) :
    Filtered (fun _ => False) (Function.update core filp value)
      (fun fd side => if fd = (core filp).fd ∧ (core filp).poll side = true then none else kernel fd side) := by
  intro fd side other
  rw [bit_dead core filp value dead]
  have own (on : (core filp).poll side = true) : bit core (filp, side) = true := by simp [bit, live, on]
  by_cases same : other = filp
  · subst same
    have before := filtered fd side other
    by_cases deleted : fd = (core other).fd ∧ (core other).poll side = true
    · simp [deleted]
    · have off : kernel fd side ≠ some other := by
        intro found
        obtain ⟨place, on, _⟩ := before.mp found
        exact deleted ⟨place.symm, (Bool.and_eq_true_iff.mp on).2⟩
      simp [deleted, off]
  · rw [Function.update_of_ne same]
    by_cases deleted : fd = (core filp).fd ∧ (core filp).poll side = true
    · obtain ⟨rfl, on⟩ := deleted
      constructor
      · intro found
        simp [on] at found
      · rintro ⟨place, held, _⟩
        have both : bit core (other, side) = true := by simpa [same] using held
        exact absurd (filtered.one other filp side both (own on) not_false not_false place) same
    · dsimp only
      rw [if_neg deleted, filtered fd side other]
      simp [same]

end Rules

structure KqueueExact (s : KqueuePoller L T W P F) : Prop where
  filtered : Filtered (fun _ => False) s.core s.backend.kernel
  held : Held (fun key => bit s.core key = true) s.backend.epollRefcnt s.backend.address s.holder

/-- What the reference count and the holder stand for. -/
structure KqueueAccount (s : KqueuePoller L T W P F) : Prop where
  filters : {key : Int × Side | s.backend.kernel key.1 key.2 ≠ none}.Finite ∧
    s.backend.epollRefcnt = ({key : Int × Side | s.backend.kernel key.1 key.2 ≠ none}.ncard : Int)
  bits : {key : F × Side | bit s.core key = true}.Finite ∧
    s.backend.epollRefcnt = ({key : F × Side | bit s.core key = true}.ncard : Int)
  holder : s.holder = some s.backend.address ↔ 0 < s.backend.epollRefcnt

section Operations

variable {s : KqueuePoller L T W P F}

theorem filters_count (n : Int) (filtered : Filtered (fun _ => False) s.core s.backend.kernel)
    (counts : Counts (fun key => bit s.core key = true) n) :
    Counts (fun key : Int × Side => s.backend.kernel key.1 key.2 ≠ none) n := by
  apply counts.image (fun key => ((s.core key.1).fd, key.2))
  · rintro ⟨left, side⟩ ⟨right, direction⟩ first second same
    injection same with place equal
    subst equal
    rw [filtered.one left right side first second not_false not_false place]
  · rintro ⟨fd, side⟩
    constructor
    · intro found
      obtain ⟨filp, found⟩ := Option.ne_none_iff_exists'.mp found
      obtain ⟨place, on, _⟩ := (filtered fd side filp).mp found
      exact ⟨(filp, side), on, by rw [place]⟩
    · rintro ⟨⟨filp, direction⟩, on, same⟩
      injection same with place equal
      subst equal
      rw [(filtered fd direction filp).mpr ⟨place, on, not_false⟩]
      simp

theorem KqueueExact.account (exact : KqueueExact s) : KqueueAccount s where
  filters := (filters_count _ exact.filtered exact.held.counts).ncard
  bits := exact.held.counts.ncard
  holder := exact.held.holder_iff

theorem KqueueExact.same (exact : KqueueExact s) (next : KqueuePoller L T W P F) (same : Same s next) :
    KqueueExact next := by
  constructor
  · rw [same.core, same.backend]
    exact exact.filtered
  · rw [same.core, same.backend, same.holder]
    exact exact.held

variable [DecidableEq L] [DecidableEq F]

section

variable [DecidableEq P]

theorem kqueueOps_txPoll (answer : Option Errno) (side : Side) :
    (kqueueOps answer : TxPollOp (KqueuePoller L T W P F) F).txPoll side = txKqueuePoll answer side := by
  cases side <;> rfl

/-- Another attached object with the same descriptor polls for the direction. -/
def Shared (s : KqueuePoller L T W P F) (filp : F) (side : Side) : Prop :=
  (s.filp filp).txFlags.poll side = false ∧
    ∃ other, other ≠ filp ∧ (s.core other).fd = (s.core filp).fd ∧ bit s.core (other, side) = true

theorem kqueue_arm (side : Side) (filp : F) (next : KqueuePoller L T W P F)
    (off : (s.filp filp).txFlags.poll side = false)
    (result : txKqueuePoll none side s filp = some next) :
    (s.core filp).live = true ∧ next = (((s.setKernel
      (s.backend.kernel.set (s.core filp).fd side (some filp))).count 1).setPoll filp side true).hold := by
  unfold txKqueuePoll at result
  dsimp only at result
  rw [if_pos off] at result
  split at result
  · rename_i live
    exact ⟨live, (Option.some.inj result).symm⟩
  · cases result

theorem KqueueExact.poll (exact : KqueueExact s) (side : Side) (filp : F) (next : KqueuePoller L T W P F)
    (alone : ¬ Shared s filp side) (result : txKqueuePoll none side s filp = some next) :
    KqueueExact next ∧ next.filp = Function.update s.filp filp ((s.filp filp).arm side) := by
  cases off : (s.filp filp).txFlags.poll side with
  | true =>
      have held : s.hold = next := by simpa [txKqueuePoll, off] using result
      subst held
      refine ⟨⟨?_, ?_⟩, ?_⟩
      · rw [core_hold, (hold_frame s).2.1]
        exact exact.filtered
      · rw [core_hold]
        exact held_hold s exact.held exact.held.counts (fun _ on => on)
      · rw [(hold_frame s).1, arm_again (s.filp filp) side off, Function.update_eq_self]
  | false =>
      obtain ⟨live, same⟩ := kqueue_arm side filp next off result
      subst same
      generalize counted : ((s.setKernel _).count 1).setPoll filp side true = armed
      have written : armed.filp = Function.update s.filp filp ((s.filp filp).arm side) := counted ▸ rfl
      have core : armed.core = Function.update s.core filp
          { s.core filp with poll := Function.update (s.core filp).poll side true } :=
        core_update s armed filp _ written
      have free (other : F) (apart : other ≠ filp) (same : (s.core other).fd = (s.core filp).fd) :
          bit s.core (other, side) = false := by
        rw [← Bool.not_eq_true]
        exact fun on => alone ⟨off, other, apart, same, on⟩
      have before : bit s.core (filp, side) = false := by simp [bit, Poller.core, TxAiocb.core, off]
      have filtered := exact.filtered.add filp side live not_false free
      have counts := exact.held.counts.update (bit s.core) (filp, side) true
      refine ⟨⟨?_, ?_⟩, (hold_frame armed).1.trans written⟩
      · rw [core_hold, (hold_frame armed).2.1, core, ← counted]
        exact filtered
      · rw [core_hold]
        have bits : bit armed.core = Function.update (bit s.core) (filp, side) true := by
          rw [core, bit_poll, live, Bool.true_and]
        have address : armed.backend.address = s.backend.address := counted ▸ rfl
        have holder : armed.holder = s.holder := counted ▸ rfl
        have refcnt : armed.backend.epollRefcnt = s.backend.epollRefcnt + 1 := counted ▸ rfl
        apply held_hold armed
        · rw [address, holder]
          exact exact.held
        · rw [bits, refcnt]
          simpa [before] using counts
        · intro key on
          have apart : key ≠ (filp, side) := by
            intro same
            rw [same, before] at on
            cases on
          rw [bits, Function.update_of_ne apart, on]

theorem shared_poll (exact : KqueueExact s) (side : Side) (filp : F) (next : KqueuePoller L T W P F)
    (shared : Shared s filp side) (result : txKqueuePoll none side s filp = some next) :
    ¬ KqueueAccount next := by
  obtain ⟨off, other, apart, place, on⟩ := shared
  obtain ⟨live, same⟩ := kqueue_arm side filp next off result
  subst same
  intro account
  have found := (exact.filtered (s.core filp).fd side other).mpr ⟨place, on, not_false⟩
  have registered : Counts (fun key : Int × Side =>
      s.backend.kernel.set (s.core filp).fd side (some filp) key.1 key.2 ≠ none) s.backend.epollRefcnt := by
    apply (filters_count _ exact.filtered exact.held.counts).congr
    rintro ⟨fd, direction⟩
    rw [set_apply]
    split
    · rename_i hit
      have place : fd = (s.core filp).fd := hit.1
      have same : direction = side := hit.2
      simp [place, same, found]
    · rfl
  have size := account.filters.2
  rw [(hold_frame _).2.1] at size
  have more : s.backend.epollRefcnt + 1 = s.backend.epollRefcnt := size.trans registered.ncard.2.symm
  omega

theorem bits_idle (core : F → Core) (filp : F) (value : Core) (before : (core filp).live = false)
    (after : ∀ side, (value.live && value.poll side) = false) (key : F × Side) :
    bit (Function.update core filp value) key = bit core key := by
  by_cases same : key.1 = filp
  · simp [bit, same, before, after]
  · simp [bit, same]

omit [DecidableEq L] [DecidableEq P] in
theorem KqueueExact.rewrite (exact : KqueueExact s) (filp : F) (file : TxAiocb T)
    (dead : (s.filp filp).live = false) (idle : ∀ side, (file.live && file.txFlags.poll side) = false)
    (next : KqueuePoller L T W P F) (written : next.filp = Function.update s.filp filp file)
    (still : Still s next) : KqueueExact next := by
  have core := core_update s next filp file written
  have bits (key : F × Side) : bit next.core key = bit s.core key := by
    rw [core]
    exact bits_idle s.core filp file.core dead idle key
  constructor
  · rw [still.backend]
    apply exact.filtered.same next.core bits
    intro other side on
    have apart : other ≠ filp := by
      intro same
      have gone : (s.core filp).live = false := dead
      simp [bit, same, gone] at on
    rw [core, Function.update_of_ne apart]
  · rw [still.backend, still.holder]
    exact ⟨exact.held.counts.congr (fun key => by rw [bits key]), exact.held.holder⟩

theorem KqueueExact.init (exact : KqueueExact s) (filp : F) (fd : Int) (next : KqueuePoller L T W P F)
    (dead : (s.filp filp).live = false) (result : txAiocbInit (kqueueOps none) s filp fd = some next) :
    KqueueExact next := by
  unfold txAiocbInit at result
  dsimp only at result
  split at result
  · injection result with same
    subst same
    exact exact.rewrite filp _ dead (fun _ => rfl) _ rfl (still_setFilp s filp _)
  · have attached : txKqueueAttach (s.setFilp filp (fun _ => TxAiocb.fresh fd)) filp = next :=
      Option.some.inj result
    simp only [txKqueueAttach, Poller.setFilp, Function.update_self, TxAiocb.fresh, if_true] at attached
    let file : TxAiocb T :=
      { TxAiocb.fresh fd with txFlags := { (TxAiocb.fresh fd : TxAiocb T).txFlags with attached := true } }
    have written : next.filp = Function.update s.filp filp file := by
      rw [← attached]
      simp [Poller.setFlags, Poller.setFilp, file, TxAiocb.fresh]
    exact exact.rewrite filp file dead (fun _ => rfl) next written (attached ▸ ⟨rfl, rfl, rfl⟩)

theorem KqueueExact.listen (exact : KqueueExact s) (filp : F) (fd : Int) (next : KqueuePoller L T W P F)
    (dead : (s.filp filp).live = false) (result : txListenInit (kqueueOps none) s filp fd = some next) :
    KqueueExact next := by
  obtain ⟨mid, started, same⟩ := Option.map_eq_some_iff.mp result
  subst same
  exact (exact.init filp fd mid dead started).same _ (same_setFilp mid filp _ rfl)

omit [DecidableEq L] [DecidableEq P] in
theorem kqueue_delete (exact : KqueueExact s) (filp : F) (live : (s.filp filp).live = true) :
    txKqueueDelete none s filp = (s.setKernel (fun fd side =>
      if fd = (s.core filp).fd ∧ (s.core filp).poll side = true then none
      else s.backend.kernel fd side)).setFlags filp (fun flags => { flags with detached := true }) := by
  have found (side : Side) (on : (s.filp filp).txFlags.poll side = true) :
      s.backend.kernel (s.filp filp).txFd side = some filp := by
    apply (exact.filtered (s.filp filp).txFd side filp).mpr
    refine ⟨rfl, ?_, not_false⟩
    simp [bit, Poller.core, TxAiocb.core, live, on]
  have armed (side : Side) : side ∈ [Side.input, .output].filter (s.filp filp).txFlags.poll ↔
      (s.filp filp).txFlags.poll side = true := by
    rw [List.mem_filter]
    cases side <;> simp
  have once : ([Side.input, .output].filter (s.filp filp).txFlags.poll).Nodup :=
    List.Nodup.filter _ (by decide)
  have called := delete_each s.backend.kernel (s.filp filp).txFd _ once
    (fun side member => by simp [found side ((armed side).mp member)])
  simp only [armed] at called
  have result : (if ((s.filp filp).deletes : List (Side × Change F)).isEmpty then (none, s.backend.kernel)
      else kevent none s.backend.kernel (s.filp filp).txFd (s.filp filp).deletes) =
        (none, fun fd side => if fd = (s.core filp).fd ∧ (s.core filp).poll side = true then none
          else s.backend.kernel fd side) := by
    split
    · rename_i empty
      rw [TxAiocb.deletes, List.isEmpty_iff] at empty
      rw [empty] at called
      exact called
    · exact called
  simp only [txKqueueDelete, live, if_true, result]

theorem counts_dead (core : F → Core) (filp : F) (value : Core) (n : Int) (dead : value.live = false)
    (counts : Counts (fun key => bit core key = true) n) :
    Counts (fun key => bit (Function.update core filp value) key = true)
      (n - (bit core (filp, .input)).toNat - (bit core (filp, .output)).toNat) := by
  have first := counts.update (bit core) (filp, .input) false
  have second := first.update _ (filp, .output) false
  have apart : ((filp, .output) : F × Side) ≠ (filp, .input) := by simp
  rw [Function.update_of_ne apart] at second
  have bits : bit (Function.update core filp value) =
      Function.update (Function.update (bit core) (filp, .input) false) (filp, .output) false := by
    funext key
    obtain ⟨other, side⟩ := key
    rw [bit_dead core filp value dead]
    by_cases same : other = filp
    · subst same
      cases side <;> simp
    · simp [same]
  rw [bits]
  simpa using second

theorem kqueue_fini (exact : KqueueExact s) (filp : F) (next : KqueuePoller L T W P F)
    (valid : (s.filp filp).txFd ≠ -1) (live : (s.filp filp).live = true)
    (result : txAiocbFini (kqueueOps none) s filp = some next) :
    Counts (fun key => bit next.core key = true) (s.backend.epollRefcnt -
        ((s.filp filp).txFlags.poll .input).toNat - ((s.filp filp).txFlags.poll .output).toNat) ∧
      next.backend.epollRefcnt = s.backend.epollRefcnt -
        ((s.filp filp).txFlags.poll .input || (s.filp filp).txFlags.poll .output).toNat ∧
      (((s.filp filp).txFlags.poll .input && (s.filp filp).txFlags.poll .output) = false →
        KqueueExact next) := by
  rw [txAiocbFini, if_neg valid] at result
  have detached : txKqueueDetach none s filp = next := Option.some.inj result
  simp only [txKqueueDetach, kqueue_delete exact filp live] at detached
  generalize deletion : (s.setKernel _).setFlags filp _ = deleted at detached
  let file : TxAiocb T :=
    { s.filp filp with txFlags := { (s.filp filp).txFlags with detached := true } }
  have gone : file.core.live = false := by simp [TxAiocb.core, TxAiocb.live, file]
  have written : deleted.filp = Function.update s.filp filp file := deletion ▸ rfl
  have core := core_update s deleted filp file written
  have holder : deleted.holder = s.holder := deletion ▸ rfl
  have address : deleted.backend.address = s.backend.address := deletion ▸ rfl
  have refcnt : deleted.backend.epollRefcnt = s.backend.epollRefcnt := deletion ▸ rfl
  have filtered : Filtered (fun _ => False) deleted.core deleted.backend.kernel := by
    rw [core, ← deletion]
    exact exact.filtered.delete filp file.core live gone
  have bits (side : Side) : bit s.core (filp, side) = (s.filp filp).txFlags.poll side := by
    simp [bit, Poller.core, TxAiocb.core, live]
  have counts := counts_dead s.core filp file.core _ gone exact.held.counts
  rw [bits, bits, ← core] at counts
  split at detached
  · rename_i any
    rw [← Bool.or_eq_true] at any
    subst detached
    have less : (deleted.count (-1)).backend.epollRefcnt = s.backend.epollRefcnt - 1 := by
      rw [Poller.count, refcnt]
      rfl
    refine ⟨core_release (deleted.count (-1)) ▸ counts, ?_, ?_⟩
    · rw [(release_frame _).2.1, less, any]
      rfl
    · intro notBoth
      constructor
      · rw [core_release, (release_frame _).2.1]
        exact filtered
      · rw [core_release]
        apply held_release (p := fun key => bit s.core key = true) (n := s.backend.epollRefcnt)
        · have place : (deleted.count (-1)).holder = s.holder := holder
          have owner : (deleted.count (-1)).backend.address = s.backend.address := address
          rw [place, owner]
          exact exact.held
        · have one : s.backend.epollRefcnt - ((s.filp filp).txFlags.poll .input).toNat -
              ((s.filp filp).txFlags.poll .output).toNat = s.backend.epollRefcnt - 1 := by
            cases read : (s.filp filp).txFlags.poll .input <;>
              cases write : (s.filp filp).txFlags.poll .output <;> simp_all
          rw [less, ← one]
          exact counts
        · intro key on
          have kept : bit (Function.update s.core filp file.core) key = true := core ▸ on
          rw [bit_dead s.core filp file.core gone, Bool.and_eq_true] at kept
          exact kept.2
  · rename_i nothing
    rw [← Bool.or_eq_true, Bool.not_eq_true] at nothing
    obtain ⟨read, write⟩ := Bool.or_eq_false_iff.mp nothing
    subst detached
    refine ⟨counts, by simp [refcnt, nothing], fun _ => ⟨filtered, ?_, ?_⟩⟩
    · simpa [refcnt, read, write] using counts
    · rw [holder, address, refcnt]
      exact exact.held.holder

end

def KqueueReport.key (report : KqueueReport F) : F × Side := (report.udata, report.filter)

variable [DecidableEq T] [DecidableEq W]

theorem kqueue_one (report : KqueueReport F) :
    (txKqueuePollingOne s report).core = Function.update s.core report.udata
        { s.core report.udata with
          poll := Function.update (s.core report.udata).poll report.filter false } ∧
      Still (s.count (-1)) (txKqueuePollingOne s report) := by
  constructor
  · funext other
    by_cases same : other = report.udata
    · subst same
      simp [txKqueuePollingOne, Poller.core, taskActiveBy, Poller.setPoll, Poller.setFilter, Poller.setAble,
        Poller.setFlags, Poller.setFilp, Poller.count, TxAiocb.core, TxAiocb.live]
    · simp [txKqueuePollingOne, Poller.core, taskActiveBy, Poller.setPoll, Poller.setFilter, Poller.setAble,
        Poller.setFlags, Poller.setFilp, Poller.count, same]
  · have activated := same_taskActiveBy (s.count (-1)) ((s.filp report.udata).txFilter report.filter)
      report.udata
    have able := activated.toStill.trans (same_setAble _ report.udata report.filter true).toStill
    have empty := able.trans (same_setFilter _ report.udata report.filter none).toStill
    exact empty.trans (still_setPoll _ report.udata report.filter false)

structure KqueueServing (todo : List (KqueueReport F)) (s : KqueuePoller L T W P F) : Prop where
  filtered : Filtered (fun key => key ∈ todo.map KqueueReport.key) s.core s.backend.kernel
  counts : Counts (fun key => bit s.core key = true) s.backend.epollRefcnt
  due : ∀ report ∈ todo, bit s.core report.key = true
  once : (todo.map KqueueReport.key).Nodup

theorem KqueueServing.one {report : KqueueReport F} {todo : List (KqueueReport F)}
    (serving : KqueueServing (report :: todo) s) : KqueueServing todo (txKqueuePollingOne s report) := by
  obtain ⟨core, still⟩ := kqueue_one (s := s) report
  have due := serving.due report List.mem_cons_self
  have fresh := List.nodup_cons.mp serving.once
  have bits : bit (txKqueuePollingOne s report).core = Function.update (bit s.core) report.key false := by
    rw [core, bit_poll, Bool.and_false]
    rfl
  have waiting (key : F × Side) : key ∈ todo.map KqueueReport.key ↔
      key ≠ report.key ∧ key ∈ (report :: todo).map KqueueReport.key := by
    rw [List.map_cons, List.mem_cons]
    constructor
    · exact fun member => ⟨fun same => fresh.1 (same ▸ member), Or.inr member⟩
    · exact fun member => member.2.resolve_left member.1
  refine ⟨?_, ?_, ?_, fresh.2⟩
  · rw [core, still.backend]
    exact serving.filtered.serve report.key _ List.mem_cons_self waiting
  · have counts := serving.counts.update (bit s.core) report.key false
    have refcnt : (s.count (-1)).backend.epollRefcnt = s.backend.epollRefcnt - 1 := rfl
    rw [due] at counts
    rw [bits, still.backend, refcnt]
    simpa using counts
  · intro other member
    have apart : other.key ≠ report.key :=
      fun same => fresh.1 (same ▸ List.mem_map_of_mem member)
    rw [bits, Function.update_of_ne apart]
    exact serving.due other (List.mem_cons_of_mem report member)

theorem KqueueServing.batch {todo : List (KqueueReport F)} (serving : KqueueServing todo s) :
    KqueueServing [] (todo.foldl txKqueuePollingOne s) ∧
      (todo.foldl txKqueuePollingOne s).holder = s.holder ∧
      (todo.foldl txKqueuePollingOne s).backend.address = s.backend.address ∧
      ∀ key, bit (todo.foldl txKqueuePollingOne s).core key = true → bit s.core key = true := by
  induction todo generalizing s with
  | nil => exact ⟨serving, rfl, rfl, fun _ on => on⟩
  | cons report todo ih =>
      obtain ⟨core, still⟩ := kqueue_one (s := s) report
      obtain ⟨served, holder, address, fewer⟩ := ih serving.one
      refine ⟨served, holder.trans still.holder, address.trans ?_, ?_⟩
      · rw [still.backend]
        rfl
      · intro key on
        have before := fewer key on
        rw [core, bit_poll, Bool.and_false] at before
        by_cases same : key = (report.udata, report.filter)
        · rw [same, Function.update_self] at before
          cases before
        · rwa [Function.update_of_ne same] at before

/-- What `kevent` can return: each filter once, and only if it is registered. -/
def Filed (s : KqueuePoller L T W P F) (reports : List (KqueueReport F)) : Prop :=
  reports.length ≤ MAX_EVENTS ∧
    (reports.map (fun report => (report.fd, report.filter))).Nodup ∧
    ∀ report ∈ reports, s.backend.kernel report.fd report.filter = some report.udata

variable [DecidableEq P]

theorem KqueueExact.polling (exact : KqueueExact s) (reports : List (KqueueReport F))
    (filed : Filed s reports) : KqueueExact (txKqueuePolling s reports) := by
  obtain ⟨_, distinct, known⟩ := filed
  have places (report : KqueueReport F) (member : report ∈ reports) :
      (s.core report.udata).fd = report.fd ∧ bit s.core report.key = true := by
    obtain ⟨place, on, _⟩ := (exact.filtered _ _ _).mp (known report member)
    exact ⟨place, on⟩
  have once : (reports.map KqueueReport.key).Nodup := by
    have same : reports.map (fun report => (report.fd, report.filter)) =
        (reports.map KqueueReport.key).map (fun key => ((s.core key.1).fd, key.2)) := by
      rw [List.map_map]
      apply List.map_congr_left
      intro report member
      simp [KqueueReport.key, (places report member).1]
    rw [same] at distinct
    exact distinct.of_map _
  have waiting : KqueueServing reports (s.setKernel (kqueueWait s.backend.kernel reports)) :=
    ⟨exact.filtered.wait reports known, exact.held.counts, fun report member => (places report member).2, once⟩
  obtain ⟨served, holder, address, fewer⟩ := waiting.batch
  apply KqueueExact.same _ _ (same_relink _)
  constructor
  · rw [core_release, (release_frame _).2.1]
    intro fd side filp
    rw [served.filtered fd side filp]
    simp
  · rw [core_release]
    apply held_release (p := fun key => bit s.core key = true) (n := s.backend.epollRefcnt)
    · rw [holder, address]
      exact exact.held
    · exact served.counts
    · exact fewer

end Operations

section Runs

def Registers (_ : KqueuePoller L T W P F) : PollAction L T W P F (KqueueReport F) → Prop
  | .init _ _ answer | .listen _ _ answer | .fini _ answer | .poll _ _ answer | .active _ _ _ answer
  | .connect _ _ _ answer => answer = none
  | _ => True

/-- The detaching of an object with both directions armed, or the arming of a filter that
another object has registered for the same descriptor. -/
def Harm (s : KqueuePoller L T W P F) : PollAction L T W P F (KqueueReport F) → Prop
  | .fini filp _ =>
      (s.filp filp).txFd ≠ -1 ∧ (s.filp filp).live = true ∧
        (s.filp filp).txFlags.poll .input = true ∧ (s.filp filp).txFlags.poll .output = true
  | .poll side filp _ => Shared s filp side
  | .active side filp _ _ => (s.filp filp).txFlags.able side = false ∧ Shared s filp side
  | .connect filp error _ _ => error = some .einprogress ∧ Shared s filp .output
  | _ => False

theorem Same.shared {s mid : KqueuePoller L T W P F} (same : Same s mid) (filp : F) (side : Side) :
    Shared mid filp side ↔ Shared s filp side := by
  have poll : (mid.filp filp).txFlags.poll = (s.filp filp).txFlags.poll :=
    congrArg Core.poll (congrFun same.core filp)
  rw [Shared, Shared, same.core, poll]

variable [DecidableEq L] [DecidableEq T] [DecidableEq W] [DecidableEq P] [DecidableEq F]

theorem kqueue_harmless (s next : KqueuePoller L T W P F)
    (action : PollAction L T W P F (KqueueReport F)) (exact : KqueueExact s) (proper : Proper Filed s action)
    (registers : Registers s action) (harmless : ¬ Harm s action) (result : kqueueAct s action = some next) :
    KqueueExact next := by
  unfold kqueueAct at result
  cases action with
  | init filp fd answer =>
      obtain rfl : answer = none := registers
      exact exact.init filp fd next proper result
  | listen filp fd answer =>
      obtain rfl : answer = none := registers
      exact exact.listen filp fd next proper result
  | fini filp answer =>
      obtain rfl : answer = none := registers
      by_cases valid : (s.filp filp).txFd = -1
      · have same : s = next := by simpa [Poller.act, txAiocbFini, valid] using result
        exact same ▸ exact
      · have live : (s.filp filp).live = true := proper.resolve_left valid
        obtain ⟨_, _, kept⟩ := kqueue_fini exact filp next valid live result
        apply kept
        rw [← Bool.not_eq_true, Bool.and_eq_true]
        exact fun both => harmless ⟨valid, live, both⟩
  | poll side filp answer =>
      obtain rfl : answer = none := registers
      rw [act_poll, kqueueOps_txPoll] at result
      exact (exact.poll side filp next harmless result).1
  | active side filp task answer =>
      obtain rfl : answer = none := registers
      rw [act_active] at result
      refine (active_rule (kqueueOps none) side s filp task next KqueueExact exact.same ?_ result).1
      intro mid same unable polled
      rw [kqueueOps_txPoll] at polled
      exact (exact.same mid same).poll side filp next
        (fun shared => harmless ⟨unable, (same.shared filp side).mp shared⟩) polled
  | cancel side filp verify =>
      rw [act_cancel] at result
      injection result with same
      exact same ▸ exact.same _ (same_cancel side s filp verify)
  | update side filp len errno =>
      rw [act_update] at result
      injection result with same
      exact same ▸ exact.same _ (same_update side s filp len errno)
  | connect filp error task answer =>
      obtain rfl : answer = none := registers
      refine (connect_rule (kqueueOps none) s filp error task next KqueueExact exact.same ?_ result).1
      intro mid same pending polled
      exact (exact.same mid same).poll .output filp next
        (fun shared => harmless ⟨pending, (same.shared filp .output).mp shared⟩) polled
  | polling reports =>
      injection result with same
      exact same ▸ exact.polling reports proper
  | loop world =>
      injection result with same
      have own : (world.task s.backend.pollTask).txLoop = s.up := step_own s.world world proper.1 _
      exact same ▸ exact.same _ ⟨still_world s world own proper.2, rfl⟩

theorem kqueue_harmful (s next : KqueuePoller L T W P F)
    (action : PollAction L T W P F (KqueueReport F)) (exact : KqueueExact s)
    (registers : Registers s action) (harm : Harm s action) (result : kqueueAct s action = some next) :
    ¬ KqueueAccount next := by
  unfold kqueueAct at result
  cases action with
  | fini filp answer =>
      obtain rfl : answer = none := registers
      obtain ⟨valid, live, read, write⟩ := harm
      obtain ⟨counts, refcnt, _⟩ := kqueue_fini exact filp next valid live result
      intro account
      have size := account.bits.2.trans counts.ncard.2.symm
      rw [refcnt, read, write] at size
      simp at size
      omega
  | poll side filp answer =>
      obtain rfl : answer = none := registers
      rw [act_poll, kqueueOps_txPoll] at result
      exact shared_poll exact side filp next harm result
  | active side filp task answer =>
      obtain rfl : answer = none := registers
      obtain ⟨unable, shared⟩ := harm
      rw [act_active, active_arms _ side s filp task unable shared.1, kqueueOps_txPoll] at result
      have waiting := same_setFilter s filp side task
      exact shared_poll (exact.same _ waiting) side filp next ((waiting.shared filp side).mpr shared) result
  | connect filp error task answer =>
      obtain rfl : answer = none := registers
      obtain ⟨pending, shared⟩ := harm
      let cleared := s.setFlags filp (fun flags => { flags with able := fun _ => false })
      have unable : (cleared.filp filp).txFlags.able .output = false := by
        simp [cleared, Poller.setFlags, Poller.setFilp]
      have off : (cleared.filp filp).txFlags.poll .output = false := by
        simpa [cleared, Poller.setFlags, Poller.setFilp] using shared.1
      have arms := active_arms (kqueueOps none) .output cleared filp task unable off
      have armed : (kqueueOps none).txPoll .output (cleared.setFilter filp .output task) filp = some next := by
        rw [← arms, ← result]
        simp [Poller.act, txAiocbConnect, pending, genericActiveOut, cleared]
      rw [kqueueOps_txPoll] at armed
      have same : Same s (cleared.setFilter filp .output task) :=
        (same_setFilp s filp _ rfl).trans (same_setFilter cleared filp .output task)
      exact shared_poll (exact.same _ same) .output filp next ((same.shared filp .output).mpr shared) armed
  | init | listen | cancel | update | polling | loop => exact harm.elim

/-- The account of the kqueue backend is exact all through a run if and only if no object
is detached with both directions armed and no two objects register one filter. -/
theorem kqueue_account (start last : KqueuePoller L T W P F) (fresh : Fresh (fun _ _ => none) start)
    (actions : List (PollAction L T W P F (KqueueReport F)))
    (allowed : Runs.Allowed kqueueAct (fun s action => Proper Filed s action ∧ Registers s action)
      start actions)
    (ended : Runs.run kqueueAct start actions = some last) :
    (∀ front back s, actions = front ++ back → Runs.run kqueueAct start front = some s →
        KqueueAccount s) ↔
      Runs.Allowed kqueueAct (fun s action => ¬ Harm s action) start actions := by
  apply Runs.harmless_iff (fun s action => Proper Filed s action ∧ Registers s action) Harm KqueueExact
    KqueueAccount (fun _ exact => exact.account) _ _ start last actions allowed _ ended
  · intro s action next fine harmless exact step
    exact kqueue_harmless s next action exact fine.1 fine.2 harmless step
  · intro s action next fine harm exact step
    exact kqueue_harmful s next action exact fine.2 harm step
  · have empty : ∀ key, bit start.core key = false := by
      intro key
      have dead : (start.core key.1).live = false := fresh.unattached key.1
      simp [bit, dead]
    refine ⟨?_, ?_, ?_⟩
    · intro fd side filp
      rw [fresh.kernel]
      simp [empty]
    · rw [fresh.refcnt]
      exact counts_none (fun key => by simp [empty key])
    · rw [fresh.refcnt, fresh.holder]
      rfl

end Runs

section Lone

def loneKqueue : KqueuePoller Unit Bool Unit Unit Unit := lonePoller (fun _ _ => none)

def loneServed : List (PollAction Unit Bool Unit Unit Unit (KqueueReport Unit)) :=
  [.init () 3 none, .poll .input () none, .poll .output () none, .polling [⟨3, .input, ()⟩]]

def loneBoth : List (PollAction Unit Bool Unit Unit Unit (KqueueReport Unit)) :=
  [.init () 3 none, .poll .input () none, .poll .output () none, .fini () none]

def loneAfter (actions : List (PollAction Unit Bool Unit Unit Unit (KqueueReport Unit))) :
    KqueuePoller Unit Bool Unit Unit Unit :=
  (Runs.run kqueueAct loneKqueue actions).getD loneKqueue

theorem lone_unshared (s : KqueuePoller Unit Bool Unit Unit Unit) (side : Side) : ¬ Shared s () side :=
  fun shared => shared.2.elim (fun _ both => both.1 rfl)

theorem kqueue_account_lone : KqueueAccount (loneAfter loneServed) := by
  have allowed : Runs.Allowed kqueueAct (fun s action => Proper Filed s action ∧ Registers s action)
      loneKqueue loneServed := by
    refine ⟨⟨rfl, rfl⟩, fun _ first => ⟨⟨trivial, rfl⟩, fun _ second => ⟨⟨trivial, rfl⟩, fun _ third => ?_⟩⟩⟩
    cases first
    cases second
    cases third
    refine ⟨⟨⟨by decide, by decide, ?_⟩, trivial⟩, fun _ _ => trivial⟩
    intro report member
    rw [List.mem_singleton.mp member]
    rfl
  have harmless : Runs.Allowed kqueueAct (fun s action => ¬ Harm s action) loneKqueue loneServed :=
    ⟨not_false, fun _ _ => ⟨lone_unshared _ _, fun _ _ => ⟨lone_unshared _ _, fun _ _ =>
      ⟨not_false, fun _ _ => trivial⟩⟩⟩⟩
  exact (kqueue_account loneKqueue (loneAfter loneServed) (fresh_lone _) loneServed allowed rfl).mpr
    harmless loneServed [] (loneAfter loneServed) (List.append_nil _).symm rfl

theorem kqueue_stuck :
    Fresh (fun _ _ => none) loneKqueue ∧
      Runs.Allowed kqueueAct (fun s action => Proper Filed s action ∧ Registers s action) loneKqueue
        loneBoth ∧
      Runs.run kqueueAct loneKqueue loneBoth = some (loneAfter loneBoth) ∧
      (∀ key, bit (loneAfter loneBoth).core key = false) ∧
      (loneAfter loneBoth).backend.epollRefcnt = 1 ∧
      (loneAfter loneBoth).holder = some (loneAfter loneBoth).backend.address ∧
      ¬ KqueueAccount (loneAfter loneBoth) := by
  have idle : ∀ key, bit (loneAfter loneBoth).core key = false := by
    rintro ⟨⟨⟩, side⟩
    cases side <;> rfl
  refine ⟨fresh_lone _, ?_, rfl, idle, rfl, rfl, ?_⟩
  · refine ⟨⟨rfl, rfl⟩, fun _ first => ⟨⟨trivial, rfl⟩, fun _ second => ⟨⟨trivial, rfl⟩, fun _ third => ?_⟩⟩⟩
    cases first
    cases second
    cases third
    exact ⟨⟨Or.inr rfl, rfl⟩, fun _ _ => trivial⟩
  · intro account
    have none := account.bits.2
    simp only [idle, Bool.false_eq_true, Set.ofPred_false, Set.ncard_empty] at none
    exact absurd none (by decide)

end Lone

end Libtx
