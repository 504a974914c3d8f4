import Libtx.Timer.Frames
import Libtx.Timer.Rings

namespace Libtx

open Intrusive

variable {L T W P R K : Type} [DecidableEq T]

/-- At most one ring for the loop, its poll on the queue, and no ring at all but that one was
ever returned for it. -/
structure Single (up : L) (s : Rings L T W P R K) : Prop where
  refined : ∃ v, Refines s.world v
  live : (s.world.loop up).txStop = false
  linked : ∀ poll, s.polls poll = true → (s.world.task poll).txFlags.pending = false ∧
    ((s.world.task poll).txLoop = up → (s.world.task poll).txFlags.idle = false)
  first : ∀ poll other, s.polls poll = true → s.polls other = true →
    (s.world.task poll).txLoop = up → (s.world.task other).txLoop = up → poll = other
  named : ∀ timer task, s.txTask timer = some task → s.polls task = false
  got : ∀ got ∈ s.gets up, ∃ ring, got = some ring ∧ s.polls ring = true ∧
    (s.world.task ring).txLoop = up

section Keep

variable {up : L} {s next : Rings L T W P R K}

omit [DecidableEq T] in
theorem not_polled (polls : T → Bool) (task : Option T) (spared : ¬ task.any polls = true) (poll : T)
    (member : polls poll = true) : task ≠ some poll := by
  intro same
  subst same
  exact spared member

omit [DecidableEq T] in
theorem pollingTask_some (polls : T → Bool) (node : Node L T) (ring : T)
    (answers : pollingTask polls node = some ring) : node = .task ring ∧ polls ring = true := by
  cases node with
  | task task =>
      simp only [pollingTask] at answers
      split at answers
      · rename_i polled
        injection answers with same
        subst same
        exact ⟨rfl, polled⟩
      · cases answers
  | tailer other => cases answers
  | phony other => cases answers

theorem Single.keep (single : Single up s) (next : Rings L T W P R K) (refined : ∃ v, Refines next.world v)
    (live : (next.world.loop up).txStop = false)
    (fewer : ∀ poll, next.polls poll = true → s.polls poll = true)
    (stays : ∀ poll, s.polls poll = true → (s.world.task poll).txLoop = up → next.polls poll = true)
    (loops : ∀ poll, s.polls poll = true →
      (next.world.task poll).txLoop = (s.world.task poll).txLoop)
    (linked : ∀ poll, s.polls poll = true → (next.world.task poll).txFlags.pending = false ∧
      ((s.world.task poll).txLoop = up → (next.world.task poll).txFlags.idle = false))
    (named : ∀ timer task, next.txTask timer = some task → s.polls task = false)
    (gets : next.gets = s.gets) : Single up next where
  refined := refined
  live := live
  linked := by
    intro poll polls
    have before := fewer poll polls
    rw [loops poll before]
    exact linked poll before
  first := by
    intro poll other polls others own same
    have before := fewer poll polls
    have also := fewer other others
    rw [loops poll before] at own
    rw [loops other also] at same
    exact single.first poll other before also own same
  named := by
    intro timer task name
    have unused := named timer task name
    cases polls : next.polls task with
    | false => rfl
    | true => exact absurd (unused.symm.trans (fewer task polls)) (by simp)
  got := by
    intro got member
    rw [gets] at member
    obtain ⟨ring, same, polls, own⟩ := single.got got member
    exact ⟨ring, same, stays ring polls own, (loops ring polls).trans own⟩

theorem Single.spare (single : Single up s) (next : Rings L T W P R K) (refined : ∃ v, Refines next.world v)
    (live : (next.world.loop up).txStop = (s.world.loop up).txStop) (polls : next.polls = s.polls)
    (tasks : ∀ poll, s.polls poll = true → next.world.task poll = s.world.task poll)
    (named : ∀ timer task, next.txTask timer = some task → s.polls task = false)
    (gets : next.gets = s.gets) : Single up next := by
  apply single.keep next refined (live.trans single.live)
  · intro poll member
    exact polls ▸ member
  · intro poll member _
    rw [polls]
    exact member
  · intro poll member
    rw [tasks poll member]
  · intro poll member
    rw [tasks poll member]
    exact single.linked poll member
  · exact named
  · exact gets

theorem inCall_spared (polls : T → Bool) (s : World L T W P R) (up : L) (spared : ¬ serves polls s up = true)
    (poll : T) (member : polls poll = true) : inCall s up poll = false := by
  cases inside : s.main up with
  | none => simp [inCall, inside]
  | some frame =>
      have apart : frame.calling ≠ some poll := by
        intro own
        exact spared (by simp [serves, inside, own, member])
      simp [inCall, inside, apart]

theorem Rings.find_some (v : View L T W) (refines : Refines s.world v) (other : L) (fuel : Nat) (ring : T)
    (found : s.find other fuel = some (some ring)) :
    s.polls ring = true ∧ (s.world.task ring).txLoop = other := by
  have first := search_linked s.world.heap v.nodes refines.linked _ fuel _ _ found
  obtain ⟨node, member, answers⟩ := List.exists_of_findSome?_eq_some first
  obtain ⟨same, polls⟩ := pollingTask_some s.polls node ring answers
  subst same
  exact ⟨polls, refines.own other ring ((mem_queueNodes other _ ring).mp member)⟩

theorem single_start (memory : Rings L T W P R K) (loopOf : T → L) (up : L) :
    Single up (Rings.start memory loopOf) where
  refined := ⟨_, refines_start memory.world loopOf⟩
  live := rfl
  linked := by
    intro poll polls
    cases polls
  first := by
    intro poll other polls
    cases polls
  named := by
    intro timer task name
    cases name
  got := by
    intro got member
    cases member

variable [DecidableEq L]

theorem Single.note (single : Single up s) (other : L) (got : Option T)
    (own : other = up → ∃ ring, got = some ring ∧ s.polls ring = true ∧
      (s.world.task ring).txLoop = up) : Single up (s.note other got) := by
  refine ⟨single.refined, single.live, single.linked, single.first, single.named, ?_⟩
  intro answer member
  change answer ∈ Function.update s.gets other (s.gets other ++ [got]) up at member
  by_cases same : other = up
  · subst same
    rw [Function.update_self, List.mem_append, List.mem_singleton] at member
    rcases member with before | now
    · exact single.got answer before
    · exact now ▸ own rfl
  · rw [Function.update_of_ne (Ne.symm same)] at member
    exact single.got answer member

section

variable [DecidableEq K]

omit [DecidableEq L] in
theorem Single.init (single : Single up s) (timer : K) (provider task : Option T)
    (done : s.init timer provider task = some next) : Single up next := by
  simp only [Rings.init] at done
  split at done
  · rename_i free
    cases done
    refine single.spare _ single.refined rfl rfl (fun _ _ => rfl) ?_ rfl
    intro other name named
    by_cases same : other = timer
    · subst same
      have given : task = some name := by simpa using named
      simpa [given] using free.2
    · exact single.named other name (by simpa [same] using named)
  · cases done

variable [DecidableEq W] [DecidableEq P]

theorem Single.loop (single : Single up s) (use : LoopUse L T W P R) (proper : s.Proper up (.loop use))
    (addresses : Addresses T P R K) (done : s.act addresses (.loop use) = some next) : Single up next := by
  obtain ⟨v, refines⟩ := single.refined
  have live : use.Live s.world := by
    intro taskq reason fuel same
    subst same
    exact proper
  have runs : use ≠ .stop up := by
    intro same
    subst same
    exact proper rfl
  simp only [Rings.act] at done
  split at done
  · cases done
  · rename_i unnamed
    obtain ⟨world, used, rest⟩ := Option.bind_eq_some_iff.mp done
    split at rest
    · cases rest
    · rename_i uncalled
      cases rest
      refine single.spare _ (refines_step s.world world (useLoop_step use live used) v refines)
        (useLoop_stops use used up runs) rfl ?_ single.named rfl
      intro poll member
      apply refines.use_frame use live used poll (not_polled s.polls _ unnamed poll member)
        (single.linked poll member).1
      intro other same
      subst same
      exact inCall_spared s.polls world other uncalled poll member

theorem Single.taskInit (single : Single up s) (task : T) (other : L)
    (addresses : Addresses T P R K) (done : s.act addresses (.taskInit task other) = some next) :
    Single up next := by
  obtain ⟨v, refines⟩ := single.refined
  simp only [Rings.act] at done
  split at done
  · rename_i free
    cases done
    refine single.spare _ ⟨v, refines.taskInit task other free.1⟩ rfl rfl ?_ single.named rfl
    intro poll member
    have apart : poll ≠ task := by
      intro same
      subst same
      exact absurd (member.symm.trans free.2) (by simp)
    simp [apart]
  · cases done

omit [DecidableEq L] [DecidableEq W] [DecidableEq P] [DecidableEq K] in
theorem Single.put (single : Single up s) (ring : T) (polls : s.polls ring = true)
    (after : RingLoop L T W P R K) (kept : after.deleted = false) (refined : ∃ v, Refines after.world v)
    (live : (after.world.loop up).txStop = (s.world.loop up).txStop)
    (tasks : ∀ poll, s.polls poll = true → after.world.task poll = s.world.task poll) :
    Single up (s.put ring after) := by
  have same : (s.put ring after).polls = s.polls := by
    simp only [Rings.put, kept, Bool.not_false]
    rw [← polls, Function.update_eq_self]
  exact single.spare _ refined live same tasks single.named rfl

theorem Single.onRing (single : Single up s) (addresses : Addresses T P R K) (timer : K)
    (use : RingUse L T W P R K) (about : (∃ umilsec, use = .reset timer umilsec) ∨ use = .stop timer ∨
      use = .drain timer) (done : s.onRing addresses timer use = some next) : Single up next := by
  obtain ⟨ring, _, rest⟩ := Option.bind_eq_some_iff.mp done
  split at rest
  · rename_i polls
    obtain ⟨after, used, same⟩ := Option.map_eq_some_iff.mp rest
    subst same
    rcases about with ⟨umilsec, same⟩ | same | same
    · subst same
      cases used
      exact single.put ring polls _ rfl single.refined rfl (fun _ _ => rfl)
    · subst same
      cases used
      exact single.put ring polls _ rfl single.refined rfl (fun _ _ => rfl)
    · subst same
      cases used
      obtain ⟨v, refines⟩ := single.refined
      cases idle : (s.timer timer).idle with
      | true =>
          apply single.put ring polls _ rfl
          · simpa [Rings.focus, idle] using single.refined
          · simp [Rings.focus, idle]
          · simp [Rings.focus, idle]
      | false =>
          have step := refines_step s.world _
            (.active s.world (s.txTask timer) (some (addresses.timer timer))) v refines
          apply single.put ring polls _ rfl
          · simpa [Rings.focus, idle, Addresses.callout] using step
          · cases named : s.txTask timer with
            | none => simp [Rings.focus, idle, named, txTaskActive]
            | some task => simp [Rings.focus, idle, named, txTaskActive_stops]
          · intro poll member
            cases named : s.txTask timer with
            | none => simp [Rings.focus, idle, named, txTaskActive]
            | some task =>
                have apart : poll ≠ task := by
                  intro same
                  subst same
                  exact absurd (member.symm.trans (single.named timer poll named)) (by simp)
                simp [Rings.focus, idle, named, txTaskActive_other _ _ _ _ apart]
  · cases rest

theorem Single.polling (single : Single up s) (addresses : Addresses T P R K) (poll : T) (reading : Nat)
    (slept : Option Nat) (done : s.act addresses (.polling poll reading slept) = some next) :
    Single up next := by
  obtain ⟨v, refines⟩ := single.refined
  simp only [Rings.act] at done
  split at done
  · rename_i polls
    obtain ⟨after, polled, same⟩ := Option.map_eq_some_iff.mp done
    subst same
    have unnamed : ∀ other, s.polls other = true → ∀ timer, s.txTask timer ≠ some other := by
      intro other member timer name
      exact absurd (member.symm.trans (single.named timer other name)) (by simp)
    have world := RingLoop.polling_world (addresses.callout poll) (s.focus poll) after v refines
      (unnamed poll polls) reading slept polled
    have gone := (RingLoop.polling_spec (unnamed poll polls) reading slept polled).2.2.1
    have left : ∀ other, (s.put poll after).polls other =
        if other = poll then !(s.world.loop (s.world.task poll).txLoop).txStop else s.polls other := by
      intro other
      simp [Rings.put, gone, Rings.focus, Addresses.callout, Function.update_apply]
    apply single.keep _ world.refined ((world.stops up).trans single.live)
    · intro other member
      rw [left] at member
      split at member
      · rename_i same
        exact same ▸ polls
      · exact member
    · intro other member own
      rw [left]
      split
      · rename_i same
        rw [← same, own, single.live]
        rfl
      · exact member
    · intro other member
      by_cases same : other = poll
      · subst same
        exact world.loop
      · exact congrArg TxTask.txLoop (world.others other same (unnamed other member))
    · intro other member
      by_cases same : other = poll
      · subst same
        refine ⟨world.pending, ?_⟩
        intro own
        calc
          _ = (s.world.loop (s.world.task other).txLoop).txStop := world.idle
          _ = false := by rw [own, single.live]
      · have flags := congrArg TxTask.txFlags (world.others other same (unnamed other member))
        have before := single.linked other member
        constructor
        · exact (congrArg TaskFlags.pending flags).trans before.1
        · intro own
          exact (congrArg TaskFlags.idle flags).trans (before.2 own)
    · exact single.named
    · rfl
  · cases done

end

variable [DecidableEq W]

omit [DecidableEq L] [DecidableEq W] in
theorem Single.queued (single : Single up s) (v : View L T W) (refines : Refines s.world v) (poll : T)
    (polls : s.polls poll = true) (own : (s.world.task poll).txLoop = up) :
    .task poll ∈ v.nodes (.taskq up) := by
  have flags := single.linked poll polls
  rcases refines.placed poll (flags.2 own) with queued | ⟨taskq, parked⟩
  · rw [own] at queued
    exact (mem_queueNodes up _ poll).mpr queued
  · exact absurd ((refines.pending poll).mpr ⟨taskq, parked⟩) (by simp [flags.1])

omit [DecidableEq L] [DecidableEq W] in
theorem Single.find_none (single : Single up s) (fuel : Nat) (found : s.find up fuel = some none)
    (poll : T) (polls : s.polls poll = true) : (s.world.task poll).txLoop ≠ up := by
  intro own
  obtain ⟨v, refines⟩ := single.refined
  have first := search_linked s.world.heap v.nodes refines.linked _ fuel _ _ found
  have silent := List.findSome?_eq_none_iff.mp first _ (single.queued v refines poll polls own)
  simp [pollingTask, polls] at silent

/-- What `tx_timer_ring_new` makes of its memory and of the world -/
structure Created (s made : Rings L T W P R K) (other : L) (fresh : T) : Prop where
  refined : ∃ v, Refines made.world v
  stops : ∀ up, (made.world.loop up).txStop = (s.world.loop up).txStop
  loop : (made.world.task fresh).txLoop = other
  pending : (made.world.task fresh).txFlags.pending = false
  idle : (made.world.task fresh).txFlags.idle = (s.world.loop other).txStop
  others : ∀ task, task ≠ fresh → made.world.task task = s.world.task task
  polls : ∀ task, made.polls task =
    if task = fresh then !(s.world.loop other).txStop else s.polls task

theorem Rings.created (addresses : Addresses T P R K) (v : View L T W) (refines : Refines s.world v)
    (other : L) (fresh : T) (reading : Nat) (unlinked : (s.world.task fresh).txFlags.idle = true) :
    Created s (s.create addresses other fresh reading) other fresh := by
  have inited := refines.taskInit fresh other unlinked
  generalize world : ({ s.world with
    task := Function.update s.world.task fresh (txTaskInit (s.world.task fresh) other) } :
      World L T W P R) = ready at inited
  have own : ready.task fresh = txTaskInit (s.world.task fresh) other := by
    rw [← world]
    exact Function.update_self ..
  have loops : ready.loop = s.world.loop := by rw [← world]
  have linked := txPollActive_own ready fresh
  have idle := txPollActive_idle ready fresh (by rw [own]; rfl)
  rw [own] at linked idle
  have made : (s.create addresses other fresh reading).world = txPollActive ready fresh := by
    rw [← world]
    rfl
  constructor
  · rw [made]
    exact inited.pollActive fresh
  · intro up
    rw [made, txPollActive_stops, loops]
  · rw [made]
    exact linked.1
  · rw [made]
    exact linked.2
  · rw [made, idle, loops]
    rfl
  · intro task apart
    rw [made, txPollActive_other ready fresh task apart, ← world]
    exact Function.update_of_ne apart ..
  · intro task
    have gone : (s.create addresses other fresh reading).polls =
        Function.update s.polls fresh (!((txPollActive ready fresh).task fresh).txFlags.idle) := by
      rw [← world]
      rfl
    rw [gone, Function.update_apply, idle, loops]
    rfl

omit [DecidableEq L] [DecidableEq W] in
theorem Single.create (single : Single up s) (made : Rings L T W P R K) (other : L) (fresh : T)
    (created : Created s made other fresh) (tasks : made.txTask = s.txTask) (gets : made.gets = s.gets)
    (free : s.Free fresh)
    (absent : other = up → ∀ poll, s.polls poll = true → (s.world.task poll).txLoop ≠ up) :
    Single up made := by
  have old : ∀ poll, s.polls poll = true → poll ≠ fresh := by
    intro poll polls same
    subst same
    exact absurd (polls.symm.trans free.unused) (by simp)
  have kept : ∀ poll, made.polls poll = true → poll ≠ fresh → s.polls poll = true := by
    intro poll polls apart
    rw [created.polls, if_neg apart] at polls
    exact polls
  have lone : ∀ poll, made.polls poll = true → poll ≠ fresh → (s.world.task poll).txLoop = up →
      (made.world.task fresh).txLoop ≠ up := by
    intro poll polls apart own same
    rw [created.loop] at same
    exact absent same poll (kept poll polls apart) own
  constructor
  · exact created.refined
  · exact (created.stops up).trans single.live
  · intro poll polls
    by_cases same : poll = fresh
    · subst same
      refine ⟨created.pending, ?_⟩
      intro own
      rw [created.loop] at own
      rw [created.idle, own, single.live]
    · rw [created.others poll same]
      exact single.linked poll (kept poll polls same)
  · intro poll also polls others own same
    by_cases new : poll = fresh
    · subst new
      by_cases both : also = poll
      · exact both.symm
      · rw [created.others also both] at same
        exact absurd own (lone also others both same)
    · rw [created.others poll new] at own
      by_cases both : also = fresh
      · subst both
        exact absurd same (lone poll polls new own)
      · rw [created.others also both] at same
        exact single.first poll also (kept poll polls new) (kept also others both) own same
  · intro timer task named
    rw [tasks] at named
    have apart : task ≠ fresh := by
      intro same
      exact free.unnamed timer (same ▸ named)
    rw [created.polls, if_neg apart]
    exact single.named timer task named
  · intro got member
    rw [gets] at member
    obtain ⟨ring, same, polls, own⟩ := single.got got member
    have apart := old ring polls
    refine ⟨ring, same, ?_, ?_⟩
    · rw [created.polls, if_neg apart]
      exact polls
    · rw [created.others ring apart]
      exact own

theorem Single.ringGet (single : Single up s) (addresses : Addresses T P R K) (other : L) (fuel : Nat)
    (fresh : T) (reading : Nat) (free : s.find other fuel = some none → s.Free fresh)
    (after : Rings L T W P R K) (got : Option T)
    (returned : txTimerRingGet addresses s other fuel fresh reading = some (after, got)) :
    Single up (after.note other got) := by
  obtain ⟨v, refines⟩ := single.refined
  obtain ⟨found, walked, same⟩ := Option.map_eq_some_iff.mp returned
  cases found with
  | some ring =>
      cases same
      obtain ⟨polls, own⟩ := Rings.find_some v refines other fuel ring walked
      exact single.note other (some ring) (fun equal => ⟨ring, rfl, polls, own.trans equal⟩)
  | none =>
      have room := free walked
      have created := Rings.created addresses v refines other fresh reading room.unlinked
      cases same
      apply (single.create _ other fresh created rfl rfl room ?_).note
      · intro equal
        have polls : (s.create addresses other fresh reading).polls fresh = true := by
          rw [created.polls, if_pos rfl, equal, single.live]
          rfl
        exact ⟨fresh, if_pos polls, polls, created.loop.trans equal⟩
      · intro equal
        subst equal
        exact single.find_none fuel walked

variable [DecidableEq P] [DecidableEq K]

theorem Single.act (single : Single up s) (addresses : Addresses T P R K) (use : RingsUse L T W P R K)
    (proper : s.Proper up use) (done : s.act addresses use = some next) : Single up next := by
  cases use with
  | loop use => exact single.loop use proper addresses done
  | taskInit task other => exact single.taskInit task other addresses done
  | getticks reading =>
      cases done
      exact single.spare _ single.refined rfl rfl (fun _ _ => rfl) single.named rfl
  | ringGet other fuel fresh reading =>
      obtain ⟨got, returned, same⟩ := Option.map_eq_some_iff.mp done
      subst same
      exact single.ringGet addresses other fuel fresh reading proper got.1 got.2 returned
  | initLoop timer other task fuel fresh reading =>
      obtain ⟨got, returned, inited⟩ := Option.bind_eq_some_iff.mp done
      have kept := single.ringGet addresses other fuel fresh reading proper got.1 got.2 returned
      exact kept.init timer got.2 task inited
  | init timer provider task => exact single.init timer provider task done
  | reset timer umilsec => exact single.onRing addresses timer _ (Or.inl ⟨umilsec, rfl⟩) done
  | stop timer =>
      simp only [Rings.act] at done
      split at done
      · cases done
        exact single
      · exact single.onRing addresses timer _ (Or.inr (Or.inl rfl)) done
  | drain timer =>
      simp only [Rings.act] at done
      split at done
      · cases done
        exact single
      · exact single.onRing addresses timer _ (Or.inr (Or.inr rfl)) done
  | polling poll reading slept => exact single.polling addresses poll reading slept done

end Keep

def pollingNodes (polls : T → Bool) (nodes : List (Node L T)) : List (Node L T) :=
  nodes.filter (fun node => (pollingTask polls node).isSome)

variable [DecidableEq L] [DecidableEq W] [DecidableEq P] [DecidableEq K]

/-- `tx_timer_ring_get` has returned one ring for the loop, the ring of the one task on its queue
that carries the call `tx_timer_polling`, and returns when it is called again. -/
structure OneRing (addresses : Addresses T P R K) (up : L) (s : Rings L T W P R K) : Prop where
  same : ∀ first ∈ s.gets up, ∀ second ∈ s.gets up, first = second
  linked : ∀ got ∈ s.gets up, ∃ lists ring, got = some ring ∧ Linked s.world.heap lists ∧
    pollingNodes s.polls (lists (.taskq up)) = [.task ring]
  returns : ∀ fresh reading, ∃ enough, ∀ fuel, enough ≤ fuel →
    ∃ next, s.act addresses (.ringGet up fuel fresh reading) = some next

theorem filter_only {N : Type} [DecidableEq N] (nodes : List N) (nodup : nodes.Nodup) (node : N)
    (member : node ∈ nodes) (answers : N → Bool)
    (only : ∀ other ∈ nodes, answers other = true ↔ other = node) : nodes.filter answers = [node] := by
  have same : nodes.filter answers = nodes.filter (fun other => other == node) := by
    apply List.filter_congr
    intro other inside
    rw [Bool.eq_iff_iff, only other inside, beq_iff_eq]
  rw [same, List.filter_beq, List.count_eq_one_of_mem nodup member]
  rfl

theorem Single.oneRing {up : L} {s : Rings L T W P R K} (single : Single up s)
    (addresses : Addresses T P R K) : OneRing addresses up s := by
  obtain ⟨v, refines⟩ := single.refined
  constructor
  · intro first early second late
    obtain ⟨ring, same, polls, own⟩ := single.got first early
    obtain ⟨other, also, others, owns⟩ := single.got second late
    rw [same, also, single.first ring other polls others own owns]
  · intro got member
    obtain ⟨ring, same, polls, own⟩ := single.got got member
    refine ⟨v.nodes, ring, same, refines.linked, ?_⟩
    apply filter_only _ (linked_nodup s.world.heap v.nodes refines.linked (.taskq up))
    · exact single.queued v refines ring polls own
    · intro node inside
      constructor
      · intro answers
        obtain ⟨other, found⟩ := Option.isSome_iff_exists.mp answers
        obtain ⟨equal, others⟩ := pollingTask_some s.polls node other found
        subst equal
        have queued := refines.own up other ((mem_queueNodes up _ other).mp inside)
        rw [single.first other ring others polls queued own]
      · intro equal
        subst equal
        simp [pollingTask, polls]
  · intro fresh reading
    refine ⟨(v.nodes (.taskq up)).length, ?_⟩
    intro fuel enough
    obtain ⟨found, walked⟩ := search_returns s.world.heap v.nodes refines.linked (pollingTask s.polls)
      fuel (.taskq up) enough
    have here : s.find up fuel = some found := walked
    simp [Rings.act, txTimerRingGet, here]

/-- Along any run of a loop that is not stopped, all calls for its ring return the same one. -/
theorem one_ring (addresses : Addresses T P R K) (memory : Rings L T W P R K) (loopOf : T → L) (up : L)
    (uses : List (RingsUse L T W P R K))
    (proper : Runs.Allowed (Rings.act addresses) (Rings.Proper up) (Rings.start memory loopOf) uses)
    (last : Rings L T W P R K)
    (ended : Runs.run (Rings.act addresses) (Rings.start memory loopOf) uses = some last) :
    OneRing addresses up last := by
  have single := Runs.keeps_run (Rings.Proper up) (Single up)
    (fun _ use _ allowed held done => held.act addresses use allowed done)
    (Rings.start memory loopOf) last uses proper (single_start memory loopOf up) ended
  exact single.oneRing addresses

def pairAddresses : Addresses Bool Unit Unit Unit := ⟨fun _ => (), fun _ => ()⟩

def pairRings : Rings Unit Bool Unit Unit Unit Unit where
  world := pairStart
  polls := fun _ => false
  ring := fun _ => (txTimerRingNew 0).ring
  polled := fun _ => 0
  timer := fun _ => ⟨true, 0⟩
  txRing := fun _ => none
  txTask := fun _ => none
  txTicks := 0
  calls := []
  clock := 0
  gets := fun _ => []

def callbackUses : List (RingsUse Unit Bool Unit Unit Unit Unit) :=
  [.loop (.task (.active (some false) none)), .loop (.enter ()), .loop (.test ()), .ringGet () 3 true 0,
    .initLoop () () (some false) 3 true 0, .loop (.breaks ()), .loop (.returned ()), .loop (.test ()),
    .ringGet () 3 true 0, .loop (.enter ())]

def callbackRings : Rings Unit Bool Unit Unit Unit Unit :=
  (Runs.run (Rings.act pairAddresses) (Rings.start pairRings (fun _ => ())) callbackUses).getD pairRings

theorem callback_quiet : txTimerPolling (callbackRings.focus true).timers 0 (some 0) =
    txGetticks ((callbackRings.focus true).timers.open 0) 0 := by
  have wheels (hand : Hand) : ¬ 0 ≤ asInt ((callbackRings.focus true).timers.lag hand (UInt32.ofNat 0)) := by
    cases hand <;> decide
  have scan : ¬ Swept (callbackRings.focus true).timers (UInt32.ofNat 0) .st := by
    unfold Swept
    decide
  rw [polling_eq]
  dsimp only
  rw [polledAt_quiet (callbackRings.focus true).timers 0 wheels scan]

theorem callback_polls :
    ∃ next, callbackRings.act pairAddresses (.polling true 0 (some 0)) = some next := by
  have polls : callbackRings.polls true = true := rfl
  apply Option.isSome_iff_exists.mp
  rw [Rings.act, if_pos polls, Option.isSome_map, RingLoop.polling, callback_quiet]
  rfl

theorem one_ring_callback : ∃ last : Rings Unit Bool Unit Unit Unit Unit,
    last.gets () = [some true, some true, some true] ∧ OneRing pairAddresses () last := by
  obtain ⟨last, polled⟩ := callback_polls
  refine ⟨last, ?_, ?_⟩
  · obtain ⟨_, _, same⟩ := Option.map_eq_some_iff.mp polled
    subst same
    rfl
  · apply one_ring pairAddresses pairRings (fun _ => ()) () (callbackUses ++ [.polling true 0 (some 0)]) _
      last
    · exact (Runs.run_append _ _ _ _).mpr
        ⟨callbackRings, rfl, (Runs.run_cons _ _ _ _).mpr ⟨last, polled, rfl⟩⟩
    · refine Runs.allowed_cons _ _ _ _ _ trivial rfl (Runs.allowed_cons _ _ _ _ _ trivial rfl
        (Runs.allowed_cons _ _ _ _ _ trivial rfl (Runs.allowed_cons _ _ _ _ _ ?_ rfl
          (Runs.allowed_cons _ _ _ _ _ ?_ rfl (Runs.allowed_cons _ _ _ _ _ trivial rfl
            (Runs.allowed_cons _ _ _ _ _ trivial rfl (Runs.allowed_cons _ _ _ _ _ trivial rfl
              (Runs.allowed_cons _ _ _ _ _ ?_ rfl (Runs.allowed_cons _ _ _ _ _ trivial rfl
                (Runs.allowed_cons _ _ last _ _ trivial polled trivial))))))))))
      · exact fun _ => ⟨rfl, rfl, fun _ name => by cases name⟩
      · exact fun walked => by cases walked
      · exact fun walked => by cases walked

end Libtx
