import Libtx.Intrusive.Heap
import Mathlib.Data.List.Induction

namespace Intrusive

variable {H N : Type}

/-- The links from `start` spell out the nodes and then lead to null. -/
def Chain (m : Heap H N) : Slot H N → List N → Prop
  | start, [] => m.read start = none
  | start, node :: nodes => m.read start = some node ∧ m.lePrev node = start ∧ Chain m (.next node) nodes

/-- The links from `start` spell out the nodes and stop at the slot `stop`. -/
def Seg (m : Heap H N) : Slot H N → List N → Slot H N → Prop
  | start, [], stop => start = stop
  | start, node :: nodes, stop =>
      m.read start = some node ∧ m.lePrev node = start ∧ Seg m (.next node) nodes stop

def Holds (m : Heap H N) (head : H) (node : N) : Prop :=
  ∃ nodes, Chain m (.first head) nodes ∧ node ∈ nodes

/-- Every head leads to the nodes that `lists` gives for it. -/
def Linked (m : Heap H N) (lists : H → List N) : Prop := ∀ head, Chain m (.first head) (lists head)

theorem chain_unique (m : Heap H N) (start : Slot H N) (nodes others : List N)
    (first : Chain m start nodes) (second : Chain m start others) : nodes = others := by
  induction nodes generalizing start others with
  | nil =>
      cases others with
      | nil => rfl
      | cons other tail => exact absurd (first.symm.trans second.1) (by simp)
  | cons node nodes ih =>
      cases others with
      | nil => exact absurd (first.1.symm.trans second) (by simp)
      | cons other tail =>
          have same := first.1.symm.trans second.1
          injection same with same
          subst same
          rw [ih (.next node) tail first.2.2 second.2.2]

theorem holds_iff (m : Heap H N) (lists : H → List N) (linked : Linked m lists) (head : H) (node : N) :
    Holds m head node ↔ node ∈ lists head := by
  constructor
  · intro held
    obtain ⟨nodes, chain, member⟩ := held
    rwa [chain_unique m (.first head) _ _ (linked head) chain]
  · intro member
    exact ⟨lists head, linked head, member⟩

theorem chain_append (m : Heap H N) (start : Slot H N) (front back : List N) :
    Chain m start (front ++ back) ↔ ∃ stop, Seg m start front stop ∧ Chain m stop back := by
  induction front generalizing start with
  | nil => simp [Seg]
  | cons node nodes ih => simp [Chain, Seg, ih, and_assoc]

theorem seg_append (m : Heap H N) (start stop : Slot H N) (front back : List N) :
    Seg m start (front ++ back) stop ↔ ∃ middle, Seg m start front middle ∧ Seg m middle back stop := by
  induction front generalizing start with
  | nil => simp [Seg]
  | cons node nodes ih => simp [Seg, ih, and_assoc]

theorem seg_stop (m : Heap H N) (start stop : Slot H N) (nodes : List N)
    (segment : Seg m start nodes stop) : stop = start ∨ ∃ node ∈ nodes, stop = .next node := by
  induction nodes generalizing start with
  | nil => exact Or.inl segment.symm
  | cons node nodes ih =>
      rcases ih (.next node) segment.2.2 with same | ⟨last, member, same⟩
      · exact Or.inr ⟨node, List.mem_cons_self, same⟩
      · exact Or.inr ⟨last, List.mem_cons_of_mem _ member, same⟩

theorem seg_stop_next (m : Heap H N) (head : H) (stop : Slot H N) (nodes : List N)
    (segment : Seg m (.first head) nodes stop) (node : N) (same : .next node = stop) : node ∈ nodes := by
  rcases seg_stop m _ _ _ segment with atHead | ⟨last, inside, found⟩
  · exact absurd (same.trans atHead) (by simp)
  · have equal := same.trans found
    injection equal with equal
    exact equal ▸ inside

theorem seg_stop_first (m : Heap H N) (head : H) (stop : Slot H N) (nodes : List N)
    (segment : Seg m (.first head) nodes stop) (other : H) (same : .first other = stop) : other = head := by
  rcases seg_stop m _ _ _ segment with atHead | ⟨last, inside, atLast⟩
  · have heads := same.trans atHead
    injection heads
  · exact absurd (same.trans atLast) (by simp)

theorem chain_frame (m changed : Heap H N) (start : Slot H N) (nodes : List N)
    (chain : Chain m start nodes) (head : changed.read start = m.read start)
    (forward : ∀ node ∈ nodes, changed.leNext node = m.leNext node)
    (backward : ∀ node ∈ nodes, changed.lePrev node = m.lePrev node) :
    Chain changed start nodes := by
  induction nodes generalizing start with
  | nil => exact head.trans chain
  | cons node nodes ih =>
      refine ⟨head.trans chain.1, ?_, ?_⟩
      · exact (backward node List.mem_cons_self).trans chain.2.1
      · apply ih (.next node) chain.2.2
        · exact forward node List.mem_cons_self
        · intro other member
          exact forward other (List.mem_cons_of_mem node member)
        · intro other member
          exact backward other (List.mem_cons_of_mem node member)

theorem seg_frame (m changed : Heap H N) (start stop : Slot H N) (nodes : List N)
    (segment : Seg m start nodes stop) (nodup : nodes.Nodup)
    (outside : ∀ node ∈ nodes, start ≠ .next node)
    (reads : ∀ slot, slot ≠ stop → (slot = start ∨ ∃ node ∈ nodes, slot = .next node) →
      changed.read slot = m.read slot)
    (backward : ∀ node ∈ nodes, changed.lePrev node = m.lePrev node) :
    Seg changed start nodes stop := by
  induction nodes generalizing start with
  | nil => exact segment
  | cons node nodes ih =>
      have fresh := List.nodup_cons.mp nodup
      have apart : start ≠ stop := by
        rcases seg_stop m (.next node) stop nodes segment.2.2 with same | ⟨last, member, same⟩
        · rw [same]
          exact outside node List.mem_cons_self
        · rw [same]
          exact outside last (List.mem_cons_of_mem node member)
      refine ⟨(reads start apart (Or.inl rfl)).trans segment.1, ?_, ?_⟩
      · exact (backward node List.mem_cons_self).trans segment.2.1
      · apply ih (.next node) segment.2.2 fresh.2
        · intro other member same
          injection same with same
          exact fresh.1 (same ▸ member)
        · intro slot differs visited
          apply reads slot differs
          rcases visited with same | ⟨other, member, same⟩
          · exact Or.inr ⟨node, List.mem_cons_self, same⟩
          · exact Or.inr ⟨other, List.mem_cons_of_mem node member, same⟩
        · intro other member
          exact backward other (List.mem_cons_of_mem node member)

theorem seg_unique (m : Heap H N) (left right : H) (front other : List N) (stop : Slot H N)
    (first : Seg m (.first left) front stop) (second : Seg m (.first right) other stop) :
    left = right ∧ front = other := by
  induction front using List.reverseRecOn generalizing other stop with
  | nil =>
      have atHead : Slot.first left = stop := first
      rcases List.eq_nil_or_concat' other with rfl | ⟨before, last, rfl⟩
      · have same : Slot.first right = stop := second
        have heads : Slot.first left = Slot.first right := atHead.trans same.symm
        injection heads with heads
        exact ⟨heads, rfl⟩
      · obtain ⟨middle, _, step⟩ := (seg_append m _ _ _ _).mp second
        exact absurd (atHead.trans step.2.2.symm) (by simp)
  | append_singleton front last ih =>
      obtain ⟨middle, before, step⟩ := (seg_append m _ _ _ _).mp first
      rcases List.eq_nil_or_concat' other with rfl | ⟨earlier, final, rfl⟩
      · have same : Slot.first right = stop := second
        exact absurd (same.trans step.2.2.symm) (by simp)
      · obtain ⟨between, previous, tail⟩ := (seg_append m _ _ _ _).mp second
        have lastStop : (Slot.next last : Slot H N) = stop := step.2.2
        have finalStop : (Slot.next final : Slot H N) = stop := tail.2.2
        have lasts := lastStop.trans finalStop.symm
        injection lasts with lasts
        subst lasts
        have middles : middle = between := step.2.1.symm.trans tail.2.1
        subst middles
        obtain ⟨heads, fronts⟩ := ih earlier middle before previous
        exact ⟨heads, by rw [fronts]⟩

theorem linked_split (m : Heap H N) (lists : H → List N) (linked : Linked m lists) (head : H)
    (front back : List N) (node : N) (split : lists head = front ++ node :: back) :
    Seg m (.first head) front (m.lePrev node) ∧ m.read (m.lePrev node) = some node ∧
      Chain m (.next node) back := by
  have chain := linked head
  rw [split, chain_append] at chain
  obtain ⟨stop, segment, reads, backward, rest⟩ := chain
  subst backward
  exact ⟨segment, reads, rest⟩

theorem linked_position (m : Heap H N) (lists : H → List N) (linked : Linked m lists)
    (left right : H) (front back front' back' : List N) (node : N)
    (first : lists left = front ++ node :: back) (second : lists right = front' ++ node :: back') :
    left = right ∧ front = front' :=
  seg_unique m left right front front' (m.lePrev node)
    (linked_split m lists linked left front back node first).1
    (linked_split m lists linked right front' back' node second).1

theorem linked_one_head (m : Heap H N) (lists : H → List N) (linked : Linked m lists)
    (left right : H) (node : N) (first : node ∈ lists left) (second : node ∈ lists right) :
    left = right := by
  obtain ⟨front, back, split⟩ := List.append_of_mem first
  obtain ⟨front', back', split'⟩ := List.append_of_mem second
  exact (linked_position m lists linked left right front back front' back' node split split').1

theorem linked_nodup (m : Heap H N) (lists : H → List N) (linked : Linked m lists) (head : H) :
    (lists head).Nodup := by
  have split (i : Nat) (bound : i < (lists head).length) :
      lists head = (lists head).take i ++ (lists head)[i] :: (lists head).drop (i + 1) := by
    rw [← List.drop_eq_getElem_cons bound, List.take_append_drop]
  apply List.pairwise_iff_getElem.mpr
  intro i j boundI boundJ before same
  have later := split j boundJ
  rw [← same] at later
  have fronts := (linked_position m lists linked head head _ _ _ _ _ (split i boundI) later).2
  have lengths := congrArg List.length fronts
  rw [List.length_take_of_le (by omega), List.length_take_of_le (by omega)] at lengths
  omega

theorem chain_head (m : Heap H N) (start : Slot H N) (nodes : List N) (chain : Chain m start nodes) :
    m.read start = nodes.head? := by
  cases nodes with
  | nil => exact chain
  | cons node nodes => exact chain.1

variable [DecidableEq N]

def unlink (lists : H → List N) (node : N) (head : H) : List N :=
  (lists head).filter (fun other => decide (other ≠ node))

@[simp] theorem mem_unlink (lists : H → List N) (node other : N) (head : H) :
    other ∈ unlink lists node head ↔ other ∈ lists head ∧ other ≠ node := by
  simp [unlink]

theorem unlink_same (lists : H → List N) (node : N) (head : H) (absent : node ∉ lists head) :
    unlink lists node head = lists head := by
  apply List.filter_eq_self.mpr
  intro other member
  have apart : other ≠ node := fun same => absent (same ▸ member)
  simpa using apart

theorem unlink_split (lists : H → List N) (node : N) (head : H) (front back : List N)
    (split : lists head = front ++ node :: back) (nodup : (lists head).Nodup) :
    unlink lists node head = front ++ back := by
  rw [split] at nodup
  have apart := List.nodup_append.mp nodup
  have frontKept : front.filter (fun other => decide (other ≠ node)) = front := by
    apply List.filter_eq_self.mpr
    intro other member
    simpa using apart.2.2 other member node List.mem_cons_self
  have backKept : back.filter (fun other => decide (other ≠ node)) = back := by
    apply List.filter_eq_self.mpr
    intro other member
    have absent := (List.nodup_cons.mp apart.2.1).1
    have differs : other ≠ node := fun same => absent (same ▸ member)
    simpa using differs
  rw [unlink, split, List.filter_append, List.filter_cons_of_neg (by simp), frontKept, backKept]

variable [DecidableEq H]

theorem linked_listInit (m : Heap H N) (lists : H → List N) (linked : Linked m lists) (head : H) :
    Linked (m.listInit head) (Function.update lists head []) := by
  intro other
  by_cases same : other = head
  · subst same
    simp [Chain, Heap.listInit]
  · rw [Function.update_of_ne same]
    apply chain_frame m (m.listInit head) (.first other) _ (linked other)
    · simp [Heap.listInit, same]
    · intro node member
      rfl
    · intro node member
      rfl

theorem linked_listRemove (m : Heap H N) (lists : H → List N) (linked : Linked m lists) (head : H)
    (node : N) (member : node ∈ lists head) : Linked (m.listRemove node) (unlink lists node) := by
  obtain ⟨front, back, split⟩ := List.append_of_mem member
  obtain ⟨segment, reads, rest⟩ := linked_split m lists linked head front back node split
  have nodup := linked_nodup m lists linked head
  have parts : (front ++ node :: back).Nodup := split ▸ nodup
  have apart := List.nodup_append.mp parts
  have fresh := List.nodup_cons.mp apart.2.1
  have before : ∀ other, .next other = m.lePrev node → other ∈ front := seg_stop_next m head _ front segment
  have after : ∀ other, m.leNext node = some other → other ∈ back := by
    intro other found
    have first := chain_head m (.next node) back rest
    rw [read_next, found] at first
    exact List.mem_of_mem_head? first.symm
  intro other
  by_cases same : other = head
  · subst same
    rw [unlink_split lists node other front back split nodup, chain_append]
    refine ⟨m.lePrev node, ?_, ?_⟩
    · apply seg_frame m (m.listRemove node) _ _ front segment apart.1
      · intro inner inside
        simp
      · intro slot differs visited
        rw [read_listRemove, if_neg differs]
      · intro inner inside
        rw [lePrev_listRemove, if_neg]
        intro found
        exact apart.2.2 inner inside inner (List.mem_cons_of_mem node (after inner found)) rfl
    · cases back with
      | nil =>
          have last : m.leNext node = none := rest
          simp [Chain, read_listRemove, last]
      | cons successor tail =>
          have next : m.leNext node = some successor := rest.1
          have tailFresh := List.nodup_cons.mp fresh.2
          have untouched : ∀ inner ∈ successor :: tail, .next inner ≠ m.lePrev node := by
            intro inner inside found
            exact apart.2.2 inner (before inner found) inner (List.mem_cons_of_mem node inside) rfl
          refine ⟨?_, ?_, ?_⟩
          · simp [read_listRemove, next]
          · simp [lePrev_listRemove, next]
          · apply chain_frame m (m.listRemove node) (.next successor) tail rest.2.2
            · rw [read_listRemove, if_neg (untouched successor List.mem_cons_self)]
            · intro inner inside
              rw [← read_next, read_listRemove,
                if_neg (untouched inner (List.mem_cons_of_mem successor inside)), read_next]
            · intro inner inside
              rw [lePrev_listRemove, if_neg]
              intro found
              rw [next] at found
              injection found with found
              exact tailFresh.1 (found ▸ inside)
  · have outside : ∀ inner ∈ lists other, inner ∉ lists head := by
      intro inner inside twice
      exact same (linked_one_head m lists linked other head inner inside twice)
    have absent : node ∉ lists other := fun inside => outside node inside member
    rw [unlink_same lists node other absent]
    apply chain_frame m (m.listRemove node) (.first other) _ (linked other)
    · rw [read_listRemove, if_neg]
      exact fun found => same (seg_stop_first m head _ front segment other found)
    · intro inner inside
      rw [← read_next, read_listRemove, if_neg, read_next]
      intro found
      apply outside inner inside
      rw [split]
      exact List.mem_append_left _ (before inner found)
    · intro inner inside
      rw [lePrev_listRemove, if_neg]
      intro found
      apply outside inner inside
      rw [split]
      exact List.mem_append_right _ (List.mem_cons_of_mem node (after inner found))

theorem linked_listInsertHead (m : Heap H N) (lists : H → List N) (linked : Linked m lists)
    (head : H) (elm : N) (fresh : ∀ other, elm ∉ lists other) :
    Linked (m.listInsertHead head elm) (Function.update lists head (elm :: lists head)) := by
  have first := chain_head m (.first head) (lists head) (linked head)
  rw [read_first] at first
  intro other
  by_cases same : other = head
  · subst same
    rw [Function.update_self]
    refine ⟨by simp [read_listInsertHead], by simp [lePrev_listInsertHead], ?_⟩
    have chain := linked other
    have nodup := linked_nodup m lists linked other
    have absent := fresh other
    cases nodes : lists other with
    | nil =>
        rw [nodes] at first
        simp [Chain, read_listInsertHead, first]
    | cons node tail =>
        rw [nodes] at first chain nodup absent
        have apart : node ≠ elm := fun equal => absent (equal ▸ List.mem_cons_self)
        refine ⟨?_, ?_, ?_⟩
        · simp [read_listInsertHead, first]
        · simp [lePrev_listInsertHead, first, apart]
        · apply chain_frame m (m.listInsertHead other elm) (.next node) tail chain.2.2
          · simp [read_listInsertHead, apart]
          · intro inner inside
            have differs : inner ≠ elm := fun equal => absent (equal ▸ List.mem_cons_of_mem node inside)
            simp [← read_next, read_listInsertHead, differs]
          · intro inner inside
            have differs : inner ≠ elm := fun equal => absent (equal ▸ List.mem_cons_of_mem node inside)
            have moved : node ≠ inner := fun equal => (List.nodup_cons.mp nodup).1 (equal ▸ inside)
            simp [lePrev_listInsertHead, first, differs, moved]
  · rw [Function.update_of_ne same]
    apply chain_frame m (m.listInsertHead head elm) (.first other) _ (linked other)
    · simp [read_listInsertHead, same]
    · intro inner inside
      have differs : inner ≠ elm := fun equal => fresh other (equal ▸ inside)
      simp [← read_next, read_listInsertHead, differs]
    · intro inner inside
      have differs : inner ≠ elm := fun equal => fresh other (equal ▸ inside)
      have elsewhere : m.lhFirst head ≠ some inner := by
        intro found
        rw [first] at found
        exact same (linked_one_head m lists linked other head inner inside
          (List.mem_of_mem_head? found))
      simp [lePrev_listInsertHead, differs, elsewhere]

theorem linked_listInsertBefore (m : Heap H N) (lists : H → List N) (linked : Linked m lists)
    (head : H) (front back : List N) (listelm elm : N)
    (split : lists head = front ++ listelm :: back) (fresh : ∀ other, elm ∉ lists other) :
    Linked (m.listInsertBefore listelm elm)
      (Function.update lists head (front ++ elm :: listelm :: back)) := by
  obtain ⟨segment, reads, rest⟩ := linked_split m lists linked head front back listelm split
  have nodup := linked_nodup m lists linked head
  have absent := fresh head
  rw [split] at nodup absent
  have apart := List.nodup_append.mp nodup
  have before : ∀ other, .next other = m.lePrev listelm → other ∈ front := seg_stop_next m head _ front segment
  have newNode : ∀ other, ∀ inner ∈ lists other, inner ≠ elm := by
    intro other inner inside equal
    exact fresh other (equal ▸ inside)
  have apartElm : listelm ≠ elm := newNode head listelm (by rw [split]; simp)
  have unread : ∀ inner ∈ listelm :: back, .next inner ≠ m.lePrev listelm := by
    intro inner inside found
    exact apart.2.2 inner (before inner found) inner inside rfl
  intro other
  by_cases same : other = head
  · subst same
    rw [Function.update_self, chain_append]
    refine ⟨m.lePrev listelm, ?_, ?_, ?_, ?_, ?_, ?_⟩
    · apply seg_frame m (m.listInsertBefore listelm elm) _ _ front segment apart.1
      · intro inner inside
        simp
      · intro slot differs visited
        have notNew : slot ≠ .next elm := by
          rcases visited with atHead | ⟨inner, inside, found⟩
          · simp [atHead]
          · intro equal
            have same := equal.symm.trans found
            injection same with same
            exact absent (same ▸ List.mem_append_left _ inside)
        rw [read_listInsertBefore, if_neg differs, if_neg notNew]
      · intro inner inside
        have notElm : inner ≠ elm := fun equal => absent (equal ▸ List.mem_append_left _ inside)
        have notListelm : inner ≠ listelm := apart.2.2 inner inside listelm List.mem_cons_self
        rw [lePrev_listInsertBefore, if_neg notListelm, if_neg notElm]
    · simp [read_listInsertBefore]
    · simp [lePrev_listInsertBefore, apartElm.symm]
    · have moved : Slot.next elm ≠ m.lePrev listelm := by
        intro found
        exact absent (List.mem_append_left _ (before elm found))
      rw [read_listInsertBefore, if_neg moved, if_pos rfl]
    · simp [lePrev_listInsertBefore]
    · apply chain_frame m (m.listInsertBefore listelm elm) (.next listelm) back rest
      · rw [read_listInsertBefore, if_neg (unread listelm List.mem_cons_self), if_neg]
        intro equal
        injection equal with equal
        exact apartElm equal
      · intro inner inside
        have notElm : inner ≠ elm := newNode other inner (by rw [split]; simp [inside])
        rw [← read_next, read_listInsertBefore,
          if_neg (unread inner (List.mem_cons_of_mem listelm inside)), if_neg (by simpa using notElm),
          read_next]
      · intro inner inside
        have notElm : inner ≠ elm := newNode other inner (by rw [split]; simp [inside])
        have notListelm : inner ≠ listelm := by
          intro equal
          exact (List.nodup_cons.mp apart.2.1).1 (equal ▸ inside)
        rw [lePrev_listInsertBefore, if_neg notListelm, if_neg notElm]
  · rw [Function.update_of_ne same]
    have outside : ∀ inner ∈ lists other, inner ∉ lists head := by
      intro inner inside twice
      exact same (linked_one_head m lists linked other head inner inside twice)
    apply chain_frame m (m.listInsertBefore listelm elm) (.first other) _ (linked other)
    · rw [read_listInsertBefore, if_neg, if_neg (by simp)]
      exact fun found => same (seg_stop_first m head _ front segment other found)
    · intro inner inside
      rw [← read_next, read_listInsertBefore, if_neg, if_neg (by simpa using newNode other inner inside),
        read_next]
      intro found
      apply outside inner inside
      rw [split]
      exact List.mem_append_left _ (before inner found)
    · intro inner inside
      have notListelm : inner ≠ listelm := by
        intro equal
        apply outside inner inside
        rw [split, equal]
        simp
      rw [lePrev_listInsertBefore, if_neg notListelm, if_neg (newNode other inner inside)]

end Intrusive
