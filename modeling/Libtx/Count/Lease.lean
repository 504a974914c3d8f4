import Mathlib.Data.List.Basic
import Mathlib.Data.List.Nodup
import Mathlib.Logic.Function.Basic

/-! Reference-counted objects. An object is kept by its owner and by the operations on it that
are in flight, and it is deleted when its count falls to zero. -/

namespace Count

/-- `cell` is the count and the owner of an allocated object. -/
structure Leases (F O K : Type) where
  holds : F → Option O
  cell : O → Option (Int × Option F)
  flight : List (O × K)
  allocated : List O
  created : List O
  deleted : List O

variable {F O K : Type} [DecidableEq O]

def Leases.flights (s : Leases F O K) (address : O) : Nat :=
  s.flight.countP (fun operation => decide (operation.1 = address))

def Leases.setCell (s : Leases F O K) (address : O) (count : Int) (owner : Option F) : Leases F O K :=
  { s with cell := Function.update s.cell address (some (count, owner)) }

section

variable [DecidableEq F]

def Leases.attach (s : Leases F O K) (filp : F) (address : O) : Leases F O K :=
  { s with
    holds := Function.update s.holds filp (some address)
    cell := Function.update s.cell address (some (1, some filp))
    allocated := address :: s.allocated
    created := s.created ++ [address] }

def Leases.start (s : Leases F O K) (address : O) (count : Int) (owner : Option F) (kind : K) :
    Leases F O K :=
  { s.setCell address (count + 1) owner with flight := (address, kind) :: s.flight }

def Leases.delete (s : Leases F O K) (address : O) : Leases F O K :=
  { s with
    cell := Function.update s.cell address none
    allocated := s.allocated.erase address
    deleted := s.deleted ++ [address] }

def Leases.unref (s : Leases F O K) (address : O) (count : Int) (owner : Option F) : Leases F O K :=
  if count - 1 = 0 then s.delete address else s.setCell address (count - 1) owner

def Leases.leave (s : Leases F O K) (filp : F) (address : O) (count : Int) : Leases F O K :=
  { s.setCell address count none with holds := Function.update s.holds filp none }

end

section

variable [DecidableEq K]

def Leases.told (s : Leases F O K) (address : O) (kind : K) : Leases F O K :=
  { s with flight := s.flight.erase (address, kind) }

end

/-- Every count is the owner, the operations in flight and what is still `owed`; an object is
allocated as long as its count is not zero. -/
structure Leases.Sound (owed : O → Nat) (s : Leases F O K) : Prop where
  free : ∀ address kind, s.cell address = none → (address, kind) ∉ s.flight
  counted : ∀ address count owner, s.cell address = some (count, owner) →
    count = owner.isSome.toNat + s.flights address + owed address ∧ 0 < count
  once : s.flight.Nodup
  owns : ∀ filp address, s.holds filp = some address ↔ ∃ count, s.cell address = some (count, some filp)
  nodup : s.allocated.Nodup
  listed : ∀ address, address ∈ s.allocated ↔ (s.cell address).isSome = true
  tally : ∀ address,
    s.created.count address = s.deleted.count address + (s.cell address).isSome.toNat

section Moves

variable {s : Leases F O K}

theorem flights_zero (address : O) (none : ∀ kind, (address, kind) ∉ s.flight) : s.flights address = 0 := by
  rw [Leases.flights, List.countP_eq_zero]
  intro operation member
  have apart : operation.1 ≠ address := by
    intro same
    exact none operation.2 (same ▸ member)
  simpa using apart

theorem flights_pos (address : O) (kind : K) (member : (address, kind) ∈ s.flight) :
    0 < s.flights address := by
  rw [Leases.flights, List.countP_pos_iff]
  exact ⟨(address, kind), member, by simp⟩

theorem Leases.Sound.recount {owed : O → Nat} (sound : s.Sound owed) (address : O) (count moved : Int)
    (owner : Option F) (found : s.cell address = some (count, owner)) (flight : List (O × K))
    (once : flight.Nodup) (inside : ∀ operation ∈ flight, operation.1 = address ∨ operation ∈ s.flight)
    (left : O → Nat) (kept : ∀ other, other ≠ address →
      Leases.flights { s with flight := flight } other = s.flights other ∧ left other = owed other)
    (balance : moved = owner.isSome.toNat + Leases.flights { s with flight := flight } address + left address ∧
      0 < moved) :
    ({ s.setCell address moved owner with flight := flight }).Sound left where
  free := by
    intro other kind unallocated member
    by_cases same : other = address
    · simp [Leases.setCell, same] at unallocated
    · rcases inside (other, kind) member with here | before
      · exact same here
      · exact sound.free other kind (by simpa [Leases.setCell, same] using unallocated) before
  counted := by
    intro other value holder held
    by_cases same : other = address
    · subst same
      simp only [Leases.setCell, Function.update_self, Option.some.injEq, Prod.mk.injEq] at held
      obtain ⟨rfl, rfl⟩ := held
      exact balance
    · obtain ⟨flights, owes⟩ := kept other same
      have before := sound.counted other value holder (by simpa [Leases.setCell, same] using held)
      rw [← flights, ← owes] at before
      exact before
  once := once
  owns := by
    intro filp place
    by_cases same : place = address
    · subst same
      have before := sound.owns filp place
      rw [found] at before
      simpa [Leases.setCell] using before
    · simpa [Leases.setCell, same] using sound.owns filp place
  nodup := sound.nodup
  listed := by
    intro other
    by_cases same : other = address
    · subst same
      simp [Leases.setCell, sound.listed, found]
    · simpa [Leases.setCell, same] using sound.listed other
  tally := by
    intro other
    have before := sound.tally other
    by_cases same : other = address
    · subst same
      rw [found] at before
      simpa [Leases.setCell] using before
    · simpa [Leases.setCell, same] using before

theorem Leases.Sound.start (sound : s.Sound (fun _ => 0)) (address : O) (count : Int) (owner : Option F)
    (kind : K) (found : s.cell address = some (count, owner)) (idle : (address, kind) ∉ s.flight) :
    (s.start address count owner kind).Sound (fun _ => 0) := by
  have before := sound.counted address count owner found
  apply sound.recount address count (count + 1) owner found ((address, kind) :: s.flight)
  · exact List.nodup_cons.mpr ⟨idle, sound.once⟩
  · intro operation member
    rcases List.mem_cons.mp member with here | there
    · exact Or.inl (congrArg Prod.fst here)
    · exact Or.inr there
  · intro other apart
    exact ⟨by simp [Leases.flights, Ne.symm apart], rfl⟩
  · simp only [Leases.flights, List.countP_cons, decide_true, if_true] at before ⊢
    omega

theorem Leases.Sound.delete (address : O) (owner : Option F)
    (sound : s.Sound (Function.update (fun _ => 0) address 1)) (found : s.cell address = some (1, owner)) :
    (s.delete address).Sound (fun _ => 0) := by
  have last := (sound.counted address 1 owner found).1
  rw [Function.update_self] at last
  have unowned : owner = none := by
    cases owner with
    | none => rfl
    | some filp =>
        simp only [Option.isSome_some, Bool.toNat_true] at last
        omega
  have landed : ∀ kind, (address, kind) ∉ s.flight := by
    intro kind member
    have positive := flights_pos address kind member
    omega
  subst unowned
  constructor
  · intro other kind unallocated
    by_cases same : other = address
    · subst same
      exact landed kind
    · exact sound.free other kind (by simpa [Leases.delete, same] using unallocated)
  · intro other count owner held
    have apart : other ≠ address := by
      intro same
      simp [Leases.delete, same] at held
    have before := sound.counted other count owner (by simpa [Leases.delete, apart] using held)
    rwa [Function.update_of_ne apart] at before
  · exact sound.once
  · intro filp place
    by_cases same : place = address
    · subst same
      have before := sound.owns filp place
      rw [found] at before
      simpa [Leases.delete] using before
    · simpa [Leases.delete, same] using sound.owns filp place
  · exact sound.nodup.erase address
  · intro other
    rw [Leases.delete, sound.nodup.mem_erase_iff, sound.listed]
    by_cases same : other = address
    · simp [same]
    · simp [same]
  · intro other
    have before := sound.tally other
    by_cases same : other = address
    · subst same
      rw [found] at before
      simpa [Leases.delete] using before
    · simpa [Leases.delete, same, Ne.symm same] using before

theorem Leases.Sound.unref (address : O) (count : Int) (owner : Option F)
    (sound : s.Sound (Function.update (fun _ => 0) address 1))
    (found : s.cell address = some (count, owner)) :
    (s.unref address count owner).Sound (fun _ => 0) := by
  have before := sound.counted address count owner found
  rw [Function.update_self] at before
  unfold Leases.unref
  split
  · rename_i last
    obtain rfl : count = 1 := by omega
    exact sound.delete address owner found
  · rename_i more
    apply sound.recount address count (count - 1) owner found s.flight sound.once
    · exact fun operation member => Or.inr member
    · exact fun other apart => ⟨rfl, by simp [apart]⟩
    · change count - 1 = _ + s.flights address + 0 ∧ _
      omega

section

variable [DecidableEq K]

theorem Leases.Sound.told (sound : s.Sound (fun _ => 0)) (address : O) (kind : K)
    (flying : (address, kind) ∈ s.flight) :
    (s.told address kind).Sound (Function.update (fun _ => 0) address 1) where
  free := fun other other_kind unallocated member =>
    sound.free other other_kind unallocated (List.mem_of_mem_erase member)
  counted := by
    intro other count owner found
    have before := sound.counted other count owner found
    have split := (List.perm_cons_erase flying).countP_eq (fun operation => decide (operation.1 = other))
    rw [List.countP_cons] at split
    by_cases same : other = address
    · subst same
      simp only [Leases.flights, Leases.told, Function.update_self, decide_true, if_true] at before split ⊢
      omega
    · simp only [Leases.flights, Leases.told, Function.update_of_ne same, Ne.symm same, decide_false,
        Bool.false_eq_true, if_false] at before split ⊢
      omega
  once := sound.once.erase _
  owns := sound.owns
  nodup := sound.nodup
  listed := sound.listed
  tally := sound.tally

end

variable [DecidableEq F]

theorem Leases.Sound.attach (sound : s.Sound (fun _ => 0)) (filp : F) (address : O)
    (unheld : s.holds filp = none) (fresh : s.cell address = none) :
    (s.attach filp address).Sound (fun _ => 0) where
  free := by
    intro other kind unallocated
    by_cases same : other = address
    · simp [Leases.attach, same] at unallocated
    · exact sound.free other kind (by simpa [Leases.attach, same] using unallocated)
  counted := by
    intro other count owner found
    by_cases same : other = address
    · subst same
      have zero : (s.attach filp other).flights other = 0 :=
        flights_zero other (fun kind => sound.free other kind fresh)
      simp only [Leases.attach, Function.update_self, Option.some.injEq, Prod.mk.injEq] at found
      obtain ⟨rfl, rfl⟩ := found
      rw [zero]
      simp
    · exact sound.counted other count owner (by simpa [Leases.attach, same] using found)
  once := sound.once
  owns := by
    intro other place
    by_cases here : place = address
    · subst here
      by_cases same : other = filp
      · simp [Leases.attach, same]
      · have absent : s.holds other ≠ some place := by
          intro held
          obtain ⟨count, found⟩ := (sound.owns other place).mp held
          rw [fresh] at found
          cases found
        simp [Leases.attach, same, absent, Ne.symm same]
    · by_cases same : other = filp
      · subst same
        have absent : ¬ ∃ count, s.cell place = some (count, some other) := by
          intro owned
          rw [(sound.owns other place).mpr owned] at unheld
          cases unheld
        simp [Leases.attach, here, Ne.symm here, absent]
      · simpa [Leases.attach, same, here] using sound.owns other place
  nodup := by
    refine List.nodup_cons.mpr ⟨?_, sound.nodup⟩
    rw [sound.listed, fresh]
    simp
  listed := by
    intro other
    by_cases same : other = address
    · simp [Leases.attach, same]
    · simpa [Leases.attach, same] using sound.listed other
  tally := by
    intro other
    have before := sound.tally other
    by_cases same : other = address
    · subst same
      rw [fresh] at before
      simpa [Leases.attach] using before
    · simpa [Leases.attach, same, Ne.symm same] using before

theorem Leases.Sound.leave (sound : s.Sound (fun _ => 0)) (filp : F) (address : O) (count : Int)
    (found : s.cell address = some (count, some filp)) :
    (s.leave filp address count).Sound (Function.update (fun _ => 0) address 1) where
  free := by
    intro other kind unallocated
    by_cases same : other = address
    · simp [Leases.leave, Leases.setCell, same] at unallocated
    · exact sound.free other kind (by simpa [Leases.leave, Leases.setCell, same] using unallocated)
  counted := by
    intro other value owner held
    by_cases same : other = address
    · subst same
      simp only [Leases.leave, Leases.setCell, Function.update_self, Option.some.injEq,
        Prod.mk.injEq] at held
      obtain ⟨rfl, rfl⟩ := held
      have before := sound.counted other count (some filp) found
      simp only [Function.update_self, Option.isSome_none, Option.isSome_some, Bool.toNat_true,
        Bool.toNat_false, Leases.flights] at before ⊢
      simp only [Leases.leave, Leases.setCell]
      omega
    · rw [Function.update_of_ne same]
      exact sound.counted other value owner (by simpa [Leases.leave, Leases.setCell, same] using held)
  once := sound.once
  owns := by
    intro other place
    by_cases here : place = address
    · subst here
      have own : s.holds other = some place ↔ other = filp := by
        rw [sound.owns other place, found]
        simp [eq_comm]
      by_cases same : other = filp
      · simp [Leases.leave, Leases.setCell, same]
      · simp [Leases.leave, Leases.setCell, same, own]
    · by_cases same : other = filp
      · subst same
        have absent : ¬ ∃ value, s.cell place = some (value, some other) := by
          intro owned
          have first := (sound.owns other place).mpr owned
          rw [(sound.owns other address).mpr ⟨count, found⟩] at first
          injection first with again
          exact here again.symm
        simp only [not_exists] at absent
        simp [Leases.leave, Leases.setCell, here, absent]
      · simpa [Leases.leave, Leases.setCell, same, here] using sound.owns other place
  nodup := sound.nodup
  listed := by
    intro other
    by_cases same : other = address
    · subst same
      simp [Leases.leave, Leases.setCell, sound.listed, found]
    · simpa [Leases.leave, Leases.setCell, same] using sound.listed other
  tally := by
    intro other
    have before := sound.tally other
    by_cases same : other = address
    · subst same
      rw [found] at before
      simpa [Leases.leave, Leases.setCell] using before
    · simpa [Leases.leave, Leases.setCell, same] using before

end Moves

end Count
