import Libtx.Netcat.Workers
import Mathlib.Data.List.Infix

/-! Where the two blocks of `netcat-win32.cpp` are: each is in one place at a time, an operation of
the system, a completion on the port or the hands of one thread, so nobody else touches its buffer. -/

namespace Libtx

variable {Th : Type}

/-- A block that is `dropped` is nowhere; its thread has quit or could not start an operation. -/
inductive Place (Th : Type) where
  | kernel (operation : Operation)
  | port (ok : Bool) (transfer : Nat)
  | worker (th : Th) (point : Point)
  | dropped

def Packet.about (data : IoData) : Packet → Option (Bool × Nat)
  | .io other ok transfer => if other = data then some (ok, transfer) else none
  | .quit => none

def Worker.holds (data : IoData) : Worker → Option Point
  | .callback other point => if other = data then some point else none
  | _ => none

def NetcatWin32.queued (s : NetcatWin32 Th) (data : IoData) : List (Bool × Nat) :=
  s.port.filterMap (Packet.about data)

def NetcatWin32.Unheld (s : NetcatWin32 Th) (data : IoData) : Prop := ∀ th, (s.worker th).holds data = none

def NetcatWin32.At (s : NetcatWin32 Th) (data : IoData) : Place Th → Prop
  | .kernel operation => s.operation data = [operation] ∧ s.queued data = [] ∧ s.Unheld data
  | .port ok transfer => s.operation data = [] ∧ s.queued data = [(ok, transfer)] ∧ s.Unheld data
  | .worker th point => s.operation data = [] ∧ s.queued data = [] ∧ (s.worker th).holds data = some point ∧
      ∀ other, other ≠ th → (s.worker other).holds data = none
  | .dropped => s.operation data = [] ∧ s.queued data = [] ∧ s.Unheld data

theorem holds_iff_callback (worker : Worker) (data : IoData) (point : Point) :
    worker.holds data = some point ↔ worker = .callback data point := by
  cases worker with
  | callback other at_ =>
      simp only [Worker.holds]
      split
      · rename_i same
        simp [same]
      · rename_i apart
        simp [apart]
  | _ => simp [Worker.holds]

section Moves

variable {s next : NetcatWin32 Th} {data : IoData}

theorem NetcatWin32.At.congr {place : Place Th} (here : s.At data place)
    (operation : next.operation data = s.operation data) (queued : next.queued data = s.queued data)
    (holds : ∀ th, (next.worker th).holds data = (s.worker th).holds data) : next.At data place := by
  cases place with
  | kernel _ => exact ⟨operation.trans here.1, queued.trans here.2.1, fun th => (holds th).trans (here.2.2 th)⟩
  | port _ _ => exact ⟨operation.trans here.1, queued.trans here.2.1, fun th => (holds th).trans (here.2.2 th)⟩
  | worker th _ => exact ⟨operation.trans here.1, queued.trans here.2.1, (holds th).trans here.2.2.1,
      fun other apart => (holds other).trans (here.2.2.2 other apart)⟩
  | dropped => exact ⟨operation.trans here.1, queued.trans here.2.1, fun th => (holds th).trans (here.2.2 th)⟩

theorem NetcatWin32.At.begins (here : s.At data .dropped) (operation : Operation) :
    (s.setOperation data (s.operation data ++ [operation])).At data (.kernel operation) := by
  refine ⟨?_, here.2.1, here.2.2⟩
  simp [NetcatWin32.setOperation, here.1]

theorem NetcatWin32.At.completes (operation : Operation) (here : s.At data (.kernel operation)) (ok : Bool)
    (transfer : Nat) : ((s.setOperation data []).post (.io data ok transfer)).At data (.port ok transfer) := by
  refine ⟨?_, ?_, here.2.2⟩
  · simp [NetcatWin32.setOperation, NetcatWin32.post]
  · have before : s.port.filterMap (Packet.about data) = [] := here.2.1
    simp [NetcatWin32.queued, NetcatWin32.setOperation, NetcatWin32.post, before, Packet.about]

theorem queued_erase (port : List Packet) (place : Nat) (packet : Packet) (found : port[place]? = some packet)
    (data : IoData) : ∃ front back, port.filterMap (Packet.about data) =
      front ++ (packet.about data).toList ++ back ∧
        (port.eraseIdx place).filterMap (Packet.about data) = front ++ back := by
  obtain ⟨within, same⟩ := List.getElem?_eq_some_iff.mp found
  refine ⟨(port.take place).filterMap (Packet.about data),
    (port.drop (place + 1)).filterMap (Packet.about data), ?_, ?_⟩
  · have split : port = port.take place ++ packet :: port.drop (place + 1) := by
      rw [← same, List.getElem_cons_drop, List.take_append_drop]
    conv_lhs => rw [split]
    rw [List.filterMap_append, List.append_assoc]
    congr 1
    cases about : packet.about data with
    | none => simp [about]
    | some _ => simp [about]
  · rw [List.eraseIdx_eq_take_drop_succ, List.filterMap_append]

theorem NetcatWin32.At.dequeues {place : Place Th} (here : s.At data place) (index : Nat) (ok : Bool)
    (transfer : Nat) (found : s.port[index]? = some (.io data ok transfer)) :
    place = .port ok transfer ∧ ({ s with port := s.port.eraseIdx index } : NetcatWin32 Th).At data .dropped := by
  obtain ⟨front, back, before, after⟩ := queued_erase s.port index _ found data
  have one : (Packet.about data (.io data ok transfer)).toList = [(ok, transfer)] := by simp [Packet.about]
  rw [one] at before
  have count : s.queued data ≠ [] := by
    change s.port.filterMap (Packet.about data) ≠ []
    rw [before]
    simp
  cases place with
  | kernel _ => exact absurd here.2.1 count
  | worker _ _ => exact absurd here.2.1 count
  | dropped => exact absurd here.2.1 count
  | port was amount =>
      have only : front ++ [(ok, transfer)] ++ back = [(was, amount)] := before.symm.trans here.2.1
      have lengths := congrArg List.length only
      simp only [List.length_append, List.length_cons, List.length_nil] at lengths
      have nothing : front = [] ∧ back = [] :=
        ⟨List.eq_nil_of_length_eq_zero (by omega), List.eq_nil_of_length_eq_zero (by omega)⟩
      rw [nothing.1, nothing.2] at only after
      simp only [List.nil_append, List.append_nil, List.cons.injEq, Prod.mk.injEq, and_true] at only
      rw [only.1, only.2]
      exact ⟨rfl, here.1, after, here.2.2⟩

variable [DecidableEq Th]

theorem NetcatWin32.At.holder {place : Place Th} (here : s.At data place) (th : Th) (point : Point)
    (held : s.worker th = .callback data point) : place = .worker th point := by
  have holds : (s.worker th).holds data = some point := (holds_iff_callback _ data point).mpr held
  cases place with
  | kernel _ => exact absurd holds (by simp [here.2.2 th])
  | port _ _ => exact absurd holds (by simp [here.2.2 th])
  | worker other at_ =>
      have same : th = other := by
        by_contra apart
        rw [here.2.2.2 th apart] at holds
        cases holds
      subst same
      rw [here.2.2.1] at holds
      injection holds with point
      rw [point]
  | dropped => exact absurd holds (by simp [here.2.2 th])

theorem NetcatWin32.At.moves (th : Th) (point after : Point) (here : s.At data (.worker th point)) :
    (s.setWorker th (.callback data after)).At data (.worker th after) := by
  refine ⟨here.1, here.2.1, ?_, ?_⟩
  · simp [NetcatWin32.setWorker, Worker.holds]
  · intro other apart
    simp [NetcatWin32.setWorker, apart, here.2.2.2 other apart]

theorem NetcatWin32.At.leaves (th : Th) (point : Point) (here : s.At data (.worker th point)) (worker : Worker)
    (free : worker.holds data = none) : (s.setWorker th worker).At data .dropped := by
  refine ⟨here.1, here.2.1, ?_⟩
  intro other
  by_cases same : other = th
  · subst same
    simpa [NetcatWin32.setWorker] using free
  · simp [NetcatWin32.setWorker, same, here.2.2.2 other same]

theorem NetcatWin32.At.enters (here : s.At data .dropped) (th : Th) (point : Point) :
    (s.setWorker th (.callback data point)).At data (.worker th point) := by
  refine ⟨here.1, here.2.1, ?_, ?_⟩
  · simp [NetcatWin32.setWorker, Worker.holds]
  · intro other apart
    simpa [NetcatWin32.setWorker, apart] using here.2.2 other

end Moves

end Libtx
