import Mathlib.Data.List.Basic
import Mathlib.Data.List.TakeWhile

/-! Arrays of characters as C has them: a string ends at its first NUL, and every write of an
element is recorded. -/

namespace Text

/-- `writes` lists the indices that were written. An index outside of the array changes no
cell. -/
structure Buffer where
  cells : List Char
  writes : List Nat
  deriving DecidableEq, Repr

def Buffer.zeros (size : Nat) : Buffer := ⟨List.replicate size '\x00', []⟩

def Buffer.put (buffer : Buffer) (index : Nat) (ch : Char) : Buffer :=
  ⟨buffer.cells.set index ch, buffer.writes ++ [index]⟩

def Buffer.str (buffer : Buffer) (start : Nat) : List Char :=
  (buffer.cells.drop start).takeWhile (· ≠ '\x00')

def strncpy (buffer : Buffer) (src : List Char) (size : Nat) : Buffer :=
  (List.range size).foldl (fun buffer index => buffer.put index (src.getD index '\x00')) buffer

/-- `memcpy` of the characters of `src` -/
def memcpy (buffer : Buffer) (src : List Char) : Buffer := strncpy buffer src src.length

/-- `strcpy`, and `sprintf` of a text, write the string and its terminator, whatever room there is. -/
def strcpy (buffer : Buffer) (src : List Char) : Buffer := strncpy buffer src (src.length + 1)

def isSpace (ch : Char) : Bool := ch ∈ [' ', '\t', '\n', '\x0b', '\x0c', '\r']

def leading (text : List Char) : Int := Nat.ofDigitChars 10 (text.takeWhile Char.isDigit) 0

/-- Past the range of `int` the C function is undefined. -/
def atoi (text : List Char) : Int :=
  match text.dropWhile isSpace with
  | '-' :: rest => -leading rest
  | '+' :: rest => leading rest
  | rest => leading rest

section Strings

variable (buffer : Buffer)

theorem takeWhile_stop (p : Char → Bool) (text rest : List Char) (stop : Char)
    (goes : ∀ ch ∈ text, p ch = true) (stops : p stop = false) :
    (text ++ stop :: rest).takeWhile p = text := by
  rw [List.takeWhile_append_of_pos goes, List.takeWhile_cons_of_neg (by simp [stops]), List.append_nil]

theorem str_between (front text rest : List Char) (cells : buffer.cells = front ++ text ++ '\x00' :: rest)
    (nonzero : '\x00' ∉ text) : buffer.str front.length = text := by
  rw [Buffer.str, cells, List.append_assoc, List.drop_left]
  apply takeWhile_stop
  · intro ch member
    simpa using ne_of_mem_of_not_mem member nonzero
  · rfl

theorem str_cells (text : List Char) (same : ∀ index < text.length, buffer.cells[index]? = text[index]?)
    (ended : buffer.cells[text.length]? = some '\x00') (nonzero : '\x00' ∉ text) : buffer.str 0 = text := by
  have inside : text.length < buffer.cells.length := (List.getElem?_eq_some_iff.mp ended).1
  have front : buffer.cells.take text.length = text := by
    apply List.ext_getElem?
    intro index
    rw [List.getElem?_take]
    split
    · rename_i before
      exact same index before
    · rename_i past
      exact (List.getElem?_eq_none (Nat.not_lt.mp past)).symm
  have whole : buffer.cells = [] ++ text ++ '\x00' :: buffer.cells.drop (text.length + 1) := by
    calc buffer.cells
        = buffer.cells.take text.length ++ buffer.cells.drop text.length := (List.take_append_drop _ _).symm
      _ = text ++ buffer.cells[text.length] :: buffer.cells.drop (text.length + 1) := by
          rw [front, List.drop_eq_getElem_cons inside]
      _ = [] ++ text ++ '\x00' :: buffer.cells.drop (text.length + 1) := by
          rw [(List.getElem?_eq_some_iff.mp ended).2, List.nil_append]
  exact str_between buffer [] text _ whole nonzero

theorem str_nonzero : '\x00' ∉ buffer.str 0 := by
  intro member
  simpa using List.mem_takeWhile_imp member

theorem put_str (index : Nat) (inside : index < (buffer.str 0).length) :
    (buffer.put index '\x00').str 0 = (buffer.str 0).take index := by
  have size : ((buffer.str 0).take index).length = index := by
    rw [List.length_take, Nat.min_eq_left (Nat.le_of_lt inside)]
  have part : buffer.str 0 <+: buffer.cells := List.takeWhile_prefix _
  have room : index < buffer.cells.length := Nat.lt_of_lt_of_le inside part.length_le
  obtain ⟨rest, whole⟩ := part
  apply str_cells
  · intro other before
    rw [size] at before
    rw [Buffer.put, List.getElem?_set_ne (Nat.ne_of_gt before), List.getElem?_take, if_pos before, ← whole]
    exact List.getElem?_append_left (Nat.lt_trans before inside)
  · rw [size, Buffer.put, List.getElem?_set_self room]
  · exact fun member => str_nonzero buffer (List.mem_of_mem_take member)

theorem put_cells (front rest : List Char) (old ch : Char) (cells : buffer.cells = front ++ old :: rest) :
    (buffer.put front.length ch).cells = front ++ ch :: rest := by
  rw [Buffer.put, cells, List.set_append_right _ _ (Nat.le_refl _), Nat.sub_self, List.set_cons_zero]

end Strings

section Stops

variable (line : List Char)

theorem take_idxOf (stop : Char) : line.take (line.idxOf stop) = line.takeWhile (· ≠ stop) := by
  induction line with
  | nil => rfl
  | cons head tail ih =>
      by_cases here : head = stop
      · simp [here]
      · simp [here, List.idxOf_cons_ne _ here, ih]

theorem drop_idxOf (stop : Char) : line.drop (line.idxOf stop) = line.dropWhile (· ≠ stop) := by
  induction line with
  | nil => rfl
  | cons head tail ih =>
      by_cases here : head = stop
      · simp [here]
      · simp [here, List.idxOf_cons_ne _ here, ih]

theorem idxOf_takeWhile (stop : Char) : line.idxOf stop = (line.takeWhile (· ≠ stop)).length := by
  rw [← take_idxOf, List.length_take, Nat.min_eq_left List.idxOf_le_length]

theorem dropWhile_stop (stop : Char) : line.dropWhile (· ≠ stop) = [] ↔ stop ∉ line := by
  rw [List.dropWhile_eq_nil_iff]
  simp only [decide_eq_true_eq]
  constructor
  · exact fun apart member => apart stop member rfl
  · exact fun absent ch member same => absent (same ▸ member)

end Stops

section Copies

variable (buffer : Buffer) (src : List Char)

theorem strncpy_succ (size : Nat) :
    strncpy buffer src (size + 1) = (strncpy buffer src size).put size (src.getD size '\x00') := by
  rw [strncpy, List.range_succ, List.foldl_append]
  rfl

theorem strncpy_writes (size : Nat) : (strncpy buffer src size).writes = buffer.writes ++ List.range size := by
  induction size with
  | zero => simp [strncpy]
  | succ size ih => rw [strncpy_succ, Buffer.put, ih, List.range_succ, List.append_assoc]

theorem strncpy_cells (size : Nat) (room : size ≤ buffer.cells.length) :
    (strncpy buffer src size).cells =
      ((List.range size).map fun index => src.getD index '\x00') ++ buffer.cells.drop size := by
  induction size with
  | zero => simp [strncpy]
  | succ size ih =>
      have inside : size < buffer.cells.length := room
      have before := ih (Nat.le_of_lt inside)
      rw [List.drop_eq_getElem_cons inside] at before
      have written := put_cells (strncpy buffer src size) _ _ _ (src.getD size '\x00') before
      rw [List.length_map, List.length_range] at written
      rw [strncpy_succ, written, List.range_succ, List.map_append, List.append_assoc]
      rfl

theorem padded (size : Nat) (short : src.length ≤ size) :
    ((List.range size).map fun index => src.getD index '\x00') =
      src ++ List.replicate (size - src.length) '\x00' := by
  apply List.ext_getElem
  · simp [short]
  · intro index before _
    rw [List.length_map, List.length_range] at before
    by_cases inside : index < src.length
    · simp [inside]
    · simp [inside, Nat.le_of_not_lt inside]

theorem strncpy_short (size : Nat) (whole : buffer.cells.length = size) (short : src.length ≤ size) :
    (strncpy buffer src size).cells = src ++ List.replicate (size - src.length) '\x00' := by
  rw [strncpy_cells buffer src size whole.ge, padded src size short, ← whole, List.drop_length, List.append_nil]

theorem strncpy_length (size : Nat) (room : size ≤ buffer.cells.length) :
    (strncpy buffer src size).cells.length = buffer.cells.length := by
  rw [strncpy_cells buffer src size room, List.length_append, List.length_map, List.length_range,
    List.length_drop, Nat.add_sub_cancel' room]

theorem strncpy_at (size index : Nat) (room : size ≤ buffer.cells.length) (inside : index < size) :
    (strncpy buffer src size).cells[index]? = some (src.getD index '\x00') := by
  rw [strncpy_cells buffer src size room, List.getElem?_append_left (by simpa using inside), List.getElem?_map,
    List.getElem?_range inside]
  rfl

theorem getD_inside (index : Nat) (inside : index < src.length) :
    some (src.getD index '\x00') = src[index]? := by
  rw [List.getD_eq_getElem?_getD, List.getElem?_eq_getElem inside]
  rfl

theorem getD_ended : src.getD src.length '\x00' = '\x00' := by
  rw [List.getD_eq_getElem?_getD, List.getElem?_eq_none (Nat.le_refl _)]
  rfl

theorem strncpy_put_str (size index : Nat) (room : size ≤ buffer.cells.length) (copied : index ≤ size)
    (inside : index < buffer.cells.length) (nonzero : '\x00' ∉ src) :
    ((strncpy buffer src size).put index '\x00').str 0 = src.take index := by
  apply str_cells
  · intro other before
    rw [List.length_take, Nat.lt_min] at before
    rw [Buffer.put, List.getElem?_set_ne (Nat.ne_of_gt before.1),
      strncpy_at buffer src size other room (Nat.lt_of_lt_of_le before.1 copied), List.getElem?_take,
      if_pos before.1, getD_inside src other before.2]
  · rw [List.length_take, Buffer.put]
    by_cases long : index ≤ src.length
    · rw [Nat.min_eq_left long]
      apply List.getElem?_set_self
      rw [strncpy_length buffer src size room]
      exact inside
    · have short : src.length < index := Nat.not_le.mp long
      rw [Nat.min_eq_right (Nat.le_of_lt short), List.getElem?_set_ne (Nat.ne_of_gt short),
        strncpy_at buffer src size src.length room (Nat.lt_of_lt_of_le short copied),
        getD_ended]
  · exact fun member => nonzero (List.mem_of_mem_take member)

theorem strcpy_writes : (strcpy buffer src).writes = buffer.writes ++ List.range (src.length + 1) :=
  strncpy_writes buffer src (src.length + 1)

theorem strcpy_str (room : src.length < buffer.cells.length) (nonzero : '\x00' ∉ src) :
    (strcpy buffer src).str 0 = src := by
  apply str_cells
  · intro index before
    rw [strcpy, strncpy_at buffer src _ index room (Nat.lt_succ_of_lt before), getD_inside src index before]
  · rw [strcpy, strncpy_at buffer src _ _ room (Nat.lt_succ_self _), getD_ended]
  · exact nonzero

end Copies

end Text
