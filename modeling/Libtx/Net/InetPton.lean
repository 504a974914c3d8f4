import Mathlib.Data.List.Basic
import Mathlib.Logic.Function.Basic
import Mathlib.Tactic.IntervalCases

/-! `inet_pton4` of `tx_platform.cpp`, and the texts that it accepts. A string is the list of its
characters before the terminator. -/

namespace Libtx

def digits : List Char := "0123456789".toList

/-- How the loop of `inet_pton4` ends early: with `return 0`, or with `tp` outside of `tmp`. -/
inductive PtonExit where
  | refused
  | outside
  deriving DecidableEq, Repr

/-- `tp` is an index into `tmp`. -/
structure Pton where
  tmp : Fin 4 → Nat
  tp : Nat
  octets : Nat
  sawDigit : Bool

def Pton.get (s : Pton) : Except PtonExit Nat :=
  if inside : s.tp < 4 then .ok (s.tmp ⟨s.tp, inside⟩) else .error .outside

def Pton.put (s : Pton) (value : Nat) : Except PtonExit Pton :=
  if inside : s.tp < 4 then .ok { s with tmp := Function.update s.tmp ⟨s.tp, inside⟩ value }
  else .error .outside

def ptonDigit (s : Pton) (digit : Nat) : Except PtonExit Pton :=
  s.get.bind fun current =>
    let nw := current * 10 + digit
    if s.sawDigit = true ∧ current = 0 then .error .refused
    else if nw > 255 then .error .refused
    else (s.put nw).bind fun stored =>
      if stored.sawDigit then .ok stored
      else if stored.octets + 1 > 4 then .error .refused
      else .ok { stored with octets := stored.octets + 1, sawDigit := true }

def ptonChar (s : Pton) (ch : Char) : Except PtonExit Pton :=
  match digits.idxOf? ch with
  | some digit => ptonDigit s digit
  | none =>
      if ch = '.' ∧ s.sawDigit = true then
        if s.octets = 4 then .error .refused
        else (Pton.put { s with tp := s.tp + 1 } 0).map fun next => { next with sawDigit := false }
      else .error .refused

/-- `stack` is what `tmp` has before the call; none where `tp` leaves it. -/
def inetPton4 (stack : Fin 4 → Nat) (src : List Char) (dst : Fin 4 → Nat) : Option (Int × (Fin 4 → Nat)) :=
  let start : Pton := ⟨stack, 0, 0, false⟩
  match (start.put 0).bind fun first => src.foldlM ptonChar first with
  | .error .outside => none
  | .error .refused => some (0, dst)
  | .ok s => if s.octets < 4 then some (0, dst) else some (1, s.tmp)

def quad (octets : Fin 4 → Nat) : List Char :=
  List.intercalate ['.'] (List.ofFn fun place => Nat.toDigits 10 (octets place))

section Texts

theorem digits_at (ch : Char) (digit : Nat) :
    digits.idxOf? ch = some digit ↔ digit < 10 ∧ ch = Nat.digitChar digit := by
  constructor
  · intro found
    obtain ⟨inside, here, _⟩ := List.idxOf?_eq_some_iff.mp found
    have small : digit < 10 := inside
    refine ⟨small, here.symm.trans ?_⟩
    interval_cases digit <;> rfl
  · rintro ⟨small, rfl⟩
    interval_cases digit <;> rfl

theorem dot_none : digits.idxOf? '.' = none := by decide

theorem decimal_digit (digit : Nat) (small : digit < 10) : Nat.toDigits 10 digit = [Nat.digitChar digit] :=
  Nat.toDigits_of_lt_base small

theorem decimal_snoc (value digit : Nat) (positive : 0 < value) (small : digit < 10) :
    Nat.toDigits 10 (value * 10 + digit) = Nat.toDigits 10 value ++ [Nat.digitChar digit] := by
  rw [Nat.mul_comm, ← Nat.toDigits_append_toDigits (by decide) positive small, decimal_digit digit small]

def dotted (done : List Nat) : List Char := done.flatMap fun value => Nat.toDigits 10 value ++ ['.']

theorem dotted_snoc (done : List Nat) (value : Nat) :
    dotted (done ++ [value]) = dotted done ++ Nat.toDigits 10 value ++ ['.'] := by
  simp [dotted]

theorem quad_dotted (octets : Fin 4 → Nat) :
    quad octets = dotted [octets 0, octets 1, octets 2] ++ Nat.toDigits 10 (octets 3) := by
  simp [quad, dotted, List.ofFn_succ, List.intercalate]

end Texts

/-- The numbers of `done` were read, each with its dot, and `current` so far. -/
structure Pton.Reads (s : Pton) (done : List Nat) (current : Nat) (read : List Char) : Prop where
  room : done.length < 4
  tp : s.tp = done.length
  octets : s.octets = done.length + s.sawDigit.toNat
  kept : ∀ place : Fin 4, place.val ≤ done.length → (done ++ [current])[place.val]? = some (s.tmp place)
  small : ∀ value ∈ done ++ [current], value ≤ 255
  fresh : s.sawDigit = false → current = 0
  text : read = dotted done ++ if s.sawDigit then Nat.toDigits 10 current else []

section Steps

variable {s : Pton} {done : List Nat} {current : Nat} {read : List Char}

theorem Pton.Reads.get (reads : s.Reads done current read) : s.get = .ok current := by
  have inside : s.tp < 4 := reads.tp ▸ reads.room
  have here := reads.kept ⟨s.tp, inside⟩ (Nat.le_of_eq reads.tp)
  rw [Pton.get, dif_pos inside]
  simp only [reads.tp, List.getElem?_concat_length, Option.some.injEq] at here
  simp only [reads.tp, here]

theorem kept_put (place : Fin 4) (value : Nat) (here : place.val = done.length)
    (kept : ∀ other : Fin 4, other.val < done.length → done[other.val]? = some (s.tmp other))
    (other : Fin 4) (reached : other.val ≤ done.length) :
    (done ++ [value])[other.val]? = some (Function.update s.tmp place value other) := by
  rcases Nat.lt_or_eq_of_le reached with before | equal
  · have apart : other ≠ place := by
      intro same
      rw [same, here] at before
      exact Nat.lt_irrefl _ before
    rw [List.getElem?_append_left before, Function.update_of_ne apart]
    exact kept other before
  · have same : other = place := Fin.ext (equal.trans here.symm)
    subst same
    rw [Function.update_self, equal, List.getElem?_concat_length]

theorem Pton.Reads.before (reads : s.Reads done current read) (place : Fin 4)
    (before : place.val < done.length) : done[place.val]? = some (s.tmp place) := by
  rw [← reads.kept place (Nat.le_of_lt before), List.getElem?_append_left before]

theorem Pton.Reads.digit (reads : s.Reads done current read) (digit : Nat) (low : digit < 10) :
    (((s.sawDigit = true ∧ current = 0) ∨ current * 10 + digit > 255) ∧
        ptonDigit s digit = .error .refused) ∨
      ∃ next, ¬ (s.sawDigit = true ∧ current = 0) ∧ ptonDigit s digit = .ok next ∧
        next.sawDigit = true ∧
        next.Reads done (current * 10 + digit) (read ++ [Nat.digitChar digit]) := by
  have inside : s.tp < 4 := reads.tp ▸ reads.room
  by_cases zero : s.sawDigit = true ∧ current = 0
  · exact Or.inl ⟨Or.inl zero, by simp [ptonDigit, reads.get, Except.bind, zero]⟩
  · by_cases large : current * 10 + digit > 255
    · exact Or.inl ⟨Or.inr large, by simp [ptonDigit, reads.get, Except.bind, zero, large]⟩
    · refine Or.inr ⟨{ s with
        tmp := Function.update s.tmp ⟨s.tp, inside⟩ (current * 10 + digit)
        octets := done.length + 1
        sawDigit := true }, zero, ?_, rfl, ?_⟩
      · have counted := reads.octets
        have few : ¬ done.length + 1 > 4 := Nat.not_lt.mpr reads.room
        rw [ptonDigit, reads.get]
        simp only [Except.bind, zero, large, if_false, Pton.put, inside, dite_true]
        cases saw : s.sawDigit with
        | true => simp [counted, saw]
        | false => simp [counted, saw, few]
      · constructor
        · exact reads.room
        · exact reads.tp
        · rfl
        · exact kept_put _ _ reads.tp reads.before
        · intro value member
          rcases List.mem_append.mp member with old | new
          · exact reads.small value (List.mem_append_left _ old)
          · rw [List.mem_singleton.mp new]
            exact Nat.le_of_not_gt large
        · intro saw
          cases saw
        · have text := reads.text
          cases saw : s.sawDigit with
          | true =>
              have positive : 0 < current := Nat.pos_of_ne_zero fun none => zero ⟨saw, none⟩
              rw [saw] at text
              simp only [if_true] at text ⊢
              rw [text, decimal_snoc current digit positive low, List.append_assoc]
          | false =>
              rw [saw] at text
              simp only [Bool.false_eq_true, if_false, List.append_nil] at text
              simp [text, reads.fresh saw, decimal_digit digit low]

theorem Pton.Reads.dot (reads : s.Reads done current read) :
    ((s.sawDigit = false ∨ s.octets = 4) ∧ ptonChar s '.' = .error .refused) ∨
      ∃ next, s.sawDigit = true ∧ ptonChar s '.' = .ok next ∧ next.sawDigit = false ∧
        next.Reads (done ++ [current]) 0 (read ++ ['.']) := by
  cases saw : s.sawDigit with
  | false => exact Or.inl ⟨Or.inl rfl, by simp [ptonChar, dot_none, saw]⟩
  | true =>
      by_cases last : s.octets = 4
      · exact Or.inl ⟨Or.inr last, by simp [ptonChar, dot_none, saw, last]⟩
      · have counted := reads.octets
        rw [saw] at counted
        have more : s.tp + 1 < 4 := by
          have room := reads.room
          have tp := reads.tp
          simp only [Bool.toNat_true] at counted
          omega
        refine Or.inr ⟨{ s with
          tmp := Function.update s.tmp ⟨s.tp + 1, more⟩ 0
          tp := s.tp + 1
          sawDigit := false }, rfl, ?_, rfl, ?_⟩
        · simp [ptonChar, dot_none, saw, last, Pton.put, more, Except.map]
        · have length : (done ++ [current]).length = s.tp + 1 := by simp [reads.tp]
          constructor
          · rw [length]
            exact more
          · exact length.symm
          · simp [counted]
          · apply kept_put
            · exact length.symm
            · intro other before
              apply reads.kept other
              rw [length, reads.tp] at before
              exact Nat.le_of_lt_succ before
          · intro value member
            rcases List.mem_append.mp member with old | new
            · exact reads.small value old
            · rw [List.mem_singleton.mp new]
              exact Nat.zero_le _
          · exact fun _ => rfl
          · rw [reads.text, saw, dotted_snoc]
            simp

theorem ptonChar_digit (digit : Nat) (low : digit < 10) :
    ptonChar s (Nat.digitChar digit) = ptonDigit s digit := by
  rw [ptonChar, (digits_at _ digit).mpr ⟨low, rfl⟩]

theorem Pton.Reads.step (reads : s.Reads done current read) (ch : Char) :
    ptonChar s ch = .error .refused ∨
      ∃ next more value, ptonChar s ch = .ok next ∧ next.Reads more value (read ++ [ch]) := by
  cases found : digits.idxOf? ch with
  | some digit =>
      obtain ⟨low, rfl⟩ := (digits_at ch digit).mp found
      rw [ptonChar_digit digit low]
      rcases reads.digit digit low with ⟨_, refused⟩ | ⟨next, _, taken, _, further⟩
      · exact Or.inl refused
      · exact Or.inr ⟨next, done, _, taken, further⟩
  | none =>
      by_cases dot : ch = '.'
      · subst dot
        rcases reads.dot with ⟨_, refused⟩ | ⟨next, _, taken, _, further⟩
        · exact Or.inl refused
        · exact Or.inr ⟨next, _, 0, taken, further⟩
      · exact Or.inl (by simp [ptonChar, found, dot])

theorem Pton.Reads.run (reads : s.Reads done current read) (src : List Char) :
    src.foldlM ptonChar s = .error .refused ∨
      ∃ next more value, src.foldlM ptonChar s = .ok next ∧ next.Reads more value (read ++ src) := by
  induction src generalizing s done current read with
  | nil => exact Or.inr ⟨s, done, current, rfl, by rwa [List.append_nil]⟩
  | cons ch src ih =>
      rw [List.foldlM_cons]
      rcases reads.step ch with refused | ⟨mid, more, value, taken, further⟩
      · exact Or.inl (by rw [refused]; rfl)
      · have rest := ih further
        rw [List.append_assoc, List.singleton_append] at rest
        rwa [taken]

theorem Pton.Reads.ended (reads : s.Reads done current read) (full : ¬ s.octets < 4) :
    read = quad s.tmp ∧ ∀ place, s.tmp place ≤ 255 := by
  have room := reads.room
  have counted := reads.octets
  have one : s.sawDigit.toNat ≤ 1 := Bool.toNat_le _
  have three : done.length = 3 := by omega
  have saw : s.sawDigit = true := Bool.toNat_eq_one.mp (by omega)
  have values : ∀ place : Fin 4, (done ++ [current])[place.val]? = some (s.tmp place) :=
    fun place => reads.kept place (by omega)
  constructor
  · obtain ⟨first, second, third, rfl⟩ := List.length_eq_three.mp three
    have here (place : Fin 4) := values place
    have zero : first = s.tmp 0 := Option.some.inj (here 0)
    have one : second = s.tmp 1 := Option.some.inj (here 1)
    have two : third = s.tmp 2 := Option.some.inj (here 2)
    have last : current = s.tmp 3 := Option.some.inj (here 3)
    rw [reads.text, saw, quad_dotted, zero, one, two, last, if_pos rfl]
  · intro place
    exact reads.small _ (List.mem_of_getElem? (values place))

theorem Pton.Reads.decimal (reads : s.Reads done 0 read) (fresh : s.sawDigit = false) (value : Nat)
    (small : value ≤ 255) :
    ∃ next, (Nat.toDigits 10 value).foldlM ptonChar s = .ok next ∧ next.sawDigit = true ∧
      next.Reads done value (read ++ Nat.toDigits 10 value) := by
  induction value using Nat.base_induction 10 (by decide) with
  | single value low =>
      rcases reads.digit value low with ⟨stops, _⟩ | ⟨next, _, taken, saw, further⟩
      · rcases stops with zero | large
        · rw [fresh] at zero
          cases zero.1
        · omega
      · rw [decimal_digit value low]
        refine ⟨next, ?_, saw, by simpa using further⟩
        rw [List.foldlM_cons, ptonChar_digit value low, taken]
        rfl
  | digit front digit low positive ih =>
      obtain ⟨mid, ran, saw, further⟩ := ih (by omega)
      have text : Nat.toDigits 10 (10 * front + digit) = Nat.toDigits 10 front ++ [Nat.digitChar digit] := by
        rw [Nat.mul_comm, decimal_snoc front digit positive low]
      rcases further.digit digit low with ⟨stops, _⟩ | ⟨next, _, taken, again, onward⟩
      · rcases stops with zero | large
        · omega
        · omega
      · rw [text]
        refine ⟨next, ?_, again, ?_⟩
        · rw [List.foldlM_append, ran]
          change [Nat.digitChar digit].foldlM ptonChar mid = .ok next
          rw [List.foldlM_cons, ptonChar_digit digit low, taken]
          rfl
        · rwa [← List.append_assoc, Nat.mul_comm]

theorem Pton.Reads.dotted (values : List Nat) (reads : s.Reads done 0 read) (fresh : s.sawDigit = false)
    (few : done.length + values.length < 4) (small : ∀ value ∈ values, value ≤ 255) :
    ∃ next, (Libtx.dotted values).foldlM ptonChar s = .ok next ∧ next.sawDigit = false ∧
      next.Reads (done ++ values) 0 (read ++ Libtx.dotted values) := by
  induction values generalizing s done read with
  | nil => exact ⟨s, rfl, fresh, by simpa [Libtx.dotted] using reads⟩
  | cons value values ih =>
      rw [List.length_cons] at few
      obtain ⟨first, ran, saw, further⟩ := reads.decimal fresh value (small value List.mem_cons_self)
      rcases further.dot with ⟨stops, _⟩ | ⟨mid, _, taken, again, onward⟩
      · have counted := further.octets
        rw [saw] at counted stops
        simp only [Bool.toNat_true] at counted
        rcases stops with unseen | last
        · cases unseen
        · omega
      · have room : (done ++ [value]).length + values.length < 4 := by
          rw [List.length_append, List.length_singleton]
          omega
        obtain ⟨next, rest, clear, ended⟩ :=
          ih onward again room (fun other member => small other (List.mem_cons_of_mem value member))
        refine ⟨next, ?_, clear, ?_⟩
        · change (((Nat.toDigits 10 value ++ ['.']) ++ Libtx.dotted values).foldlM ptonChar s) = .ok next
          rw [List.foldlM_append, List.foldlM_append, ran]
          change ((ptonChar first '.').bind fun after => ([] : List Char).foldlM ptonChar after).bind
            (fun after => (Libtx.dotted values).foldlM ptonChar after) = .ok next
          rw [taken]
          exact rest
        · simpa [Libtx.dotted] using ended

end Steps

theorem reads_start (stack : Fin 4 → Nat) :
    ∃ first, (Pton.put ⟨stack, 0, 0, false⟩ 0) = .ok first ∧ first.sawDigit = false ∧ first.Reads [] 0 [] := by
  refine ⟨_, rfl, rfl, ?_⟩
  constructor
  · decide
  · rfl
  · rfl
  · exact kept_put _ 0 rfl (fun _ before => absurd before (Nat.not_lt_zero _))
  · intro value member
    rw [List.mem_singleton.mp member]
    exact Nat.zero_le _
  · exact fun _ => rfl
  · rfl

theorem inetPton4_quad (stack dst octets : Fin 4 → Nat) (small : ∀ place, octets place ≤ 255) :
    inetPton4 stack (quad octets) dst = some (1, octets) := by
  obtain ⟨first, started, fresh, reads⟩ := reads_start stack
  have front_small : ∀ value ∈ [octets 0, octets 1, octets 2], value ≤ 255 := by simp [small]
  obtain ⟨mid, front, clear, onward⟩ :=
    reads.dotted [octets 0, octets 1, octets 2] fresh (Nat.lt_succ_self 3) front_small
  obtain ⟨next, last, saw, ended⟩ := onward.decimal clear (octets 3) (small 3)
  have ran : (quad octets).foldlM ptonChar first = .ok next := by
    rw [quad_dotted, List.foldlM_append, front]
    exact last
  have counted := ended.octets
  rw [saw] at counted
  have values : next.tmp = octets := by
    funext place
    apply Option.some.inj
    rw [← ended.kept place (Nat.le_of_lt_succ place.isLt)]
    match place with
    | 0 | 1 | 2 | 3 => rfl
  have full : ¬ next.octets < 4 := by simp [counted]
  simp [inetPton4, started, Except.bind, ran, full, values]

theorem inetPton4_outcome (stack dst : Fin 4 → Nat) (src : List Char) :
    (∃ octets, (∀ place, octets place ≤ 255) ∧ src = quad octets ∧
        inetPton4 stack src dst = some (1, octets)) ∨
      inetPton4 stack src dst = some (0, dst) := by
  obtain ⟨first, started, _, reads⟩ := reads_start stack
  rcases reads.run src with refused | ⟨next, done, current, ran, ended⟩
  · exact Or.inr (by simp [inetPton4, started, Except.bind, refused])
  · by_cases few : next.octets < 4
    · exact Or.inr (by simp [inetPton4, started, Except.bind, ran, few])
    · obtain ⟨text, small⟩ := ended.ended few
      exact Or.inl ⟨next.tmp, small, text, by simp [inetPton4, started, Except.bind, ran, few]⟩

/-- `inet_pton4` gives 1 and the four values for the texts of four numbers up to 255, and gives
0 and changes nothing for every other text. -/
theorem inet_pton4_exact (stack dst : Fin 4 → Nat) (src : List Char) :
    (∀ octets, inetPton4 stack src dst = some (1, octets) ↔
      (∀ place, octets place ≤ 255) ∧ src = quad octets) ∧
    ((∃ octets, inetPton4 stack src dst = some (1, octets)) ∨ inetPton4 stack src dst = some (0, dst)) := by
  have complete (octets : Fin 4 → Nat) (both : (∀ place, octets place ≤ 255) ∧ src = quad octets) :
      inetPton4 stack src dst = some (1, octets) :=
    both.2 ▸ inetPton4_quad stack dst octets both.1
  rcases inetPton4_outcome stack dst src with ⟨values, small, text, one⟩ | zero
  · refine ⟨fun octets => ⟨fun same => ?_, complete octets⟩, Or.inl ⟨values, one⟩⟩
    rw [one] at same
    injection same with pair
    injection pair with _ equal
    exact equal ▸ ⟨small, text⟩
  · refine ⟨fun octets => ⟨fun same => ?_, complete octets⟩, Or.inr zero⟩
    rw [zero] at same
    cases same

end Libtx
