import Mathlib.Data.List.Basic

/-! `log_logable` of `tx_debug.cpp`: which tags are logged, by the letters of `LOGABLE_TAGS`.

The letters V, D, I, W, E and F are levels, each with all that follow; any other capital stands for
itself. The choice is made once, by the first `LOGABLE_TAGS` that has such a letter. -/

namespace Libtx

/-- The cases of the `switch`, each of which falls through to the next. -/
def logLevels : List Char := ['V', 'D', 'I', 'W', 'E', 'F']

def logLevel : Char → Option Char
  | 'V' | 'v' => some 'V'
  | 'D' | 'd' => some 'D'
  | 'I' | 'i' => some 'I'
  | 'W' | 'w' => some 'W'
  | 'E' | 'e' => some 'E'
  | 'F' | 'f' => some 'F'
  | _ => none

def tagBit (letter : Char) : BitVec 32 := 1#32 <<< (letter.toNat - 0x40)

def logTag (bits : BitVec 32) (letter : Char) : BitVec 32 :=
  match logLevel letter with
  | some level =>
      (logLevels.dropWhile (fun other => decide (other ≠ level))).foldl
        (fun bits other => bits ||| tagBit other) bits
  | none => if 0x40 ≤ letter.toNat ∧ letter.toNat < 0x60 then bits ||| tagBit letter else bits

def defaultLogableTags : List Char := ['E', 'F', 'I', 'W']

def bitoff (code : Nat) : BitVec 32 := (BitVec.ofNat 32 code ^^^ 0x40#32) &&& ~~~0x20#32

/-- `log_logable`, with `_logable_bits` as it leaves it. `env` is what `getenv` answers. -/
def logLogable (bits : BitVec 32) (env : Option (List Char)) : Option (List Char) → BitVec 32 × Bool
  | none => (bits, false)
  | some logtag =>
      let chosen := if bits = 0#32 then (env.getD defaultLogableTags).foldl logTag bits else bits
      let offset := bitoff (logtag.headD '\x00').toNat
      (chosen, decide (offset &&& 0xc0#32 = 0#32) && decide (1#32 <<< offset &&& chosen ≠ 0#32))

/-- A character of `LOGABLE_TAGS` selects a capital. -/
def Selects (letter capital : Char) : Prop :=
  match logLevel letter with
  | some level => capital ∈ logLevels.dropWhile (fun other => decide (other ≠ level))
  | none => letter = capital ∧ 0x40 ≤ letter.toNat ∧ letter.toNat < 0x60

def selective (letter : Char) : Bool :=
  (logLevel letter).isSome || decide (0x40 ≤ letter.toNat ∧ letter.toNat < 0x60)

def tagCapital (code : Nat) : Char := Char.ofNat (0x40 + code % 0x20)

section Bits

variable {bits : BitVec 32} {letter capital : Char}

theorem capitals_apart (first second : Char) (above : 0x40 ≤ first.toNat) (too : 0x40 ≤ second.toNat) :
    first.toNat - 0x40 = second.toNat - 0x40 ↔ first = second := by
  rw [← Char.toNat_inj]
  omega

theorem tagBit_bit (letter capital : Char) (low : 0x40 ≤ letter.toNat) (above : 0x40 ≤ capital.toNat)
    (below : capital.toNat < 0x60) :
    (tagBit letter).getLsbD (capital.toNat - 0x40) = decide (letter = capital) := by
  have small : capital.toNat - 0x40 < 32 := by omega
  rw [tagBit, BitVec.getLsbD_shiftLeft, BitVec.getLsbD_one, Bool.eq_iff_iff, decide_eq_true_iff,
    ← capitals_apart letter capital low above]
  simp [small]
  omega

theorem levels_above (letter : Char) (level : letter ∈ logLevels) : 0x40 ≤ letter.toNat := by
  have every : logLevels.all (fun other => decide (0x40 ≤ other.toNat)) = true := by decide +kernel
  exact of_decide_eq_true (List.all_eq_true.mp every letter level)

theorem fold_bit (letters : List Char) (low : ∀ letter ∈ letters, 0x40 ≤ letter.toNat) (bits : BitVec 32)
    (above : 0x40 ≤ capital.toNat) (below : capital.toNat < 0x60) :
    (letters.foldl (fun bits other => bits ||| tagBit other) bits).getLsbD (capital.toNat - 0x40) = true ↔
      bits.getLsbD (capital.toNat - 0x40) = true ∨ capital ∈ letters := by
  induction letters generalizing bits with
  | nil => simp
  | cons letter letters ih =>
      have rest := ih (fun other member => low other (List.mem_cons_of_mem letter member))
      rw [List.foldl_cons, rest, BitVec.getLsbD_or, tagBit_bit letter capital (low letter List.mem_cons_self) above
        below, Bool.or_eq_true, decide_eq_true_iff, List.mem_cons, or_assoc, eq_comm (a := letter)]

theorem logTag_bit (bits : BitVec 32) (letter : Char) (above : 0x40 ≤ capital.toNat)
    (below : capital.toNat < 0x60) :
    (logTag bits letter).getLsbD (capital.toNat - 0x40) = true ↔
      bits.getLsbD (capital.toNat - 0x40) = true ∨ Selects letter capital := by
  unfold logTag Selects
  cases named : logLevel letter with
  | some level =>
      apply fold_bit _ _ bits above below
      intro other member
      exact levels_above other (List.IsSuffix.mem member (List.dropWhile_suffix _))
  | none =>
      dsimp only
      split
      · rename_i inside
        rw [BitVec.getLsbD_or, tagBit_bit letter capital inside.1 above below, Bool.or_eq_true, decide_eq_true_iff]
        simp [inside]
      · rename_i outside
        simp [outside]

theorem tags_bit (tags : List Char) (bits : BitVec 32) (above : 0x40 ≤ capital.toNat)
    (below : capital.toNat < 0x60) :
    (tags.foldl logTag bits).getLsbD (capital.toNat - 0x40) = true ↔
      bits.getLsbD (capital.toNat - 0x40) = true ∨ ∃ letter ∈ tags, Selects letter capital := by
  induction tags generalizing bits with
  | nil => simp
  | cons letter tags ih =>
      rw [List.foldl_cons, ih, logTag_bit bits letter above below]
      simp only [List.mem_cons, exists_eq_or_imp, or_assoc]

theorem level_known (letter level : Char) : logLevel letter = some level → level ∈ logLevels := by
  unfold logLevel
  split
  all_goals rintro ⟨⟩
  all_goals decide

theorem selective_iff (letter : Char) : selective letter = true ↔
    ∃ capital, 0x40 ≤ capital.toNat ∧ capital.toNat < 0x60 ∧ Selects letter capital := by
  unfold selective Selects
  cases named : logLevel letter with
  | some level =>
      -- every level is followed by F
      have last : logLevels.all (fun level =>
          (logLevels.dropWhile (fun other => decide (other ≠ level))).contains 'F') = true := by
        decide +kernel
      simp only [Option.isSome_some, Bool.true_or, true_iff]
      exact ⟨'F', by decide, by decide,
        List.contains_iff_mem.mp (List.all_eq_true.mp last level (level_known letter level named))⟩
  | none =>
      simp only [Option.isSome_none, Bool.false_or, decide_eq_true_iff]
      constructor
      · exact fun inside => ⟨letter, inside.1, inside.2, rfl, inside⟩
      · rintro ⟨capital, _, _, _, inside⟩
        exact inside

theorem ofNat_code : ∀ code < 0x60, (Char.ofNat code).toNat = code := by
  decide

theorem tags_none (tags : List Char) : tags.foldl logTag 0#32 = 0#32 ↔ tags.any selective = false := by
  rw [List.any_eq_false]
  constructor
  · intro none letter member selects
    obtain ⟨capital, above, below, chosen⟩ := (selective_iff letter).mp selects
    have set := (tags_bit tags 0#32 above below).mpr (Or.inr ⟨letter, member, chosen⟩)
    rw [none] at set
    simp at set
  · intro quiet
    apply BitVec.eq_of_getLsbD_eq
    intro place small
    have code : (Char.ofNat (0x40 + place)).toNat = 0x40 + place :=
      ofNat_code _ (by omega)
    have index : place = (Char.ofNat (0x40 + place)).toNat - 0x40 := by omega
    rw [BitVec.getLsbD_zero, Bool.eq_false_iff, index]
    intro set
    rcases (tags_bit tags 0#32 (by omega) (by omega)).mp set with zero | ⟨letter, member, chosen⟩
    · simp at zero
    · exact quiet letter member ((selective_iff letter).mpr ⟨_, by omega, by omega, chosen⟩)

theorem bitoff_inside : ∀ code < 256,
    (bitoff code &&& 0xc0#32 = 0#32 ↔ 0x40 ≤ code ∧ code < 0x80) ∧
      (0x40 ≤ code → code < 0x80 → (bitoff code).toNat = code % 0x20) := by
  decide +kernel

theorem shifted_bit (bits : BitVec 32) (place : Nat) (small : place < 32) :
    1#32 <<< place &&& bits ≠ 0#32 ↔ bits.getLsbD place = true := by
  constructor
  · intro meets
    by_contra clear
    apply meets
    apply BitVec.eq_of_getLsbD_eq
    intro other _
    rw [BitVec.getLsbD_and, BitVec.getLsbD_shiftLeft, BitVec.getLsbD_one, BitVec.getLsbD_zero]
    by_cases same : other = place
    · simp [same, Bool.eq_false_iff.mpr clear]
    · simp
      omega
  · intro set none
    have bit := congrArg (fun value : BitVec 32 => value.getLsbD place) none
    rw [BitVec.getLsbD_and, set, BitVec.getLsbD_shiftLeft, BitVec.getLsbD_one, BitVec.getLsbD_zero] at bit
    simp [small] at bit

end Bits

/-- The tags that a choice of letters lets through. -/
def TagChosen (tags logtag : List Char) : Prop :=
  0x40 ≤ (logtag.headD '\x00').toNat ∧ (logtag.headD '\x00').toNat < 0x80 ∧
    ∃ letter ∈ tags, Selects letter (tagCapital (logtag.headD '\x00').toNat)

theorem chosen_iff (tags logtag : List Char) (byte : (logtag.headD '\x00').toNat < 256) :
    (bitoff (logtag.headD '\x00').toNat &&& 0xc0#32 = 0#32 ∧
        1#32 <<< bitoff (logtag.headD '\x00').toNat &&& tags.foldl logTag 0#32 ≠ 0#32) ↔
      TagChosen tags logtag := by
  obtain ⟨inside, place⟩ := bitoff_inside _ byte
  rw [inside, TagChosen, and_assoc]
  refine and_congr_right (fun low => and_congr_right (fun high => ?_))
  have small := Nat.mod_lt (logtag.headD '\x00').toNat (show 0 < 0x20 by decide)
  have code : (tagCapital (logtag.headD '\x00').toNat).toNat = 0x40 + (logtag.headD '\x00').toNat % 0x20 :=
    ofNat_code _ (by omega)
  have index : (logtag.headD '\x00').toNat % 0x20 = (tagCapital (logtag.headD '\x00').toNat).toNat - 0x40 := by
    omega
  rw [BitVec.shiftLeft_eq', place low high, shifted_bit _ _ small, index, tags_bit tags 0#32 (by omega) (by omega)]
  simp

end Libtx
