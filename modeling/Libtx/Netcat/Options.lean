import Libtx.Text.Buffer
import Mathlib.Data.List.DropRight

namespace Libtx

open Text

/-- `key` and `val` are indices into `options`; `val` is none where it is `enabled`. -/
structure CatOptions where
  options : Buffer
  key : Nat
  val : Option Nat

def enabled : List Char := "enabled".toList

def CatOptions.text (s : CatOptions) : List Char :=
  match s.val with
  | none => enabled
  | some start => s.options.str start

/-- The loop with what follows it, for the turns that the array has room for; none where `i` leaves
the array. -/
def catLoop (name : List Char) : Nat → Nat → CatOptions → Option (Option (List Char))
  | 0, _, _ => none
  | turns + 1, i, s =>
      (s.options.cells[i]?).bind fun ch =>
        if ch = '\x00' then some (if s.options.str s.key = name then some s.text else none)
        else if ch = '=' then catLoop name turns (i + 1) ⟨s.options.put i '\x00', s.key, some (i + 1)⟩
        else if ch = ',' then
          let cut : CatOptions := { s with options := s.options.put i '\x00' }
          if cut.options.str cut.key = name then some (some cut.text)
          else catLoop name turns (i + 1) ⟨cut.options, i + 1, none⟩
        else catLoop name turns (i + 1) s

/-- `options` is the array as the call before left it. The inner none is NULL. -/
def getCatOptions (options : Buffer) (option : Option (List Char)) (name : List Char) :
    Option (Option (List Char)) :=
  match option with
  | none => some none
  | some text => catLoop name 8192 0 ⟨(strncpy options text 8192).put 8191 '\x00', 0, none⟩

section Grammar

def itemKey (item : List Char) : List Char := item.takeWhile (· ≠ '=')

def itemValue (item : List Char) : List Char :=
  if '=' ∈ item then (item.dropWhile (· ≠ '=')).tail else enabled

def lastValue (item : List Char) : List Char :=
  if '=' ∈ item then item.rtakeWhile (· ≠ '=') else enabled

/-- The first item whose key is the name. -/
def itemOf (text name : List Char) : Option (List Char) :=
  (text.splitOn ',').find? fun item => decide (itemKey item = name)

/-- The value that the grammar gives to a name. -/
def optionValue (option : Option (List Char)) (name : List Char) : Option (List Char) :=
  option.bind fun text => (itemOf text name).map itemValue

theorem lastValue_split (front tail : List Char) (last : '=' ∉ tail) :
    lastValue (front ++ '=' :: tail) = tail := by
  have turned : (tail.reverse ++ '=' :: front.reverse).takeWhile (· ≠ '=') = tail.reverse := by
    apply takeWhile_stop
    · intro ch member
      simpa using ne_of_mem_of_not_mem (List.mem_reverse.mp member) last
    · rfl
  have reversed : (front ++ '=' :: tail).reverse = tail.reverse ++ '=' :: front.reverse := by simp
  rw [lastValue, if_pos (by simp), List.rtakeWhile, reversed, turned, List.reverse_reverse]

theorem itemValue_split (front rest : List Char) (first : '=' ∉ front) :
    itemValue (front ++ '=' :: rest) = rest := by
  have kept : ∀ ch ∈ front, decide (ch ≠ '=') = true := by
    intro ch member
    simpa using ne_of_mem_of_not_mem member first
  rw [itemValue, if_pos (by simp), List.dropWhile_append_of_pos kept]
  rfl

theorem lastValue_plain (item : List Char) : '=' ∉ lastValue item := by
  rw [lastValue]
  split
  · intro member
    have other := List.mem_rtakeWhile_imp member
    simp at other
  · decide

theorem lastValue_iff (item : List Char) : lastValue item = itemValue item ↔ '=' ∉ itemValue item := by
  constructor
  · intro same
    exact same ▸ lastValue_plain item
  · intro plain
    by_cases split : '=' ∈ item
    · obtain ⟨front, rest, rfl, first⟩ := List.eq_append_cons_of_mem split
      rw [itemValue_split front rest first] at plain ⊢
      exact lastValue_split front rest plain
    · rw [itemValue, lastValue, if_neg split, if_neg split]

theorem itemOf_last (item name : List Char) (comma : ',' ∉ item) :
    itemOf item name = if itemKey item = name then some item else none := by
  rw [itemOf, List.splitOn_eq_singleton comma]
  by_cases same : itemKey item = name
  · simp [same]
  · simp [same]

theorem itemOf_comma (item rest name : List Char) (comma : ',' ∉ item) :
    itemOf (item ++ ',' :: rest) name = if itemKey item = name then some item else itemOf rest name := by
  rw [itemOf, List.splitOn_append_cons_self_of_not_mem comma]
  by_cases same : itemKey item = name
  · simp [same]
  · simp [same, itemOf]

end Grammar

section Loop

def blank (ch : Char) : Char := if ch = '=' ∨ ch = ',' then '\x00' else ch

theorem blank_other (ch : Char) (equal : ch ≠ '=') (comma : ch ≠ ',') : blank ch = ch := by
  simp [blank, equal, comma]

theorem blank_text (text : List Char) (equal : '=' ∉ text) (comma : ',' ∉ text) : text.map blank = text := by
  calc text.map blank
      = text.map id := by
        apply List.map_congr_left
        intro ch member
        exact blank_other ch (ne_of_mem_of_not_mem member equal) (ne_of_mem_of_not_mem member comma)
    _ = text := List.map_id text

theorem blank_key (item pad : List Char) (comma : ',' ∉ item) (nonzero : '\x00' ∉ item) :
    (item.map blank ++ '\x00' :: pad).takeWhile (· ≠ '\x00') = itemKey item := by
  induction item with
  | nil => rfl
  | cons ch item ih =>
      rw [List.mem_cons, not_or] at comma nonzero
      by_cases equal : ch = '='
      · subst equal
        rfl
      · have same := blank_other ch equal (Ne.symm comma.1)
        rw [List.map_cons, same, List.cons_append, itemKey,
          List.takeWhile_cons_of_pos (by simpa using Ne.symm nonzero.1),
          List.takeWhile_cons_of_pos (by simpa using equal), ih comma.2 nonzero.2]
        rfl

structure Scan (s : CatOptions) (earlier item rest : List Char) : Prop where
  cells : ∃ pad, s.options.cells = (earlier ++ item).map blank ++ rest ++ '\x00' :: pad
  key : s.key = earlier.length
  comma : ',' ∉ item
  nonzero : '\x00' ∉ item
  val : (s.val = none ∧ '=' ∉ item) ∨ ∃ front tail, item = front ++ '=' :: tail ∧ '=' ∉ tail ∧
    s.val = some (earlier.length + front.length + 1)

variable {s : CatOptions} {earlier item rest : List Char}

theorem Scan.read (scan : Scan s earlier item []) :
    s.options.str s.key = itemKey item ∧ s.text = lastValue item := by
  obtain ⟨pad, cells⟩ := scan.cells
  rw [List.map_append, List.append_nil] at cells
  constructor
  · have start : s.key = (earlier.map blank).length := by rw [scan.key, List.length_map]
    rw [Buffer.str, cells, start, List.append_assoc, List.drop_left]
    exact blank_key item pad scan.comma scan.nonzero
  · rcases scan.val with ⟨none, plain⟩ | ⟨front, tail, rfl, last, val⟩
    · rw [CatOptions.text, none, lastValue, if_neg plain]
    · have comma : ',' ∉ tail := fun member => scan.comma (by simp [member])
      have nonzero : '\x00' ∉ tail := fun member => scan.nonzero (by simp [member])
      have start : earlier.length + front.length + 1 =
          (earlier.map blank ++ front.map blank ++ ['\x00']).length := by
        simp [Nat.add_assoc]
      rw [CatOptions.text, val, lastValue_split front tail last, start]
      apply str_between _ _ tail pad _ nonzero
      rw [cells, List.map_append, List.map_cons, blank_text tail last comma]
      simp [blank]

theorem Scan.here (scan : Scan s earlier item rest) :
    s.options.cells[(earlier ++ item).length]? = some ((rest ++ ['\x00']).headD '\x00') := by
  obtain ⟨pad, cells⟩ := scan.cells
  rw [cells, List.append_assoc, List.getElem?_append_right (by simp)]
  cases rest with
  | nil => simp
  | cons ch rest => simp

theorem Scan.cut {ch : Char} (scan : Scan s earlier item (ch :: rest)) :
    ∃ pad, (s.options.put (earlier ++ item).length '\x00').cells =
      (earlier ++ item).map blank ++ '\x00' :: rest ++ '\x00' :: pad := by
  obtain ⟨pad, cells⟩ := scan.cells
  refine ⟨pad, ?_⟩
  have written := put_cells s.options ((earlier ++ item).map blank) (rest ++ '\x00' :: pad) ch '\x00'
    (by simpa using cells)
  rw [List.length_map] at written
  rw [written]
  simp

theorem Scan.equal (scan : Scan s earlier item ('=' :: rest)) :
    Scan ⟨s.options.put (earlier ++ item).length '\x00', s.key, some ((earlier ++ item).length + 1)⟩ earlier
      (item ++ ['=']) rest where
  cells := by
    obtain ⟨pad, cells⟩ := scan.cut
    exact ⟨pad, cells.trans (by simp [blank])⟩
  key := scan.key
  comma := by simp [scan.comma]
  nonzero := by simp [scan.nonzero]
  val := Or.inr ⟨item, [], rfl, List.not_mem_nil, by simp⟩

theorem Scan.ended (scan : Scan s earlier item (',' :: rest)) :
    Scan { s with options := s.options.put (earlier ++ item).length '\x00' } earlier item [] where
  cells := by
    obtain ⟨pad, cells⟩ := scan.cut
    exact ⟨rest ++ '\x00' :: pad, cells.trans (by simp)⟩
  key := scan.key
  comma := scan.comma
  nonzero := scan.nonzero
  val := scan.val

theorem Scan.next (scan : Scan s earlier item (',' :: rest)) :
    Scan ⟨s.options.put (earlier ++ item).length '\x00', (earlier ++ item).length + 1, none⟩
      (earlier ++ item ++ [',']) [] rest where
  cells := by
    obtain ⟨pad, cells⟩ := scan.cut
    exact ⟨pad, cells.trans (by simp [blank])⟩
  key := by simp [Nat.add_assoc]
  comma := List.not_mem_nil
  nonzero := List.not_mem_nil
  val := Or.inl ⟨rfl, List.not_mem_nil⟩

theorem Scan.other {ch : Char} (scan : Scan s earlier item (ch :: rest)) (zero : ch ≠ '\x00')
    (equal : ch ≠ '=') (comma : ch ≠ ',') : Scan s earlier (item ++ [ch]) rest where
  cells := by
    obtain ⟨pad, cells⟩ := scan.cells
    exact ⟨pad, by simp [cells, blank_other ch equal comma]⟩
  key := scan.key
  comma := by simp [scan.comma, Ne.symm comma]
  nonzero := by simp [scan.nonzero, Ne.symm zero]
  val := by
    rcases scan.val with ⟨none, plain⟩ | ⟨front, tail, same, last, val⟩
    · exact Or.inl ⟨none, by simp [plain, Ne.symm equal]⟩
    · exact Or.inr ⟨front, tail ++ [ch], by simp [same], by simp [last, Ne.symm equal], val⟩

theorem catLoop_spec (name rest : List Char) (turns : Nat) (enough : rest.length < turns)
    (nonzero : '\x00' ∉ rest) (scan : Scan s earlier item rest) :
    catLoop name turns (earlier ++ item).length s = some ((itemOf (item ++ rest) name).map lastValue) := by
  induction rest generalizing turns s earlier item with
  | nil =>
      cases turns with
      | zero => cases enough
      | succ turns =>
          obtain ⟨key, val⟩ := scan.read
          rw [catLoop, scan.here, List.append_nil, itemOf_last item name scan.comma]
          simp only [List.nil_append, List.headD_cons, Option.bind_some, if_true, key, val]
          split
          · rfl
          · rfl
  | cons ch rest ih =>
      cases turns with
      | zero => cases enough
      | succ turns =>
          rw [List.length_cons, Nat.add_lt_add_iff_right] at enough
          rw [List.mem_cons, not_or] at nonzero
          have zero : ch ≠ '\x00' := Ne.symm nonzero.1
          rw [catLoop, scan.here]
          simp only [List.cons_append, List.headD_cons, Option.bind_some, zero, if_false]
          by_cases equal : ch = '='
          · subst equal
            have onward := ih turns enough nonzero.2 scan.equal
            simpa [Nat.add_assoc] using onward
          · by_cases comma : ch = ','
            · subst comma
              obtain ⟨key, val⟩ := scan.ended.read
              have onward := ih turns enough nonzero.2 scan.next
              rw [List.append_nil, List.length_append, List.length_singleton, List.nil_append] at onward
              rw [if_neg (by decide), if_pos rfl, onward, key, val, itemOf_comma item rest name scan.comma]
              split
              · rfl
              · rfl
            · have onward := ih turns enough nonzero.2 (scan.other zero equal comma)
              simpa [equal, comma, Nat.add_assoc] using onward

end Loop

theorem scan_start (options : Buffer) (text : List Char) (whole : options.cells.length = 8192)
    (short : text.length < 8192) :
    Scan ⟨(strncpy options text 8192).put 8191 '\x00', 0, none⟩ [] [] text where
  cells := by
    have copied := strncpy_short options text 8192 whole (Nat.le_of_lt short)
    have size : 8192 - text.length = (8191 - text.length) + 1 := by omega
    have last : (text ++ List.replicate (8191 - text.length) '\x00').length = 8191 := by
      rw [List.length_append, List.length_replicate]
      omega
    rw [size, List.replicate_succ', ← List.append_assoc] at copied
    have written := put_cells (strncpy options text 8192) _ [] _ '\x00' copied
    rw [last] at written
    refine ⟨List.replicate (8191 - text.length) '\x00', ?_⟩
    rw [written, List.append_assoc, ← List.replicate_succ', List.replicate_succ]
    rfl
  key := rfl
  comma := List.not_mem_nil
  nonzero := List.not_mem_nil
  val := Or.inl ⟨rfl, List.not_mem_nil⟩

theorem getCatOptions_spec (options : Buffer) (text name : List Char) (whole : options.cells.length = 8192)
    (short : text.length < 8192) (nonzero : '\x00' ∉ text) :
    getCatOptions options (some text) name = some ((itemOf text name).map lastValue) := by
  have ran := catLoop_spec name text 8192 short nonzero (scan_start options text whole short)
  rw [List.nil_append, List.length_nil, List.nil_append] at ran
  rw [getCatOptions, ran]

/-- The call gives the value of the name exactly when the value of the first item with that name
has no `=`, and NULL where there is no such item. -/
theorem cat_options_exact (options : Buffer) (option : Option (List Char)) (name : List Char)
    (whole : options.cells.length = 8192)
    (fits : ∀ text, option = some text → text.length < 8192 ∧ '\x00' ∉ text) :
    getCatOptions options option name = some (optionValue option name) ↔
      ∀ text item, option = some text → itemOf text name = some item → '=' ∉ itemValue item := by
  cases option with
  | none =>
      apply iff_of_true rfl
      intro text item given
      cases given
  | some text =>
      obtain ⟨short, nonzero⟩ := fits text rfl
      rw [getCatOptions_spec options text name whole short nonzero, optionValue, Option.bind_some,
        Option.some.injEq]
      cases found : itemOf text name with
      | none =>
          apply iff_of_true rfl
          intro other item given same
          injection given with equal
          rw [← equal, found] at same
          cases same
      | some item =>
          rw [Option.map_some, Option.map_some, Option.some.injEq, lastValue_iff]
          constructor
          · intro plain other again given same
            injection given with equal
            rw [← equal, found] at same
            injection same with agree
            exact agree ▸ plain
          · exact fun all => all text item rfl found

theorem cat_options_first :
    getCatOptions (Buffer.zeros 8192) (some "a=1,b,a=2".toList) "a".toList = some (some "1".toList) := by
  have fits : ∀ text, some "a=1,b,a=2".toList = some text → text.length < 8192 ∧ '\x00' ∉ text := by
    intro text same
    injection same with equal
    rw [← equal]
    decide
  have exact := cat_options_exact (Buffer.zeros 8192) (some "a=1,b,a=2".toList) "a".toList
    List.length_replicate fits
  apply exact.mpr
  intro text item same found
  injection same with equal
  have first : itemOf "a=1,b,a=2".toList "a".toList = some "a=1".toList := by decide
  rw [← equal, first] at found
  injection found with agree
  rw [← agree]
  decide

/-- A value with an `=` in it loses its front. -/
theorem cat_options_lost :
    getCatOptions (Buffer.zeros 8192) (some "a=b=c".toList) "a".toList = some (some "c".toList) ∧
      optionValue (some "a=b=c".toList) "a".toList = some "b=c".toList := by
  constructor
  · rw [getCatOptions_spec _ _ _ List.length_replicate (by decide) (by decide)]
    decide
  · decide

end Libtx
