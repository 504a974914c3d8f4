import Libtx.Text.Lines

/-! The stream of `tx_debug.cpp`: `_log_write` puts a header before every line of a message, which
stdio passes on in pieces, and `log_put` ends the message. -/

namespace Libtx

structure LogCookie where
  logNol : Bool
  logLen : Nat
  logFmt : List Char
  fits : logLen ≤ logFmt.length
  written : List Char

def LogCookie.header (logcb : LogCookie) : List Char := logcb.logFmt.take logcb.logLen

def LogCookie.write (logcb : LogCookie) (bytes : List Char) : LogCookie :=
  { logcb with written := logcb.written ++ bytes }

def logHeader (logcb : LogCookie) : LogCookie :=
  if logcb.logNol = false then logcb else { logcb with logNol := false }.write logcb.header

/-- The body of the loop, at `p`; the second component is the pointer `buf`. -/
def logScan (data : List Char) (at_buf : LogCookie × Nat) (p : Nat) : LogCookie × Nat :=
  if data[p]? = some '\n' then
    ({ (logHeader at_buf.1).write ((data.take (p + 1)).drop at_buf.2) with logNol := true }, p + 1)
  else at_buf

def logWrite (logcb : LogCookie) (data : List Char) : LogCookie × Nat :=
  if data.length = 0 then (logcb, data.length)
  else
    let scanned := (List.range data.length).foldl (logScan data) (logcb, 0)
    if scanned.2 < data.length then ((logHeader scanned.1).write (data.drop scanned.2), data.length)
    else (scanned.1, data.length)

def logChunks (logcb : LogCookie) (chunks : List (List Char)) : LogCookie :=
  chunks.foldl (fun logcb data => (logWrite logcb data).1) logcb

/-- `held` are the pieces that stdio passes on when it is flushed. -/
def logPut (logcb : LogCookie) (held : List (List Char)) : LogCookie :=
  let flushed := logChunks logcb held
  if flushed.logNol = false then flushed.write ['\r', '\n'] else flushed

structure LogCookie.Wrote (logcb : LogCookie) (text : List Char) (next : LogCookie) : Prop where
  written : next.written = logcb.written ++ Text.headed '\n' logcb.header logcb.logNol text
  nol : next.logNol = Text.fresh '\n' logcb.logNol text
  header : next.header = logcb.header

section Writes

variable {logcb : LogCookie}

theorem wrote_nothing (logcb : LogCookie) : logcb.Wrote [] logcb :=
  ⟨(List.append_nil _).symm, rfl, rfl⟩

theorem LogCookie.Wrote.append {front back : List Char} {next last : LogCookie}
    (first : logcb.Wrote front next) (second : next.Wrote back last) : logcb.Wrote (front ++ back) last where
  written := by
    calc last.written
        = next.written ++ Text.headed '\n' next.header next.logNol back := second.written
      _ = logcb.written ++ (Text.headed '\n' logcb.header logcb.logNol front ++
            Text.headed '\n' logcb.header (Text.fresh '\n' logcb.logNol front) back) := by
          rw [first.written, first.header, first.nol, List.append_assoc]
      _ = logcb.written ++ Text.headed '\n' logcb.header logcb.logNol (front ++ back) := by
          rw [Text.headed_append]
  nol := by rw [second.nol, first.nol, Text.fresh_append]
  header := second.header.trans first.header

theorem header_written (logcb : LogCookie) (bytes : List Char) :
    ((logHeader logcb).write bytes).written =
      logcb.written ++ ((if logcb.logNol then logcb.header else []) ++ bytes) := by
  unfold logHeader
  cases nol : logcb.logNol
  · rfl
  · exact List.append_assoc _ _ _

theorem header_nol (logcb : LogCookie) (bytes : List Char) : ((logHeader logcb).write bytes).logNol = false := by
  unfold logHeader
  split
  · rename_i nol
    exact nol
  · rfl

theorem header_kept (logcb : LogCookie) (bytes : List Char) :
    ((logHeader logcb).write bytes).header = logcb.header := by
  unfold logHeader
  split
  · rfl
  · rfl

theorem line_wrote (logcb : LogCookie) (text : List Char) (inside : '\n' ∉ text) :
    logcb.Wrote (text ++ ['\n']) { (logHeader logcb).write (text ++ ['\n']) with logNol := true } where
  written := by
    rw [Text.headed_line '\n' _ _ text inside]
    exact header_written logcb (text ++ ['\n'])
  nol := (Text.fresh_concat '\n' _ text '\n').symm
  header := header_kept logcb (text ++ ['\n'])

theorem part_wrote (logcb : LogCookie) (text : List Char) (some_char : text ≠ []) (inside : '\n' ∉ text) :
    logcb.Wrote text ((logHeader logcb).write text) where
  written := by
    rw [Text.headed_part '\n' _ _ text some_char inside]
    exact header_written logcb text
  nol := by
    rw [Text.fresh_part '\n' _ text some_char inside]
    exact header_nol logcb text
  header := header_kept logcb text

structure Scanned (logcb : LogCookie) (data : List Char) (p : Nat) (at_buf : LogCookie × Nat) : Prop where
  wrote : logcb.Wrote (data.take at_buf.2) at_buf.1
  front : at_buf.2 ≤ p
  inside : '\n' ∉ (data.take p).drop at_buf.2

theorem take_succ_drop (data : List Char) (p buf : Nat) (front : buf ≤ p) (small : p < data.length) :
    (data.take (p + 1)).drop buf = (data.take p).drop buf ++ [data[p]] := by
  rw [List.take_succ_eq_append_getElem small, List.drop_append_of_le_length]
  rw [List.length_take]
  omega

theorem Scanned.step {data : List Char} {p : Nat} {at_buf : LogCookie × Nat}
    (scanned : Scanned logcb data p at_buf) (small : p < data.length) :
    Scanned logcb data (p + 1) (logScan data at_buf p) := by
  have grown := take_succ_drop data p at_buf.2 scanned.front small
  unfold logScan
  rw [List.getElem?_eq_getElem small]
  split
  · rename_i newline
    rw [Option.some.inj newline] at grown
    constructor
    · have wrote := scanned.wrote.append (line_wrote at_buf.1 _ scanned.inside)
      rw [← grown, List.drop_take, ← List.take_add, Nat.add_sub_cancel' (Nat.le_succ_of_le scanned.front)]
        at wrote
      rw [List.drop_take]
      exact wrote
    · exact Nat.le_refl _
    · rw [List.drop_of_length_le (List.length_take_le _ _)]
      exact List.not_mem_nil
  · rename_i other
    constructor
    · exact scanned.wrote
    · exact Nat.le_succ_of_le scanned.front
    · rw [grown, List.mem_append, List.mem_singleton]
      rintro (member | same)
      · exact scanned.inside member
      · exact other (congrArg some same.symm)

theorem scan_scanned (logcb : LogCookie) (data : List Char) (p : Nat) (small : p ≤ data.length) :
    Scanned logcb data p ((List.range p).foldl (logScan data) (logcb, 0)) := by
  induction p with
  | zero => exact ⟨wrote_nothing logcb, Nat.le_refl 0, List.not_mem_nil⟩
  | succ p ih =>
      rw [List.range_succ, List.foldl_append]
      exact (ih (Nat.le_of_succ_le small)).step small

theorem log_write_wrote (logcb : LogCookie) (data : List Char) : logcb.Wrote data (logWrite logcb data).1 := by
  have scanned := scan_scanned logcb data data.length (Nat.le_refl _)
  generalize reached : (List.range data.length).foldl (logScan data) (logcb, 0) = at_buf at scanned
  unfold logWrite
  rw [reached]
  split
  · rename_i empty
    rw [List.eq_nil_of_length_eq_zero empty]
    exact wrote_nothing logcb
  · dsimp only
    split
    · rename_i more
      have inside := scanned.inside
      rw [List.take_length] at inside
      have part : data.drop at_buf.2 ≠ [] := List.ne_nil_of_length_pos (by rw [List.length_drop]; omega)
      have wrote := scanned.wrote.append (part_wrote at_buf.1 _ part inside)
      rw [List.take_append_drop] at wrote
      exact wrote
    · rename_i whole
      have wrote := scanned.wrote
      rw [List.take_of_length_le (Nat.not_lt.mp whole)] at wrote
      exact wrote

theorem log_chunks_wrote (logcb : LogCookie) (chunks : List (List Char)) :
    logcb.Wrote chunks.flatten (logChunks logcb chunks) := by
  induction chunks generalizing logcb with
  | nil => exact wrote_nothing logcb
  | cons data chunks ih => exact (log_write_wrote logcb data).append (ih (logWrite logcb data).1)

/-- A message that stdio passes on as `chunks`, the last of them when it is flushed: the header is
before the first byte of every line, and the last line gets an end if it has none. -/
structure Logged (logcb : LogCookie) (chunks : List (List Char)) : Prop where
  headed : (logChunks logcb chunks).written =
    logcb.written ++ Text.headed '\n' logcb.header true chunks.flatten
  nol : (logChunks logcb chunks).logNol = true ↔
    chunks.flatten = [] ∨ chunks.flatten.getLast? = some '\n'
  put : ∀ before held, chunks = before ++ held →
    (logPut (logChunks logcb before) held).written =
      (logChunks logcb chunks).written ++
        if chunks.flatten = [] ∨ chunks.flatten.getLast? = some '\n' then [] else ['\r', '\n']
  ended : chunks.flatten ≠ [] → ∀ before held, chunks = before ++ held →
    (logPut (logChunks logcb before) held).written.getLast? = some '\n'

theorem put_written (logcb : LogCookie) (before held : List (List Char)) :
    (logPut (logChunks logcb before) held).written =
      (logChunks logcb (before ++ held)).written ++
        if (logChunks logcb (before ++ held)).logNol then [] else ['\r', '\n'] := by
  have joined : logChunks (logChunks logcb before) held = logChunks logcb (before ++ held) :=
    List.foldl_append.symm
  unfold logPut
  dsimp only
  rw [joined]
  cases nol : (logChunks logcb (before ++ held)).logNol
  · rfl
  · exact (List.append_nil _).symm

/-- What is logged does not depend on how stdio splits the text. -/
theorem log_uncut (logcb : LogCookie) (start : logcb.logNol = true) (chunks : List (List Char)) :
    Logged logcb chunks := by
  have wrote := log_chunks_wrote logcb chunks
  have headed := wrote.written
  have nol := wrote.nol
  rw [start] at headed nol
  have ends : (logChunks logcb chunks).logNol = true ↔
      chunks.flatten = [] ∨ chunks.flatten.getLast? = some '\n' := by
    rw [nol]
    exact Text.fresh_iff '\n' chunks.flatten
  constructor
  · exact headed
  · exact ends
  · intro before held split
    rw [put_written, ← split]
    simp only [ends]
  · intro some_char before held split
    rw [put_written, ← split]
    by_cases ended : (logChunks logcb chunks).logNol = true
    · rw [if_pos ended, List.append_nil, headed, List.getLast?_append, Text.headed_last]
      rw [(ends.mp ended).resolve_left some_char]
      rfl
    · rw [if_neg ended, List.getLast?_append]
      rfl

def cutCookie : LogCookie := ⟨true, 2, ['#', ' ', 'x'], by decide, []⟩

def cutChunks : List (List Char) := ["a\nb".toList, [], "c".toList]

theorem log_uncut_twice :
    Logged cutCookie cutChunks ∧
      (logPut (logChunks cutCookie cutChunks) []).written = "# a\n# bc\r\n".toList := by
  refine ⟨log_uncut cutCookie rfl cutChunks, ?_⟩
  decide

end Writes

end Libtx
