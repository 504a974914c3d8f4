import Libtx.Debug.Log
import Libtx.Debug.Tags
import Libtx.Runs.Partial
import Mathlib.Algebra.Group.Nat.Defs

/-! `log_tag_putlog` of `tx_debug.cpp`, where it is built with glibc: the tags, the header of the
time, and the stream, over any sequence of calls.

What `getenv`, `gettimeofday` and `vfprintf` give are arguments of a call. `localtime_r` is a
function of the seconds. -/

namespace Libtx

structure Tm where
  tmMon : Nat
  tmMday : Nat
  tmHour : Nat
  tmMin : Nat
  tmSec : Nat
  deriving DecidableEq, Repr

structure TimeVal where
  tvSec : Nat
  tvUsec : Nat
  deriving DecidableEq, Repr

/-- The variables of the file: `_logable_bits`, those of `log_get`, and `_log_cookie`, whose `log_len`
may pass the end of `log_fmt`. -/
structure Logger where
  logableBits : BitVec 32
  tv1 : Nat
  lt : Tm
  logNol : Bool
  logLen : Nat
  logFmt : List Char
  written : List Char

def Logger.cookie (s : Logger) (fits : s.logLen ≤ s.logFmt.length) : LogCookie :=
  ⟨s.logNol, s.logLen, s.logFmt, fits, s.written⟩

def Logger.setCookie (s : Logger) (logcb : LogCookie) : Logger :=
  { s with logNol := logcb.logNol, logLen := logcb.logLen, logFmt := logcb.logFmt, written := logcb.written }

/-- `before` are the pieces of the text that stdio passes on at once, `held` those that it passes on
when it is flushed. -/
structure LogCall where
  env : Option (List Char)
  tag : Option (List Char)
  now : TimeVal
  before : List (List Char)
  held : List (List Char)

def LogCall.tags (call : LogCall) : List Char := call.env.getD defaultLogableTags

def LogCall.text (call : LogCall) : List Char := (call.before ++ call.held).flatten

def padded (width : Nat) (fill : Char) (n : Nat) : List Char :=
  List.replicate (width - (Nat.toDigits 10 n).length) fill ++ Nat.toDigits 10 n

def logStamp (lt : Tm) (msec : Nat) (tag : List Char) : List Char :=
  padded 2 ' ' (1 + lt.tmMon) ++ '-' :: padded 2 '0' lt.tmMday ++ ' ' :: padded 2 '0' lt.tmHour ++
    ':' :: padded 2 '0' lt.tmMin ++ ':' :: padded 2 '0' lt.tmSec ++ '.' :: padded 3 '0' msec ++
      ' ' :: tag ++ [' ']

def snprintf (buffer text : List Char) : List Char :=
  text.take (buffer.length - 1) ++ '\x00' :: buffer.drop ((text.take (buffer.length - 1)).length + 1)

section Code

variable (localtime : Nat → Tm)

/-- `log_get` keeps the time of a second. -/
def Logger.timed (s : Logger) (now : TimeVal) : Logger :=
  if now.tvSec ≠ s.tv1 then { s with tv1 := now.tvSec, lt := localtime now.tvSec } else s

def logGet (s : Logger) (now : TimeVal) (tag : List Char) : Logger :=
  let timed := s.timed localtime now
  let stamp := logStamp timed.lt (now.tvUsec / 1000) tag
  { timed with logFmt := snprintf timed.logFmt stamp, logLen := stamp.length, logNol := true }

/-- `log_tag_putlog`, with the number that `vfprintf` returns; none where `log_header`, which runs
before the first byte of a text, would write more than `log_fmt` has. -/
def logTagPutlog (s : Logger) (call : LogCall) : Option (Logger × Nat) :=
  let tested := logLogable s.logableBits call.env call.tag
  let chosen := { s with logableBits := tested.1 }
  if tested.2 then
    let got := logGet localtime chosen call.now (call.tag.getD [])
    if fits : got.logLen ≤ got.logFmt.length then
      some (got.setCookie (logPut (logChunks (got.cookie fits) call.before) call.held), call.text.length)
    else if call.text = [] then some (got, 0)
    else none
  else some (chosen, 0)

def logAct (s : Logger) (call : LogCall) : Option Logger := (logTagPutlog localtime s call).map Prod.fst

end Code

def LogCall.chooses (call : LogCall) : Option (List Char) :=
  if call.tag.isSome && call.tags.any selective then some call.tags else none

def chosenTags (calls : List LogCall) : List Char := (calls.findSome? LogCall.chooses).getD []

def Logged.After (calls : List LogCall) (call : LogCall) : Prop :=
  ∃ tag, call.tag = some tag ∧ TagChosen (chosenTags (calls ++ [call])) tag

/-- The bytes of `log_fmt` that a header has. -/
def logHeaderBytes (stamp : List Char) : List Char := (stamp.take 255 ++ ['\x00']).take stamp.length

def LogCall.message (call : LogCall) (localtime : Nat → Tm) (tag : List Char) : List Char :=
  Text.headed '\n' (logHeaderBytes (logStamp (localtime call.now.tvSec) (call.now.tvUsec / 1000) tag)) true
      call.text ++
    if call.text = [] ∨ call.text.getLast? = some '\n' then [] else ['\r', '\n']

structure Tm.Proper (lt : Tm) : Prop where
  mon : lt.tmMon < 12
  mday : lt.tmMday < 100
  hour : lt.tmHour < 100
  min : lt.tmMin < 100
  sec : lt.tmSec < 100

structure LogCall.Proper (call : LogCall) : Prop where
  byte : ∀ tag, call.tag = some tag → (tag.headD '\x00').toNat < 256
  sec : call.now.tvSec ≠ 0
  usec : call.now.tvUsec < 1000000

section Stamps

theorem padded_length (width : Nat) (fill : Char) (n : Nat) (wide : 0 < width) (small : n < 10 ^ width) :
    (padded width fill n).length = width := by
  have base : 1 < 10 := Nat.one_lt_succ_succ 8
  have digits := (Nat.length_toDigits_le_iff base wide).mpr small
  rw [padded, List.length_append, List.length_replicate]
  omega

theorem stamp_length (lt : Tm) (proper : lt.Proper) (msec : Nat) (small : msec < 1000) (tag : List Char) :
    (logStamp lt msec tag).length = tag.length + 20 := by
  have two (fill : Char) (n : Nat) (few : n < 100) : (padded 2 fill n).length = 2 :=
    padded_length 2 fill n (by decide) few
  have mon := proper.mon
  simp only [logStamp, List.length_append, List.length_cons, List.length_nil,
    two ' ' (1 + lt.tmMon) (by omega), two '0' lt.tmMday proper.mday, two '0' lt.tmHour proper.hour,
    two '0' lt.tmMin proper.min, two '0' lt.tmSec proper.sec, padded_length 3 '0' msec (by decide) small]
  omega

theorem snprintf_length (buffer text : List Char) (room : 0 < buffer.length) :
    (snprintf buffer text).length = buffer.length := by
  simp only [snprintf, List.length_append, List.length_cons, List.length_drop, List.length_take]
  omega

theorem snprintf_header (buffer text : List Char) (room : buffer.length = 256) (fits : text.length ≤ 256) :
    (snprintf buffer text).take text.length = logHeaderBytes text := by
  rw [snprintf, logHeaderBytes, room]
  simp only [List.take_append, List.length_take, Nat.add_one_sub_one]
  congr 1
  by_cases full : text.length = 256
  · simp [full]
  · have short : text.length - min 255 text.length = 0 := by omega
    rw [short]
    rfl

end Stamps

section Runs

variable {localtime : Nat → Tm} {s : Logger} {calls : List LogCall}

/-- The bits are those of the letters that count, and the time that `log_get` keeps is that of its
second. -/
structure Logger.Keeps (s : Logger) (localtime : Nat → Tm) (calls : List LogCall) : Prop where
  bits : s.logableBits = (chosenTags calls).foldl logTag 0#32
  time : s.tv1 ≠ 0 → s.lt = localtime s.tv1
  room : s.logFmt.length = 256

theorem chosenTags_again (calls : List LogCall) (call : LogCall)
    (chosen : (chosenTags calls).foldl logTag 0#32 ≠ 0#32) : chosenTags (calls ++ [call]) = chosenTags calls := by
  unfold chosenTags at chosen ⊢
  rw [List.findSome?_append]
  cases found : calls.findSome? LogCall.chooses with
  | some tags => rfl
  | none =>
      rw [found] at chosen
      exact absurd rfl chosen

theorem chosenTags_first (calls : List LogCall) (call : LogCall)
    (open_yet : (chosenTags calls).foldl logTag 0#32 = 0#32) :
    chosenTags (calls ++ [call]) = call.chooses.getD [] := by
  unfold chosenTags at open_yet ⊢
  rw [List.findSome?_append]
  cases found : calls.findSome? LogCall.chooses with
  | some tags =>
      obtain ⟨earlier, _, given⟩ := List.exists_of_findSome?_eq_some found
      unfold LogCall.chooses at given
      split at given
      · rename_i chooses
        injection given with same
        rw [found, ← same] at open_yet
        have quiet := (tags_none earlier.tags).mp open_yet
        rw [Bool.and_eq_true, quiet] at chooses
        cases chooses.2
      · cases given
  | none =>
      rw [Option.none_or, List.findSome?_singleton]

theorem Logger.Keeps.chosen (keeps : s.Keeps localtime calls) (call : LogCall) :
    (logLogable s.logableBits call.env call.tag).1 = (chosenTags (calls ++ [call])).foldl logTag 0#32 := by
  have bits := keeps.bits
  by_cases chosen : s.logableBits = 0#32
  · have first := chosenTags_first calls call (bits ▸ chosen)
    rw [first]
    unfold logLogable
    cases named : call.tag with
    | none => simp [LogCall.chooses, named, chosen]
    | some tag =>
        dsimp only
        rw [if_pos chosen, chosen]
        change call.tags.foldl logTag 0#32 = _
        cases quiet : call.tags.any selective with
        | true => simp [LogCall.chooses, named, quiet]
        | false => simp [LogCall.chooses, named, quiet, (tags_none call.tags).mpr quiet]
  · rw [chosenTags_again calls call (bits ▸ chosen), ← bits]
    unfold logLogable
    cases call.tag with
    | none => rfl
    | some tag => exact if_neg chosen

theorem Logger.Keeps.tested (keeps : s.Keeps localtime calls) (call : LogCall) (proper : call.Proper) :
    (logLogable s.logableBits call.env call.tag).2 = true ↔ Logged.After calls call := by
  have chosen := keeps.chosen call
  unfold Logged.After
  cases named : call.tag with
  | none => simp [logLogable]
  | some tag =>
      rw [named] at chosen
      have iff := chosen_iff (chosenTags (calls ++ [call])) tag (proper.byte tag named)
      rw [← chosen] at iff
      constructor
      · intro passes
        refine ⟨tag, rfl, iff.mp ?_⟩
        simpa [logLogable] using passes
      · rintro ⟨other, same, passes⟩
        injection same with same
        simpa [logLogable] using iff.mpr (same ▸ passes)

theorem Logger.Keeps.timed (keeps : s.Keeps localtime calls) (now : TimeVal) (past : now.tvSec ≠ 0) :
    (s.timed localtime now).tv1 = now.tvSec ∧ (s.timed localtime now).lt = localtime now.tvSec ∧
      (s.timed localtime now).logFmt = s.logFmt ∧ (s.timed localtime now).written = s.written ∧
        (s.timed localtime now).logableBits = s.logableBits := by
  unfold Logger.timed
  split
  · exact ⟨rfl, rfl, rfl, rfl, rfl⟩
  · rename_i same
    have same : now.tvSec = s.tv1 := not_not.mp same
    exact ⟨same.symm, same ▸ keeps.time (same ▸ past), rfl, rfl, rfl⟩

theorem Logger.Keeps.bits_set (keeps : s.Keeps localtime calls) (call : LogCall) :
    { s with logableBits := (logLogable s.logableBits call.env call.tag).1 }.Keeps localtime (calls ++ [call]) :=
  ⟨keeps.chosen call, keeps.time, keeps.room⟩

structure Logger.Got (s got : Logger) (localtime : Nat → Tm) (now : TimeVal) (tag : List Char) : Prop where
  bits : got.logableBits = s.logableBits
  tv1 : got.tv1 = now.tvSec
  lt : got.lt = localtime now.tvSec
  nol : got.logNol = true
  written : got.written = s.written
  room : got.logFmt.length = 256
  fits : got.logLen ≤ got.logFmt.length ↔ tag.length ≤ 236
  header : tag.length ≤ 236 →
    got.logFmt.take got.logLen = logHeaderBytes (logStamp (localtime now.tvSec) (now.tvUsec / 1000) tag)

theorem Logger.Keeps.get (keeps : s.Keeps localtime calls) (ranges : ∀ sec, (localtime sec).Proper)
    (now : TimeVal) (past : now.tvSec ≠ 0) (usec : now.tvUsec < 1000000) (tag : List Char) :
    s.Got (logGet localtime s now tag) localtime now tag := by
  obtain ⟨tv1, lt, logFmt, written, bits⟩ := keeps.timed now past
  have room : (s.timed localtime now).logFmt.length = 256 := logFmt ▸ keeps.room
  have stamp := stamp_length (s.timed localtime now).lt (lt ▸ ranges now.tvSec) (now.tvUsec / 1000) (by omega) tag
  have length := snprintf_length (s.timed localtime now).logFmt
    (logStamp (s.timed localtime now).lt (now.tvUsec / 1000) tag) (by omega)
  refine ⟨bits, tv1, lt, rfl, written, length.trans room, ?_, ?_⟩
  · simp only [logGet]
    omega
  · intro short
    rw [← lt]
    exact snprintf_header _ _ room (by omega)

end Runs

section Streams

theorem header_logFmt (logcb : LogCookie) (bytes : List Char) :
    ((logHeader logcb).write bytes).logFmt = logcb.logFmt := by
  unfold logHeader
  split
  · rfl
  · rfl

theorem scan_logFmt (data : List Char) (places : List Nat) (at_buf : LogCookie × Nat) :
    (places.foldl (logScan data) at_buf).1.logFmt = at_buf.1.logFmt := by
  induction places generalizing at_buf with
  | nil => rfl
  | cons p places ih =>
      rw [List.foldl_cons, ih]
      unfold logScan
      split
      · exact header_logFmt at_buf.1 ((data.take (p + 1)).drop at_buf.2)
      · rfl

theorem write_logFmt (logcb : LogCookie) (data : List Char) : (logWrite logcb data).1.logFmt = logcb.logFmt := by
  have scanned := scan_logFmt data (List.range data.length) (logcb, 0)
  unfold logWrite
  split
  · rfl
  · dsimp only
    split
    · exact (header_logFmt _ _).trans scanned
    · exact scanned

theorem chunks_logFmt (logcb : LogCookie) (chunks : List (List Char)) :
    (logChunks logcb chunks).logFmt = logcb.logFmt := by
  induction chunks generalizing logcb with
  | nil => rfl
  | cons data chunks ih => exact (ih (logWrite logcb data).1).trans (write_logFmt logcb data)

theorem put_logFmt (logcb : LogCookie) (held : List (List Char)) : (logPut logcb held).logFmt = logcb.logFmt := by
  unfold logPut
  dsimp only
  split
  · exact chunks_logFmt logcb held
  · exact chunks_logFmt logcb held

theorem put_message (logcb : LogCookie) (start : logcb.logNol = true) (before held : List (List Char)) :
    (logPut (logChunks logcb before) held).written =
      logcb.written ++ (Text.headed '\n' logcb.header true (before ++ held).flatten ++
        if (before ++ held).flatten = [] ∨ (before ++ held).flatten.getLast? = some '\n' then []
        else ['\r', '\n']) := by
  have wrote := log_chunks_wrote logcb (before ++ held)
  have nol := wrote.nol
  rw [start] at nol
  have ends := Text.fresh_iff '\n' (before ++ held).flatten
  rw [put_written, wrote.written, start, List.append_assoc, nol]
  simp only [ends]

end Streams

section Calls

variable {localtime : Nat → Tm} {s : Logger} {calls : List LogCall}

/-- What a call does after others: it writes its message if the letters that count let its tag
through, and nothing else; it overruns `log_fmt` exactly where it is logged, has a text and its tag is
longer than 236 characters. -/
structure Logger.Logs (s : Logger) (localtime : Nat → Tm) (calls : List LogCall) (call : LogCall) : Prop where
  logged : ∀ tag next n, Logged.After calls call → call.tag = some tag →
    logTagPutlog localtime s call = some (next, n) →
      next.written = s.written ++ call.message localtime tag ∧ n = call.text.length
  quiet : ¬ Logged.After calls call →
    ∃ bits, logTagPutlog localtime s call = some ({ s with logableBits := bits }, 0)
  overruns : logTagPutlog localtime s call = none ↔
    Logged.After calls call ∧ call.text ≠ [] ∧ ∃ tag, call.tag = some tag ∧ 236 < tag.length

theorem Logger.Got.keeps {got : Logger} {now : TimeVal} {tag : List Char} (gives : s.Got got localtime now tag)
    (keeps : s.Keeps localtime calls) (next : Logger) (bits : next.logableBits = got.logableBits)
    (tv1 : next.tv1 = got.tv1) (lt : next.lt = got.lt) (room : next.logFmt.length = 256) :
    next.Keeps localtime calls := by
  refine ⟨?_, fun _ => ?_, room⟩
  · rw [bits, gives.bits, keeps.bits]
  · rw [lt, tv1, gives.lt, gives.tv1]

theorem Logger.Got.streams {got : Logger} {call : LogCall} {tag : List Char}
    (gives : s.Got got localtime call.now tag) (fits : got.logLen ≤ got.logFmt.length) :
    (logPut (logChunks (got.cookie fits) call.before) call.held).written =
        s.written ++ call.message localtime tag ∧
      (logPut (logChunks (got.cookie fits) call.before) call.held).logFmt.length = 256 := by
  have header : (got.cookie fits).header = _ := gives.header (gives.fits.mp fits)
  constructor
  · rw [put_message (got.cookie fits) gives.nol, header, ← gives.written]
    rfl
  · rw [put_logFmt, chunks_logFmt]
    exact gives.room

theorem Logger.Keeps.putlog_logged (keeps : s.Keeps localtime calls) (ranges : ∀ sec, (localtime sec).Proper)
    (call : LogCall) (proper : call.Proper) (tag : List Char) (named : call.tag = some tag)
    (passes : (logLogable s.logableBits call.env call.tag).2 = true) :
    (∀ next n, logTagPutlog localtime s call = some (next, n) →
      next.written = s.written ++ call.message localtime tag ∧ n = call.text.length ∧
        next.Keeps localtime (calls ++ [call])) ∧
    (logTagPutlog localtime s call = none ↔ call.text ≠ [] ∧ 236 < tag.length) := by
  have chosen := keeps.bits_set call
  have gives := chosen.get ranges call.now proper.sec proper.usec tag
  have given : call.tag.getD [] = tag := by
    rw [named]
    rfl
  have acts : logTagPutlog localtime s call =
      let got := logGet localtime { s with logableBits := (logLogable s.logableBits call.env call.tag).1 }
        call.now tag
      if fits : got.logLen ≤ got.logFmt.length then
        some (got.setCookie (logPut (logChunks (got.cookie fits) call.before) call.held), call.text.length)
      else if call.text = [] then some (got, 0)
      else none := by
    simp only [logTagPutlog, passes, if_true, given]
  rw [acts]
  clear acts
  generalize logGet localtime _ call.now tag = got at gives
  dsimp only
  split
  · rename_i fits
    have short := gives.fits.mp fits
    constructor
    · intro next n put
      injection put with put
      injection put with stream count
      subst stream count
      obtain ⟨written, room⟩ := gives.streams fits
      exact ⟨written, rfl, gives.keeps chosen _ rfl rfl rfl room⟩
    · simp only [reduceCtorEq, false_iff, not_and]
      omega
  · rename_i overlong
    have long : 236 < tag.length := Nat.lt_of_not_le fun short => overlong (gives.fits.mpr short)
    split
    · rename_i empty
      constructor
      · intro next n put
        injection put with put
        injection put with same count
        subst same count
        refine ⟨?_, ?_, gives.keeps chosen _ rfl rfl rfl gives.room⟩
        · rw [gives.written, LogCall.message, empty]
          simp [Text.headed]
        · rw [empty]
          rfl
      · simp [empty]
    · rename_i text
      constructor
      · intro next n put
        cases put
      · exact iff_of_true rfl ⟨text, long⟩

theorem Logger.Keeps.putlog (keeps : s.Keeps localtime calls) (ranges : ∀ sec, (localtime sec).Proper)
    (call : LogCall) (proper : call.Proper) :
    s.Logs localtime calls call ∧
      ∀ next n, logTagPutlog localtime s call = some (next, n) → next.Keeps localtime (calls ++ [call]) := by
  have tested := keeps.tested call proper
  by_cases passes : (logLogable s.logableBits call.env call.tag).2 = true
  · have logged := tested.mp passes
    obtain ⟨tag, named, _⟩ := tested.mp passes
    obtain ⟨puts, overruns⟩ := keeps.putlog_logged ranges call proper tag named passes
    refine ⟨⟨?_, fun silent => absurd logged silent, ?_⟩, fun next n put => (puts next n put).2.2⟩
    · intro other next n _ same put
      rw [named] at same
      injection same with same
      obtain ⟨written, count, _⟩ := puts next n put
      exact ⟨same ▸ written, count⟩
    · rw [overruns, named]
      simp [logged]
  · have silent : ¬ Logged.After calls call := fun logged => passes (tested.mpr logged)
    have acts : logTagPutlog localtime s call =
        some ({ s with logableBits := (logLogable s.logableBits call.env call.tag).1 }, 0) := by
      simp only [logTagPutlog, passes, Bool.false_eq_true, if_false]
    refine ⟨⟨?_, fun _ => ⟨_, acts⟩, ?_⟩, ?_⟩
    · exact fun _ _ _ logged => absurd logged silent
    · rw [acts]
      simp only [reduceCtorEq, false_iff]
      exact fun overruns => silent overruns.1
    · intro next n put
      rw [acts] at put
      injection put with put
      injection put with same
      exact same ▸ keeps.bits_set call

structure LoggerFresh (s : Logger) : Prop where
  bits : s.logableBits = 0#32
  time : s.tv1 = 0
  room : s.logFmt.length = 256

theorem keeps_run (ranges : ∀ sec, (localtime sec).Proper) (later : List LogCall)
    (proper : ∀ call ∈ later, call.Proper) (start last : Logger) (keeps : start.Keeps localtime calls)
    (reached : Runs.run (logAct localtime) start later = some last) : last.Keeps localtime (calls ++ later) := by
  induction later generalizing start calls with
  | nil =>
      injection reached with same
      rw [← same, List.append_nil]
      exact keeps
  | cons call later ih =>
      obtain ⟨next, first, rest⟩ := (Runs.run_cons start last call later).mp reached
      obtain ⟨put, called, same⟩ := Option.map_eq_some_iff.mp first
      subst same
      have kept := (keeps.putlog ranges call (proper call List.mem_cons_self)).2 put.1 put.2 called
      have onward := ih (fun other member => proper other (List.mem_cons_of_mem call member)) put.1 kept rest
      rwa [List.append_assoc] at onward

/-- In any sequence of calls each one writes its own lines, with the time of the call, where its tag
is let through by the first letters that select any. -/
theorem log_runs (localtime : Nat → Tm) (ranges : ∀ sec, (localtime sec).Proper) (start s : Logger)
    (fresh : LoggerFresh start) (calls : List LogCall) (proper : ∀ call ∈ calls, call.Proper)
    (reached : Runs.run (logAct localtime) start calls = some s) (call : LogCall) (fits : call.Proper) :
    s.Logs localtime calls call := by
  have first : start.Keeps localtime [] := ⟨fresh.bits, fun past => absurd fresh.time past, fresh.room⟩
  have keeps := keeps_run ranges calls proper start s first reached
  exact (keeps.putlog ranges call fits).1

def firstDay (sec : Nat) : Tm := ⟨0, 1, sec / 3600 % 24, sec / 60 % 60, sec % 60⟩

def newLogger : Logger := ⟨0#32, 0, ⟨0, 0, 0, 0, 0⟩, false, 0, List.replicate 256 '\x00', []⟩

def warnCall : LogCall := ⟨some ['w'], some ['W'], ⟨3725, 7000⟩, [['a', '\n']], [['b']]⟩

def noteCall : LogCall := ⟨some ['V'], some ['I'], ⟨3726, 0⟩, [['c']], []⟩

def loggerAfter : Logger := (Runs.run (logAct firstDay) newLogger [warnCall]).getD newLogger

theorem firstDay_proper (sec : Nat) : (firstDay sec).Proper where
  mon := show 0 < 12 by decide
  mday := show 1 < 100 by decide
  hour := by
    change sec / 3600 % 24 < 100
    omega
  min := by
    change sec / 60 % 60 < 100
    omega
  sec := by
    change sec % 60 < 100
    omega

theorem warn_proper : warnCall.Proper := by
  refine ⟨?_, by decide, by decide⟩
  rintro tag ⟨⟩
  decide

theorem note_proper : noteCall.Proper := by
  refine ⟨?_, by decide, by decide⟩
  rintro tag ⟨⟩
  decide

theorem warn_reached : Runs.run (logAct firstDay) newLogger [warnCall] = some loggerAfter := by
  have some_logger : (Runs.run (logAct firstDay) newLogger [warnCall]).isSome = true := by
    decide +kernel
  obtain ⟨s, reached⟩ := Option.isSome_iff_exists.mp some_logger
  rw [loggerAfter, reached]
  rfl

theorem log_runs_warn :
    loggerAfter.Logs firstDay [warnCall] noteCall ∧
      loggerAfter.written = " 1-01 01:02:05.007 W a\n 1-01 01:02:05.007 W b\r\n".toList := by
  refine ⟨?_, by decide +kernel⟩
  apply log_runs firstDay firstDay_proper newLogger loggerAfter ⟨rfl, rfl, List.length_replicate⟩ [warnCall] _
    warn_reached noteCall note_proper
  intro call member
  rw [List.mem_singleton.mp member]
  exact warn_proper

end Calls

end Libtx
