import Libtx.Text.Buffer
import Mathlib.Data.List.Induction
import Mathlib.Logic.Function.Basic

/-! `get_target_address` of `tx_platform.cpp`: the address and the port that a text names.

The name service and the two conversions of the C library are arguments. A machine is
little-endian, and `atoi` is used within its range. -/

namespace Libtx

open Text

/-- `ipv6` has its words as they are stored. -/
structure TcpipInfo where
  port : Nat
  ipv6 : Fin 4 → Nat

/-- `inet_addr`, `inet_pton` for `AF_INET6`, and the first address of `gethostbyname`, none where
they fail. -/
structure Resolver where
  inetAddr : List Char → Option Nat
  inetPton : List Char → Option (Fin 4 → Nat)
  gethostbyname : List Char → Option Nat

def INADDR_NONE : Nat := 0xffffffff

def htons (value : Int) : Nat :=
  let short := (value % 65536).toNat
  short % 256 * 256 + short / 256

def htonl (value : Nat) : Nat :=
  value % 256 * 16777216 + value / 256 % 256 * 65536 + value / 65536 % 256 * 256 + value / 16777216 % 256

structure AddressFlags where
  dot : Bool := false
  alpha : Bool := false
  number : Bool := false
  split : Bool := false
  ipv6 : Bool := false
  left : Bool := false
  right : Bool := false
  deriving DecidableEq, Repr

def addressFlag (flags : AddressFlags) (last : Char) : Option AddressFlags :=
  if last.isDigit then some { flags with number := true }
  else if last = ':' ∧ flags.split = true then some { flags with ipv6 := true }
  else if last = ':' then some { flags with split := true }
  else if last = '.' then some { flags with dot := true }
  else if last = '-' then some { flags with alpha := true }
  else if last = '[' then some { flags with left := true }
  else if last = ']' then some { flags with right := true }
  else if last.isAlpha then some { flags with alpha := true }
  else none

def addressFlags (address : List Char) : Option AddressFlags := address.foldlM addressFlag {}

structure AddressResult where
  result : Int
  info : TcpipInfo
  host : Buffer

/-- The copy loop with the write of the terminator; `stop` is `end`, none where that is 0. What
is left of the address comes first. -/
def copyHost (stop : Option Char) : List Char → Nat → Buffer → List Char × Buffer
  | [], index, host => ([], host.put index '\x00')
  | ch :: address, index, host =>
      if some ch = stop then (ch :: address, host.put index '\x00')
      else copyHost stop address (index + 1) (host.put index ch)

def ipv6Host (host : Buffer) : List Char → List Char × Buffer
  | '[' :: inside => copyHost (some ']') inside 0 host
  | address => copyHost none address 0 host

def bracketPort (info : TcpipInfo) : List Char → TcpipInfo
  | ']' :: ':' :: port => { info with port := htons (atoi port) }
  | _ => info

def ipv6Address (net : Resolver) (info : TcpipInfo) (address : List Char) (host : Buffer) : AddressResult :=
  let copied := ipv6Host host address
  let ported := bracketPort info copied.1
  match net.inetPton (copied.2.str 0) with
  | some words => ⟨1, { ported with ipv6 := words }, copied.2⟩
  | none => ⟨0, ported, copied.2⟩

def TcpipInfo.tiiAddress (info : TcpipInfo) (address : Nat) : TcpipInfo :=
  { info with ipv6 := Function.update info.ipv6 3 address }

def inetAddress (net : Resolver) (info : TcpipInfo) (host : List Char) : TcpipInfo :=
  info.tiiAddress ((net.inetAddr host).getD INADDR_NONE)

def hostAddress (net : Resolver) (info : TcpipInfo) (host : List Char) : TcpipInfo :=
  match net.gethostbyname host with
  | none => info
  | some address => info.tiiAddress address

def splitAddress (net : Resolver) (flags : AddressFlags) (info : TcpipInfo) (address : List Char)
    (host : Buffer) : AddressResult :=
  let split := address.idxOf ':'
  let ported := { info with port := htons (atoi (address.drop (split + 1))) }
  if address.length < 128 then
    let copied := (strncpy host address 128).put split '\x00'
    if flags.alpha then ⟨0, hostAddress net ported (copied.str 0), copied⟩
    else ⟨0, inetAddress net ported (copied.str 0), copied⟩
  else ⟨0, ported, host⟩

def getTargetAddress (net : Resolver) (info : TcpipInfo) (address : List Char) : AddressResult :=
  let host := Buffer.zeros 128
  match addressFlags address with
  | none => ⟨-1, info, host⟩
  | some flags =>
      if flags = { number := true } then ⟨0, { info with port := htons (atoi address) }, host⟩
      else
        let cleared := { info with ipv6 := fun _ => 0 }
        if flags.ipv6 then ipv6Address net cleared address host
        else
          let words := Function.update (Function.update (Function.update cleared.ipv6 2 (htonl 0xffff)) 1 0) 0 0
          let prefixed := { cleared with ipv6 := words }
          if flags = { number := true, dot := true } then ⟨0, inetAddress net prefixed address, host⟩
          else if { flags with number := false } = ({ alpha := true, dot := true } : AddressFlags) then
            ⟨0, hostAddress net prefixed address, host⟩
          else if flags.split then splitAddress net flags prefixed address host
          else ⟨0, prefixed, host⟩

section Scan

def AddressChar (ch : Char) : Prop :=
  ch.isDigit = true ∨ ch.isAlpha = true ∨ ch ∈ [':', '.', '-', '[', ']']

/-- What the flags say of the text that was read. -/
def flagsOf (address : List Char) : AddressFlags where
  dot := decide ('.' ∈ address)
  alpha := decide ('-' ∈ address) || address.any Char.isAlpha
  number := address.any Char.isDigit
  split := decide (':' ∈ address)
  ipv6 := decide (2 ≤ address.count ':')
  left := decide ('[' ∈ address)
  right := decide (']' ∈ address)

theorem digit_alpha (ch : Char) (digit : ch.isDigit = true) : ch.isAlpha = false := by
  have small : ch.val.toNat ≤ 57 := by
    have both := (Bool.and_eq_true _ _).mp digit
    exact UInt32.le_iff_toNat_le.mp (of_decide_eq_true both.2)
  have below (first : UInt32) (letter : 57 < first.toNat) : ¬ first ≤ ch.val := by
    intro least
    exact absurd (UInt32.le_iff_toNat_le.mp least) (Nat.not_le.mpr (Nat.lt_of_le_of_lt small letter))
  have upper : ch.isUpper = false := decide_eq_false fun both => below 65 (by decide) both.1
  have lower : ch.isLower = false :=
    Bool.and_eq_false_iff.mpr (Or.inl (decide_eq_false (below 97 (by decide))))
  exact Bool.or_eq_false_iff.mpr ⟨upper, lower⟩

theorem digit_apart (ch : Char) (digit : ch.isDigit = true) :
    ch ≠ ':' ∧ ch ≠ '.' ∧ ch ≠ '-' ∧ ch ≠ '[' ∧ ch ≠ ']' := by
  refine ⟨?_, ?_, ?_, ?_, ?_⟩ <;>
    · rintro rfl
      revert digit
      decide

theorem alpha_apart (ch : Char) (alpha : ch.isAlpha = true) :
    ch.isDigit = false ∧ ch ≠ ':' ∧ ch ≠ '.' ∧ ch ≠ '-' ∧ ch ≠ '[' ∧ ch ≠ ']' := by
  refine ⟨?_, ?_, ?_, ?_, ?_, ?_⟩
  · cases digit : ch.isDigit with
    | false => rfl
    | true =>
        rw [digit_alpha ch digit] at alpha
        cases alpha
  all_goals
    rintro rfl
    revert alpha
    decide

theorem flagsOf_snoc (read : List Char) (ch : Char) : flagsOf (read ++ [ch]) =
    { dot := (flagsOf read).dot || ch = '.'
      alpha := (flagsOf read).alpha || ch = '-' || ch.isAlpha
      number := (flagsOf read).number || ch.isDigit
      split := (flagsOf read).split || ch = ':'
      ipv6 := (flagsOf read).ipv6 || ((flagsOf read).split && ch = ':')
      left := (flagsOf read).left || ch = '['
      right := (flagsOf read).right || ch = ']' } := by
  have seen (other : Char) :
      decide (other ∈ read ++ [ch]) = (decide (other ∈ read) || decide (ch = other)) := by
    simp [eq_comm]
  have second : decide (2 ≤ (read ++ [ch]).count ':') =
      (decide (2 ≤ read.count ':') || (decide (':' ∈ read) && decide (ch = ':'))) := by
    rw [List.count_append, List.count_singleton]
    by_cases colon : ch = ':'
    · have positive : ':' ∈ read ↔ 0 < read.count ':' := List.count_pos_iff.symm
      simp only [colon, beq_self_eq_true, if_true, decide_true, Bool.and_true, positive]
      rw [← Bool.decide_or, decide_eq_decide]
      omega
    · simp [colon]
  simp only [flagsOf, seen, second, List.any_append, List.any_cons, List.any_nil, Bool.or_false]
  congr 1
  cases decide ('-' ∈ read) <;> cases decide (ch = '-') <;> simp

theorem addressFlag_spec (read : List Char) (ch : Char) :
    (AddressChar ch ∧ addressFlag (flagsOf read) ch = some (flagsOf (read ++ [ch]))) ∨
      (¬ AddressChar ch ∧ addressFlag (flagsOf read) ch = none) := by
  rw [flagsOf_snoc]
  cases digit : ch.isDigit with
  | true =>
      obtain ⟨colon, dot, dash, left, right⟩ := digit_apart ch digit
      refine Or.inl ⟨Or.inl digit, ?_⟩
      simp [addressFlag, digit, colon, dot, dash, left, right, digit_alpha ch digit]
  | false =>
      cases alpha : ch.isAlpha with
      | true =>
          obtain ⟨_, colon, dot, dash, left, right⟩ := alpha_apart ch alpha
          refine Or.inl ⟨Or.inr (Or.inl alpha), ?_⟩
          simp [addressFlag, digit, alpha, colon, dot, dash, left, right]
      | false =>
          by_cases listed : ch ∈ [':', '.', '-', '[', ']']
          · refine Or.inl ⟨Or.inr (Or.inr listed), ?_⟩
            simp only [List.mem_cons, List.not_mem_nil, or_false] at listed
            rcases listed with rfl | rfl | rfl | rfl | rfl
            · cases split : (flagsOf read).split <;> simp [addressFlag, split]
            all_goals simp [addressFlag]
          · refine Or.inr ⟨?_, ?_⟩
            · simp [AddressChar, digit, alpha, listed]
            · simp only [List.mem_cons, List.not_mem_nil, or_false, not_or] at listed
              simp [addressFlag, digit, alpha, listed]

/-- A text is refused exactly when it has another character. -/
theorem addressFlags_spec (address : List Char) :
    ((∀ ch ∈ address, AddressChar ch) ∧ addressFlags address = some (flagsOf address)) ∨
      ((∃ ch ∈ address, ¬ AddressChar ch) ∧ addressFlags address = none) := by
  induction address using List.reverseRecOn with
  | nil => exact Or.inl ⟨List.forall_mem_nil _, rfl⟩
  | append_singleton read ch ih =>
      rw [addressFlags, List.foldlM_append]
      rcases ih with ⟨valid, scanned⟩ | ⟨⟨other, member, refused⟩, scanned⟩
      · rw [addressFlags] at scanned
        rcases addressFlag_spec read ch with ⟨accepted, taken⟩ | ⟨refused, failed⟩
        · refine Or.inl ⟨?_, ?_⟩
          · intro other member
            rcases List.mem_append.mp member with old | new
            · exact valid other old
            · exact List.mem_singleton.mp new ▸ accepted
          · simp [scanned, taken]
        · exact Or.inr ⟨⟨ch, by simp, refused⟩, by simp [scanned, failed]⟩
      · rw [addressFlags] at scanned
        exact Or.inr ⟨⟨other, List.mem_append_left _ member, refused⟩, by simp [scanned]⟩

end Scan

section Host

def hostPart : List Char → List Char
  | '[' :: inside => inside.takeWhile (· ≠ ']')
  | address => address

theorem copyHost_writes (stop : Option Char) (address : List Char) (index : Nat) (host : Buffer) :
    (copyHost stop address index host).2.writes =
      host.writes ++ List.range' index ((address.takeWhile fun ch => some ch ≠ stop).length + 1) := by
  induction address generalizing index host with
  | nil => rfl
  | cons ch address ih =>
      rw [copyHost]
      by_cases stops : some ch = stop
      · simp [stops, Buffer.put]
      · rw [if_neg stops, ih, List.takeWhile_cons_of_pos (by simpa using stops), List.length_cons,
          Buffer.put, List.append_assoc, List.range'_succ]
        rfl

theorem ipv6_writes (net : Resolver) (info : TcpipInfo) (address : List Char) (host : Buffer) :
    (ipv6Address net info address host).host.writes =
      host.writes ++ List.range ((hostPart address).length + 1) := by
  have kept : (ipv6Address net info address host).host = (ipv6Host host address).2 := by
    unfold ipv6Address
    dsimp only
    split
    · rfl
    · rfl
  rw [kept, List.range_eq_range']
  unfold ipv6Host hostPart
  split
  · rw [copyHost_writes]
    simp
  · have whole : (address.takeWhile fun ch => decide (some ch ≠ none)) = address := by simp
    rw [copyHost_writes, whole]

theorem split_inside (net : Resolver) (flags : AddressFlags) (info : TcpipInfo) (address : List Char)
    (host : Buffer) (unwritten : host.writes = []) (colon : ':' ∈ address) :
    ∀ index ∈ (splitAddress net flags info address host).host.writes, index < 128 := by
  unfold splitAddress
  dsimp only
  split
  · rename_i short
    have written : ∀ index ∈ ((strncpy host address 128).put (address.idxOf ':') '\x00').writes,
        index < 128 := by
      intro index member
      rw [Buffer.put, strncpy_writes, unwritten, List.nil_append] at member
      rcases List.mem_append.mp member with copied | ended
      · exact List.mem_range.mp copied
      · rw [List.mem_singleton.mp ended]
        exact (List.idxOf_lt_length_of_mem colon).trans short
    split
    · exact written
    · exact written
  · rw [unwritten]
    exact List.forall_mem_nil _

end Host

theorem target_ipv6 (net : Resolver) (info : TcpipInfo) (address : List Char)
    (scanned : addressFlags address = some (flagsOf address)) (literal : (flagsOf address).ipv6 = true) :
    getTargetAddress net info address =
      ipv6Address net { info with ipv6 := fun _ => 0 } address (Buffer.zeros 128) := by
  have more : flagsOf address ≠ { number := true } := by
    intro same
    rw [same] at literal
    cases literal
  rw [getTargetAddress, scanned]
  dsimp only
  rw [if_neg more, if_pos literal]

/-- Every write to `host` is inside it exactly when the text is refused, has fewer than two
colons, or has fewer than 128 characters to copy. -/
theorem host_inside (net : Resolver) (info : TcpipInfo) (address : List Char) :
    (∀ index ∈ (getTargetAddress net info address).host.writes, index < 128) ↔
      (∃ ch ∈ address, ¬ AddressChar ch) ∨ address.count ':' < 2 ∨ (hostPart address).length < 128 := by
  have idle : ∀ index ∈ (Buffer.zeros 128).writes, index < 128 := List.forall_mem_nil _
  rcases addressFlags_spec address with ⟨valid, scanned⟩ | ⟨refused, scanned⟩
  · have accepted : ¬ ∃ ch ∈ address, ¬ AddressChar ch := by
      rintro ⟨ch, member, refused⟩
      exact refused (valid ch member)
    cases literal : (flagsOf address).ipv6 with
    | true =>
        have colons : 2 ≤ address.count ':' := of_decide_eq_true literal
        rw [target_ipv6 net info address scanned literal, ipv6_writes, or_iff_right accepted,
          or_iff_right (Nat.not_lt.mpr colons)]
        simp only [Buffer.zeros, List.nil_append, List.mem_range]
        constructor
        · exact fun inside => inside _ (Nat.lt_succ_self _)
        · exact fun short index before => Nat.lt_of_lt_of_le before short
    | false =>
        have few : address.count ':' < 2 := Nat.not_le.mp (of_decide_eq_false literal)
        apply iff_of_true _ (Or.inr (Or.inl few))
        rw [getTargetAddress, scanned]
        dsimp only
        rw [literal]
        split
        · exact idle
        · rw [if_neg Bool.false_ne_true]
          split
          · exact idle
          · split
            · exact idle
            · split
              · rename_i split
                exact split_inside net _ _ address _ rfl (of_decide_eq_true split)
              · exact idle
  · rw [getTargetAddress, scanned]
    exact iff_of_true idle (Or.inl refused)

def noResolver : Resolver := ⟨fun _ => none, fun _ => none, fun _ => none⟩

/-- The terminator after 128 colons is written past the end. -/
theorem host_overrun :
    128 ∈ (getTargetAddress noResolver ⟨0, fun _ => 0⟩ (List.replicate 128 ':')).host.writes ∧
      ¬ ∀ index ∈ (getTargetAddress noResolver ⟨0, fun _ => 0⟩ (List.replicate 128 ':')).host.writes,
        index < 128 := by
  have literal : (flagsOf (List.replicate 128 ':')).ipv6 = true := by simp [flagsOf]
  have written : 128 ∈ (getTargetAddress noResolver ⟨0, fun _ => 0⟩ (List.replicate 128 ':')).host.writes := by
    rcases addressFlags_spec (List.replicate 128 ':') with ⟨_, scanned⟩ | ⟨⟨ch, member, refused⟩, _⟩
    · rw [target_ipv6 noResolver _ _ scanned literal, ipv6_writes]
      simp [Buffer.zeros, hostPart, List.replicate_succ]
    · rw [List.eq_of_mem_replicate member] at refused
      exact absurd (Or.inr (Or.inr List.mem_cons_self)) refused
  exact ⟨written, fun inside => Nat.lt_irrefl 128 (inside 128 written)⟩

end Libtx
