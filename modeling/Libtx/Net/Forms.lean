import Libtx.Net.Address
import Mathlib.Data.Bool.AllAny
import Mathlib.Data.Fin.VecNotation

namespace Libtx

open Text

structure PortText where
  text : List Char
  digits : ∀ ch ∈ text, ch.isDigit = true
  nonempty : text ≠ []
  small : Nat.ofDigitChars 10 text 0 < 65536

def quadText (parts : Fin 4 → List Char) : List Char := List.intercalate ['.'] (List.ofFn parts)

structure QuadText where
  parts : Fin 4 → List Char
  digits : ∀ place, ∀ ch ∈ parts place, ch.isDigit = true
  nonempty : ∀ place, parts place ≠ []
  short : (quadText parts).length < 128

structure HostName where
  text : List Char
  chars : ∀ ch ∈ text, ch.isDigit = true ∨ ch.isAlpha = true ∨ ch = '-' ∨ ch = '.'
  letter : ∃ ch ∈ text, ch.isAlpha = true
  short : text.length < 128

structure LiteralText where
  text : List Char
  chars : ∀ ch ∈ text, AddressChar ch ∧ ch ≠ '[' ∧ ch ≠ ']'
  colons : 2 ≤ text.count ':'
  short : text.length < 128

def PortText.value (port : PortText) : Nat := Nat.ofDigitChars 10 port.text 0

def QuadText.text (quad : QuadText) : List Char := quadText quad.parts

inductive AddressForm where
  | barePort (port : PortText)
  | quad (host : QuadText)
  | quadPort (host : QuadText) (port : PortText)
  | name (host : HostName)
  | namePort (host : HostName) (port : PortText)
  | literal (host : LiteralText)
  | bracketed (host : LiteralText)
  | bracketedPort (host : LiteralText) (port : PortText)

def AddressForm.text : AddressForm → List Char
  | .barePort port => port.text
  | .quad host => host.text
  | .quadPort host port => host.text ++ ':' :: port.text
  | .name host => host.text
  | .namePort host port => host.text ++ ':' :: port.text
  | .literal host => host.text
  | .bracketed host => '[' :: host.text ++ [']']
  | .bracketedPort host port => '[' :: host.text ++ ']' :: ':' :: port.text

def AddressForm.portOf : AddressForm → Option PortText
  | .barePort port | .quadPort _ port | .namePort _ port | .bracketedPort _ port => some port
  | .quad _ | .name _ | .literal _ | .bracketed _ => none

def mapped (address : Nat) : Fin 4 → Nat := ![0, 0, htonl 0xffff, address]

/-- What the conversions give for the host; none where they fail, and where there is no host. -/
def AddressForm.hostOf (net : Resolver) : AddressForm → Option (Fin 4 → Nat)
  | .barePort _ => none
  | .quad host | .quadPort host _ => (net.inetAddr host.text).map mapped
  | .name host | .namePort host _ => (net.gethostbyname host.text).map mapped
  | .literal host | .bracketed host | .bracketedPort host _ => net.inetPton host.text

def AddressForm.Known (net : Resolver) (form : AddressForm) : Prop :=
  (∃ port, form = .barePort port) ∨ (form.hostOf net).isSome = true

/-- The port and the host are stored, what is not named stays, and the result is `success`. -/
def Decodes (success : Int) (net : Resolver) (info : TcpipInfo) (form : AddressForm) : Prop :=
  let decoded := getTargetAddress net info form.text
  decoded.result = success ∧
    decoded.info.port = (form.portOf.map fun port => htons port.value).getD info.port ∧
    decoded.info.ipv6 = (form.hostOf net).getD info.ipv6

/-- The forms that are decoded. A host of address 0 is decoded where nothing is stored. -/
def AddressForm.Decoded (net : Resolver) : AddressForm → Prop
  | .barePort _ | .quad _ => True
  | .quadPort host port => (AddressForm.quadPort host port).text.length < 128 ∨ net.inetAddr host.text = some 0
  | .name host => '.' ∈ host.text ∨ net.gethostbyname host.text = some 0
  | .namePort host port =>
      (AddressForm.namePort host port).text.length < 128 ∨ net.gethostbyname host.text = some 0
  | .literal _ | .bracketed _ | .bracketedPort _ _ => False

section Flags

theorem flagsOf_append (front back : List Char) : flagsOf (front ++ back) =
    { dot := (flagsOf front).dot || (flagsOf back).dot
      alpha := (flagsOf front).alpha || (flagsOf back).alpha
      number := (flagsOf front).number || (flagsOf back).number
      split := (flagsOf front).split || (flagsOf back).split
      ipv6 := decide (2 ≤ front.count ':' + back.count ':')
      left := (flagsOf front).left || (flagsOf back).left
      right := (flagsOf front).right || (flagsOf back).right } := by
  simp only [flagsOf, List.mem_append, Bool.decide_or, List.any_append, List.count_append]
  congr 1
  cases decide ('-' ∈ front) <;> cases decide ('-' ∈ back) <;> simp

theorem flags_digits (text : List Char) (digits : ∀ ch ∈ text, ch.isDigit = true) (nonempty : text ≠ []) :
    flagsOf text = { number := true } := by
  have absent (other : Char) (different : ∀ ch, ch.isDigit = true → ch ≠ other) : other ∉ text :=
    fun member => different other (digits other member) rfl
  have letters : text.any Char.isAlpha = false := by
    rw [List.any_eq_false]
    intro ch member
    rw [digit_alpha ch (digits ch member)]
    exact Bool.false_ne_true
  have numbers : text.any Char.isDigit = true := by
    obtain ⟨ch, member⟩ := List.exists_mem_of_ne_nil text nonempty
    exact List.any_eq_true.mpr ⟨ch, member, digits ch member⟩
  have colon := absent ':' fun ch digit => (digit_apart ch digit).1
  have dot := absent '.' fun ch digit => (digit_apart ch digit).2.1
  have dash := absent '-' fun ch digit => (digit_apart ch digit).2.2.1
  have left := absent '[' fun ch digit => (digit_apart ch digit).2.2.2.1
  have right := absent ']' fun ch digit => (digit_apart ch digit).2.2.2.2
  simp [flagsOf, letters, numbers, colon, dot, dash, left, right, List.count_eq_zero.mpr colon]

theorem flags_name (host : HostName) : flagsOf host.text =
    { alpha := true, dot := decide ('.' ∈ host.text), number := host.text.any Char.isDigit } := by
  have absent (other : Char) (digit : other.isDigit = false) (alpha : other.isAlpha = false)
      (dash : other ≠ '-') (dot : other ≠ '.') : other ∉ host.text := by
    intro member
    rcases host.chars other member with number | letter | same | same
    · rw [digit] at number
      cases number
    · rw [alpha] at letter
      cases letter
    · exact dash same
    · exact dot same
  have letters : host.text.any Char.isAlpha = true := List.any_eq_true.mpr host.letter
  have colon := absent ':' (by decide) (by decide) (by decide) (by decide)
  have left := absent '[' (by decide) (by decide) (by decide) (by decide)
  have right := absent ']' (by decide) (by decide) (by decide) (by decide)
  simp [flagsOf, letters, colon, left, right, List.count_eq_zero.mpr colon]

theorem flags_dot : flagsOf ['.'] = { dot := true } := by decide

theorem quadText_parts (parts : Fin 4 → List Char) :
    quadText parts = parts 0 ++ (['.'] ++ (parts 1 ++ (['.'] ++ (parts 2 ++ (['.'] ++ parts 3))))) := by
  simp [quadText, List.ofFn_succ, List.intercalate]

theorem flags_quad (host : QuadText) : flagsOf host.text = { number := true, dot := true } := by
  have digits (place : Fin 4) := flags_digits (host.parts place) (host.digits place) (host.nonempty place)
  have colons (place : Fin 4) : (host.parts place).count ':' = 0 := by
    have none := congrArg AddressFlags.split (digits place)
    exact List.count_eq_zero.mpr (of_decide_eq_false none)
  have dots : (['.'] : List Char).count ':' = 0 := rfl
  rw [QuadText.text, quadText_parts]
  simp only [flagsOf_append, digits, colons, flags_dot, dots, List.count_append]
  rfl

theorem flags_port (text : List Char) (port : PortText) (colon : ':' ∉ text) :
    flagsOf (text ++ ':' :: port.text) =
      { flagsOf text with number := true, split := true, ipv6 := false } := by
  have digits := flags_digits port.text port.digits port.nonempty
  have more : ':' ∉ port.text := of_decide_eq_false (congrArg AddressFlags.split digits)
  have single : flagsOf [':'] = { split := true } := by decide
  have text_eq : text ++ ':' :: port.text = text ++ ([':'] ++ port.text) := rfl
  rw [text_eq, flagsOf_append text, flagsOf_append [':'], digits, single]
  simp [List.count_eq_zero.mpr colon, List.count_eq_zero.mpr more]

end Flags

section Ports

theorem leading_digits (text : List Char) (digits : ∀ ch ∈ text, ch.isDigit = true) :
    leading text = Nat.ofDigitChars 10 text 0 := by
  have whole : text.takeWhile Char.isDigit = text := List.takeWhile_eq_self_iff.mpr digits
  rw [leading, whole]

theorem atoi_digits (text : List Char) (digits : ∀ ch ∈ text, ch.isDigit = true) :
    atoi text = Nat.ofDigitChars 10 text 0 := by
  cases text with
  | nil => rfl
  | cons ch rest =>
      have digit : ch.isDigit = true := digits ch List.mem_cons_self
      have space : isSpace ch = false := by
        by_contra blank
        rw [Bool.not_eq_false, isSpace, decide_eq_true_eq] at blank
        simp only [List.mem_cons, List.not_mem_nil, or_false] at blank
        rcases blank with rfl | rfl | rfl | rfl | rfl | rfl <;> revert digit <;> decide
      have minus : ch ≠ '-' := (digit_apart ch digit).2.2.1
      have plus : ch ≠ '+' := by
        rintro rfl
        revert digit
        decide
      rw [← leading_digits (ch :: rest) digits, atoi, List.dropWhile_cons_of_neg (by simp [space])]
      split
      · rename_i same
        injection same with equal
        exact absurd equal minus
      · rename_i same
        injection same with equal
        exact absurd equal plus
      · rfl

theorem PortText.atoi (port : PortText) : Text.atoi port.text = port.value :=
  atoi_digits port.text port.digits

end Ports

section Hosts

theorem copyHost_text (stop : Option Char) (text rest front : List Char) (size : Nat) (host : Buffer)
    (cells : host.cells = front ++ List.replicate (text.length + 1 + size) '\x00')
    (goes : ∀ ch ∈ text, some ch ≠ stop) (ends : rest = [] ∨ rest.head? = stop) :
    (copyHost stop (text ++ rest) front.length host).1 = rest ∧
      (copyHost stop (text ++ rest) front.length host).2.cells =
        front ++ text ++ '\x00' :: List.replicate size '\x00' := by
  induction text generalizing front host with
  | nil =>
      have written : (host.put front.length '\x00').cells = front ++ '\x00' :: List.replicate size '\x00' := by
        apply put_cells
        rw [cells, List.length_nil, Nat.zero_add, Nat.add_comm, List.replicate_succ]
      rw [List.nil_append, List.append_nil]
      cases rest with
      | nil => exact ⟨rfl, written⟩
      | cons ch rest =>
          rcases ends with empty | stops
          · cases empty
          · have here : some ch = stop := stops
            rw [copyHost, if_pos here]
            exact ⟨rfl, written⟩
  | cons ch text ih =>
      have written : (host.put front.length ch).cells =
          (front ++ [ch]) ++ List.replicate (text.length + 1 + size) '\x00' := by
        rw [List.append_assoc, List.singleton_append]
        apply put_cells host front (List.replicate (text.length + 1 + size) '\x00') '\x00' ch
        rw [cells, List.length_cons, ← List.replicate_succ, Nat.add_right_comm (text.length + 1) 1 size]
      have onward := ih (front ++ [ch]) (host.put front.length ch) written
        (fun other member => goes other (List.mem_cons_of_mem ch member))
      rw [List.length_append, List.length_singleton] at onward
      rw [List.cons_append, copyHost, if_neg (goes ch List.mem_cons_self)]
      simpa using onward

theorem zero_refused : ¬ AddressChar '\x00' := by
  rintro (digit | alpha | listed)
  · revert digit
    decide
  · revert alpha
    decide
  · revert listed
    decide

theorem no_zero (text : List Char) (valid : ∀ ch ∈ text, AddressChar ch) : '\x00' ∉ text :=
  fun member => zero_refused (valid _ member)

theorem copyHost_str (stop : Option Char) (text rest : List Char) (valid : ∀ ch ∈ text, AddressChar ch)
    (short : text.length < 128) (goes : ∀ ch ∈ text, some ch ≠ stop)
    (ends : rest = [] ∨ rest.head? = stop) :
    (copyHost stop (text ++ rest) 0 (Buffer.zeros 128)).1 = rest ∧
      (copyHost stop (text ++ rest) 0 (Buffer.zeros 128)).2.str 0 = text := by
  have size : text.length + 1 + (127 - text.length) = 128 := by omega
  have cells : (Buffer.zeros 128).cells = [] ++ List.replicate (text.length + 1 + (127 - text.length)) '\x00' := by
    rw [size]
    rfl
  obtain ⟨left, copied⟩ := copyHost_text stop text rest [] _ (Buffer.zeros 128) cells goes ends
  exact ⟨left, str_between _ [] text _ copied (no_zero text valid)⟩

theorem idxOf_colon (host port : List Char) (colon : ':' ∉ host) :
    (host ++ ':' :: port).idxOf ':' = host.length := by
  rw [List.idxOf_append_of_notMem colon, List.idxOf_cons_self, Nat.add_zero]

theorem split_str (host port : List Char) (valid : ∀ ch ∈ host, AddressChar ch)
    (short : (host ++ ':' :: port).length < 128) :
    ((strncpy (Buffer.zeros 128) (host ++ ':' :: port) 128).put host.length '\x00').str 0 = host := by
  have copied := strncpy_short (Buffer.zeros 128) (host ++ ':' :: port) 128 List.length_replicate
    (Nat.le_of_lt short)
  rw [List.append_assoc, List.cons_append] at copied
  exact str_between _ [] host _ (put_cells _ _ _ _ _ copied) (no_zero host valid)

end Hosts

section Branches

variable (net : Resolver) (info : TcpipInfo) (address : List Char)

def TcpipInfo.prefixed (info : TcpipInfo) : TcpipInfo := { info with ipv6 := mapped 0 }

theorem prefixed_words :
    Function.update (Function.update (Function.update (fun _ => 0) 2 (htonl 0xffff)) 1 0) 0 0 = mapped 0 := by
  funext place
  match place with
  | 0 | 1 | 2 | 3 => rfl

theorem mapped_update (host : Nat) : Function.update (mapped 0) 3 host = mapped host := by
  funext place
  match place with
  | 0 | 1 | 2 | 3 => rfl

theorem target_barePort (scanned : addressFlags address = some { number := true }) :
    getTargetAddress net info address =
      ⟨0, { info with port := htons (atoi address) }, Buffer.zeros 128⟩ := by
  rw [getTargetAddress, scanned]
  rfl

theorem target_quad (scanned : addressFlags address = some { number := true, dot := true }) :
    getTargetAddress net info address = ⟨0, inetAddress net info.prefixed address, Buffer.zeros 128⟩ := by
  rw [getTargetAddress, scanned, TcpipInfo.prefixed, ← prefixed_words]
  rfl

theorem target_name (number : Bool)
    (scanned : addressFlags address = some { alpha := true, dot := true, number := number }) :
    getTargetAddress net info address = ⟨0, hostAddress net info.prefixed address, Buffer.zeros 128⟩ := by
  rw [getTargetAddress, scanned, TcpipInfo.prefixed, ← prefixed_words]
  cases number <;> rfl

theorem target_plain (number : Bool)
    (scanned : addressFlags address = some { alpha := true, number := number }) :
    getTargetAddress net info address = ⟨0, info.prefixed, Buffer.zeros 128⟩ := by
  rw [getTargetAddress, scanned, TcpipInfo.prefixed, ← prefixed_words]
  cases number <;> rfl

theorem target_split (dot alpha : Bool)
    (scanned : addressFlags address = some { dot := dot, alpha := alpha, number := true, split := true }) :
    getTargetAddress net info address =
      splitAddress net { dot := dot, alpha := alpha, number := true, split := true } info.prefixed address
        (Buffer.zeros 128) := by
  rw [getTargetAddress, scanned, TcpipInfo.prefixed, ← prefixed_words]
  cases dot <;> cases alpha <;> rfl

end Branches

section Scanned

theorem addressFlags_valid (address : List Char) (valid : ∀ ch ∈ address, AddressChar ch) :
    addressFlags address = some (flagsOf address) := by
  rcases addressFlags_spec address with ⟨_, scanned⟩ | ⟨⟨ch, member, refused⟩, _⟩
  · exact scanned
  · exact absurd (valid ch member) refused

theorem PortText.valid (port : PortText) : ∀ ch ∈ port.text, AddressChar ch :=
  fun ch member => Or.inl (port.digits ch member)

theorem HostName.valid (host : HostName) : ∀ ch ∈ host.text, AddressChar ch := by
  intro ch member
  rcases host.chars ch member with digit | alpha | rfl | rfl
  · exact Or.inl digit
  · exact Or.inr (Or.inl alpha)
  · exact Or.inr (Or.inr (by decide))
  · exact Or.inr (Or.inr (by decide))

theorem QuadText.chars (host : QuadText) : ∀ ch ∈ host.text, ch.isDigit = true ∨ ch = '.' := by
  intro ch member
  rw [QuadText.text, quadText_parts] at member
  simp only [List.mem_append, List.mem_singleton] at member
  rcases member with first | dot | second | dot | third | dot | last
  · exact Or.inl (host.digits 0 ch first)
  · exact Or.inr dot
  · exact Or.inl (host.digits 1 ch second)
  · exact Or.inr dot
  · exact Or.inl (host.digits 2 ch third)
  · exact Or.inr dot
  · exact Or.inl (host.digits 3 ch last)

theorem QuadText.valid (host : QuadText) : ∀ ch ∈ host.text, AddressChar ch := by
  intro ch member
  rcases host.chars ch member with digit | rfl
  · exact Or.inl digit
  · exact Or.inr (Or.inr (by decide))

theorem valid_port (host : List Char) (port : PortText) (valid : ∀ ch ∈ host, AddressChar ch) :
    ∀ ch ∈ host ++ ':' :: port.text, AddressChar ch := by
  intro ch member
  rcases List.mem_append.mp member with front | back
  · exact valid ch front
  · rcases List.mem_cons.mp back with rfl | digit
    · exact Or.inr (Or.inr List.mem_cons_self)
    · exact port.valid ch digit

theorem QuadText.colon (host : QuadText) : ':' ∉ host.text := by
  have none := congrArg AddressFlags.split (flags_quad host)
  exact of_decide_eq_false none

theorem HostName.colon (host : HostName) : ':' ∉ host.text := by
  have none := congrArg AddressFlags.split (flags_name host)
  exact of_decide_eq_false none

end Scanned

section Forms

variable (net : Resolver) (info : TcpipInfo)

theorem mapped_eq (address : Nat) : mapped 0 = mapped address ↔ address = 0 := by
  constructor
  · intro same
    exact (congrFun same 3).symm
  · rintro rfl
    rfl

theorem splitAddress_spec (flags : AddressFlags) (host : List Char) (port : PortText)
    (valid : ∀ ch ∈ host, AddressChar ch) (colon : ':' ∉ host) :
    let decoded := splitAddress net flags info.prefixed (host ++ ':' :: port.text) (Buffer.zeros 128)
    let ported := { info.prefixed with port := htons port.value }
    decoded.result = 0 ∧ decoded.info =
      if (host ++ ':' :: port.text).length < 128 then
        if flags.alpha then hostAddress net ported host else inetAddress net ported host
      else ported := by
  have split := idxOf_colon host port.text colon
  have rest : (host ++ ':' :: port.text).drop (host.length + 1) = port.text := by simp
  dsimp only
  unfold splitAddress
  dsimp only
  rw [split, rest, port.atoi]
  split
  · rename_i short
    rw [split_str host port.text valid short]
    split
    · exact ⟨rfl, rfl⟩
    · exact ⟨rfl, rfl⟩
  · exact ⟨rfl, rfl⟩

theorem decodes_stored (form : AddressForm) (base : TcpipInfo) (address : Nat) (short : Prop) [Decidable short]
    (result : (getTargetAddress net info form.text).result = 0)
    (decoded : (getTargetAddress net info form.text).info = if short then base.tiiAddress address else base)
    (port : base.port = (form.portOf.map fun port => htons port.value).getD info.port)
    (words : base.ipv6 = mapped 0) (host : form.hostOf net = some (mapped address)) :
    Decodes 0 net info form ↔ short ∨ address = 0 := by
  have ported : (getTargetAddress net info form.text).info.port = base.port := by
    rw [decoded]
    split <;> rfl
  have stored : (getTargetAddress net info form.text).info.ipv6 =
      if short then mapped address else mapped 0 := by
    rw [decoded]
    split
    · rw [TcpipInfo.tiiAddress, words, mapped_update]
    · exact words
  rw [Decodes, result, ported, port, stored, host, Option.getD_some]
  by_cases fits : short
  · rw [if_pos fits]
    exact iff_of_true ⟨rfl, rfl, rfl⟩ (Or.inl fits)
  · rw [if_neg fits, mapped_eq, or_iff_right fits]
    exact ⟨fun all => all.2.2, fun zero => ⟨rfl, rfl, zero⟩⟩

theorem inet_known (base : TcpipInfo) (host : List Char) (address : Nat)
    (known : net.inetAddr host = some address) : inetAddress net base host = base.tiiAddress address := by
  rw [inetAddress, known, Option.getD_some]

theorem name_known (base : TcpipInfo) (host : List Char) (address : Nat)
    (known : net.gethostbyname host = some address) : hostAddress net base host = base.tiiAddress address := by
  rw [hostAddress, known]

theorem decodes_quad (host : QuadText) (address : Nat) (known : net.inetAddr host.text = some address) :
    Decodes 0 net info (.quad host) := by
  have scanned := addressFlags_valid _ host.valid
  rw [flags_quad] at scanned
  have target := target_quad net info host.text scanned
  rw [inet_known net _ _ _ known] at target
  apply (decodes_stored net info (.quad host) info.prefixed address True _ _ rfl rfl _).mpr (Or.inl trivial)
  · rw [AddressForm.text, target]
  · rw [AddressForm.text, target, if_pos trivial]
  · rw [AddressForm.hostOf, known, Option.map_some]

theorem decodes_quadPort (host : QuadText) (port : PortText) (address : Nat)
    (known : net.inetAddr host.text = some address) :
    Decodes 0 net info (.quadPort host port) ↔
      (AddressForm.quadPort host port).text.length < 128 ∨ address = 0 := by
  have flags := flags_port host.text port host.colon
  rw [flags_quad] at flags
  have scanned := addressFlags_valid _ (valid_port host.text port host.valid)
  rw [flags] at scanned
  obtain ⟨result, decoded⟩ := splitAddress_spec net info { dot := true, number := true, split := true }
    host.text port host.valid host.colon
  have target := target_split net info _ true false scanned
  apply decodes_stored net info (.quadPort host port) { info.prefixed with port := htons port.value }
  · rw [AddressForm.text, target, result]
  · rw [AddressForm.text, target, decoded, if_neg Bool.false_ne_true, inet_known net _ _ _ known]
  · rfl
  · rfl
  · rw [AddressForm.hostOf, known, Option.map_some]

theorem decodes_name (host : HostName) (address : Nat) (known : net.gethostbyname host.text = some address) :
    Decodes 0 net info (.name host) ↔ '.' ∈ host.text ∨ address = 0 := by
  have scanned := addressFlags_valid _ host.valid
  rw [flags_name] at scanned
  have resolved := name_known net info.prefixed host.text address known
  have target : getTargetAddress net info host.text =
      ⟨0, if '.' ∈ host.text then info.prefixed.tiiAddress address else info.prefixed, Buffer.zeros 128⟩ := by
    by_cases dot : '.' ∈ host.text
    · rw [decide_eq_true dot] at scanned
      rw [target_name net info _ _ scanned, resolved, if_pos dot]
    · rw [decide_eq_false dot] at scanned
      rw [target_plain net info _ _ scanned, if_neg dot]
  apply decodes_stored net info (.name host) info.prefixed
  · rw [AddressForm.text, target]
  · rw [AddressForm.text, target]
  · rfl
  · rfl
  · rw [AddressForm.hostOf, known, Option.map_some]

theorem decodes_namePort (host : HostName) (port : PortText) (address : Nat)
    (known : net.gethostbyname host.text = some address) :
    Decodes 0 net info (.namePort host port) ↔
      (AddressForm.namePort host port).text.length < 128 ∨ address = 0 := by
  have flags := flags_port host.text port host.colon
  rw [flags_name] at flags
  have scanned := addressFlags_valid _ (valid_port host.text port host.valid)
  rw [flags] at scanned
  obtain ⟨result, decoded⟩ := splitAddress_spec net info
    { dot := decide ('.' ∈ host.text), alpha := true, number := true, split := true }
    host.text port host.valid host.colon
  have target := target_split net info _ _ true scanned
  apply decodes_stored net info (.namePort host port) { info.prefixed with port := htons port.value }
  · rw [AddressForm.text, target, result]
  · rw [AddressForm.text, target, decoded, if_pos rfl, name_known net _ _ _ known]
  · rfl
  · rfl
  · rw [AddressForm.hostOf, known, Option.map_some]

theorem decodes_ipv6 (form : AddressForm) (text rest : List Char) (words : Fin 4 → Nat)
    (valid : ∀ ch ∈ form.text, AddressChar ch) (colons : 2 ≤ form.text.count ':')
    (copied : (ipv6Host (Buffer.zeros 128) form.text).1 = rest ∧
      (ipv6Host (Buffer.zeros 128) form.text).2.str 0 = text)
    (port : (bracketPort { info with ipv6 := fun _ => 0 } rest).port =
      (form.portOf.map fun port => htons port.value).getD info.port)
    (known : net.inetPton text = some words) (host : form.hostOf net = some words) :
    Decodes 1 net info form := by
  have literal : (flagsOf form.text).ipv6 = true := decide_eq_true colons
  rw [Decodes, host, ← port, target_ipv6 net info _ (addressFlags_valid _ valid) literal]
  unfold ipv6Address
  dsimp only
  rw [copied.1, copied.2, known]
  exact ⟨rfl, rfl, rfl⟩

theorem LiteralText.no_bracket (host : LiteralText) : '[' ∉ host.text :=
  fun member => (host.chars _ member).2.1 rfl

theorem LiteralText.valid (host : LiteralText) : ∀ ch ∈ host.text, AddressChar ch :=
  fun ch member => (host.chars ch member).1

theorem ipv6Host_plain (host : LiteralText) :
    (ipv6Host (Buffer.zeros 128) host.text).1 = [] ∧
      (ipv6Host (Buffer.zeros 128) host.text).2.str 0 = host.text := by
  have plain : ipv6Host (Buffer.zeros 128) host.text = copyHost none (host.text ++ []) 0 (Buffer.zeros 128) := by
    rw [List.append_nil]
    unfold ipv6Host
    split
    · rename_i inside same
      exact absurd (same ▸ List.mem_cons_self) host.no_bracket
    · rfl
  rw [plain]
  apply copyHost_str none host.text [] host.valid host.short
  · exact fun ch _ => Option.some_ne_none ch
  · exact Or.inl rfl

theorem ipv6Host_bracketed (host : LiteralText) (rest : List Char) :
    (ipv6Host (Buffer.zeros 128) ('[' :: host.text ++ ']' :: rest)).1 = ']' :: rest ∧
      (ipv6Host (Buffer.zeros 128) ('[' :: host.text ++ ']' :: rest)).2.str 0 = host.text := by
  apply copyHost_str (some ']') host.text (']' :: rest) host.valid host.short
  · intro ch member same
    exact (host.chars ch member).2.2 (Option.some.inj same)
  · exact Or.inr rfl

theorem bracketed_text (host : LiteralText) (rest : List Char) (valid : ∀ ch ∈ rest, AddressChar ch) :
    (∀ ch ∈ '[' :: host.text ++ ']' :: rest, AddressChar ch) ∧
      2 ≤ ('[' :: host.text ++ ']' :: rest).count ':' := by
  constructor
  · intro ch member
    rw [List.cons_append, List.mem_cons, List.mem_append, List.mem_cons] at member
    rcases member with rfl | inside | rfl | after
    · exact Or.inr (Or.inr (by decide))
    · exact host.valid ch inside
    · exact Or.inr (Or.inr (by decide))
    · exact valid ch after
  · calc 2
        ≤ host.text.count ':' := host.colons
      _ ≤ ('[' :: host.text ++ ']' :: rest).count ':' := by
        rw [List.cons_append, List.count_cons_of_ne (by decide), List.count_append]
        exact Nat.le_add_right _ _

theorem decodes_literal (host : LiteralText) (words : Fin 4 → Nat) (known : net.inetPton host.text = some words) :
    Decodes 1 net info (.literal host) :=
  decodes_ipv6 net info (.literal host) host.text [] words host.valid host.colons (ipv6Host_plain host) rfl
    known known

theorem decodes_bracketed (host : LiteralText) (words : Fin 4 → Nat)
    (known : net.inetPton host.text = some words) : Decodes 1 net info (.bracketed host) := by
  obtain ⟨valid, colons⟩ := bracketed_text host [] (List.forall_mem_nil _)
  exact decodes_ipv6 net info (.bracketed host) host.text [']'] words valid colons (ipv6Host_bracketed host [])
    rfl known known

theorem decodes_bracketedPort (host : LiteralText) (port : PortText) (words : Fin 4 → Nat)
    (known : net.inetPton host.text = some words) : Decodes 1 net info (.bracketedPort host port) := by
  have after : ∀ ch ∈ ':' :: port.text, AddressChar ch := by
    intro ch member
    rcases List.mem_cons.mp member with rfl | digit
    · exact Or.inr (Or.inr List.mem_cons_self)
    · exact port.valid ch digit
  obtain ⟨valid, colons⟩ := bracketed_text host (':' :: port.text) after
  apply decodes_ipv6 net info (.bracketedPort host port) host.text _ words valid colons
    (ipv6Host_bracketed host (':' :: port.text))
  · rw [AddressForm.portOf, Option.map_some, Option.getD_some, ← port.atoi]
    rfl
  · exact known
  · exact known

theorem decodes_once (form : AddressForm) (one : Decodes 1 net info form) : ¬ Decodes 0 net info form := by
  intro zero
  have both := one.1.symm.trans zero.1
  cases both

end Forms

section Answers

variable {net : Resolver} {form : AddressForm}

theorem AddressForm.Known.host (known : form.Known net) (bare : ∀ port, form ≠ .barePort port) :
    ∃ words, form.hostOf net = some words := by
  rcases known with ⟨port, same⟩ | answered
  · exact absurd same (bare port)
  · exact Option.isSome_iff_exists.mp answered

end Answers

/-- A form whose host is known is decoded, with the result of the bare port, exactly when it has
no IPv6 literal, a name without a port has a dot, and a host with a port is short; or the host is
the address 0. -/
theorem address_decoded (net : Resolver) (info : TcpipInfo) (form : AddressForm) (known : form.Known net) :
    Decodes 0 net info form ↔ form.Decoded net := by
  cases form with
  | barePort port =>
      have scanned := addressFlags_valid _ port.valid
      rw [flags_digits port.text port.digits port.nonempty] at scanned
      have target := target_barePort net info port.text scanned
      apply iff_of_true _ trivial
      rw [Decodes, AddressForm.text, target, port.atoi]
      exact ⟨rfl, rfl, rfl⟩
  | quad host =>
      obtain ⟨words, answered⟩ := known.host fun _ same => by cases same
      obtain ⟨address, answer, _⟩ := Option.map_eq_some_iff.mp answered
      exact iff_of_true (decodes_quad net info host address answer) trivial
  | quadPort host port =>
      obtain ⟨words, answered⟩ := known.host fun _ same => by cases same
      obtain ⟨address, answer, _⟩ := Option.map_eq_some_iff.mp answered
      rw [decodes_quadPort net info host port address answer, AddressForm.Decoded, answer, Option.some.injEq]
  | name host =>
      obtain ⟨words, answered⟩ := known.host fun _ same => by cases same
      obtain ⟨address, answer, _⟩ := Option.map_eq_some_iff.mp answered
      rw [decodes_name net info host address answer, AddressForm.Decoded, answer, Option.some.injEq]
  | namePort host port =>
      obtain ⟨words, answered⟩ := known.host fun _ same => by cases same
      obtain ⟨address, answer, _⟩ := Option.map_eq_some_iff.mp answered
      rw [decodes_namePort net info host port address answer, AddressForm.Decoded, answer, Option.some.injEq]
  | literal host =>
      obtain ⟨words, answer⟩ := known.host fun _ same => by cases same
      exact iff_of_false (decodes_once net info _ (decodes_literal net info host words answer)) id
  | bracketed host =>
      obtain ⟨words, answer⟩ := known.host fun _ same => by cases same
      exact iff_of_false (decodes_once net info _ (decodes_bracketed net info host words answer)) id
  | bracketedPort host port =>
      obtain ⟨words, answer⟩ := known.host fun _ same => by cases same
      exact iff_of_false (decodes_once net info _ (decodes_bracketedPort net info host port words answer)) id

def localhost : HostName :=
  ⟨"localhost".toList, List.all_iff_forall_prop.mp (by decide), ⟨'l', by decide⟩, by decide⟩

def webPort : PortText := ⟨"80".toList, List.all_eq_true.mp (by decide), by decide, by decide⟩

def localResolver : Resolver :=
  { noResolver with gethostbyname := fun name => if name = localhost.text then some 0x0100007f else none }

theorem localhost_known : (AddressForm.name localhost).Known localResolver := Or.inr rfl

theorem address_decoded_local :
    Decodes 0 localResolver ⟨0, fun _ => 0⟩ (.namePort localhost webPort) :=
  (address_decoded localResolver ⟨0, fun _ => 0⟩ (.namePort localhost webPort) (Or.inr rfl)).mpr
    (Or.inl (by decide))

/-- The name alone has no dot, and its address is not stored. -/
theorem localhost_undecoded :
    (AddressForm.name localhost).Known localResolver ∧
      ∀ success, ¬ Decodes success localResolver ⟨0, fun _ => 0⟩ (.name localhost) := by
  refine ⟨localhost_known, fun success decoded => ?_⟩
  have stored : Decodes 0 localResolver ⟨0, fun _ => 0⟩ (.name localhost) := ⟨rfl, decoded.2⟩
  rw [decodes_name _ _ localhost 0x0100007f rfl] at stored
  revert stored
  decide

end Libtx
