import Libtx.Net.Address

/-! `get_cat_context` of `ncatutil.cpp`, which reads the arguments of the command line, and
`get_cat_socket`, which opens the socket that they ask for.

A string that is absent is NULL. What the system answers is an argument. -/

namespace Libtx

open Text

/-- How a function ends: past the end of `argv`, through NULL, in `exit`, or with what it returns. -/
inductive CatOutcome (R : Type) where
  | outside
  | nothing
  | exit
  | done (value : R)

def CatOutcome.bind {R S : Type} (outcome : CatOutcome R) (next : R → CatOutcome S) : CatOutcome S :=
  match outcome with
  | .outside => .outside
  | .nothing => .nothing
  | .exit => .exit
  | .done value => next value

def errorCheck (exited : Bool) : CatOutcome Unit := if exited then .exit else .done ()

/-- `reads` lists the indices of `argv` that were read; no operation reads it. -/
structure CatParse where
  optListen : Bool
  option : Option (List Char)
  sDomain : Option (List Char)
  saiPort : Option (List Char)
  parts : List (List Char)
  reads : List Nat

structure NetcatT where
  lMode : Bool
  option : Option (List Char)
  saiPort : Option (List Char)
  saiAddr : Option (List Char)
  daiPort : Option (List Char)
  daiAddr : Option (List Char)

section Arguments

variable (argv : List (List Char))

def CatParse.read (s : CatParse) (i : Nat) : CatOutcome (List Char × CatParse) :=
  match argv[i]? with
  | none => .outside
  | some arg => .done (arg, { s with reads := s.reads ++ [i] })

def CatParse.argument (s : CatParse) (i : Nat) : CatOutcome (List Char × CatParse) :=
  (errorCheck (i + 1 = argv.length)).bind fun _ => s.read argv (i + 1)

def catArgs : Nat → Nat → CatParse → CatOutcome (Option CatParse)
  | 0, _, _ => .outside
  | turns + 1, i, s =>
      if i < argv.length then
        (s.read argv i).bind fun here =>
          let arg := here.1
          let s := here.2
          if arg = "-l".toList then catArgs turns (i + 1) { s with optListen := true }
          else if arg = "-o".toList then
            (s.argument argv i).bind fun found =>
              catArgs turns (i + 2) { found.2 with option := some found.1 }
          else if arg = "-s".toList then
            (s.argument argv i).bind fun found =>
              catArgs turns (i + 2) { found.2 with sDomain := some found.1 }
          else if arg = "-p".toList then
            (s.argument argv i).bind fun found =>
              catArgs turns (i + 2) { found.2 with saiPort := some found.1 }
          else if s.parts.length < 2 then catArgs turns (i + 1) { s with parts := s.parts ++ [arg] }
          else .done none
      else .done (some s)

def catParts (parts : List (List Char)) : CatOutcome (Option (List Char) × Option (List Char)) :=
  match parts with
  | [port] => if port.all Char.isDigit then .done (none, some port) else .done (some port, none)
  | [domain, port] =>
      (errorCheck (domain.all Char.isDigit)).bind fun _ => .done (some domain, some port)
  | _ => .done (none, none)

/-- The address or port that is listened on: given by its option or by its place, not by both. -/
def catListen (given placed : Option (List Char)) : CatOutcome (Option (List Char)) :=
  match given with
  | some value => (errorCheck placed.isSome).bind fun _ => .done (some value)
  | none => .done placed

def INADDR_ANY : Nat := 0

def catConnect (net : Resolver) (domain : Option (List Char)) : CatOutcome Unit :=
  match domain with
  | none => .exit
  | some host =>
      let address := (net.inetAddr host).getD INADDR_NONE
      (errorCheck (address = INADDR_ANY)).bind fun _ => errorCheck (address = INADDR_NONE)

def catStart : CatParse := ⟨false, none, none, none, [], []⟩

def getCatContext (net : Resolver) : CatOutcome (Option (NetcatT × List Nat)) :=
  (catArgs argv (argv.length + 1) 1 catStart).bind fun parsed =>
    match parsed with
    | none => .done none
    | some s =>
        (catParts s.parts).bind fun placed =>
          if s.optListen then
            (catListen s.sDomain placed.1).bind fun addr =>
              (catListen s.saiPort placed.2).bind fun port =>
                .done (some (⟨true, s.option, port, addr, placed.2, placed.1⟩, s.reads))
          else
            (catConnect net placed.1).bind fun _ =>
              .done (some (⟨false, s.option, s.saiPort, s.sDomain, placed.2, placed.1⟩, s.reads))

end Arguments

/-- What the calls of `get_cat_socket` answer; `bind` and `connect` are given the port. -/
structure CatAnswer where
  socket : Int
  bind : Nat → Int
  listen : Int
  accept : Int
  inetPton : List Char → Int
  connect : Nat → Int

def shortPort (port : List Char) : Int := (atoi port + 32768) % 65536 - 32768

def getCatSocket (answer : CatAnswer) (upp : NetcatT) : CatOutcome Int :=
  let port := htons ((upp.saiPort.map atoi).getD 0)
  if (upp.saiAddr.isSome = true ∨ upp.saiPort.isSome = true) ∧ answer.bind port = -1 then .done (-1)
  else if upp.lMode then
    (errorCheck (answer.listen = -1)).bind fun _ =>
      (errorCheck (answer.accept = -1)).bind fun _ => .done answer.accept
  else
    match upp.daiPort, upp.daiAddr with
    | some port, some addr =>
        if answer.inetPton addr ≤ 0 then .done (-1)
        else if answer.connect (htons (shortPort port)) = -1 then .done (-1)
        else .done answer.socket
    | _, _ => .nothing

section Grammar

/-- The option takes the next argument. -/
def takesNext (arg : List Char) : Prop := arg = "-o".toList ∨ arg = "-s".toList ∨ arg = "-p".toList

instance (arg : List Char) : Decidable (takesNext arg) := inferInstanceAs (Decidable (_ ∨ _ ∨ _))

def plainArgs : List (List Char) → List (List Char)
  | [] => []
  | [arg] => if takesNext arg then [] else [arg]
  | arg :: value :: more => if takesNext arg then plainArgs more else arg :: plainArgs (value :: more)

def listens (args : List (List Char)) : Prop := "-l".toList ∈ plainArgs args

def positionals (args : List (List Char)) : List (List Char) :=
  (plainArgs args).filter fun arg => decide (arg ≠ "-l".toList)

theorem plainArgs_cons (arg : List Char) (rest : List (List Char)) (plain : ¬ takesNext arg) :
    plainArgs (arg :: rest) = arg :: plainArgs rest := by
  cases rest with
  | nil => simp [plainArgs, plain]
  | cons value more => simp [plainArgs, plain]

end Grammar

section Loop

variable {argv : List (List Char)} {s : CatParse}

/-- What the loop leaves: the options and the places of the arguments, and reads inside `argv`. -/
structure CatParse.Read (argv : List (List Char)) (optListen : Bool) (parts : List (List Char))
    (last : CatParse) (args : List (List Char)) : Prop where
  listen : last.optListen = true ↔ optListen = true ∨ listens args
  parts : last.parts = parts ++ positionals args
  few : last.parts.length ≤ 2
  inside : ∀ index ∈ last.reads, index < argv.length

theorem CatParse.read_spec (i : Nat) (here : i < argv.length) :
    s.read argv i = .done (argv[i], { s with reads := s.reads ++ [i] }) := by
  rw [CatParse.read, List.getElem?_eq_getElem here]

theorem done_bind {R S : Type} (value : R) (next : R → CatOutcome S) :
    (CatOutcome.done value).bind next = next value := rfl

theorem inside_snoc (reads : List Nat) (i size : Nat) (inside : ∀ index ∈ reads, index < size)
    (here : i < size) : ∀ index ∈ reads ++ [i], index < size := by
  intro index member
  rcases List.mem_append.mp member with old | new
  · exact inside index old
  · exact List.mem_singleton.mp new ▸ here

/-- The loop ends inside `argv`: in `exit`, with too many arguments, or with all of them read. -/
def CatParse.Ends (argv : List (List Char)) (s : CatParse) (outcome : CatOutcome (Option CatParse))
    (args : List (List Char)) : Prop :=
  outcome = .exit ∨ outcome = .done none ∨
    ∃ last, outcome = .done (some last) ∧ CatParse.Read argv s.optListen s.parts last args

theorem CatParse.Ends.option {turns i : Nat} (here : i < argv.length) (takes : takesNext argv[i])
    (inside : ∀ index ∈ s.reads, index < argv.length) (set : List Char → CatParse → CatParse)
    (kept : ∀ value before, (set value before).optListen = before.optListen ∧
      (set value before).parts = before.parts ∧ (set value before).reads = before.reads)
    (ends : ∀ next : CatParse, next.parts = s.parts → (∀ index ∈ next.reads, index < argv.length) →
      next.Ends argv (catArgs argv turns (i + 2) next) (argv.drop (i + 2))) :
    s.Ends argv ((s.argument argv i).bind fun found => catArgs argv turns (i + 2) (set found.1 found.2))
      (argv.drop i) := by
  by_cases last : i + 1 = argv.length
  · exact Or.inl (by simp [CatParse.argument, last, errorCheck, CatOutcome.bind])
  · have more : i + 1 < argv.length := Nat.lt_of_le_of_ne here last
    obtain ⟨listen, parts, reads⟩ := kept argv[i + 1] { s with reads := s.reads ++ [i + 1] }
    have onward := ends (set argv[i + 1] { s with reads := s.reads ++ [i + 1] }) parts
      (by rw [reads]; exact inside_snoc s.reads (i + 1) argv.length inside more)
    have args : plainArgs (argv.drop i) = plainArgs (argv.drop (i + 2)) := by
      rw [List.drop_eq_getElem_cons here, List.drop_eq_getElem_cons more, plainArgs, if_pos takes]
    have found : s.argument argv i = .done (argv[i + 1], { s with reads := s.reads ++ [i + 1] }) := by
      rw [CatParse.argument, CatParse.read_spec (i + 1) more]
      simp [last, errorCheck, CatOutcome.bind]
    rw [found]
    rcases onward with exits | many | ⟨result, ran, read⟩
    · exact Or.inl exits
    · exact Or.inr (Or.inl many)
    · refine Or.inr (Or.inr ⟨result, ran, ?_, ?_, read.few, read.inside⟩)
      · rw [read.listen, listen, listens, listens, args]
      · rw [read.parts, parts, positionals, positionals, args]

theorem CatParse.Ends.plain {i : Nat} (outcome : CatOutcome (Option CatParse)) (here : i < argv.length)
    (plain : ¬ takesNext argv[i]) (next : CatParse)
    (listen : next.optListen = true ↔ s.optListen = true ∨ argv[i] = "-l".toList)
    (parts : next.parts = s.parts ++ if argv[i] = "-l".toList then [] else [argv[i]])
    (ends : next.Ends argv outcome (argv.drop (i + 1))) : s.Ends argv outcome (argv.drop i) := by
  have args : plainArgs (argv.drop i) = argv[i] :: plainArgs (argv.drop (i + 1)) := by
    rw [List.drop_eq_getElem_cons here, plainArgs_cons _ _ plain]
  rcases ends with exits | many | ⟨result, ran, read⟩
  · exact Or.inl exits
  · exact Or.inr (Or.inl many)
  · refine Or.inr (Or.inr ⟨result, ran, ?_, ?_, read.few, read.inside⟩)
    · rw [read.listen, listen, listens, listens, args, List.mem_cons, or_assoc, eq_comm (a := argv[i])]
    · rw [read.parts, parts, positionals, positionals, args, List.append_assoc, List.filter_cons]
      by_cases flag : argv[i] = "-l".toList
      · rw [if_pos flag, if_neg (by simpa using flag), List.nil_append]
      · rw [if_neg flag, if_pos (by simpa using flag), List.singleton_append]

theorem catArgs_spec (turns i : Nat) (enough : argv.length < i + turns) (positive : 0 < turns)
    (few : s.parts.length ≤ 2) (inside : ∀ index ∈ s.reads, index < argv.length) :
    s.Ends argv (catArgs argv turns i s) (argv.drop i) := by
  induction turns generalizing i s with
  | zero => cases positive
  | succ turns ih =>
      by_cases here : i < argv.length
      · have left : 0 < turns := by omega
        have seen := inside_snoc s.reads i argv.length inside here
        rw [catArgs, if_pos here, CatParse.read_spec i here, done_bind]
        dsimp only
        by_cases flag : argv[i] = "-l".toList
        · have plain : ¬ takesNext argv[i] := by
            rw [flag]
            decide
          rw [if_pos flag]
          apply CatParse.Ends.plain _ here plain { s with optListen := true, reads := s.reads ++ [i] }
          · simp [flag]
          · simp [flag]
          · exact ih (i + 1) (by omega) left few seen
        · rw [if_neg flag]
          by_cases option : argv[i] = "-o".toList
          · rw [if_pos option]
            exact CatParse.Ends.option here (Or.inl option) seen (fun value s => { s with option := some value })
              (fun _ _ => ⟨rfl, rfl, rfl⟩) fun next parts inside => ih (i + 2) (by omega) left (parts ▸ few) inside
          · rw [if_neg option]
            by_cases domain : argv[i] = "-s".toList
            · rw [if_pos domain]
              exact CatParse.Ends.option here (Or.inr (Or.inl domain)) seen
                (fun value s => { s with sDomain := some value }) (fun _ _ => ⟨rfl, rfl, rfl⟩)
                fun next parts inside => ih (i + 2) (by omega) left (parts ▸ few) inside
            · rw [if_neg domain]
              by_cases port : argv[i] = "-p".toList
              · rw [if_pos port]
                exact CatParse.Ends.option here (Or.inr (Or.inr port)) seen
                  (fun value s => { s with saiPort := some value }) (fun _ _ => ⟨rfl, rfl, rfl⟩)
                  fun next parts inside => ih (i + 2) (by omega) left (parts ▸ few) inside
              · rw [if_neg port]
                split
                · rename_i room
                  have plain : ¬ takesNext argv[i] := by
                    rintro (output | place | given)
                    · exact option output
                    · exact domain place
                    · exact port given
                  apply CatParse.Ends.plain _ here plain
                    { s with parts := s.parts ++ [argv[i]], reads := s.reads ++ [i] }
                  · exact (or_iff_left flag).symm
                  · rw [if_neg flag]
                  · exact ih (i + 1) (by omega) left (by simpa using Nat.le_of_lt_succ room) seen
                · exact Or.inr (Or.inl rfl)
      · have ended : argv.drop i = [] := List.drop_eq_nil_of_le (Nat.le_of_not_lt here)
        rw [catArgs, if_neg here, ended]
        refine Or.inr (Or.inr ⟨s, rfl, ?_, ?_, few, inside⟩)
        · simp [listens, plainArgs]
        · simp [positionals, plainArgs]

end Loop

/-- The connector reads neither NULL, and `get_cat_socket` is defined whatever the system answers. -/
def Connects (upp : NetcatT) : Prop :=
  (upp.lMode = false → upp.daiAddr.isSome = true ∧ upp.daiPort.isSome = true) ∧
    ∀ answer, getCatSocket answer upp ≠ .nothing

theorem socket_defined (answer : CatAnswer) (upp : NetcatT)
    (given : upp.lMode = false → upp.daiAddr.isSome = true ∧ upp.daiPort.isSome = true) :
    getCatSocket answer upp ≠ .nothing := by
  have checked (exited : Bool) (next : CatOutcome Int) (after : next ≠ .nothing) :
      ((errorCheck exited).bind fun _ => next) ≠ .nothing := by
    cases exited with
    | true => exact fun same => by cases same
    | false => exact after
  unfold getCatSocket
  dsimp only
  split
  · exact fun same => by cases same
  · split
    · apply checked
      apply checked
      exact fun same => by cases same
    · rename_i plain
      obtain ⟨addr, port⟩ := given (by simpa using plain)
      obtain ⟨host, found⟩ := Option.isSome_iff_exists.mp addr
      obtain ⟨number, there⟩ := Option.isSome_iff_exists.mp port
      rw [found, there]
      dsimp only
      split
      · exact fun same => by cases same
      · split
        · exact fun same => by cases same
        · exact fun same => by cases same

theorem connects_iff (upp : NetcatT) :
    Connects upp ↔ (upp.lMode = false → upp.daiAddr.isSome = true ∧ upp.daiPort.isSome = true) :=
  ⟨And.left, fun given => ⟨given, fun answer => socket_defined answer upp given⟩⟩

theorem catParts_spec (parts : List (List Char)) (domain port : Option (List Char)) (few : parts.length ≤ 2)
    (placed : catParts parts = .done (domain, port)) (named : domain.isSome = true) :
    port.isSome = true ↔ parts.length = 2 := by
  match parts with
  | [] =>
      injection placed with both
      injection both with first _
      rw [← first] at named
      cases named
  | [part] =>
      rw [catParts] at placed
      split at placed
      · injection placed with both
        injection both with first _
        rw [← first] at named
        cases named
      · injection placed with both
        injection both with _ second
        rw [← second]
        simp
  | [host, number] =>
      rw [catParts] at placed
      cases digits : host.all Char.isDigit with
      | true =>
          rw [digits] at placed
          cases placed
      | false =>
          rw [digits] at placed
          injection placed with both
          injection both with _ second
          rw [← second]
          simp
  | _ :: _ :: _ :: rest =>
      simp only [List.length_cons] at few
      omega

theorem bind_done {R S : Type} (outcome : CatOutcome R) (next : R → CatOutcome S) (result : S) :
    outcome.bind next = .done result ↔ ∃ value, outcome = .done value ∧ next value = .done result := by
  constructor
  · intro ran
    cases outcome with
    | done value => exact ⟨value, rfl, ran⟩
    | outside | nothing | exit => cases ran
  · rintro ⟨value, rfl, ran⟩
    exact ran

theorem context_fields (net : Resolver) (argv : List (List Char)) (upp : NetcatT) (reads : List Nat)
    (returned : getCatContext argv net = .done (some (upp, reads))) :
    ∃ last placed, CatParse.Read argv false [] last argv.tail ∧ catParts last.parts = .done placed ∧
      reads = last.reads ∧ upp.lMode = last.optListen ∧
      (last.optListen = false → placed.1.isSome = true ∧ upp.daiAddr = placed.1 ∧ upp.daiPort = placed.2) := by
  have loop := @catArgs_spec argv catStart (argv.length + 1) 1 (by omega) (Nat.succ_pos _)
    (Nat.zero_le _) (List.forall_mem_nil _)
  obtain ⟨parsed, ran, rest⟩ := (bind_done _ _ _).mp returned
  rcases loop with exits | many | ⟨last, ended, read⟩
  · rw [exits] at ran
    cases ran
  · rw [many] at ran
    injection ran with none
    subst none
    injection rest with same
    cases same
  · rw [ended] at ran
    injection ran with some
    subst some
    obtain ⟨placed, parts, rest⟩ := (bind_done _ _ _).mp rest
    rw [List.drop_one] at read
    cases listen : last.optListen with
    | true =>
        rw [if_pos listen] at rest
        obtain ⟨addr, _, rest⟩ := (bind_done _ _ _).mp rest
        obtain ⟨port, _, rest⟩ := (bind_done _ _ _).mp rest
        injection rest with same
        injection same with both
        injection both with fields seen
        refine ⟨last, placed, read, parts, seen.symm, ?_, ?_⟩
        · rw [← fields, listen]
        · intro off
          rw [listen] at off
          cases off
    | false =>
        rw [if_neg (by simp [listen])] at rest
        obtain ⟨_, connect, rest⟩ := (bind_done _ _ _).mp rest
        injection rest with same
        injection same with both
        injection both with fields seen
        refine ⟨last, placed, read, parts, seen.symm, ?_, ?_⟩
        · rw [← fields, listen]
        · intro _
          refine ⟨?_, by rw [← fields], by rw [← fields]⟩
          cases named : placed.1 with
          | some host => rfl
          | none =>
              rw [named] at connect
              cases connect

theorem bind_inside {R S : Type} (outcome : CatOutcome R) (next : R → CatOutcome S)
    (inside : outcome ≠ .outside) (rest : ∀ value, outcome = .done value → next value ≠ .outside) :
    outcome.bind next ≠ .outside := by
  cases outcome with
  | outside => exact absurd rfl inside
  | nothing | exit => exact fun same => by cases same
  | done value => exact rest value rfl

theorem check_inside (exited : Bool) : errorCheck exited ≠ .outside := by
  cases exited with
  | true | false => exact fun same => by cases same

theorem catParts_inside (parts : List (List Char)) : catParts parts ≠ .outside := by
  unfold catParts
  split
  · split
    · exact fun same => by cases same
    · exact fun same => by cases same
  · exact bind_inside _ _ (check_inside _) fun _ _ same => by cases same
  · exact fun same => by cases same

theorem catListen_inside (given placed : Option (List Char)) : catListen given placed ≠ .outside := by
  cases given with
  | none => exact fun same => by cases same
  | some value => exact bind_inside _ _ (check_inside _) fun _ _ same => by cases same

theorem catConnect_inside (net : Resolver) (domain : Option (List Char)) : catConnect net domain ≠ .outside := by
  cases domain with
  | none => exact fun same => by cases same
  | some host => exact bind_inside _ _ (check_inside _) fun _ _ => check_inside _

theorem context_inside (net : Resolver) (argv : List (List Char)) : getCatContext argv net ≠ .outside := by
  have loop := @catArgs_spec argv catStart (argv.length + 1) 1 (by omega) (Nat.succ_pos _)
    (Nat.zero_le _) (List.forall_mem_nil _)
  apply bind_inside
  · rcases loop with exits | many | ⟨last, ended, _⟩
    · exact exits ▸ fun same => by cases same
    · exact many ▸ fun same => by cases same
    · exact ended ▸ fun same => by cases same
  · intro parsed _
    cases parsed with
    | none => exact fun same => by cases same
    | some s =>
        apply bind_inside _ _ (catParts_inside s.parts)
        intro placed _
        split
        · apply bind_inside _ _ (catListen_inside _ _)
          intro addr _
          exact bind_inside _ _ (catListen_inside _ _) fun _ _ same => by cases same
        · exact bind_inside _ _ (catConnect_inside _ _) fun _ _ same => by cases same

/-- Every read of `argv` is inside, and every context that is returned connects exactly when `-l` is
given or two arguments stand by their place. -/
theorem cat_context_connects (net : Resolver) (argv : List (List Char)) :
    getCatContext argv net ≠ .outside ∧
      ∀ upp reads, getCatContext argv net = .done (some (upp, reads)) →
        ((Connects upp ∧ ∀ index ∈ reads, index < argv.length) ↔
          listens argv.tail ∨ (positionals argv.tail).length = 2) := by
  refine ⟨context_inside net argv, ?_⟩
  intro upp reads returned
  obtain ⟨last, placed, read, parts, seen, mode, fields⟩ := context_fields net argv upp reads returned
  have listen : last.optListen = true ↔ listens argv.tail := by
    rw [read.listen]
    exact or_iff_right Bool.false_ne_true
  rw [connects_iff, seen, and_iff_left read.inside, mode, ← listen]
  cases flag : last.optListen with
  | true => exact iff_of_true (fun off => by cases off) (Or.inl rfl)
  | false =>
      obtain ⟨named, addr, port⟩ := fields flag
      have two := catParts_spec last.parts placed.1 placed.2 read.few parts named
      rw [addr, port, named, two, read.parts, List.nil_append]
      simp

def loopbackResolver : Resolver :=
  { noResolver with inetAddr := fun host => if host = "127.0.0.1".toList then some 0x0100007f else none }

def argvPort : List (List Char) := ["netcat".toList, "127.0.0.1".toList, "80".toList]

theorem cat_context_port :
    ∃ upp reads, getCatContext argvPort loopbackResolver = .done (some (upp, reads)) ∧
      Connects upp ∧ ∀ index ∈ reads, index < 3 :=
  ⟨⟨false, none, none, none, some "80".toList, some "127.0.0.1".toList⟩, [1, 2], rfl,
    ((cat_context_connects loopbackResolver argvPort).2 _ _ rfl).mpr (Or.inr rfl)⟩

/-- A host alone: the port that is read is NULL. -/
theorem cat_context_alone :
    getCatContext ["netcat".toList, "127.0.0.1".toList] loopbackResolver =
        .done (some (⟨false, none, none, none, none, some "127.0.0.1".toList⟩, [1])) ∧
      ¬ Connects ⟨false, none, none, none, none, some "127.0.0.1".toList⟩ := by
  refine ⟨rfl, ?_⟩
  intro connects
  have port := (connects.1 rfl).2
  cases port

end Libtx
