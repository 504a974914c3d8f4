import Libtx.Net.Forms

/-! `get_url_socket` of `txget.cpp`, and the request that `update_stdio` makes of what it leaves.

The name service, `inet_aton` and `socket` are arguments; what `connect` answers is not read. -/

namespace Libtx

open Text

/-- `domain`, and the arrays `_g_host` and `_g_path` of the program. -/
structure UrlArrays where
  domain : Buffer
  gHost : Buffer
  gPath : Buffer
  deriving DecidableEq, Repr

structure SockAddr where
  sinPort : Nat
  sinAddr : Nat
  deriving DecidableEq, Repr

/-- `inet_aton` and the first address of `gethostbyname`, none where they fail, and what `socket`
returns. -/
structure UrlAnswers where
  inetAton : List Char → Option Nat
  gethostbyname : List Char → Option Nat
  socket : Int

/-- What is returned, with the address that is connected to; or the program has ended. -/
inductive UrlOutcome where
  | returned (fd : Int) (connects : Option SockAddr)
  | exited
  deriving DecidableEq, Repr

def urlSplit (s : UrlArrays) (line : List Char) : UrlArrays :=
  let split := line.idxOf '/'
  let copied :=
    if '/' ∈ line ∧ split < 256 then
      { s with
        domain := (memcpy s.domain (line.take split)).put split '\x00'
        gPath := strcpy s.gPath (line.drop split) }
    else
      { s with
        domain := (strncpy s.domain line 256).put 255 '\x00'
        gPath := strcpy s.gPath ['/'] }
  { copied with gHost := strcpy copied.gHost (copied.domain.str 0) }

def urlPort (s : UrlArrays) : UrlArrays × Int :=
  let domain := s.domain.str 0
  let colon := domain.idxOf ':'
  if ':' ∈ domain then ({ s with domain := s.domain.put colon '\x00' }, atoi (domain.drop (colon + 1)))
  else (s, 80)

def urlAddress (net : UrlAnswers) (domain : List Char) : Option Nat :=
  match net.inetAton domain with
  | some address => some address
  | none => net.gethostbyname domain

def httpScheme : List Char := "http://".toList

def getUrlSocket (net : UrlAnswers) (s : UrlArrays) (url : List Char) : UrlOutcome × UrlArrays :=
  if url.take 7 = httpScheme then
    let ported := urlPort (urlSplit s (url.drop 7))
    match urlAddress net (ported.1.domain.str 0) with
    | some address => (.returned net.socket (some ⟨htons ported.2, address⟩), ported.1)
    | none => (.exited, ported.1)
  else (.returned (-1) none, s)

def httpGet : List Char := "GET ".toList

def httpVersion : List Char := " HTTP/1.0\r\nHost: ".toList

def httpEnd : List Char := "\r\n\r\n".toList

def requestText (path host : List Char) : List Char := httpGet ++ path ++ httpVersion ++ host ++ httpEnd

def urlRequest (s : UrlArrays) (buf : Buffer) : Buffer :=
  strcpy buf (requestText (s.gPath.str 0) (s.gHost.str 0))

structure UrlArrays.Fresh (s : UrlArrays) : Prop where
  domain : s.domain.cells.length = 256 ∧ s.domain.writes = []
  gHost : s.gHost.cells.length = 256 ∧ s.gHost.writes = []
  gPath : s.gPath.cells.length = 256 ∧ s.gPath.writes = []

def urlHost (url : List Char) : List Char := (url.drop 7).takeWhile (· ≠ '/')

def urlPath (url : List Char) : List Char := (url.drop 7).dropWhile (· ≠ '/')

def keptPath (url : List Char) : List Char :=
  if (urlHost url).length < 256 ∧ urlPath url ≠ [] then urlPath url else ['/']

/-- What the function makes of any text. -/
structure UrlDecoded (net : UrlAnswers) (s : UrlArrays) (url : List Char) : Prop where
  refused : ¬ httpScheme <+: url → getUrlSocket net s url = (.returned (-1) none, s)
  inside : ∀ index, index ∈ (getUrlSocket net s url).2.domain.writes ∨
    index ∈ (getUrlSocket net s url).2.gHost.writes → index < 256
  overruns : (∀ index ∈ (getUrlSocket net s url).2.gPath.writes, index < 256) ↔
    (httpScheme <+: url → (keptPath url).length < 256)
  host : httpScheme <+: url → (getUrlSocket net s url).2.gHost.str 0 = (urlHost url).take 255
  path : httpScheme <+: url → (keptPath url).length < 256 →
    (getUrlSocket net s url).2.gPath.str 0 = keptPath url

structure UrlForm where
  host : List Char
  port : Option PortText
  path : List Char
  plain : ∀ ch ∈ host, ch ≠ '/' ∧ ch ≠ ':' ∧ ch ≠ '\x00'
  rooted : path = [] ∨ path.head? = some '/'
  nonzero : '\x00' ∉ path

def UrlForm.authority (form : UrlForm) : List Char :=
  match form.port with
  | none => form.host
  | some port => form.host ++ ':' :: port.text

def UrlForm.text (form : UrlForm) : List Char := httpScheme ++ (form.authority ++ form.path)

def UrlForm.portOf (form : UrlForm) : Nat := (form.port.map PortText.value).getD 80

def UrlForm.asked (form : UrlForm) : List Char := if form.path = [] then ['/'] else form.path

/-- The host and the path are those of the URL, the connection goes to its host and port, and the
request names them. -/
structure UrlServed (net : UrlAnswers) (s : UrlArrays) (buf : Buffer) (form : UrlForm) : Prop where
  inside : ∀ index ∈ (getUrlSocket net s form.text).2.gPath.writes, index < 256
  connects : (getUrlSocket net s form.text).1 =
    match urlAddress net form.host with
    | some address => .returned net.socket (some ⟨htons form.portOf, address⟩)
    | none => .exited
  names : (getUrlSocket net s form.text).2.gHost.str 0 = form.authority
  sends : (urlRequest (getUrlSocket net s form.text).2 buf).str 0 = requestText form.asked form.authority
  room : ∀ index ∈ (urlRequest (getUrlSocket net s form.text).2 buf).writes, index < 8192 * 4


section Split

theorem front_late (line : List Char) (late : ¬ ('/' ∈ line ∧ line.idxOf '/' < 256)) :
    line.take 255 = (line.takeWhile (· ≠ '/')).take 255 := by
  rw [← take_idxOf, List.take_take]
  by_cases slash : '/' ∈ line
  · have past : 256 ≤ line.idxOf '/' := Nat.not_lt.mp fun before => late ⟨slash, before⟩
    rw [Nat.min_eq_left (Nat.le_of_succ_le past)]
  · rw [List.idxOf_of_notMem slash, ← List.take_take, List.take_length]

theorem kept_iff (url : List Char) : ('/' ∈ url.drop 7 ∧ (url.drop 7).idxOf '/' < 256) ↔
    (urlHost url).length < 256 ∧ urlPath url ≠ [] := by
  rw [idxOf_takeWhile, urlPath, ne_eq, dropWhile_stop, not_not, and_comm, urlHost]

theorem split_path (s : UrlArrays) (url : List Char) :
    (urlSplit s (url.drop 7)).gPath = strcpy s.gPath (keptPath url) := by
  rw [urlSplit]
  dsimp only
  split
  · rename_i kept
    rw [keptPath, if_pos ((kept_iff url).mp kept), urlPath, ← drop_idxOf]
  · rename_i late
    rw [keptPath, if_neg (mt (kept_iff url).mpr late)]

variable {s : UrlArrays} (fresh : s.Fresh) (url : List Char) (nonzero : '\x00' ∉ url)

include fresh nonzero

theorem split_domain : (urlSplit s (url.drop 7)).domain.str 0 = (urlHost url).take 255 := by
  have closed : '\x00' ∉ url.drop 7 := fun member => nonzero (List.mem_of_mem_drop member)
  rw [urlSplit, urlHost]
  dsimp only
  split
  · rename_i kept
    have size : ((url.drop 7).take ((url.drop 7).idxOf '/')).length = (url.drop 7).idxOf '/' := by
      rw [List.length_take, Nat.min_eq_left List.idxOf_le_length]
    have short : (url.drop 7).idxOf '/' ≤ 255 := Nat.le_of_lt_succ kept.2
    have room : (url.drop 7).idxOf '/' < s.domain.cells.length := fresh.domain.1 ▸ kept.2
    have front : '\x00' ∉ (url.drop 7).take ((url.drop 7).idxOf '/') :=
      fun member => closed (List.mem_of_mem_take member)
    have copied := strncpy_put_str s.domain _ _ _ (size.trans_le (Nat.le_of_lt room)) size.ge room front
    change ((strncpy s.domain _ _).put _ '\x00').str 0 = _
    rw [copied, List.take_take, Nat.min_self, ← take_idxOf, List.take_of_length_le (size.trans_le short)]
  · rename_i late
    have room : 255 < s.domain.cells.length := fresh.domain.1 ▸ (by decide : 255 < 256)
    rw [← front_late _ late]
    exact strncpy_put_str s.domain _ 256 255 fresh.domain.1.ge (by decide) room closed

theorem split_host : (urlSplit s (url.drop 7)).gHost.str 0 = (urlHost url).take 255 := by
  have domain := split_domain fresh url nonzero
  have room : ((urlHost url).take 255).length < s.gHost.cells.length := by
    rw [fresh.gHost.1]
    exact Nat.lt_of_le_of_lt (List.length_take_le _ _) (by decide)
  have closed : '\x00' ∉ (urlHost url).take 255 := domain ▸ str_nonzero _
  calc (urlSplit s (url.drop 7)).gHost.str 0
      = (strcpy s.gHost ((urlSplit s (url.drop 7)).domain.str 0)).str 0 := by
        rw [urlSplit]
        dsimp only
        split
        · rfl
        · rfl
    _ = (strcpy s.gHost ((urlHost url).take 255)).str 0 := by rw [domain]
    _ = (urlHost url).take 255 := strcpy_str s.gHost _ room closed

theorem split_writes : ∀ index, index ∈ (urlSplit s (url.drop 7)).domain.writes ∨
    index ∈ (urlSplit s (url.drop 7)).gHost.writes → index < 256 := by
  have host := split_host fresh url nonzero
  have short : ((urlSplit s (url.drop 7)).domain.str 0).length < 256 := by
    rw [split_domain fresh url nonzero]
    exact Nat.lt_of_le_of_lt (List.length_take_le _ _) (by decide)
  have printed : (urlSplit s (url.drop 7)).gHost.writes =
      List.range (((urlSplit s (url.drop 7)).domain.str 0).length + 1) := by
    calc (urlSplit s (url.drop 7)).gHost.writes
        = (strcpy s.gHost ((urlSplit s (url.drop 7)).domain.str 0)).writes := by
          rw [urlSplit]
          dsimp only
          split
          · rfl
          · rfl
      _ = List.range (((urlSplit s (url.drop 7)).domain.str 0).length + 1) := by
          rw [strcpy_writes, fresh.gHost.2, List.nil_append]
  rintro index (domain | host)
  · rw [urlSplit] at domain
    dsimp only at domain
    split at domain
    · rename_i kept
      change index ∈ (strncpy s.domain _ _).writes ++ [_] at domain
      rw [strncpy_writes, fresh.domain.2, List.nil_append, List.length_take,
        Nat.min_eq_left List.idxOf_le_length] at domain
      rcases List.mem_append.mp domain with copied | ended
      · exact Nat.lt_trans (List.mem_range.mp copied) kept.2
      · exact List.mem_singleton.mp ended ▸ kept.2
    · change index ∈ (strncpy s.domain _ _).writes ++ [_] at domain
      rw [strncpy_writes, fresh.domain.2, List.nil_append] at domain
      rcases List.mem_append.mp domain with copied | ended
      · exact List.mem_range.mp copied
      · exact List.mem_singleton.mp ended ▸ (by decide)
  · rw [printed] at host
    exact Nat.lt_of_lt_of_le (List.mem_range.mp host) short

end Split

section Port

variable (s : UrlArrays)

theorem port_name : (urlPort s).1.domain.str 0 = (s.domain.str 0).takeWhile (· ≠ ':') := by
  rw [urlPort]
  split
  · rename_i colon
    rw [← take_idxOf]
    exact put_str s.domain _ (List.idxOf_lt_length_of_mem colon)
  · rename_i plain
    symm
    rw [List.takeWhile_eq_self_iff]
    intro ch member
    simpa using ne_of_mem_of_not_mem member plain

theorem port_arrays : (urlPort s).1.gHost = s.gHost ∧ (urlPort s).1.gPath = s.gPath := by
  rw [urlPort]
  split
  · exact ⟨rfl, rfl⟩
  · exact ⟨rfl, rfl⟩

theorem port_writes (index : Nat) (written : index ∈ (urlPort s).1.domain.writes) :
    index ∈ s.domain.writes ∨ index < (s.domain.str 0).length := by
  rw [urlPort] at written
  split at written
  · rename_i colon
    rcases List.mem_append.mp written with old | cut
    · exact Or.inl old
    · exact Or.inr (List.mem_singleton.mp cut ▸ List.idxOf_lt_length_of_mem colon)
  · exact Or.inl written

end Port

section Decoding

variable (net : UrlAnswers) {s : UrlArrays} (fresh : s.Fresh) (url : List Char)

theorem scheme_take : url.take 7 = httpScheme ↔ httpScheme <+: url := by
  rw [List.prefix_iff_eq_take]
  exact eq_comm

theorem url_refused (other : ¬ httpScheme <+: url) : getUrlSocket net s url = (.returned (-1) none, s) := by
  rw [getUrlSocket, if_neg (mt (scheme_take url).mp other)]

theorem url_arrays (scheme : httpScheme <+: url) :
    (getUrlSocket net s url).2 = (urlPort (urlSplit s (url.drop 7))).1 := by
  rw [getUrlSocket, if_pos ((scheme_take url).mpr scheme)]
  dsimp only
  split
  · rfl
  · rfl

theorem url_path (scheme : httpScheme <+: url) :
    (getUrlSocket net s url).2.gPath = strcpy s.gPath (keptPath url) := by
  rw [url_arrays net url scheme, (port_arrays _).2, split_path]

theorem keptPath_nonzero (nonzero : '\x00' ∉ url) : '\x00' ∉ keptPath url := by
  rw [keptPath]
  split
  · exact fun member => nonzero (List.mem_of_mem_drop ((List.dropWhile_sublist _).subset member))
  · decide

include fresh

theorem url_overruns (scheme : httpScheme <+: url) :
    (∀ index ∈ (getUrlSocket net s url).2.gPath.writes, index < 256) ↔ (keptPath url).length < 256 := by
  rw [url_path net url scheme, strcpy_writes, fresh.gPath.2, List.nil_append]
  simp only [List.mem_range]
  constructor
  · exact fun inside => inside _ (Nat.lt_succ_self _)
  · exact fun short index before => Nat.lt_of_lt_of_le before short

theorem url_decoded (nonzero : '\x00' ∉ url) : UrlDecoded net s url where
  refused := url_refused net url
  inside := by
    by_cases scheme : httpScheme <+: url
    · have writes := split_writes fresh url nonzero
      rw [url_arrays net url scheme, (port_arrays _).1]
      rintro index (domain | host)
      · rcases port_writes _ index domain with before | named
        · exact writes index (Or.inl before)
        · rw [split_domain fresh url nonzero] at named
          exact Nat.lt_of_lt_of_le named ((List.length_take_le _ _).trans (by decide))
      · exact writes index (Or.inr host)
    · rw [url_refused net url scheme, fresh.domain.2, fresh.gHost.2]
      simp
  overruns := by
    by_cases scheme : httpScheme <+: url
    · rw [url_overruns net fresh url scheme]
      exact ⟨fun short _ => short, fun short => short scheme⟩
    · rw [url_refused net url scheme, fresh.gPath.2]
      exact iff_of_true (List.forall_mem_nil _) fun prefixed => absurd prefixed scheme
  host := by
    intro scheme
    rw [url_arrays net url scheme, (port_arrays _).1, split_host fresh url nonzero]
  path := by
    intro scheme short
    rw [url_path net url scheme]
    exact strcpy_str s.gPath _ (by rw [fresh.gPath.1]; exact short) (keptPath_nonzero url nonzero)

end Decoding

section Forms

variable (form : UrlForm)

theorem authority_plain : ∀ ch ∈ form.authority, ch ≠ '/' ∧ ch ≠ '\x00' := by
  have host (ch : Char) (member : ch ∈ form.host) : ch ≠ '/' ∧ ch ≠ '\x00' :=
    ⟨(form.plain ch member).1, (form.plain ch member).2.2⟩
  intro ch member
  rw [UrlForm.authority] at member
  split at member
  · exact host ch member
  · rename_i port _
    rcases List.mem_append.mp member with before | after
    · exact host ch before
    · rcases List.mem_cons.mp after with rfl | digit
      · decide
      · have number := port.digits ch digit
        constructor
        · rintro rfl
          revert number
          decide
        · rintro rfl
          revert number
          decide

theorem text_nonzero : '\x00' ∉ form.text := by
  simp only [UrlForm.text, List.mem_append, not_or]
  exact ⟨by decide, fun member => (authority_plain form _ member).2 rfl, form.nonzero⟩

theorem form_scheme : httpScheme <+: form.text := List.prefix_append _ _

theorem form_line : form.text.drop 7 = form.authority ++ form.path := by
  calc form.text.drop 7
      = (httpScheme ++ (form.authority ++ form.path)).drop httpScheme.length := rfl
    _ = form.authority ++ form.path := List.drop_left

theorem form_host : urlHost form.text = form.authority := by
  rw [urlHost, form_line]
  have goes : ∀ ch ∈ form.authority, decide (ch ≠ '/') = true := by
    intro ch member
    exact decide_eq_true (authority_plain form ch member).1
  cases path : form.path with
  | nil => rw [List.append_nil, List.takeWhile_eq_self_iff.mpr goes]
  | cons head tail =>
      have slash : head = '/' := by simpa [path] using form.rooted
      exact takeWhile_stop _ form.authority tail head goes (by simp [slash])

theorem form_path : urlPath form.text = form.path := by
  have whole := List.takeWhile_append_dropWhile (p := (· ≠ '/')) (l := form.authority ++ form.path)
  have host := form_host form
  rw [urlHost, form_line] at host
  rw [host] at whole
  rw [urlPath, form_line]
  exact List.append_cancel_left whole

theorem form_kept (short : form.authority.length < 256) : keptPath form.text = form.asked := by
  rw [keptPath, form_host, form_path, UrlForm.asked]
  by_cases empty : form.path = []
  · simp [empty]
  · simp [empty, short]

theorem form_name : form.authority.takeWhile (· ≠ ':') = form.host := by
  have goes : ∀ ch ∈ form.host, decide (ch ≠ ':') = true := by
    intro ch member
    exact decide_eq_true (form.plain ch member).2.1
  rw [UrlForm.authority]
  split
  · exact List.takeWhile_eq_self_iff.mpr goes
  · exact takeWhile_stop _ form.host _ ':' goes rfl

theorem form_port (s : UrlArrays) (domain : s.domain.str 0 = form.authority) :
    (urlPort s).2 = (form.portOf : Int) := by
  have plain : ':' ∉ form.host := fun member => (form.plain _ member).2.1 rfl
  rw [urlPort, domain, UrlForm.authority, UrlForm.portOf]
  cases given : form.port with
  | none =>
      dsimp only
      rw [if_neg plain]
      rfl
  | some port =>
      dsimp only
      rw [if_pos (by simp), idxOf_colon _ _ plain, List.drop_length_add_append, List.drop_succ_cons,
        List.drop_zero, port.atoi]
      rfl

end Forms

section Requests

variable (net : UrlAnswers) {s : UrlArrays} (fresh : s.Fresh) (form : UrlForm)

theorem request_length (path host : List Char) :
    (requestText path host).length = path.length + host.length + 25 := by
  have get : httpGet.length = 4 := rfl
  have version : httpVersion.length = 17 := rfl
  have ends : httpEnd.length = 4 := rfl
  rw [requestText, List.length_append, List.length_append, List.length_append, List.length_append, get, version,
    ends]
  omega

theorem request_nonzero (path host : List Char) (asked : '\x00' ∉ path) (named : '\x00' ∉ host) :
    '\x00' ∉ requestText path host := by
  intro member
  rw [requestText] at member
  rcases List.mem_append.mp member with member | ends
  · rcases List.mem_append.mp member with member | host
    · rcases List.mem_append.mp member with member | version
      · rcases List.mem_append.mp member with get | path
        · exact absurd get (by decide)
        · exact asked path
      · exact absurd version (by decide)
    · exact named host
  · exact absurd ends (by decide)

theorem asked_length (short : form.path.length < 256) : form.asked.length < 256 := by
  rw [UrlForm.asked]
  split
  · decide
  · exact short

include fresh

theorem form_connects (short : form.authority.length < 256) :
    (getUrlSocket net s form.text).1 =
      match urlAddress net form.host with
      | some address => .returned net.socket (some ⟨htons form.portOf, address⟩)
      | none => .exited := by
  have domain : (urlSplit s (form.text.drop 7)).domain.str 0 = form.authority := by
    rw [split_domain fresh form.text (text_nonzero form), form_host]
    exact List.take_of_length_le (Nat.le_of_lt_succ short)
  rw [getUrlSocket, if_pos ((scheme_take form.text).mpr (form_scheme form))]
  dsimp only
  rw [port_name, domain, form_name, form_port form _ domain]
  split
  · rfl
  · rfl

theorem form_served (buf : Buffer) (size : buf.cells.length = 8192 * 4) (clean : buf.writes = [])
    (named : form.authority.length < 256) (short : form.path.length < 256) : UrlServed net s buf form := by
  have decoded := url_decoded net fresh form.text (text_nonzero form)
  have kept := form_kept form named
  have asked := asked_length form short
  have host : (getUrlSocket net s form.text).2.gHost.str 0 = form.authority := by
    rw [decoded.host (form_scheme form), form_host]
    exact List.take_of_length_le (Nat.le_of_lt_succ named)
  have path : (getUrlSocket net s form.text).2.gPath.str 0 = form.asked := by
    rw [decoded.path (form_scheme form) (kept ▸ asked), kept]
  have whole : urlRequest (getUrlSocket net s form.text).2 buf =
      strcpy buf (requestText form.asked form.authority) := by
    rw [urlRequest, host, path]
  have room := request_length form.asked form.authority
  constructor
  · exact decoded.overruns.mpr fun _ => kept ▸ asked
  · exact form_connects net fresh form named
  · exact host
  · rw [whole]
    apply strcpy_str buf
    · omega
    · apply request_nonzero
      · exact kept ▸ keptPath_nonzero form.text (text_nonzero form)
      · exact fun member => (authority_plain form _ member).2 rfl
  · intro index written
    rw [whole, strcpy_writes, clean, List.nil_append, List.mem_range] at written
    omega

/-- What is asked of which host: any text is decoded, and a URL is served as it stands exactly when
its host, with the port, and its path have fewer than 256 characters. -/
theorem url_asked (buf : Buffer) (size : buf.cells.length = 8192 * 4) (clean : buf.writes = []) :
    (∀ url, '\x00' ∉ url → UrlDecoded net s url) ∧
      ∀ form, UrlServed net s buf form ↔ form.authority.length < 256 ∧ form.path.length < 256 := by
  refine ⟨fun url nonzero => url_decoded net fresh url nonzero, fun form => ?_⟩
  have decoded := url_decoded net fresh form.text (text_nonzero form)
  constructor
  · intro served
    have named : form.authority.length < 256 := by
      have cut : (form.authority.take 255).length = form.authority.length := by
        rw [← form_host form, ← decoded.host (form_scheme form), served.names, form_host]
      rw [List.length_take] at cut
      omega
    have short := decoded.overruns.mp served.inside (form_scheme form)
    rw [form_kept form named, UrlForm.asked] at short
    refine ⟨named, ?_⟩
    by_cases empty : form.path = []
    · rw [empty]
      decide
    · rw [if_neg empty] at short
      exact short
  · exact fun ⟨named, short⟩ => form_served net fresh form buf size clean named short

end Requests

def zeroArrays : UrlArrays := ⟨Buffer.zeros 256, Buffer.zeros 256, Buffer.zeros 256⟩

theorem zero_fresh : zeroArrays.Fresh where
  domain := ⟨List.length_replicate, rfl⟩
  gHost := ⟨List.length_replicate, rfl⟩
  gPath := ⟨List.length_replicate, rfl⟩

theorem local_plain : ∀ ch ∈ localhost.text, ch ≠ '/' ∧ ch ≠ ':' ∧ ch ≠ '\x00' := by
  have checked : (localhost.text.all fun ch => decide (ch ≠ '/' ∧ ch ≠ ':' ∧ ch ≠ '\x00')) = true := by
    decide +kernel
  exact fun ch member => of_decide_eq_true (List.all_eq_true.mp checked ch member)

def localUrl : UrlForm where
  host := localhost.text
  port := some webPort
  path := "/a".toList
  plain := local_plain
  rooted := Or.inr rfl
  nonzero := by decide

def localAnswers : UrlAnswers := ⟨fun _ => none, localResolver.gethostbyname, 3⟩

theorem url_asked_local :
    zeroArrays.Fresh ∧ UrlServed localAnswers zeroArrays (Buffer.zeros (8192 * 4)) localUrl ∧
      (getUrlSocket localAnswers zeroArrays localUrl.text).1 =
        .returned 3 (some ⟨htons 80, 0x0100007f⟩) := by
  have served := ((url_asked localAnswers zero_fresh (Buffer.zeros (8192 * 4)) List.length_replicate rfl).2
    localUrl).mpr (by decide)
  exact ⟨zero_fresh, served, served.connects⟩

end Libtx
