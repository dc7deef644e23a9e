import SignOn.Proofs.Parameters

/-!
URLs completed with the origin of a request. There is one way only to take a completed URL apart
into a scheme, a server, perhaps a port, and a path. The parts are what the URL was made of, and the
port, be it written or implied by the scheme, is that of the request. So requests to different
servers or ports never complete a URL alike.
-/

namespace SignOn

namespace Text

theorem append_inj_of_ends {p : Char → Bool} {one other after others : List Char}
    (plain : ∀ c ∈ one, p c = true) (alike : ∀ c ∈ other, p c = true)
    (ends : ∀ c ∈ after.head?, p c = false) (stops : ∀ c ∈ others.head?, p c = false)
    (same : one ++ after = other ++ others) : one = other ∧ after = others := by
  have nothing {cs : List Char} (begins : ∀ c ∈ cs.head?, p c = false) :
      cs.takeWhile p = [] := by
    cases cs with
    | nil => rfl
    | cons c cs => rw [List.takeWhile_cons, begins c rfl, if_neg Bool.false_ne_true]
  have first : one = other := by
    calc one = (one ++ after).takeWhile p := by
          rw [List.takeWhile_append_of_pos plain, nothing ends, List.append_nil]
      _ = (other ++ others).takeWhile p := by rw [same]
      _ = other := by
          rw [List.takeWhile_append_of_pos alike, nothing stops, List.append_nil]
  subst first
  exact ⟨rfl, List.append_cancel_left same⟩

theorem mem_lowerChars {mark : Char} (ascii : mark.toNat < 0x80) (small : mark.toLower = mark)
    {cs : List Char} (inside : mark ∈ cs) (before : List Char) :
    mark ∈ lowerChars before cs := by
  induction cs generalizing before with
  | nil => cases inside
  | cons c cs ih =>
    rw [lowerChars, List.mem_append]
    rcases List.mem_cons.1 inside with rfl | later
    · have sigma : mark ≠ '\u03a3' := by
        rintro rfl
        exact absurd ascii (by decide)
      have dotted : mark ≠ '\u0130' := by
        rintro rfl
        exact absurd ascii (by decide)
      have kept : lowerChar mark = mark := by
        unfold lowerChar
        simp only
        rw [if_pos ascii, small]
      rw [if_neg sigma, if_neg dotted, kept]
      exact Or.inl List.mem_cons_self
    · exact Or.inr (ih later (c :: before))

end Text

theorem Value.toList_intText_of_nonneg {n : Int} (natural : 0 ≤ n) :
    (intText n).toList = Nat.toDigits 10 n.natAbs := by
  rw [toList_intText, if_neg (Int.not_lt.2 natural), List.nil_append]

/-- The scheme is a web scheme, in any letter case. -/
def Origin.IsWeb (origin : Origin) : Prop :=
  Text.lower origin.scheme = "http" ∨ Text.lower origin.scheme = "https"

theorem Origin.IsWeb.not_mem_scheme {origin : Origin} (web : origin.IsWeb) {mark : Char}
    (ascii : mark.toNat < 0x80) (small : mark.toLower = mark) (other : mark ∉ "https".toList) :
    mark ∉ origin.scheme.toList := by
  intro inside
  have kept : mark ∈ (Text.lower origin.scheme).toList := by
    rw [Text.lower, String.toList_ofList]
    exact Text.mem_lowerChars ascii small inside []
  rcases web with plain | secure
  · rw [plain] at kept
    exact other (List.mem_append_left ['s'] kept)
  · rw [secure] at kept
    exact other kept

/-- An origin that web requests have: a web scheme in any letter case, a server name without the
marks that begin a port or a path, and a port that is not negative. -/
structure Origin.Regular (origin : Origin) : Prop where
  scheme : Text.lower origin.scheme = "http" ∨ Text.lower origin.scheme = "https"
  server : ':' ∉ origin.server.toList ∧ '/' ∉ origin.server.toList
  port : 0 ≤ origin.port

theorem Origin.Regular.colon_not_mem_scheme {origin : Origin} (regular : origin.Regular) :
    ':' ∉ origin.scheme.toList :=
  IsWeb.not_mem_scheme regular.scheme (by decide) (by decide) (by decide)

namespace Url

/-- The parts of an absolute URL: a scheme, a server, the digits of a port if one is written, and
what follows, from the first slash of the path on. None of them holds the mark that ends it. -/
@[ext]
structure Located where
  scheme : String
  server : String
  port : Option String
  path : String
  scheme_ends : ':' ∉ scheme.toList
  server_ends : ':' ∉ server.toList ∧ '/' ∉ server.toList
  port_decimal : ∀ digits ∈ port, digits ≠ "" ∧ ∀ c ∈ digits.toList, c.isDigit = true
  path_begins : path.toList.head? = some '/'

namespace Located

def text (parts : Located) : String :=
  parts.scheme ++ "://" ++ parts.server ++
    (match parts.port with
      | none => ""
      | some digits => ":" ++ digits) ++ parts.path

/-- The port that is written, or else the one that the scheme implies. -/
def portNumber? (parts : Located) : Option Int :=
  match parts.port with
  | some digits => some (Nat.ofDigitChars 10 digits.toList 0)
  | none => Origin.impliedPort? parts.scheme

def afterServer (parts : Located) : List Char :=
  match parts.port with
  | none => parts.path.toList
  | some digits => ':' :: (digits.toList ++ parts.path.toList)

theorem toList_text (parts : Located) :
    parts.text.toList =
      parts.scheme.toList ++ ':' :: '/' :: '/' :: (parts.server.toList ++ parts.afterServer) := by
  unfold text afterServer
  cases parts.port with
  | none => simp
  | some digits => simp

theorem afterServer_begins (parts : Located) :
    ∀ c ∈ parts.afterServer.head?, (c != ':' && c != '/') = false := by
  intro c first
  unfold afterServer at first
  cases written : parts.port with
  | none =>
    rw [written] at first
    simp only [parts.path_begins, Option.mem_def, Option.some.injEq] at first
    subst first
    rfl
  | some digits =>
    rw [written] at first
    cases first
    rfl

theorem path_ends_digits (parts : Located) :
    ∀ c ∈ parts.path.toList.head?, c.isDigit = false := by
  intro c first
  rw [parts.path_begins] at first
  cases first
  rfl

theorem afterServer_injective {parts other : Located}
    (same : parts.afterServer = other.afterServer) :
    parts.port = other.port ∧ parts.path = other.path := by
  -- The path begins with a slash, so a colon tells that a port is written.
  have unlike {digits : List Char} {path : String} (begins : path.toList.head? = some '/') :
      path.toList ≠ ':' :: digits := by
    intro colon
    rw [colon] at begins
    cases begins
  unfold afterServer at same
  cases written : parts.port with
  | none =>
    cases others : other.port with
    | none =>
      rw [written, others] at same
      exact ⟨rfl, String.toList_inj.1 same⟩
    | some digits =>
      rw [written, others] at same
      exact absurd same (unlike parts.path_begins)
  | some digits =>
    cases others : other.port with
    | none =>
      rw [written, others] at same
      exact absurd same.symm (unlike other.path_begins)
    | some numerals =>
      rw [written, others] at same
      obtain ⟨number, path⟩ := Text.append_inj_of_ends (parts.port_decimal digits written).2
        (other.port_decimal numerals others).2 parts.path_ends_digits other.path_ends_digits
        (List.cons.inj same).2
      exact ⟨congrArg some (String.toList_inj.1 number), String.toList_inj.1 path⟩

theorem text_injective : Function.Injective text := by
  intro parts other same
  have letters := congrArg String.toList same
  rw [toList_text, toList_text] at letters
  have before (parts : Located) : ∀ c ∈ parts.scheme.toList, (c != ':') = true := by
    intro c inside
    rw [bne_iff_ne]
    exact fun colon => parts.scheme_ends (colon ▸ inside)
  have within (parts : Located) :
      ∀ c ∈ parts.server.toList, (c != ':' && c != '/') = true := by
    intro c inside
    rw [Bool.and_eq_true, bne_iff_ne, bne_iff_ne]
    exact ⟨fun colon => parts.server_ends.1 (colon ▸ inside),
      fun slash => parts.server_ends.2 (slash ▸ inside)⟩
  have colon (cs : List Char) : ∀ c ∈ (':' :: cs).head?, (c != ':') = false := by
    intro c first
    cases first
    rfl
  obtain ⟨scheme, rest⟩ :=
    Text.append_inj_of_ends (before parts) (before other) (colon _) (colon _) letters
  simp only [List.cons.injEq, true_and] at rest
  obtain ⟨server, after⟩ := Text.append_inj_of_ends (within parts) (within other)
    parts.afterServer_begins other.afterServer_begins rest
  obtain ⟨port, path⟩ := afterServer_injective after
  exact Located.ext (String.toList_inj.1 scheme) (String.toList_inj.1 server) port path

end Located

def rooted (url : String) : String := if "/".toList.isPrefixOf url.toList then url else "/" ++ url

theorem rooted_begins (url : String) : (rooted url).toList.head? = some '/' := by
  unfold rooted
  split
  next begins =>
    obtain ⟨rest, whole⟩ := List.isPrefixOf_iff_prefix.1 begins
    rw [← whole]
    rfl
  · rw [String.toList_append]
    rfl

def locate (url : String) (origin : Origin) (regular : origin.Regular) : Located where
  scheme := origin.scheme
  server := origin.server
  port :=
    if Origin.impliedPort? origin.scheme = some origin.port then none
    else some (Value.intText origin.port)
  path := rooted url
  scheme_ends := regular.colon_not_mem_scheme
  server_ends := regular.server
  port_decimal := by
    intro digits written
    obtain ⟨-, same⟩ := Option.ite_none_left_eq_some.1 written
    cases same
    have numeral := Value.toList_intText_of_nonneg regular.port
    constructor
    · intro empty
      rw [empty] at numeral
      exact Nat.toDigits_ne_nil numeral.symm
    · rw [numeral]
      exact fun c inside => Nat.isDigit_of_mem_toDigits (by decide) (by decide) inside
  path_begins := rooted_begins url

theorem text_locate {url : String} (relative : isAbsolute url = false) {origin : Origin}
    (regular : origin.Regular) : (locate url origin regular).text = prependHost url origin := by
  unfold prependHost Origin.text Origin.portText Located.text locate rooted
  rw [relative, if_neg Bool.false_ne_true]
  by_cases implied : Origin.impliedPort? origin.scheme = some origin.port
  · simp only [if_pos implied]
  · simp only [if_neg implied]

theorem portNumber?_locate (url : String) {origin : Origin} (regular : origin.Regular) :
    (locate url origin regular).portNumber? = some origin.port := by
  unfold Located.portNumber? locate
  by_cases implied : Origin.impliedPort? origin.scheme = some origin.port
  · simp only [if_pos implied]
    exact implied
  · simp only [if_neg implied]
    rw [Value.toList_intText_of_nonneg regular.port, Nat.ofDigitChars_ten_toDigits,
      Int.natAbs_of_nonneg regular.port]

/-- A relative URL that was completed with an origin is taken apart in exactly one way: into the
scheme and the server of the origin, a port that is the origin's, written in decimals or implied by
the scheme, and the URL itself from the root. Hence no other origin completes it alike. -/
theorem prependHost_locates {url : String} (relative : isAbsolute url = false) {origin : Origin}
    (regular : origin.Regular) :
    ∃ parts : Located,
      (∀ other : Located, other.text = prependHost url origin ↔ other = parts) ∧
      parts.scheme = origin.scheme ∧ parts.server = origin.server ∧
      parts.portNumber? = some origin.port ∧
      parts.path = (if "/".toList.isPrefixOf url.toList then url else "/" ++ url) ∧
      ∀ other : Origin, other.Regular → prependHost url other = prependHost url origin →
        other.scheme = origin.scheme ∧ other.server = origin.server ∧ other.port = origin.port := by
  have whole := text_locate relative regular
  refine ⟨locate url origin regular, ?_, rfl, rfl, portNumber?_locate url regular, rfl, ?_⟩
  · intro other
    rw [← whole]
    exact Located.text_injective.eq_iff
  · intro other regularToo same
    have together : locate url other regularToo = locate url origin regular := by
      apply Located.text_injective
      rw [text_locate relative regularToo, same, whole]
    have ports := congrArg Located.portNumber? together
    rw [portNumber?_locate, portNumber?_locate] at ports
    exact ⟨congrArg Located.scheme together, congrArg Located.server together,
      Option.some.inj ports⟩

theorem lookalike_locates :
    let url := "//id.test:80/back"
    let origin : Origin := ⟨"HTTPS", "app.test", 80⟩
    isAbsolute url = false ∧ origin.Regular ∧
      ∃ parts : Located,
        (∀ other : Located,
          other.text = "HTTPS://app.test:80//id.test:80/back" ↔ other = parts) ∧
        parts.server = "app.test" ∧ parts.portNumber? = some 80 ∧ parts.path = url ∧
        (⟨"HTTPS", "app.test", 443⟩ : Origin).Regular ∧
        prependHost url ⟨"HTTPS", "app.test", 443⟩ ≠ prependHost url origin := by
  intro url origin
  have relative : isAbsolute url = false := by decide
  have regular : origin.Regular := ⟨Or.inr (by decide), by decide, by decide⟩
  have regularToo : (⟨"HTTPS", "app.test", 443⟩ : Origin).Regular :=
    ⟨Or.inr (by decide), by decide, by decide⟩
  obtain ⟨parts, unique, -, server, port, path, apart⟩ := prependHost_locates relative regular
  have whole : prependHost url origin = "HTTPS://app.test:80//id.test:80/back" := by decide
  have begins : "/".toList.isPrefixOf url.toList = true := by decide
  refine ⟨relative, regular, parts, whole ▸ unique, server, port, path.trans (if_pos begins),
    regularToo, ?_⟩
  intro same
  exact absurd (apart _ regularToo same).2.2 (by decide)

end Url

end SignOn
