import SignOn.Bytes.Base64
import SignOn.Provider.HostName
import SignOn.Provider.IpAddress
import SignOn.Text.Digits
import SignOn.Text.LetterCase
import SignOn.Text.Percent
import SignOn.Text.Quoted
import SignOn.Value

/-!
Addresses of an identity provider, in the form in which requests are sent there: the scheme and the
host in small letters, the host in ASCII, the port left out where the scheme implies it, dots in the
path resolved, and every other character that a part may not hold written as its bytes.
-/

namespace SignOn

structure Address where
  scheme : List Char := []
  userinfo : List Char := []
  host : List Char := []
  port : Option Int := none
  path : List Char := []
  query : Option (List Char) := none
  fragment : Option (List Char) := none

namespace Address

inductive Fault where
  | tooLong
  | unprintable (c : Char) (place : Nat)
  | port (text : List Char)
  | fourNumbers (host : List Char)
  | bracketed (host : List Char)
  | hostName (host : List Char)
  | noSlash
  | twoSlashes
  | colon

def Fault.message : Fault → String
  | .tooLong => "URL too long"
  | .unprintable c place =>
    "Invalid non-printable ASCII character in URL, " ++ Text.quote (String.ofList [c]) ++
      " at position " ++ Nat.repr place ++ "."
  | .port text => "Invalid port: " ++ Text.quote (String.ofList text)
  | .fourNumbers host => "Invalid IPv4 address: " ++ Text.quote (String.ofList host)
  | .bracketed host => "Invalid IPv6 address: " ++ Text.quote (String.ofList host)
  | .hostName host => "Invalid IDNA hostname: " ++ Text.quote (String.ofList host)
  | .noSlash => "For absolute URLs, path must be empty or begin with '/'"
  | .twoSlashes => "Relative URLs cannot have a path starting with '//'"
  | .colon => "Relative URLs cannot have a path starting with ':'"

def lengthLimit : Nat := 65536

def isPrintable (c : Char) : Bool := 0x20 ≤ c.toNat && c.toNat ≠ 0x7F

def escape (forbidden : String) (part : List Char) : List Char :=
  part.flatMap fun c =>
    if c.toNat < 0x80 ∧ c ≠ ' ' ∧ c ∉ forbidden.toList then [c]
    else (Utf8.encodeChar c).flatMap Percent.escapeByte

def pathForbidden : String := "\"#<>?`\x7b\x7d"

def queryForbidden : String := "\"#<>"

def fragmentForbidden : String := "\"<>`"

def userinfoForbidden : String := pathForbidden ++ "/;=@[\\]^|"

def hostForbidden : String := "#/:<>?@[]^"

/-- Whether a host looks like four numbers with a character after each of the first three. The
first argument counts the numbers still to come, the second tells whether the current one has
begun. -/
def isFourNumbers : Nat → Bool → List Char → Bool
  | left, begun, [] => left == 0 && begun
  | left, begun, c :: rest =>
    (c.isDigit && isFourNumbers left true rest) ||
      match left, begun with
      | left + 1, true => isFourNumbers left false rest
      | _, _ => false

def readHost (host : List Char) : Except Fault (List Char) :=
  if isFourNumbers 3 false host then
    if IpAddress.isV4 host then .ok host else .error (.fourNumbers host)
  else if host.head? = some '[' ∧ host.getLast? = some ']' then
    let inside := (host.drop 1).dropLast
    if IpAddress.isV6 inside then .ok inside else .error (.bracketed host)
  else if host.all (·.toNat < 0x80) then .ok (escape hostForbidden (host.map Char.toLower))
  else
    match HostName.encode (Text.lower (String.ofList host)).toList with
    | some name => .ok name
    | none => .error (.hostName host)

def impliedPort? (scheme : List Char) : Option Int :=
  ([("ftp", 21), ("http", 80), ("https", 443), ("ws", 80), ("wss", 443)] :
    List (String × Int)).lookup (String.ofList scheme)

def readPort (scheme port : List Char) : Except Fault (Option Int) :=
  if port.isEmpty then .ok none
  else
    match Text.wholeNumber? port with
    | none => .error (.port port)
    | some number => .ok (if impliedPort? scheme = some number then none else some number)

def cutLast (mark : Char) (cs : List Char) : Option (List Char) × List Char :=
  match Text.cut mark cs.reverse with
  | (behind, some before) => (some before.reverse, behind.reverse)
  | (whole, none) => (none, whole.reverse)

def cutHost (cs : List Char) : List Char × List Char :=
  let (bracketed, behind) := cutLast ']' cs
  match cs.head?, bracketed with
  | some '[', some inside => (inside ++ [']'], behind)
  | _, _ => (cs.takeWhile (· ≠ ':'), cs.dropWhile (· ≠ ':'))

def resolve (segments : List (List Char)) : List (List Char) :=
  (segments.foldl
    (fun kept segment =>
      if segment = ['.'] then kept
      else if segment = ['.', '.'] then (if kept = [[]] then kept else kept.drop 1)
      else segment :: kept)
    []).reverse

def readPath (hasScheme hasAuthority : Bool) (path : List Char) : Except Fault (List Char) :=
  if hasAuthority ∧ path ≠ [] ∧ path.head? ≠ some '/' then .error .noSlash
  else if ! hasScheme ∧ ! hasAuthority ∧ "//".toList.isPrefixOf path then .error .twoSlashes
  else if ! hasScheme ∧ ! hasAuthority ∧ path.head? = some ':' then .error .colon
  else if hasScheme ∨ hasAuthority then .ok (['/'].intercalate (resolve (path.splitOn '/')))
  else .ok path

def cutScheme (cs : List Char) : List Char × List Char :=
  let isPart (c : Char) : Bool := c.isAlphanum || c == '+' || c == '.' || c == '-'
  let scheme := cs.takeWhile isPart
  match cs.drop scheme.length with
  | ':' :: rest => if scheme.head?.all Char.isAlpha then (scheme, rest) else ([], cs)
  | _ => ([], cs)

def cutAuthority (cs : List Char) : List Char × List Char :=
  match cs with
  | '/' :: '/' :: rest =>
    let isInside (c : Char) : Bool := c != '/' && c != '?' && c != '#'
    (rest.takeWhile isInside, rest.dropWhile isInside)
  | _ => ([], cs)

def checkChars (cs : List Char) : Except Fault Unit :=
  if lengthLimit < cs.length then .error .tooLong
  else
    match cs.zipIdx.find? (! isPrintable ·.1) with
    | some (c, place) => .error (.unprintable c place)
    | none => .ok ()

def parse (text : String) : Except Fault Address := do
  let cs := text.toList
  checkChars cs
  let (scheme, rest) := cutScheme cs
  let (authority, rest) := cutAuthority rest
  let (rest, fragment) := Text.cut '#' rest
  let (path, query) := Text.cut '?' rest
  let (userinfo, place) := cutLast '@' authority
  let (host, behind) := cutHost place
  let userinfo := escape userinfoForbidden (userinfo.getD [])
  let host ← readHost host
  let port ← readPort scheme (if behind.head? = some ':' then behind.drop 1 else behind)
  let hasAuthority := ! userinfo.isEmpty || ! host.isEmpty || port.isSome
  let path ← readPath (! scheme.isEmpty) hasAuthority path
  pure
    { scheme := scheme.map Char.toLower, userinfo, host, port
      path := escape pathForbidden path
      query := query.map (escape queryForbidden)
      fragment := fragment.map (escape fragmentForbidden) }

def isAbsolute (address : Address) : Bool := ! address.scheme.isEmpty && ! address.host.isEmpty

/-- The address that a request is sent to. One without scheme or host gives only a path. -/
def target (address : Address) : Address :=
  if address.isAbsolute then address
  else { path := '/' :: address.path.dropWhile (· = '/'), query := address.query }

def authority (address : Address) : List Char :=
  let userinfo := if address.userinfo.isEmpty then [] else address.userinfo ++ ['@']
  let host := if ':' ∈ address.host then '[' :: address.host ++ [']'] else address.host
  let port := match address.port with
    | none => []
    | some port => ':' :: (Value.intText port).toList
  userinfo ++ host ++ port

def text (address : Address) : String :=
  let after (mark : Char) (part : Option (List Char)) : List Char :=
    match part with
    | none => []
    | some part => mark :: part
  let scheme := if address.scheme.isEmpty then [] else address.scheme ++ [':']
  let authority := if address.authority.isEmpty then [] else '/' :: '/' :: address.authority
  String.ofList (scheme ++ authority ++ address.path ++ after '?' address.query ++
    after '#' address.fragment)

def authorization? (address : Address) : Option String :=
  let (user, password) := Text.cut ':' address.userinfo
  let user := Percent.bytes user
  let password := Percent.bytes (password.getD [])
  if user.isEmpty ∧ password.isEmpty then none
  else
    let clean (bytes : List UInt8) : List UInt8 := Utf8.encode (Utf8.decodeLossy bytes)
    some ("Basic " ++ String.ofList (Base64.encodePadded (clean user ++ 0x3A :: clean password)))

end Address

end SignOn
