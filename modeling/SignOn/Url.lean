import SignOn.Text.LetterCase
import SignOn.Text.Percent
import SignOn.Value

/-!
URLs as the callback logic sees them: a text whose query lies between the first question mark and
the first number sign. A parameter is appended to the query in front of the fragment; a relative
URL is completed with the origin of a request.
-/

namespace SignOn

/-- Where a request was sent: scheme, server name and port. -/
structure Origin where
  scheme : String
  server : String
  port : Int

namespace Origin

def impliedPort? (scheme : String) : Option Int :=
  if Text.lower scheme = "http" then some 80
  else if Text.lower scheme = "https" then some 443
  else none

def portText (origin : Origin) : String :=
  if impliedPort? origin.scheme = some origin.port then ""
  else ":" ++ Value.intText origin.port

/-- Scheme, server and, unless the scheme implies it, port. -/
def text (origin : Origin) : String :=
  origin.scheme ++ "://" ++ origin.server ++ origin.portText

end Origin

namespace Url

def isAbsolute (url : String) : Bool :=
  "http://".toList.isPrefixOf url.toList || "https://".toList.isPrefixOf url.toList

def beforeFragment (cs : List Char) : List Char := (Text.cut '#' cs).1

/-- The fragment with its number sign, or nothing. -/
def fragment (cs : List Char) : List Char :=
  match (Text.cut '#' cs).2 with
  | none => []
  | some after => '#' :: after

def beforeQuery (cs : List Char) : List Char := (Text.cut '?' (beforeFragment cs)).1

/-- The query without its question mark; a URL without one has an empty query. -/
def query (cs : List Char) : List Char := ((Text.cut '?' (beforeFragment cs)).2).getD []

/-- The decoded parameters of a URL. -/
def parameters (url : String) : Percent.Fields := Percent.decodeFormList (query url.toList)

def assignment (name : String) (value : Option String) : List Char :=
  Percent.encodeChars name.toList ++ '=' :: Percent.encodeChars (value.getD "").toList

/-- Appends one parameter to the query; an absent value leaves the name with an equals sign. -/
def addParameter (url name : String) (value : Option String) : String :=
  let base := beforeFragment url.toList
  let joiner := if '?' ∈ base then '&' else '?'
  String.ofList (base ++ joiner :: assignment name value ++ fragment url.toList)

/-- Whether a part of the query, as it is written, assigns to the name. -/
def hasParameter (url name : String) : Bool :=
  ((query url.toList).splitOn '&').any fun part =>
    ! part.isEmpty && (Text.cut '=' part).1 == name.toList

/-- Completes a relative URL with an origin; an absolute one is left as it is. -/
def prependHost (url : String) (origin : Origin) : String :=
  if isAbsolute url then url
  else origin.text ++ (if "/".toList.isPrefixOf url.toList then url else "/" ++ url)

end Url

end SignOn
