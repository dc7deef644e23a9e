import SignOn.Bytes.Base64
import SignOn.Handler.Caller

/-!
HTTP Basic authentication. The user agent goes straight to the callback URL; a request without a
well-formed header is challenged to send one.
-/

namespace SignOn

structure BasicLogin where
  realm : String := "authentication required"

namespace BasicLogin

inductive HeaderFault where
  | absent
  | malformed
  | noColon
deriving DecidableEq

def HeaderFault.message : HeaderFault → String
  | .absent => "No Basic Authorization header"
  | .malformed => "Malformed Basic Authorization header"
  | .noColon => "Basic credential must be in 'username:password' format"

def scheme : List Char := "Basic ".toList

/-- User name and password of a header: after the scheme, in strict Base64 with blank characters
around it, UTF-8 text whose first colon divides them. -/
def decode (header : Option String) : Except HeaderFault (String × String) :=
  match header with
  | none => .error .absent
  | some text =>
    if ! scheme.isPrefixOf text.toList then .error .absent
    else
      match (Base64.decodeStrict (Text.trim (text.toList.drop scheme.length))).bind Utf8.decode with
      | none => .error .malformed
      | some pair =>
        match Text.cut ':' pair.toList with
        | (username, some password) => .ok (String.ofList username, String.ofList password)
        | (_, none) => .error .noColon

def encode (username password : String) : String :=
  String.ofList (scheme ++ Base64.encodePadded (Utf8.encode (username ++ ":" ++ password)))

def challenge (basic : BasicLogin) (fault : HeaderFault) : HttpAction :=
  .unauthorized fault.message [("WWW-Authenticate", "Basic realm=\"" ++ basic.realm ++ "\"")]

def redirect (caller : Caller) (request : Request) : RedirectAction :=
  .redirect ((caller.callbackFor request.origin).getD "")

def credentials (basic : BasicLogin) (request : Request) : Except HttpAction Credentials :=
  match decode (request.header? "Authorization") with
  | .ok (username, password) => .ok { evidence := .password username password }
  | .error fault => .error (basic.challenge fault)

end BasicLogin

end SignOn
