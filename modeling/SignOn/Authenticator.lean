import SignOn.Bytes.Utf8
import SignOn.Credentials

/-!
Checking user names and passwords. A check attaches the profile of the user to the credentials it
accepts; a rejection says why without repeating the password.
-/

namespace SignOn

inductive Rejection where
  | notPassword (offered : String)
  | blankUsername
  | blankPassword
  | differs (username : String)
  | unknownOrWrong (username : String)
deriving DecidableEq

def Rejection.message : Rejection → String
  | .notPassword offered => "Expected username/password credentials, got " ++ offered
  | .blankUsername => "Username cannot be blank"
  | .blankPassword => "Password cannot be blank"
  | .differs username => "Username '" ++ username ++ "' does not match password"
  | .unknownOrWrong username => "Invalid credentials for user '" ++ username ++ "'"

inductive Authenticator where
  | sameAsUsername
  | passwords (users : Entries String)

namespace Authenticator

def offered (credentials : Credentials) : Except Rejection (String × String) :=
  match credentials.evidence with
  | .password username password =>
    if Text.isBlank username then .error .blankUsername
    else if Text.isBlank password then .error .blankPassword
    else .ok (username, password)
  | other => .error (.notPassword other.typeName)

def accepts (authenticator : Authenticator) (username password : String) : Bool :=
  match authenticator with
  | .sameAsUsername => username == password
  | .passwords users =>
    match users.get? username with
    | none => false
    | some expected => Utf8.encode expected == Utf8.encode password

def refusal (authenticator : Authenticator) (username : String) : Rejection :=
  match authenticator with
  | .sameAsUsername => .differs username
  | .passwords _ => .unknownOrWrong username

def validate (authenticator : Authenticator) (credentials : Credentials) :
    Except Rejection Credentials := do
  let (username, password) ← offered credentials
  if authenticator.accepts username password then
    .ok { credentials with profile := some (Profile.ofUsername username) }
  else .error (authenticator.refusal username)

def absentTypeName : String := "NoneType"

/-- A check of credentials that may be absent; absent ones are no user name and password. -/
def validateOptional (authenticator : Authenticator) :
    Option Credentials → Except Rejection Credentials
  | none => .error (.notPassword absentTypeName)
  | some credentials => authenticator.validate credentials

end Authenticator

end SignOn
