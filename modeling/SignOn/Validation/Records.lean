import SignOn.Credentials
import SignOn.Outcome
import SignOn.Validation

/-!
The records that can be built from dynamic values: actions, profiles, credentials and the
options of a client. Entries that a record does not know are ignored.
-/

namespace SignOn

open Checked

def redirectKinds : List (String × RedirectKind) := [("redirect", .redirect), ("success", .success)]

def httpKinds : List (String × HttpKind) :=
  [("unauthorized", .unauthorized), ("forbidden", .forbidden), ("ok", .ok), ("redirect", .redirect)]

def RedirectAction.ofEntries (entries : Entries Value) : Checked RedirectAction :=
  RedirectAction.mk <$> required entries "type" (option redirectKinds) <*>
    optional entries "location" none (orNull text) <*>
    optional entries "content" none (orNull text)

def HttpAction.ofEntries (entries : Entries Value) : Checked HttpAction :=
  HttpAction.mk <$> required entries "kind" (option httpKinds) <*>
    required entries "status_code" int <*>
    optional entries "message" "" text <*>
    optional entries "location" none (orNull text) <*>
    optional entries "content" none (orNull text) <*>
    optional entries "headers" [] (table text)

def Profile.ofEntries (entries : Entries Value) : Checked Profile :=
  Profile.mk <$> required entries "id" text <*>
    optional entries "client_name" none (orNull text) <*>
    optional entries "attributes" [] (table .valid) <*>
    optional entries "roles" [] (list text) <*>
    optional entries "permissions" [] (list text) <*>
    optional entries "remember_me" false bool

inductive EvidenceKind where
  | none
  | password
  | token
  | code

def evidenceKinds : List (String × EvidenceKind) :=
  [("Credentials", .none), ("UsernamePasswordCredentials", .password),
    ("TokenCredentials", .token), ("OAuthCodeCredentials", .code)]

def Evidence.ofEntries (entries : Entries Value) : EvidenceKind → Checked Evidence
  | .none => .valid .none
  | .password =>
    Evidence.password <$> required entries "username" text <*> required entries "password" text
  | .token => Evidence.token <$> required entries "token" text
  | .code =>
    Evidence.code <$> required entries "code" text <*>
      optional entries "state" .none (orNull text) <*>
      optional entries "redirect_uri" .none (orNull text) <*>
      optional entries "code_verifier" .none (orNull text)

def Credentials.ofEntries (kind : EvidenceKind) (entries : Entries Value) : Checked Credentials :=
  Credentials.mk <$> optional entries "client_name" .none (orNull text) <*>
    optional entries "user_profile" .none (orNull (record Profile.ofEntries)) <*>
    Evidence.ofEntries entries kind

structure ClientOptions where
  name : Option String := none
  callbackUrl : Option String := none
  contextual : Bool := false
  includesName : Bool := true

def ClientOptions.ofEntries (entries : Entries Value) : Checked ClientOptions :=
  ClientOptions.mk <$> optional entries "name" none (orNull text) <*>
    optional entries "callback_url" none (orNull text) <*>
    optional entries "enable_contextual_redirects" false bool <*>
    optional entries "include_client_name_in_callback_url" true bool

end SignOn
