import SignOn.Web

/-!
What an authentication client decides: to send the user agent somewhere, to show it a page, or to
end the request with an HTTP answer.
-/

namespace SignOn

inductive RedirectKind where
  | redirect
  | success
deriving DecidableEq

/-- How the user agent reaches the identity provider: by a location, or by content to show. -/
structure RedirectAction where
  kind : RedirectKind
  location : Option String := none
  content : Option String := none
deriving DecidableEq

def RedirectAction.redirect (location : String) : RedirectAction :=
  { kind := .redirect, location := some location }

def RedirectAction.success (content : String) : RedirectAction :=
  { kind := .success, content := some content }

inductive HttpKind where
  | unauthorized
  | forbidden
  | ok
  | redirect
deriving DecidableEq

/-- An HTTP answer to give at once; the message is for diagnosis and is never sent. -/
structure HttpAction where
  kind : HttpKind
  status : Int
  message : String := ""
  location : Option String := none
  content : Option String := none
  headers : Entries String := []
deriving DecidableEq

namespace HttpAction

def unauthorized (message : String) (headers : Entries String) : HttpAction :=
  { kind := .unauthorized, status := 401, message, headers }

def forbidden (message : String) : HttpAction := { kind := .forbidden, status := 403, message }

def ok (message content : String) : HttpAction :=
  { kind := .ok, status := 200, message, content := some content }

def redirect (message location : String) : HttpAction :=
  { kind := .redirect, status := 302, message, location := some location }

end HttpAction

inductive Outcome where
  | redirect (action : RedirectAction)
  | http (action : HttpAction)
deriving DecidableEq

/-- The location of a redirect decision; an HTTP answer has none to offer. -/
def Outcome.location? : Outcome → Option String
  | .redirect action => action.location
  | .http _ => none

def locationHeader : String := "Location"

namespace Response

def setHeaders (response : Response) (headers : Entries String) : Response :=
  headers.foldl (fun written (name, value) => written.setHeader name value) response

def setLocation (response : Response) : Option String → Response
  | none => response
  | some location => response.setHeader locationHeader location

def writeContent (response : Response) : Option String → Response
  | none => response
  | some content => response.write content

/-- Writes a decision: a redirect as 302 with its location, content as 200, and an HTTP answer with
its own status, headers, location and content. -/
def writeOutcome (response : Response) : Outcome → Response
  | .http action =>
    (((response.setStatus action.status).setHeaders action.headers).setLocation
      action.location).writeContent action.content
  | .redirect ⟨.redirect, location, _⟩ =>
    (response.setStatus 302).setHeader locationHeader (location.getD "")
  | .redirect ⟨.success, _, content⟩ => (response.setStatus 200).write (content.getD "")

end Response

end SignOn
