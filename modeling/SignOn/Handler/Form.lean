import SignOn.Handler.Caller

/-!
Login by a form. The user agent is sent to the page with the form, which posts user name and
password back to the callback URL.
-/

namespace SignOn

structure FormLogin where
  loginUrl : Option String := none
  usernameParameter : String := "username"
  passwordParameter : String := "password"

namespace FormLogin

def redirect (form : FormLogin) (caller : Caller) (request : Request) : RedirectAction :=
  let url := form.loginUrl.getD ""
  .redirect (if caller.contextual then Url.prependHost url request.origin else url)

def credentials (form : FormLogin) (request : Request) : Option Credentials :=
  match request.parameter? form.usernameParameter, request.parameter? form.passwordParameter with
  | some username, some password =>
    if Text.isBlank username || Text.isBlank password then none
    else some { evidence := .password username password }
  | _, _ => none

def problems (form : FormLogin) : List String :=
  if Text.isAbsentOrBlank form.loginUrl then ["Form login requires 'login_url'"] else []

end FormLogin

end SignOn
