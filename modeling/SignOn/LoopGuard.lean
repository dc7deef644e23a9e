import SignOn.Exchange

/-!
The loop guard of a client: a session attribute, named after the client, that remembers a failed
attempt to authenticate. The next redirect decision finds and removes it, so that a protected page
is refused instead of sending the user agent round once more.
-/

namespace SignOn.LoopGuard

def key (client : String) : String := client ++ "$attemptedAuthentication"

def isMarked (client : String) (session : Session) : Bool :=
  ! ((session.get? (key client)).getD .null).isBlank

def mark (client : String) (session : Session) : Session :=
  session.set (key client) (.text "true")

def clear (client : String) (session : Session) : Session := session.clear (key client)

def consume (client : String) (session : Session) : Bool × Session :=
  if isMarked client session then (true, clear client session) else (false, session)

end SignOn.LoopGuard
