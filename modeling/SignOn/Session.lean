import SignOn.Entries
import SignOn.Value

/-!
The session: attributes that outlive a request. Writing null removes an attribute, so a session
never holds one.
-/

namespace SignOn

abbrev Session := Entries Value

namespace Session

def set (session : Session) (key : String) : Value → Session
  | .null => session.remove key
  | value => session.put key value

def clear (session : Session) (key : String) : Session := session.remove key

end Session

end SignOn
