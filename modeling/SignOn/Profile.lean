import SignOn.Entries
import SignOn.Value

/-!
User profiles. Roles and permissions are granted in order and at most once; an attribute is written
but never taken away.
-/

namespace SignOn

structure Profile where
  id : String
  clientName : Option String := none
  attributes : Entries Value := []
  roles : List String := []
  permissions : List String := []
  rememberMe : Bool := false

def grant (held granted : List String) : List String :=
  granted.foldl (fun held one => if one ∈ held then held else held ++ [one]) held

namespace Profile

def addRoles (profile : Profile) (roles : List String) : Profile :=
  { profile with roles := grant profile.roles roles }

def addPermissions (profile : Profile) (permissions : List String) : Profile :=
  { profile with permissions := grant profile.permissions permissions }

def addRole (profile : Profile) (role : String) : Profile := profile.addRoles [role]

def addPermission (profile : Profile) (permission : String) : Profile :=
  profile.addPermissions [permission]

/-- Writes an attribute; null is not written. -/
def addAttribute (profile : Profile) (key : String) : Value → Profile
  | .null => profile
  | value => { profile with attributes := profile.attributes.put key value }

def ofUsername (username : String) : Profile :=
  { id := username, attributes := [("username", .text username)] }

/-- The identifier qualified by the client that made the profile. -/
def typedId (profile : Profile) : String :=
  let owner := match profile.clientName with
    | none => "UserProfile"
    | some name => if name = "" then "UserProfile" else name
  owner ++ "#" ++ profile.id

end Profile

end SignOn
