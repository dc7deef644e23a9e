import SignOn.Profile
import SignOn.Text.LetterCase

/-!
Authorization generators enrich a profile: they grant roles and permissions, fixed ones or ones
read from attributes, and set what the profile remembers. They run one after another, and a later
one sees what an earlier one did.
-/

namespace SignOn

inductive Generator where
  | defaults (roles permissions : List String)
  | fromAttributes (roles permissions : List String) (separator : String)
  | rememberMe (key : String)
  | setAttribute (key : String) (value : Value)
  | roleFromAttribute (key : String)

/-- Why an enrichment stopped: a text attribute cannot be split at an empty separator. The profile
is kept as it was when that happened. -/
structure Unsplittable where
  reached : Profile

namespace Generator

def tidy (items : List String) : List String :=
  (items.filter (! Text.isBlank ·)).map Text.strip

def items? (separator : String) : Value → Option (List String)
  | .null => some []
  | .list items => some (tidy (items.map Value.display))
  | .tuple items => some (tidy (items.map Value.display))
  | .set items => some (tidy (items.map Value.display))
  | other =>
    if separator = "" then none else some (tidy (Text.splitBy separator other.display))

def grantFrom (add : Profile → List String → Profile) (separator : String) :
    List String → Profile → Except Unsplittable Profile
  | [], profile => .ok profile
  | name :: rest, profile =>
    match items? separator ((profile.attributes.get? name).getD .null) with
    | some items => grantFrom add separator rest (add profile items)
    | none => .error ⟨profile⟩

def affirmative (text : String) : Bool :=
  Text.lower (Text.strip text) ∈ ["true", "1", "yes", "on"]

def generate : Generator → Profile → Except Unsplittable Profile
  | .defaults roles permissions, profile =>
    .ok ((profile.addRoles roles).addPermissions permissions)
  | .fromAttributes roles permissions separator, profile => do
    let profile ← grantFrom Profile.addRoles separator roles profile
    grantFrom Profile.addPermissions separator permissions profile
  | .rememberMe key, profile =>
    .ok (match (profile.attributes.get? key).getD .null with
      | .null => profile
      | .bool b => { profile with rememberMe := b }
      | other => { profile with rememberMe := affirmative other.display })
  | .setAttribute key value, profile => .ok (profile.addAttribute key value)
  | .roleFromAttribute key, profile =>
    .ok (match profile.attributes.get? key with
      | some (.text s) => if s = "" then profile else profile.addRole ("ROLE_" ++ s)
      | _ => profile)

/-- Runs the generators in order. -/
def generateAll : List Generator → Profile → Except Unsplittable Profile
  | [], profile => .ok profile
  | generator :: rest, profile => do
    let profile ← generator.generate profile
    generateAll rest profile

end Generator

end SignOn
