import SignOn.Client
import SignOn.Proofs.ProviderAttributes

/-!
Enriching a profile, by hand and by generators. What a step grants depends on the attributes of the
profile that it meets. What is granted comes behind what was held, each grant once and in the order
in which they were first granted; attributes are written and never taken away; and who the user is
stays as it was. One lemma says so of a step, and one of a run of steps.
-/

namespace SignOn

theorem grant_append (held granted more : List String) :
    grant held (granted ++ more) = grant (grant held granted) more :=
  List.foldl_append

theorem mem_grant {held granted : List String} {one : String} :
    one ∈ grant held granted ↔ one ∈ held ∨ one ∈ granted := by
  rw [grant_eq, List.mem_append, List.mem_eraseDups, List.mem_filter, decide_eq_true_eq]
  by_cases known : one ∈ held
  · simp only [known, true_or]
  · simp only [known, false_or, not_false_eq_true, and_true]

theorem grant_of_held {held granted : List String} (known : ∀ one ∈ granted, one ∈ held) :
    grant held granted = held := by
  have nothing : granted.filter (· ∉ held) = [] :=
    List.filter_eq_nil_iff.2 fun one member => by simpa using known one member
  rw [grant_eq, nothing, List.eraseDups_nil, List.append_nil]

theorem grant_grant (held granted : List String) :
    grant (grant held granted) granted = grant held granted :=
  grant_of_held fun _ member => mem_grant.2 (Or.inr member)

theorem Entries.keys_put {α : Type} (entries : Entries α) (key : String) (item : α) :
    entries.map Prod.fst <+: (entries.put key item).map Prod.fst := by
  induction entries with
  | nil => exact List.nil_prefix
  | cons entry rest ih =>
    obtain ⟨known, old⟩ := entry
    unfold Entries.put
    split
    · exact List.prefix_rfl
    · exact (List.cons_prefix_cons).2 ⟨rfl, ih⟩

namespace Profile

def given (profile : Profile) (roles permissions : List String) : Profile :=
  (profile.addRoles roles).addPermissions permissions

theorem given_given (profile : Profile) (roles permissions more further : List String) :
    (profile.given roles permissions).given more further =
      profile.given (roles ++ more) (permissions ++ further) := by
  unfold given addRoles addPermissions
  simp only [grant_append]

theorem given_again (profile : Profile) (roles permissions : List String) :
    (profile.given roles permissions).given roles permissions =
      profile.given roles permissions := by
  unfold given addRoles addPermissions
  simp only [grant_grant]

def readings (profile : Profile) (separator : String) (names : List String) : List String :=
  names.flatMap fun name =>
    (Generator.items? separator ((profile.attributes.get? name).getD .null)).getD []

theorem readings_congr {profile other : Profile} (same : other.attributes = profile.attributes)
    (separator : String) (names : List String) :
    other.readings separator names = profile.readings separator names := by
  unfold readings
  rw [same]

/-- One profile becomes another by what is granted to it. Of the grants those that are not held yet
come behind those that are, each once, in the order in which they first come. The attributes keep
their keys, and may get new ones behind them; the user and the client are the same. -/
structure Enriched (roles permissions : List String) (before after : Profile) : Prop where
  roles : after.roles = before.roles ++ (roles.filter (· ∉ before.roles)).eraseDups
  permissions : after.permissions =
    before.permissions ++ (permissions.filter (· ∉ before.permissions)).eraseDups
  keys : before.attributes.map Prod.fst <+: after.attributes.map Prod.fst
  id : after.id = before.id
  clientName : after.clientName = before.clientName

theorem enriched_given (profile : Profile) (roles permissions : List String) :
    profile.Enriched roles permissions (profile.given roles permissions) where
  roles := grant_eq profile.roles roles
  permissions := grant_eq profile.permissions permissions
  keys := List.prefix_rfl
  id := rfl
  clientName := rfl

theorem enriched_addAttribute (profile : Profile) (key : String) (value : Value) :
    profile.Enriched [] [] (profile.addAttribute key value) := by
  cases value with
  | null => exact profile.enriched_given [] []
  | _ => exact { profile.enriched_given [] [] with keys := profile.attributes.keys_put key _ }

theorem enriched_rememberMe (profile : Profile) (remembered : Bool) :
    profile.Enriched [] [] { profile with rememberMe := remembered } :=
  { profile.enriched_given [] [] with }

theorem Enriched.trans {roles permissions more further : List String}
    {before middle after : Profile} (first : before.Enriched roles permissions middle)
    (second : middle.Enriched more further after) :
    before.Enriched (roles ++ more) (permissions ++ further) after where
  roles := calc
    after.roles = grant middle.roles more := by rw [grant_eq, second.roles]
    _ = grant (grant before.roles roles) more := by rw [grant_eq before.roles, ← first.roles]
    _ = grant before.roles (roles ++ more) := (grant_append _ _ _).symm
    _ = _ := grant_eq _ _
  permissions := calc
    after.permissions = grant middle.permissions further := by rw [grant_eq, second.permissions]
    _ = grant (grant before.permissions permissions) further := by
      rw [grant_eq before.permissions, ← first.permissions]
    _ = grant before.permissions (permissions ++ further) := (grant_append _ _ _).symm
    _ = _ := grant_eq _ _
  keys := first.keys.trans second.keys
  id := second.id.trans first.id
  clientName := second.clientName.trans first.clientName

end Profile

namespace Generator

/-- A text can be split at the separator of the generator, if it has one. -/
def Divides : Generator → Prop
  | .fromAttributes _ _ separator => separator ≠ ""
  | _ => True

def grantedRoles : Generator → Profile → List String
  | .defaults roles _, _ => roles
  | .fromAttributes roles _ separator, profile => profile.readings separator roles
  | .roleFromAttribute key, profile =>
    match profile.attributes.get? key with
    | some (.text s) => if s = "" then [] else ["ROLE_" ++ s]
    | _ => []
  | .rememberMe _, _ => []
  | .setAttribute _ _, _ => []

def grantedPermissions : Generator → Profile → List String
  | .defaults _ permissions, _ => permissions
  | .fromAttributes _ permissions separator, profile => profile.readings separator permissions
  | .roleFromAttribute _, _ => []
  | .rememberMe _, _ => []
  | .setAttribute _ _, _ => []

theorem separator_of_unread {separator : String} {value : Value}
    (unread : items? separator value = none) : separator = "" := by
  unfold items? at unread
  split at unread
  · cases unread
  · cases unread
  · cases unread
  · cases unread
  · split at unread
    next empty => exact empty
    · cases unread

/-- A way of granting a list to a profile, part by part or all at once. -/
structure Adds (add : Profile → List String → Profile) : Prop where
  nothing : ∀ profile, add profile [] = profile
  more : ∀ profile items further, add (add profile items) further = add profile (items ++ further)
  attributes : ∀ profile items, (add profile items).attributes = profile.attributes

theorem adds_addRoles : Adds Profile.addRoles where
  nothing _ := rfl
  more profile items further := profile.given_given items [] further []
  attributes _ _ := rfl

theorem adds_addPermissions : Adds Profile.addPermissions where
  nothing _ := rfl
  more profile items further := profile.given_given [] items [] further
  attributes _ _ := rfl

theorem grantFrom_cases {add : Profile → List String → Profile} (adds : Adds add)
    (separator : String) (names : List String) (profile : Profile) :
    grantFrom add separator names profile =
        .ok (add profile (profile.readings separator names)) ∨
      separator = "" ∧ ∃ stopped, grantFrom add separator names profile = .error stopped := by
  induction names generalizing profile with
  | nil => exact Or.inl (congrArg Except.ok (adds.nothing profile).symm)
  | cons name rest ih =>
    cases read : items? separator ((profile.attributes.get? name).getD .null) with
    | none =>
      refine Or.inr ⟨separator_of_unread read, ⟨profile⟩, ?_⟩
      unfold grantFrom
      rw [read]
    | some items =>
      have step : grantFrom add separator (name :: rest) profile =
          grantFrom add separator rest (add profile items) := by
        rw [grantFrom, read]
      have whole : profile.readings separator (name :: rest) =
          items ++ profile.readings separator rest := by
        rw [Profile.readings, List.flatMap_cons, read]
        rfl
      -- Granting leaves the attributes alone: the other names stand for what they stood for.
      have further := ih (add profile items)
      rw [Profile.readings_congr (adds.attributes profile items), adds.more] at further
      rw [step, whole]
      exact further

theorem generate_fromAttributes_cases (roles permissions : List String) (separator : String)
    (profile : Profile) :
    (fromAttributes roles permissions separator).generate profile =
        .ok (profile.given (profile.readings separator roles)
          (profile.readings separator permissions)) ∨
      separator = "" ∧ ∃ stopped,
        (fromAttributes roles permissions separator).generate profile = .error stopped := by
  have parts : (fromAttributes roles permissions separator).generate profile =
      grantFrom Profile.addRoles separator roles profile >>=
        grantFrom Profile.addPermissions separator permissions := rfl
  rw [parts]
  rcases grantFrom_cases adds_addRoles separator roles profile with
    granted | ⟨blunt, stopped, failed⟩
  · rw [granted]
    exact grantFrom_cases adds_addPermissions separator permissions
      (profile.addRoles (profile.readings separator roles))
  · refine Or.inr ⟨blunt, stopped, ?_⟩
    rw [failed]
    rfl

theorem generate_fromAttributes (roles permissions : List String) {separator : String}
    (divides : separator ≠ "") (profile : Profile) :
    (fromAttributes roles permissions separator).generate profile =
      .ok (profile.given (profile.readings separator roles)
        (profile.readings separator permissions)) := by
  rcases generate_fromAttributes_cases roles permissions separator profile with
    granted | ⟨blunt, -⟩
  · exact granted
  · exact absurd blunt divides

theorem generate_roleFromAttribute (key : String) (profile : Profile) :
    (roleFromAttribute key).generate profile =
      .ok (profile.given ((roleFromAttribute key).grantedRoles profile) []) := by
  unfold generate grantedRoles
  simp only
  cases profile.attributes.get? key with
  | none => rfl
  | some value =>
    cases value with
    | text s =>
      by_cases empty : s = ""
      · simp only [if_pos empty]
        rfl
      · simp only [if_neg empty]
        rfl
    | _ => rfl

theorem generate_cases (generator : Generator) (profile : Profile) :
    (∃ next, generator.generate profile = .ok next ∧
      profile.Enriched (generator.grantedRoles profile) (generator.grantedPermissions profile)
        next) ∨
      ¬ generator.Divides ∧ ∃ stopped, generator.generate profile = .error stopped := by
  cases generator with
  | defaults roles permissions =>
    exact Or.inl ⟨_, rfl, profile.enriched_given roles permissions⟩
  | fromAttributes roles permissions separator =>
    rcases generate_fromAttributes_cases roles permissions separator profile with
      granted | ⟨blunt, stopped⟩
    · exact Or.inl ⟨_, granted, profile.enriched_given _ _⟩
    · exact Or.inr ⟨fun divides => divides blunt, stopped⟩
  | rememberMe key =>
    refine Or.inl ⟨_, rfl, ?_⟩
    split
    · exact profile.enriched_given [] []
    · exact profile.enriched_rememberMe _
    · exact profile.enriched_rememberMe _
  | setAttribute key value => exact Or.inl ⟨_, rfl, profile.enriched_addAttribute key value⟩
  | roleFromAttribute key =>
    exact Or.inl ⟨_, generate_roleFromAttribute key profile, profile.enriched_given _ _⟩

theorem grantedRoles_given (generator : Generator) (profile : Profile)
    (roles permissions : List String) :
    generator.grantedRoles (profile.given roles permissions) = generator.grantedRoles profile := by
  cases generator <;> rfl

theorem grantedPermissions_given (generator : Generator) (profile : Profile)
    (roles permissions : List String) :
    generator.grantedPermissions (profile.given roles permissions) =
      generator.grantedPermissions profile := by
  cases generator <;> rfl

/-- The generator grants, and does nothing else. -/
def OnlyGrants (generator : Generator) : Prop :=
  ∀ profile, generator.generate profile =
    .ok (profile.given (generator.grantedRoles profile) (generator.grantedPermissions profile))

theorem onlyGrants_defaults (roles permissions : List String) :
    (defaults roles permissions).OnlyGrants :=
  fun _ => rfl

theorem onlyGrants_fromAttributes (roles permissions : List String) {separator : String}
    (divides : separator ≠ "") : (fromAttributes roles permissions separator).OnlyGrants :=
  generate_fromAttributes roles permissions divides

theorem generateAll_of_onlyGrants {generators : List Generator}
    (all : ∀ generator ∈ generators, generator.OnlyGrants) (profile : Profile) :
    generateAll generators profile =
      .ok (profile.given (generators.flatMap (·.grantedRoles profile))
        (generators.flatMap (·.grantedPermissions profile))) := by
  induction generators generalizing profile with
  | nil => rfl
  | cons first rest ih =>
    have granted := all first List.mem_cons_self profile
    have onward := ih (fun generator member => all generator (List.mem_cons_of_mem first member))
      (profile.given (first.grantedRoles profile) (first.grantedPermissions profile))
    simp only [grantedRoles_given, grantedPermissions_given, Profile.given_given] at onward
    change (first.generate profile >>= generateAll rest) = _
    rw [granted]
    exact onward

theorem generateAll_again {generators : List Generator}
    (all : ∀ generator ∈ generators, generator.OnlyGrants) {profile enriched : Profile}
    (generated : generateAll generators profile = .ok enriched) :
    generateAll generators enriched = .ok enriched := by
  cases (generateAll_of_onlyGrants all profile).symm.trans generated
  rw [generateAll_of_onlyGrants all]
  simp only [grantedRoles_given, grantedPermissions_given, Profile.given_again]

end Generator

/-- A step that enriches a profile: a call by hand, or the run of a generator. -/
inductive Enrichment where
  | addRole (role : String)
  | addRoles (roles : List String)
  | addPermission (permission : String)
  | addPermissions (permissions : List String)
  | addAttribute (key : String) (value : Value)
  | run (generator : Generator)

namespace Enrichment

def apply : Enrichment → Profile → Except Unsplittable Profile
  | .addRole role, profile => .ok (profile.addRole role)
  | .addRoles roles, profile => .ok (profile.addRoles roles)
  | .addPermission permission, profile => .ok (profile.addPermission permission)
  | .addPermissions permissions, profile => .ok (profile.addPermissions permissions)
  | .addAttribute key value, profile => .ok (profile.addAttribute key value)
  | .run generator, profile => generator.generate profile

/-- Takes the steps in order, each on the profile that the one before it has left. -/
def applyAll : List Enrichment → Profile → Except Unsplittable Profile
  | [], profile => .ok profile
  | step :: rest, profile => step.apply profile >>= applyAll rest

def Divides : Enrichment → Prop
  | .run generator => generator.Divides
  | _ => True

def grantedRoles : Enrichment → Profile → List String
  | .addRole role, _ => [role]
  | .addRoles roles, _ => roles
  | .run generator, profile => generator.grantedRoles profile
  | .addPermission _, _ => []
  | .addPermissions _, _ => []
  | .addAttribute _ _, _ => []

def grantedPermissions : Enrichment → Profile → List String
  | .addPermission permission, _ => [permission]
  | .addPermissions permissions, _ => permissions
  | .run generator, profile => generator.grantedPermissions profile
  | .addRole _, _ => []
  | .addRoles _, _ => []
  | .addAttribute _ _, _ => []

/-- What the steps of a run grant in all: each grants to the profile that it meets. -/
def granted (grants : Enrichment → Profile → List String) : List Enrichment → Profile → List String
  | [], _ => []
  | step :: rest, profile =>
    grants step profile ++
      match step.apply profile with
      | .ok next => granted grants rest next
      | .error _ => []

theorem granted_cons {grants : Enrichment → Profile → List String} {step : Enrichment}
    {rest : List Enrichment} {profile next : Profile} (applied : step.apply profile = .ok next) :
    granted grants (step :: rest) profile = grants step profile ++ granted grants rest next := by
  rw [granted, applied]

theorem apply_cases (step : Enrichment) (profile : Profile) :
    (∃ next, step.apply profile = .ok next ∧
      profile.Enriched (step.grantedRoles profile) (step.grantedPermissions profile) next) ∨
      ¬ step.Divides ∧ ∃ stopped, step.apply profile = .error stopped := by
  cases step with
  | addRole role => exact Or.inl ⟨_, rfl, profile.enriched_given [role] []⟩
  | addRoles roles => exact Or.inl ⟨_, rfl, profile.enriched_given roles []⟩
  | addPermission permission => exact Or.inl ⟨_, rfl, profile.enriched_given [] [permission]⟩
  | addPermissions permissions => exact Or.inl ⟨_, rfl, profile.enriched_given [] permissions⟩
  | addAttribute key value => exact Or.inl ⟨_, rfl, profile.enriched_addAttribute key value⟩
  | run generator => exact generator.generate_cases profile

/-- All that the steps of a run grant on the way is granted to the profile that the run begins
with. -/
def Leads (steps : List Enrichment) (before after : Profile) : Prop :=
  before.Enriched (granted grantedRoles steps before) (granted grantedPermissions steps before)
    after

theorem Leads.cons {step : Enrichment} {rest : List Enrichment} {before next after : Profile}
    (applied : step.apply before = .ok next)
    (first : before.Enriched (step.grantedRoles before) (step.grantedPermissions before) next)
    (further : Leads rest next after) : Leads (step :: rest) before after := by
  unfold Leads
  rw [granted_cons applied, granted_cons applied]
  exact first.trans further

/-- A run of steps grants what they grant one after another, or a step without a separator stops
it. -/
theorem applyAll_cases (steps : List Enrichment) (profile : Profile) :
    (∃ final, applyAll steps profile = .ok final ∧ Leads steps profile final) ∨
      (∃ step ∈ steps, ¬ step.Divides) ∧ ∃ stopped, applyAll steps profile = .error stopped := by
  -- On the steps, for every profile: what the rest grants depends on what the first step has left.
  induction steps generalizing profile with
  | nil => exact Or.inl ⟨profile, rfl, profile.enriched_given [] []⟩
  | cons step rest ih =>
    rcases step.apply_cases profile with ⟨next, applied, first⟩ | ⟨blunt, stopped, failed⟩
    · have onward : applyAll (step :: rest) profile = applyAll rest next := by
        rw [applyAll, applied]
        rfl
      rw [onward]
      rcases ih next with ⟨final, reached, further⟩ | ⟨⟨other, member, blunt⟩, stopped⟩
      · exact Or.inl ⟨final, reached, .cons applied first further⟩
      · exact Or.inr ⟨⟨other, List.mem_cons_of_mem step member, blunt⟩, stopped⟩
    · refine Or.inr ⟨⟨step, List.mem_cons_self, blunt⟩, stopped, ?_⟩
      rw [applyAll, failed]
      rfl

theorem applyAll_of_divides {steps : List Enrichment} (divide : ∀ step ∈ steps, step.Divides)
    (profile : Profile) :
    ∃ final, applyAll steps profile = .ok final ∧ Leads steps profile final := by
  rcases applyAll_cases steps profile with reached | ⟨⟨step, member, blunt⟩, -⟩
  · exact reached
  · exact absurd (divide step member) blunt

theorem leads_of_applyAll {steps : List Enrichment} {profile final : Profile}
    (reached : applyAll steps profile = .ok final) : Leads steps profile final := by
  rcases applyAll_cases steps profile with ⟨other, there, leads⟩ | ⟨-, stopped, failed⟩
  · cases there.symm.trans reached
    exact leads
  · cases failed.symm.trans reached

theorem applyAll_run (generators : List Generator) (profile : Profile) :
    applyAll (generators.map .run) profile = Generator.generateAll generators profile := by
  induction generators generalizing profile with
  | nil => rfl
  | cons first rest ih => exact congrArg (first.generate profile >>= ·) (funext ih)

end Enrichment

namespace Client

/-- The profile as the generators of the client find it. -/
def own (client : Client) (bare : Profile) : Profile :=
  { bare with clientName := some client.name }

theorem enrich_eq (client : Client) (bare : Profile) :
    client.enrich bare = Enrichment.applyAll (client.generators.map .run) (client.own bare) :=
  (Enrichment.applyAll_run client.generators (client.own bare)).symm

theorem leads_of_enrich {client : Client} {bare enriched : Profile}
    (done : client.enrich bare = .ok enriched) :
    Enrichment.Leads (client.generators.map .run) (client.own bare) enriched :=
  Enrichment.leads_of_applyAll ((client.enrich_eq bare).symm.trans done)

end Client

end SignOn
