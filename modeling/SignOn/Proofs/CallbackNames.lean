import SignOn.Proofs.DeferredRedirect

/-!
The names in callback URLs. Clients that share a callback URL are told apart by the name that the
registry adds to it. The name is added once: a URL that has the parameter as it is written is left
as it is, be it that the registry added it before, or that the shared URL came with one. In that
last case the clients that share the URL are not told apart.
-/

namespace SignOn

/-- A client that takes the callback URL of its registry, and its name with it. -/
structure Client.SharesCallback (client : Client) : Prop where
  bare : Text.isAbsentOrBlank client.callbackUrl = true
  named : client.includesName = true

namespace Registry

def taggedCallback (url name : String) : String :=
  if Url.hasParameter url nameParameter then url
  else Url.addParameter url nameParameter (some name)

/-- The name that a callback URL says first, if it says one. -/
def firstName? (url : String) : Option String :=
  (Percent.valuesOf nameParameter (Url.parameters url)).head?

variable {registry : Registry} {shared : Option String} {originals : List Client}
  {client one other : Client} {url name : String}

theorem nameParameter_plain : ∀ c ∈ nameParameter.toList, Percent.isUnreserved c = true :=
  List.all_eq_true.1 rfl

theorem adopt_of_sharesCallback (shares : client.SharesCallback) :
    (adopt (some url) client).callbackUrl = some (taggedCallback url client.name) := by
  have effective : effectiveCallback (some url) client = some url := if_pos shares.bare
  change sharedCallback (some url) client = _
  rw [sharedCallback_eq, effective]
  unfold taggedCallback
  simp only [Option.map_some, shares.named, Bool.true_and]
  cases Url.hasParameter url nameParameter <;> rfl

theorem effectiveCallback_withCallbackUrl (shared : Option String) (client : Client) :
    effectiveCallback shared (client.withCallbackUrl (effectiveCallback shared client)) =
      effectiveCallback shared client := by
  unfold effectiveCallback
  by_cases bare : Text.isAbsentOrBlank client.callbackUrl = true
  · rw [if_pos bare]
    exact ite_self shared
  · rw [if_neg bare]
    exact if_neg bare

theorem adopt_adopt (shared : Option String) (client : Client) :
    adopt shared (adopt shared client) = adopt shared client := by
  suffices same : sharedCallback shared (adopt shared client) = sharedCallback shared client from
    congrArg client.withCallbackUrl same
  have kept := effectiveCallback_withCallbackUrl shared client
  unfold adopt
  rw [sharedCallback_eq shared client]
  cases effective : effectiveCallback shared client with
  | none =>
    rw [effective] at kept
    rw [Option.map_none, sharedCallback_eq, kept, Option.map_none]
  | some url =>
    rw [effective] at kept
    rw [Option.map_some]
    split
    · let tagged := Url.addParameter url nameParameter (some client.name)
      have told : Url.hasParameter tagged nameParameter = true :=
        Url.hasParameter_addParameter nameParameter_plain url (some client.name)
      have whole : Text.isBlank tagged = false := Url.isBlank_addParameter url _ _
      have own : effectiveCallback shared (client.withCallbackUrl (some tagged)) = some tagged :=
        if_neg (Bool.eq_false_iff.1 whole)
      rw [sharedCallback_eq, own, Option.map_some, told, Bool.not_true, Bool.and_false,
        if_neg Bool.false_ne_true]
    next untagged =>
      rw [sharedCallback_eq, kept, Option.map_some]
      exact congrArg some (if_neg untagged)

theorem firstName?_addParameter (untagged : ∀ field ∈ Url.parameters url, field.1 ≠ nameParameter)
    (name : String) : firstName? (Url.addParameter url nameParameter (some name)) = some name := by
  unfold firstName?
  rw [Url.parameters_addParameter, Percent.valuesOf_append, Percent.valuesOf_eq_nil untagged]
  rfl

theorem addParameter_name_injective (url : String) {name other : String}
    (same : Url.addParameter url nameParameter (some name) =
      Url.addParameter url nameParameter (some other)) : name = other := by
  have read := congrArg Url.parameters same
  rw [Url.parameters_addParameter, Url.parameters_addParameter] at read
  have added := List.append_cancel_left read
  simpa using added

/-- Two clients of a registry that share its callback URL have different ones in the end, as long as
that URL has no name as it is written; where it says none at all, each of them says the name of its
client first. With a name in it, the shared URL is the callback URL of both. -/
theorem callbacks_told_apart {defaultClient : Option String} {records : List LogRecord}
    (created : Registry.create (some url) originals defaultClient = (.ok registry, records))
    (members : one ∈ originals ∧ other ∈ originals) (apart : one.name ≠ other.name)
    (sharesOne : one.SharesCallback) (sharesOther : other.SharesCallback) :
    ∃ first second firstUrl secondUrl,
      registry.find one.name = .ok first ∧ registry.find other.name = .ok second ∧
      first.callbackUrl = some firstUrl ∧ second.callbackUrl = some secondUrl ∧
      (Url.hasParameter url nameParameter = false → firstUrl ≠ secondUrl) ∧
      ((∀ field ∈ Url.parameters url, field.1 ≠ nameParameter) →
        firstUrl ≠ secondUrl ∧
        firstName? firstUrl = some one.name ∧ firstName? secondUrl = some other.name) ∧
      (Url.hasParameter url nameParameter = true → firstUrl = url ∧ secondUrl = url) := by
  have holds := holds_of_create created
  have added (name : String) (untold : Url.hasParameter url nameParameter = false) :
      taggedCallback url name = Url.addParameter url nameParameter (some name) := by
    unfold taggedCallback
    rw [untold, if_neg Bool.false_ne_true]
  have different (untold : Url.hasParameter url nameParameter = false) :
      taggedCallback url one.name ≠ taggedCallback url other.name := by
    rw [added _ untold, added _ untold]
    exact fun same => apart (addParameter_name_injective url same)
  refine ⟨_, _, _, _, holds.find members.1, holds.find members.2,
    adopt_of_sharesCallback sharesOne, adopt_of_sharesCallback sharesOther, different, ?_, ?_⟩
  · intro untagged
    have untold := Url.hasParameter_eq_false nameParameter_plain untagged
    refine ⟨different untold, ?_, ?_⟩
    · rw [added _ untold, firstName?_addParameter untagged]
    · rw [added _ untold, firstName?_addParameter untagged]
  · intro told
    exact ⟨if_pos told, if_pos told⟩

def formNamed (name : String) : Client :=
  { handler := .form { loginUrl := some "/login" }, givenName := some name }

theorem formNamed_sharesCallback (name : String) : (formNamed name).SharesCallback := ⟨rfl, rfl⟩

theorem lookalikes_told_apart :
    let url := "/callback?page=1#client_name=top"
    let one := formNamed "a"
    let other := formNamed "a&client_name=b"
    ∃ registry records, Registry.create (some url) [one, other] none = (.ok registry, records) ∧
      (one ∈ [one, other] ∧ other ∈ [one, other]) ∧ one.name ≠ other.name ∧
      one.SharesCallback ∧ other.SharesCallback ∧
      ∃ first second firstUrl secondUrl,
        registry.find "a" = .ok first ∧ registry.find "a&client_name=b" = .ok second ∧
        first.callbackUrl = some firstUrl ∧ second.callbackUrl = some secondUrl ∧
        firstUrl ≠ secondUrl ∧ firstName? firstUrl = some "a" ∧
        firstName? secondUrl = some "a&client_name=b" := by
  intro url one other
  have members : one ∈ [one, other] ∧ other ∈ [one, other] := ⟨by simp, by simp⟩
  have apart : one.name ≠ other.name := by decide
  have untagged : ∀ field ∈ Url.parameters url, field.1 ≠ nameParameter := by decide
  obtain ⟨first, second, firstUrl, secondUrl, found, foundToo, callback, callbackToo, -, told, -⟩ :=
    callbacks_told_apart
      (show Registry.create (some url) [one, other] none = (.ok _, _) from rfl) members apart
      (formNamed_sharesCallback _) (formNamed_sharesCallback _)
  exact ⟨_, _, rfl, members, apart, formNamed_sharesCallback _, formNamed_sharesCallback _, first,
    second, firstUrl, secondUrl, found, foundToo, callback, callbackToo, told untagged⟩

theorem foreign_name_shared :
    ¬ ∀ (url : String) (originals : List Client) (defaultClient : Option String)
        (registry : Registry) (records : List LogRecord) (one other : Client),
      Registry.create (some url) originals defaultClient = (.ok registry, records) →
      one ∈ originals ∧ other ∈ originals → one.name ≠ other.name →
      one.SharesCallback → other.SharesCallback →
      ∃ first second firstUrl secondUrl,
        registry.find one.name = .ok first ∧ registry.find other.name = .ok second ∧
        first.callbackUrl = some firstUrl ∧ second.callbackUrl = some secondUrl ∧
        firstUrl ≠ secondUrl ∧
        firstName? firstUrl = some one.name ∧ firstName? secondUrl = some other.name := by
  intro always
  let url := "/callback?client_name=Z"
  let one := formNamed "A"
  let other := formNamed "B"
  obtain ⟨first, second, firstUrl, secondUrl, found, foundToo, callback, callbackToo, apart, -⟩ :=
    always url [one, other] none _ _ one other rfl ⟨by simp, by simp⟩ (by decide)
      (formNamed_sharesCallback _) (formNamed_sharesCallback _)
  have told : Url.hasParameter url nameParameter = true := by decide
  have kept (name : String) : (adopt (some url) (formNamed name)).callbackUrl = some url :=
    (adopt_of_sharesCallback (formNamed_sharesCallback name)).trans (congrArg some (if_pos told))
  cases found
  cases foundToo
  have firstIs : some url = some firstUrl := (kept "A").symm.trans callback
  have secondIs : some url = some secondUrl := (kept "B").symm.trans callbackToo
  exact apart (Option.some.inj (firstIs.symm.trans secondIs))

end Registry

end SignOn
