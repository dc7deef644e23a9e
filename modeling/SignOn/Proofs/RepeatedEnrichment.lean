import SignOn.Proofs.Enrichment
import SignOn.Proofs.PasswordLogin

/-!
Enriching a profile again. A profile that is attached to credentials stays attached as it was
enriched, and is enriched once more whenever a profile is made of these credentials. Clients that
were built from settings add nothing to it then: their generators only grant, and all that they
grant is held already.
-/

namespace SignOn

open Exchange

theorem Handler.isPasswordLogin_of_returnsAttached {handler : Handler} {credentials : Credentials}
    (returns : handler.returnsAttached credentials = true) :
    (∃ login, handler = .form login) ∨ ∃ login, handler = .basic login := by
  cases handler with
  | form login => exact Or.inl ⟨login, rfl⟩
  | basic login => exact Or.inr ⟨login, rfl⟩
  | oauth2 login => cases returns
  | scripted login => cases returns

namespace Client

variable {client : Client} {credentials : Credentials} {attached : Profile}

theorem bareProfile_of_attached (attaches : credentials.profile = some attached)
    (enriches : client.enrichesAttached credentials = true) :
    client.bareProfile credentials = pure (some attached) := by
  unfold bareProfile
  rcases Bool.or_eq_true_iff.1 enriches with taken | returned
  · rw [if_pos taken, attaches]
  · have carried : credentials.attachedOrNamed = some attached := by
      unfold Credentials.attachedOrNamed
      rw [attaches]
    have built : client.handler.buildProfile credentials = pure (some attached) := by
      rw [← carried]
      rcases Handler.isPasswordLogin_of_returnsAttached returned with ⟨login, kind⟩ | ⟨login, kind⟩
      · rw [kind]
        rfl
      · rw [kind]
        rfl
    rw [built, attaches, ite_self]

theorem keepProfile_of_attached (enriches : client.enrichesAttached credentials = true)
    (enriched : Profile) :
    client.keepProfile credentials (.ok (some enriched)) =
      { credentials with profile := some enriched } := by
  unfold keepProfile
  rw [if_pos enriches]

theorem enrichesAttached_keeping (enriches : client.enrichesAttached credentials = true)
    (enriched : Profile) :
    client.enrichesAttached { credentials with profile := some enriched } = true := by
  unfold enrichesAttached at enriches ⊢
  rcases Bool.or_eq_true_iff.1 enriches with taken | returned
  · rw [taken, Bool.true_or]
  · rcases Handler.isPasswordLogin_of_returnsAttached returned with ⟨login, kind⟩ | ⟨login, kind⟩
    · rw [kind]
      exact Bool.or_true _
    · rw [kind]
      exact Bool.or_true _

theorem own_of_enrich {bare enriched : Profile} (done : client.enrich bare = .ok enriched) :
    client.own enriched = enriched := by
  have named : enriched.clientName = some client.name := (leads_of_enrich done).clientName
  unfold own
  rw [← named]

end Client

/-- The generators of a client that was built from settings leave a profile as it is once they have
enriched it. So making a profile of credentials with one attached enriches that one, and making it
again, at any later time, gives the same profile and leaves the same attached. -/
theorem enriching_twice {host : Host} {types : Entries HandlerType} {settings : ClientSettings}
    {client : Client} (built : settings.build host types = .ok client) :
    (∀ profile, ∃ enriched, Generator.generateAll client.generators profile = .ok enriched ∧
      Generator.generateAll client.generators enriched = .ok enriched) ∧
    ∀ (credentials : Credentials) (attached : Profile) (state ready : State),
      credentials.profile = some attached → client.enrichesAttached credentials = true →
      client.init state = (.ok (), ready) →
      ∃ enriched kept, client.profile (some credentials) state = (.ok (some enriched), ready) ∧
        client.enrich attached = .ok enriched ∧
        client.keepProfile credentials (.ok (some enriched)) = kept ∧
        kept.profile = some enriched ∧
        ∀ later again, client.init later = (.ok (), again) →
          client.profile (some kept) later = (.ok (some enriched), again) ∧
          client.keepProfile kept (.ok (some enriched)) = kept := by
  have only : ∀ generator ∈ client.generators, generator.OnlyGrants := by
    obtain ⟨-, -, -, -, -, -, rfl⟩ := ClientSettings.made_of_build built
    intro generator member
    exact ClientSettings.onlyGrants_of_mem_generators member
  have settles (profile : Profile) : ∃ enriched,
      Generator.generateAll client.generators profile = .ok enriched ∧
        Generator.generateAll client.generators enriched = .ok enriched := by
    have generated := Generator.generateAll_of_onlyGrants only profile
    exact ⟨_, generated, Generator.generateAll_again only generated⟩
  refine ⟨settles, ?_⟩
  intro credentials attached state ready attaches enriches started
  obtain ⟨enriched, done, still⟩ := settles (client.own attached)
  -- The name of the client is on the profile already, so the generators find it as they left it.
  have again : client.enrich enriched = .ok enriched := by
    change Generator.generateAll client.generators (client.own enriched) = _
    rw [Client.own_of_enrich done, still]
  have kept := Client.keepProfile_of_attached enriches enriched
  have keeps := Client.enrichesAttached_keeping enriches enriched
  refine ⟨enriched, _, ?_, done, kept, rfl, ?_⟩
  · refine Client.profile_of_builds ⟨_, _, rfl, started, ?_⟩ done
    rw [Client.bareProfile_of_attached attaches enriches]
    rfl
  · intro later waiting restarted
    refine ⟨Client.profile_of_builds ⟨_, _, rfl, restarted, ?_⟩ again,
      Client.keepProfile_of_attached keeps enriched⟩
    rw [Client.bareProfile_of_attached rfl keeps]
    rfl

def rolesSettings : ClientSettings :=
  { type := "basic", users := [("jo,user", "literal:s3cret")], defaultRoles := ["user", "user"],
    defaultPermissions := ["read"], roleAttributes := ["username", "team", "username"] }

theorem rolesSettings_settle :
    let credentials := Authenticator.vouched ("jo,user", "s3cret")
    let state := (Call.bare .init).enter {}
    ∃ client, rolesSettings.build {} builtInTypes = .ok client ∧
      credentials.profile = some (Profile.ofUsername "jo,user") ∧
      client.enrichesAttached credentials = true ∧
      ∃ ready, client.init state = (.ok (), ready) ∧
        ∃ enriched kept, client.keepProfile credentials (.ok (some enriched)) = kept ∧
          enriched.roles = ["user", "jo"] ∧ enriched.permissions = ["read"] ∧
          client.profile (some kept) ready = (.ok (some enriched), ready) := by
  intro credentials state
  have built : rolesSettings.build {} builtInTypes = .ok _ := rfl
  obtain ⟨-, repeats⟩ := enriching_twice built
  obtain ⟨enriched, kept, -, done, keeps, -, again⟩ := repeats credentials
    (Profile.ofUsername "jo,user") state _ rfl rfl rfl
  refine ⟨_, built, rfl, rfl, _, rfl, enriched, kept, keeps, ?_, ?_, (again _ _ rfl).1⟩
  · have leads := Client.leads_of_enrich done
    exact leads.roles.trans (by decide +kernel)
  · have leads := Client.leads_of_enrich done
    exact leads.permissions.trans (by decide +kernel)

end SignOn
