import SignOn.Proofs.Enrichment
import SignOn.Proofs.TypedId

/-!
Enrichment only adds. Whatever steps are taken on a profile, by hand or by the generators of the
client that made it, it has its roles and its permissions still, the new ones of those granted
behind them in the order in which they were granted, each once; it has all its attributes; and it is
of the user and the client that it was of.
-/

namespace SignOn

/-- A run of steps that have their separators gets to its end, and adds to the profile exactly what
the steps grant on the way. So do the generators of a client to each profile that it makes: what it
returns is that profile and what they grant, with the id that it was made with behind the name of
the client and a hash sign. -/
theorem enrichment_only_adds :
    (∀ (steps : List Enrichment) (profile : Profile), (∀ step ∈ steps, step.Divides) →
      ∃ final, Enrichment.applyAll steps profile = .ok final ∧
        Enrichment.Leads steps profile final) ∧
    ∀ (client : Client) (credentials : Option Credentials) (state : State),
      (∀ generator ∈ client.generators, generator.Divides) →
      (∀ bare after, client.Builds credentials state bare after →
        ∃ final, client.profile credentials state = (.ok (some final), after) ∧
          Enrichment.Leads (client.generators.map .run) (client.own bare) final ∧
          final.typedId = client.name ++ "#" ++ bare.id) ∧
      ∀ final, (client.profile credentials state).1 = .ok (some final) →
        ∃ bare after, client.Builds credentials state bare after := by
  refine ⟨fun steps profile divide => Enrichment.applyAll_of_divides divide profile, ?_⟩
  intro client credentials state divide
  have steps : ∀ step ∈ client.generators.map Enrichment.run, step.Divides := by
    intro step member
    obtain ⟨generator, inside, rfl⟩ := List.mem_map.1 member
    exact divide generator inside
  constructor
  · intro bare after builds
    obtain ⟨final, reached, leads⟩ := Enrichment.applyAll_of_divides steps (client.own bare)
    have returned := Client.profile_of_builds builds ((client.enrich_eq bare).trans reached)
    have typed := Client.typedId_of_profile (congrArg Prod.fst returned)
    rw [leads.id] at typed
    exact ⟨final, returned, leads, typed⟩
  · intro final returned
    obtain ⟨bare, after, builds, -⟩ := Client.builds_of_profile returned
    exact ⟨bare, after, builds⟩

def groupsClient : Client :=
  { handler := .basic {}, givenName := some "Portal",
    generators := [.defaults ["staff", "staff"] ["read"],
      .setAttribute "groups" (.text "dev, staff,,ops"), .fromAttributes ["groups"] [] ","] }

theorem groupsClient_adds :
    let steps : List Enrichment :=
      [.addRoles ["b", "c"], .addAttribute "team" (.list [.text " c ", .text "d"]),
        .run (.fromAttributes ["team"] [] ";")]
    let held : Profile := { id := "jo", clientName := some "Wiki", roles := ["a", "b", "a"] }
    let credentials := some { evidence := .password "jo" "s3cret" }
    let state := (Call.bare .init).enter {}
    (∀ step ∈ steps, step.Divides) ∧
      (∃ final, Enrichment.applyAll steps held = .ok final ∧
        final.roles = ["a", "b", "a", "c", "d"] ∧ final.typedId = "Wiki#jo") ∧
      (∀ generator ∈ groupsClient.generators, generator.Divides) ∧
      ∃ final, (groupsClient.profile credentials state).1 = .ok (some final) ∧
        final.roles = ["staff", "dev", "ops"] ∧ final.permissions = ["read"] ∧
        final.typedId = "Portal#jo" := by
  intro steps held credentials state
  have divide : ∀ step ∈ steps, step.Divides := by
    simp [steps, Enrichment.Divides, Generator.Divides]
  have whole : ∀ generator ∈ groupsClient.generators, generator.Divides := by
    simp [groupsClient, Generator.Divides]
  obtain ⟨byHand, byClient⟩ := enrichment_only_adds
  refine ⟨divide, ?_, whole, ?_⟩
  · obtain ⟨final, reached, leads⟩ := byHand steps held divide
    refine ⟨final, reached, leads.roles.trans (by decide +kernel), ?_⟩
    unfold Profile.typedId
    rw [leads.id, leads.clientName]
    decide
  · obtain ⟨adds, -⟩ := byClient groupsClient credentials state whole
    have builds : groupsClient.Builds credentials state (Profile.ofUsername "jo") _ :=
      ⟨_, _, rfl, rfl, rfl⟩
    obtain ⟨final, returned, leads, typed⟩ := adds _ _ builds
    exact ⟨final, congrArg Prod.fst returned, leads.roles.trans (by decide +kernel),
      leads.permissions.trans (by decide +kernel), typed⟩

end SignOn
