import SignOn.Proofs.DeferredRedirect
import SignOn.Proofs.Enrichment
import SignOn.Proofs.PasswordLogin

/-!
Whom a typed id stands for. A profile that a client returns carries the name of that client, and its
typed id is that name and the id of the user with a hash sign between them. Neither part is kept
from having a hash sign in it. So a typed id tells two users of a registry apart unless the name of
one client goes on, behind a hash sign, where the name of the other ends.
-/

namespace SignOn

open Exchange

namespace Client

variable {client : Client} {credentials : Option Credentials} {state : State} {profile : Profile}

theorem clientName_of_profile
    (returned : (client.profile credentials state).1 = .ok (some profile)) :
    profile.clientName = some client.name := by
  obtain ⟨bare, after, -, enriched⟩ := builds_of_profile returned
  exact (leads_of_enrich enriched).clientName

theorem typedId_of_profile
    (returned : (client.profile credentials state).1 = .ok (some profile)) :
    profile.typedId = client.name ++ "#" ++ profile.id := by
  have whole : client.name ≠ "" := by
    intro empty
    have blank := client.name_not_blank
    rw [empty] at blank
    cases blank
  unfold Profile.typedId
  rw [clientName_of_profile returned]
  simp only [whole, if_false]

end Client

/-- The name of the one client goes on behind a hash sign where that of the other ends, and what is
behind it is how the id of the other's user begins, up to the id of the one's user. -/
def Straddles (name id other otherId : String) : Prop :=
  ∃ between, name = other ++ "#" ++ between ∧ otherId = between ++ "#" ++ id

theorem eq_or_straddles {name id other otherId : String} {more : List Char}
    (same : name.toList ++ '#' :: id.toList = other.toList ++ '#' :: otherId.toList)
    (goesOn : name.toList = other.toList ++ more) :
    (name = other ∧ id = otherId) ∨ Straddles name id other otherId := by
  rw [goesOn, List.append_assoc, List.append_cancel_left_eq] at same
  cases more with
  | nil =>
    rw [List.append_nil] at goesOn
    exact Or.inl ⟨String.toList_inj.1 goesOn, String.toList_inj.1 (List.cons.inj same).2⟩
  | cons mark between =>
    obtain ⟨rfl, rest⟩ := List.cons.inj same
    refine Or.inr ⟨String.ofList between, String.toList_inj.1 ?_, String.toList_inj.1 ?_⟩
    · simp [goesOn]
    · simp [← rest]

/-- Two texts before a hash sign and two texts behind it make the same text only if they are the
same, or if one of them holds a hash sign that can be taken for the one between them. -/
theorem join_eq_iff {name id other otherId : String} :
    name ++ "#" ++ id = other ++ "#" ++ otherId ↔
      (name = other ∧ id = otherId) ∨ Straddles name id other otherId ∨
        Straddles other otherId name id := by
  constructor
  · intro joined
    have same : name.toList ++ '#' :: id.toList = other.toList ++ '#' :: otherId.toList := by
      have texts := congrArg String.toList joined
      simpa using texts
    rcases List.append_eq_append_iff.1 same with ⟨more, goesOn, -⟩ | ⟨more, goesOn, -⟩
    · rcases eq_or_straddles same.symm goesOn with ⟨rfl, rfl⟩ | straddles
      · exact Or.inl ⟨rfl, rfl⟩
      · exact Or.inr (Or.inr straddles)
    · rcases eq_or_straddles same goesOn with equal | straddles
      · exact Or.inl equal
      · exact Or.inr (Or.inl straddles)
  · rintro (⟨rfl, rfl⟩ | ⟨between, rfl, rfl⟩ | ⟨between, rfl, rfl⟩)
    · rfl
    · simp only [String.append_assoc]
    · simp only [String.append_assoc]

theorem Straddles.marked {name id other otherId : String}
    (straddles : Straddles name id other otherId) : '#' ∈ name.toList ∧ '#' ∈ otherId.toList := by
  obtain ⟨between, rfl, rfl⟩ := straddles
  simp

/-- Profiles that clients of one registry return have the same typed id only if they are of one
client and have one id, or the name of one client straddles that of the other. So they tell users
apart where no client has a hash sign in its name. -/
theorem typedId_eq_iff {shared defaultClient : Option String} {originals more : List Client}
    {created registry : Registry} {records further : List LogRecord}
    (made : Registry.create shared originals defaultClient = (.ok created, records))
    (extended : Registry.registerAll created more = (.ok registry, further))
    {first second : Client} (member : first ∈ registry.clients)
    (other : second ∈ registry.clients)
    {offered asked : Option Credentials} {state later : State} {one two : Profile}
    (returned : (first.profile offered state).1 = .ok (some one))
    (again : (second.profile asked later).1 = .ok (some two)) :
    (one.typedId = two.typedId ↔
      (first = second ∧ one.id = two.id) ∨ Straddles first.name one.id second.name two.id ∨
        Straddles second.name two.id first.name one.id) ∧
    ('#' ∉ first.name.toList → '#' ∉ second.name.toList →
      (one.typedId = two.typedId ↔ first = second ∧ one.id = two.id)) := by
  have holds := (Registry.holds_of_create made).registerAll extended
  have single : first.name = second.name ↔ first = second := by
    constructor
    · intro same
      have found := Registry.find_of_mem holds.names member
      rw [same, Registry.find_of_mem holds.names other] at found
      cases found
      rfl
    · rintro rfl
      rfl
  have told : one.typedId = two.typedId ↔ (first = second ∧ one.id = two.id) ∨
      Straddles first.name one.id second.name two.id ∨
        Straddles second.name two.id first.name one.id := by
    rw [Client.typedId_of_profile returned, Client.typedId_of_profile again, join_eq_iff, single]
  refine ⟨told, fun plain still => told.trans ⟨?_, Or.inl⟩⟩
  rintro (same | straddles | straddles)
  · exact same
  · exact absurd straddles.marked.1 plain
  · exact absurd straddles.marked.1 still

def lonelyClient (name user : String) : Client :=
  { handler := .basic {}, givenName := some name,
    authenticator := some (.passwords [(user, "s3cret")]), takesAttached := true }

theorem lonelyClients_told_apart :
    let first := lonelyClient "Portal" "jo"
    let second := lonelyClient "Portal#2" "jo"
    let offered := some (Authenticator.vouched ("jo", "s3cret"))
    let state := (Call.bare .init).enter {}
    ∃ created registry records further one two,
      Registry.create none [first] none = (.ok created, records) ∧
      Registry.registerAll created [second] = (.ok registry, further) ∧
      first ∈ registry.clients ∧ second ∈ registry.clients ∧
      (first.profile offered state).1 = .ok (some one) ∧
      (second.profile offered state).1 = .ok (some two) ∧
      one.id = two.id ∧ one.typedId ≠ two.typedId := by
  intro first second offered state
  have made : Registry.create none [first] none = (.ok { clients := [first] }, _) := rfl
  have extended : Registry.registerAll { clients := [first] } [second] =
      (.ok { clients := [first, second] }, _) := rfl
  have one : (first.profile offered state).1 = .ok (some _) := rfl
  have two : (second.profile offered state).1 = .ok (some _) := rfl
  have here : first ∈ [first, second] := List.mem_cons_self
  have there : second ∈ [first, second] := List.mem_cons_of_mem _ List.mem_cons_self
  obtain ⟨told, -⟩ := typedId_eq_iff made extended here there one two
  refine ⟨_, _, _, _, _, _, made, extended, here, there, one, two, rfl, fun same => ?_⟩
  rcases told.1 same with ⟨single, -⟩ | straddles | straddles
  · exact absurd (congrArg Client.name single) (by decide)
  · exact absurd straddles.marked.1 (by decide)
  · exact absurd straddles.marked.2 (by decide)

theorem lonelyClients_confused :
    ¬ ∀ (shared defaultClient : Option String) (clients : List Client) (registry : Registry)
        (records : List LogRecord),
      Registry.create shared clients defaultClient = (.ok registry, records) →
      ∀ first ∈ registry.clients, ∀ second ∈ registry.clients,
        ∀ (offered asked : Option Credentials) (state later : State) (one two : Profile),
          (first.profile offered state).1 = .ok (some one) →
          (second.profile asked later).1 = .ok (some two) →
          (first.name ≠ second.name ∨ one.id ≠ two.id) → one.typedId ≠ two.typedId := by
  intro claim
  let first := lonelyClient "a" "b#c"
  let second := lonelyClient "a#b" "c"
  let offered := some (Authenticator.vouched ("b#c", "s3cret"))
  let asked := some (Authenticator.vouched ("c", "s3cret"))
  let state := (Call.bare .init).enter {}
  have made : Registry.create none [first, second] none =
      (.ok { clients := [first, second] }, _) := rfl
  have one : (first.profile offered state).1 = .ok (some _) := rfl
  have two : (second.profile asked state).1 = .ok (some _) := rfl
  have apart : first.name ≠ second.name := by decide
  exact claim none none _ _ _ made first List.mem_cons_self second
    (List.mem_cons_of_mem _ List.mem_cons_self) _ _ _ _ _ _ one two (Or.inl apart) (by decide)

end SignOn
