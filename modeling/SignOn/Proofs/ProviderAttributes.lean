import SignOn.Handler.OAuth2

/-!
What an OAuth2 profile says. The user is known by an attribute of the userinfo answer; the tokens of
the token answer, as far as they are not null, lie over the other attributes; and the words of a
textual scope are the permissions, each of them once.
-/

namespace SignOn

theorem grant_eq (held granted : List String) :
    grant held granted = held ++ (granted.filter (· ∉ held)).eraseDups := by
  induction granted generalizing held with
  | nil => simp [grant]
  | cons one rest ih =>
    change grant (if one ∈ held then held else held ++ [one]) rest = _
    by_cases known : one ∈ held
    · rw [if_pos known, ih, List.filter_cons_of_neg (by simpa using known)]
    · rw [if_neg known, ih, List.filter_cons_of_pos (by simpa using known), List.eraseDups_cons,
        List.filter_filter, List.append_assoc, List.singleton_append]
      congr 4
      funext other
      rw [Bool.eq_iff_iff]
      simp [and_comm]

namespace Profile

variable {profile : Profile} {key other : String} {value : Value}

theorem get?_addAttribute (whole : value ≠ .null) :
    (profile.addAttribute key value).attributes.get? key = some value := by
  cases value with
  | null => exact absurd rfl whole
  | _ => exact (Entries.get?_put _ _ _ _).trans (if_pos rfl)

theorem get?_addAttribute_of_apart (apart : other = key → value = .null) :
    (profile.addAttribute key value).attributes.get? other = profile.attributes.get? other := by
  cases value with
  | null => rfl
  | _ => exact (Entries.get?_put _ _ _ _).trans (if_neg fun same => Value.noConfusion (apart same))

theorem permissions_addAttribute (profile : Profile) (key : String) (value : Value) :
    (profile.addAttribute key value).permissions = profile.permissions := by
  cases value <;> rfl

theorem id_addAttribute (profile : Profile) (key : String) (value : Value) :
    (profile.addAttribute key value).id = profile.id := by
  cases value <;> rfl

end Profile

namespace OAuth2Login

/-- The fields of a token answer that are laid over what the provider knows of the user. -/
def tokenFieldNames : List String := ["access_token", "refresh_token"]

/-- The profile tells what the provider told: the user under the identifier, with the tokens that
are not null over the attributes of the user, and the permissions that the scope names. -/
structure Describes (oauth : OAuth2Login) (token userinfo : Entries Value) (profile : Profile) :
    Prop where
  id : ∃ identifier, userinfo.get? oauth.idAttribute = some identifier ∧
    profile.id = identifier.display
  laidOver : ∀ key ∈ tokenFieldNames, ∀ value, token.get? key = some value → value ≠ .null →
    profile.attributes.get? key = some value
  underneath : ∀ key, (key ∈ tokenFieldNames → ∀ value, token.get? key = some value →
    value = .null) → profile.attributes.get? key = userinfo.get? key
  permitted : ∀ scope, token.get? "scope" = some (.text scope) →
    profile.permissions = (Text.words scope).eraseDups
  unpermitted : (∀ scope, token.get? "scope" ≠ some (.text scope)) → profile.permissions = []

variable {oauth : OAuth2Login} {accessToken identifier : Value} {token userinfo : Entries Value}
  {profile : Profile}

def identified (token userinfo : Entries Value) (accessToken identifier : Value) : Profile :=
  let profile : Profile := { id := identifier.display, attributes := userinfo }
  ((profile.addAttribute "access_token" accessToken).addAttribute "refresh_token"
    ((token.get? "refresh_token").getD .null)).addPermissions (scopeWords (token.get? "scope"))

theorem profileOf_of_identifier (found : userinfo.get? oauth.idAttribute = some identifier)
    (whole : identifier ≠ .null) :
    oauth.profileOf accessToken token userinfo =
      .ok (identified token userinfo accessToken identifier) := by
  unfold profileOf
  rw [found]
  cases identifier with
  | null => exact absurd rfl whole
  | _ => rfl

theorem profileOf_of_nobody
    (nobody : ¬ ∃ identifier, userinfo.get? oauth.idAttribute = some identifier ∧
      identifier ≠ .null) :
    oauth.profileOf accessToken token userinfo = .error (.noIdentifier oauth.idAttribute) := by
  unfold profileOf
  cases found : userinfo.get? oauth.idAttribute with
  | none => rfl
  | some identifier =>
    cases identifier with
    | null => rfl
    | _ => exact absurd ⟨_, found, Value.noConfusion⟩ nobody

theorem permissions_identified (token userinfo : Entries Value) (accessToken identifier : Value) :
    (identified token userinfo accessToken identifier).permissions =
      (scopeWords (token.get? "scope")).eraseDups := by
  unfold identified
  dsimp only [Profile.addPermissions]
  rw [grant_eq, Profile.permissions_addAttribute, Profile.permissions_addAttribute,
    List.filter_eq_self.2 fun _ _ => by simp, List.nil_append]

theorem describes_identified (redeemed : token.get? "access_token" = some accessToken)
    (found : userinfo.get? oauth.idAttribute = some identifier) :
    oauth.Describes token userinfo (identified token userinfo accessToken identifier) where
  id := ⟨identifier, found, by
    unfold identified
    dsimp only [Profile.addPermissions]
    rw [Profile.id_addAttribute, Profile.id_addAttribute]⟩
  laidOver key named value told whole := by
    simp only [tokenFieldNames, List.mem_cons, List.not_mem_nil, or_false] at named
    rcases named with rfl | rfl
    · cases redeemed.symm.trans told
      exact (Profile.get?_addAttribute_of_apart fun same => absurd same (by decide)).trans
        (Profile.get?_addAttribute whole)
    · have kept : (token.get? "refresh_token").getD .null = value := by
        rw [told]
        rfl
      unfold identified
      rw [kept]
      exact Profile.get?_addAttribute whole
  underneath key absent := by
    refine (Profile.get?_addAttribute_of_apart ?_).trans (Profile.get?_addAttribute_of_apart ?_)
    · rintro rfl
      cases told : token.get? "refresh_token" with
      | none => rfl
      | some value => exact absent (by decide) value told
    · rintro rfl
      exact absent (by decide) accessToken redeemed
  permitted scope told := by
    rw [permissions_identified, told]
    rfl
  unpermitted untold := by
    rw [permissions_identified]
    cases told : token.get? "scope" with
    | none => rfl
    | some value =>
      cases value with
      | text scope => exact absurd told (untold scope)
      | _ => rfl

end OAuth2Login

end SignOn
