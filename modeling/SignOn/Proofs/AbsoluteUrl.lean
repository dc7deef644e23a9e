import SignOn.Proofs.ContextualUrl

/-!
Whether a URL that was completed with an origin counts as absolute. A URL is known as absolute by a
web scheme in small letters, while the scheme of an origin is taken over as it is written. So a URL
that was completed with capitals in the scheme is still relative, and is completed again wherever
that is tried; with small letters it is absolute, and stays as it is.
-/

namespace SignOn

namespace Url

theorem begins_with_iff {known scheme rest : List Char} (apart : ':' ∉ known)
    (plain : ':' ∉ scheme) :
    (known ++ "://".toList).isPrefixOf (scheme ++ ("://".toList ++ rest)) = true ↔
      scheme = known := by
  have before {cs : List Char} (none : ':' ∉ cs) : ∀ c ∈ cs, (c != ':') = true := by
    intro c inside
    rw [bne_iff_ne]
    exact fun colon => none (colon ▸ inside)
  have colon (cs : List Char) : ∀ c ∈ ("://".toList ++ cs).head?, (c != ':') = false := by
    intro c first
    cases first
    rfl
  rw [List.isPrefixOf_iff_prefix]
  constructor
  · rintro ⟨more, same⟩
    rw [List.append_assoc] at same
    exact (Text.append_inj_of_ends (before plain) (before apart) (colon rest) (colon more)
      same.symm).1
  · rintro rfl
    rw [← List.append_assoc]
    exact List.prefix_append _ rest

/-- The URL is absolute, or what it is completed with begins with a web scheme in small letters. -/
def Settled (url : String) (origin : Origin) : Prop :=
  isAbsolute url = true ∨ origin.scheme = "http" ∨ origin.scheme = "https"

variable {url : String} {origin : Origin}

theorem prependHost_of_absolute (absolute : isAbsolute url = true) (origin : Origin) :
    prependHost url origin = url := if_pos absolute

theorem prependHost_of_relative (relative : isAbsolute url = false) (origin : Origin) :
    prependHost url origin = origin.text ++ rooted url :=
  if_neg (Bool.eq_false_iff.1 relative)

theorem toList_prependHost (relative : isAbsolute url = false) (origin : Origin) :
    (prependHost url origin).toList =
      origin.scheme.toList ++ ("://".toList ++
        (origin.server.toList ++ origin.portText.toList ++ (rooted url).toList)) := by
  rw [prependHost_of_relative relative, Origin.text]
  simp only [String.toList_append, List.append_assoc]

theorem isAbsolute_prependHost_iff (web : origin.IsWeb) :
    isAbsolute (prependHost url origin) = true ↔ Settled url origin := by
  have plain : ':' ∉ origin.scheme.toList :=
    web.not_mem_scheme (by decide) (by decide) (by decide)
  unfold Settled
  cases absolute : isAbsolute url with
  | true => simp only [prependHost_of_absolute absolute, absolute, true_or]
  | false =>
    have http : "http://".toList = "http".toList ++ "://".toList := by decide
    have https : "https://".toList = "https".toList ++ "://".toList := by decide
    rw [isAbsolute, toList_prependHost absolute, Bool.or_eq_true, http, https,
      begins_with_iff (by decide) plain, begins_with_iff (by decide) plain, String.toList_inj,
      String.toList_inj]
    simp only [Bool.false_eq_true, false_or]

theorem length_le_rooted (url : String) : url.toList.length ≤ (rooted url).toList.length := by
  unfold rooted
  split
  · exact Nat.le_refl _
  · rw [String.toList_append, List.length_append]
    exact Nat.le_add_left _ _

/-- Completing a URL leaves it as it is exactly if it is absolute: otherwise it gets longer. -/
theorem prependHost_eq_self_iff : prependHost url origin = url ↔ isAbsolute url = true := by
  cases absolute : isAbsolute url with
  | true => simp only [prependHost_of_absolute absolute]
  | false =>
    refine iff_of_false (fun same => ?_) Bool.false_ne_true
    have lengths := congrArg (fun text => text.toList.length) same
    have path := length_le_rooted url
    have divider : "://".toList.length = 3 := by decide
    simp only [toList_prependHost absolute, List.length_append, divider] at lengths
    omega

theorem rooted_prependHost (web : origin.IsWeb) (relative : isAbsolute url = false) :
    rooted (prependHost url origin) = "/" ++ prependHost url origin := by
  have plain : '/' ∉ origin.scheme.toList :=
    web.not_mem_scheme (by decide) (by decide) (by decide)
  -- A slash in front would be the first letter of the scheme, or its colon were there no letter.
  refine if_neg fun slash => ?_
  obtain ⟨rest, whole⟩ := List.isPrefixOf_iff_prefix.1 slash
  rw [toList_prependHost relative] at whole
  cases letters : origin.scheme.toList with
  | nil =>
    rw [letters] at whole
    exact absurd (List.cons.inj whole).1 (by decide)
  | cons c more =>
    rw [letters] at whole
    have first : '/' = c := (List.cons.inj whole).1
    rw [letters, ← first] at plain
    exact plain List.mem_cons_self

/-- What comes of a URL with a web origin is absolute, and stays as it is with whatever origin it is
completed again, exactly if it was absolute or the scheme of the origin is in small letters.
Otherwise a second origin is put in front of the first. -/
theorem completed_stable_iff (url : String) {origin : Origin} (web : origin.IsWeb) :
    let completed := prependHost url origin
    (isAbsolute completed = true ↔ Settled url origin) ∧
      ∀ again : Origin,
        (prependHost completed again = completed ↔ Settled url origin) ∧
          (¬ Settled url origin →
            prependHost completed again = again.text ++ "/" ++ completed) := by
  intro completed
  have known : isAbsolute completed = true ↔ Settled url origin := isAbsolute_prependHost_iff web
  refine ⟨known, fun again => ⟨prependHost_eq_self_iff.trans known, fun unsettled => ?_⟩⟩
  have relative : isAbsolute url = false := Bool.eq_false_iff.2 fun yes => unsettled (Or.inl yes)
  have still : isAbsolute completed = false :=
    Bool.eq_false_iff.2 fun yes => unsettled (known.1 yes)
  rw [prependHost_of_relative still, rooted_prependHost web relative, String.append_assoc]

theorem two_spellings_completed :
    let small : Origin := ⟨"https", "app.test", 443⟩
    let capital : Origin := ⟨"HttpS", "app.test", 443⟩
    small.IsWeb ∧ capital.IsWeb ∧
      prependHost (prependHost "/cb" small) capital = "https://app.test/cb" ∧
      prependHost (prependHost "/cb" capital) small =
        "https://app.test/HttpS://app.test/cb" := by
  intro small capital
  have plain : small.IsWeb := Or.inr (by decide)
  have spelled : capital.IsWeb := Or.inr (by decide)
  obtain ⟨-, stays⟩ := completed_stable_iff "/cb" plain
  obtain ⟨-, grows⟩ := completed_stable_iff "/cb" spelled
  have unsettled : ¬ Settled "/cb" capital := by
    unfold Settled
    decide
  refine ⟨plain, spelled, ?_, ?_⟩
  · rw [(stays capital).1.2 (Or.inr (Or.inr rfl))]
    decide
  · rw [(grows small).2 unsettled]
    decide

theorem capital_scheme_unstable :
    ¬ ∀ (url : String) (origin : Origin), origin.IsWeb →
      isAbsolute (prependHost url origin) = true ∧
        ∀ again : Origin, again.IsWeb →
          prependHost (prependHost url origin) again = prependHost url origin := by
  intro stable
  have web : (⟨"HTTP", "app.test", 80⟩ : Origin).IsWeb := Or.inl (by decide)
  obtain ⟨absolute, -⟩ := stable "/cb" ⟨"HTTP", "app.test", 80⟩ web
  exact absurd absolute (by decide)

end Url

end SignOn
