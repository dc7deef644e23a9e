import SignOn.Proofs.Enrichment

/-!
Attributes that name several authorities: a list of tokens, or one text with a mark between them.
Splitting a text at the mark gives back what was joined by it, and stripping takes away whatever
blanks stand around a token, whether the mark is itself a blank or not. So both forms grant the same.
-/

namespace SignOn

namespace Text

theorem pieces_singleton (mark : Char) (cs : List Char) : pieces [mark] 0 cs = cs.splitOn mark := by
  induction cs with
  | nil => rfl
  | cons c cs ih =>
    rw [pieces, List.splitOn, List.splitOnP_cons_eq_if_modifyHead]
    by_cases here : c = mark
    · subst here
      simp only [List.isPrefixOf, beq_self_eq_true, Bool.and_self, if_true]
      exact congrArg ([] :: ·) ih
    · have away : (mark == c) = false := beq_false_of_ne fun same => here same.symm
      simp only [List.isPrefixOf, away, beq_false_of_ne here, Bool.false_and, Bool.false_eq_true,
        if_false]
      exact congrArg (List.modifyHead (c :: ·)) ih

/-- Splitting gives back what was joined, provided no item has the mark in it. -/
theorem splitBy_intercalate {mark : Char} {items : List String}
    (apart : ∀ item ∈ items, mark ∉ item.toList) (some : items ≠ []) :
    splitBy (String.singleton mark) ((String.singleton mark).intercalate items) = items := by
  have lists : ∀ item ∈ items.map String.toList, mark ∉ item := by
    intro list member
    obtain ⟨item, inside, rfl⟩ := List.mem_map.1 member
    exact apart item inside
  have nonempty : items.map String.toList ≠ [] := fun none => some (List.map_eq_nil_iff.1 none)
  rw [splitBy, String.toList_singleton, String.toList_intercalate, String.toList_singleton,
    pieces_singleton, List.splitOn_intercalate mark lists nonempty, List.map_map]
  simp

/-- A text that is not blank, without blanks at its ends and without the mark anywhere. -/
structure Token (mark : Char) (text : String) : Prop where
  begins : ∃ c, text.toList.head? = some c ∧ isSpace c = false
  ends : ∃ c, text.toList.getLast? = some c ∧ isSpace c = false
  apart : mark ∉ text.toList

/-- Blanks other than the mark, any number of them. -/
def Blanks (mark : Char) (text : String) : Prop :=
  ∀ c ∈ text.toList, isSpace c = true ∧ c ≠ mark

/-- Tokens and the items in which they stand: each token in one item, with blanks before and after
it, and in between items of nothing but blanks. -/
inductive Padded (mark : Char) : List String → List String → Prop
  | nil : Padded mark [] []
  | blank {blanks : String} {tokens items : List String} :
      Blanks mark blanks → Padded mark tokens items → Padded mark tokens (blanks :: items)
  | token {before token after : String} {tokens items : List String} :
      Blanks mark before → Token mark token → Blanks mark after → Padded mark tokens items →
        Padded mark (token :: tokens) ((before ++ token ++ after) :: items)

variable {mark : Char} {before token after : String} {tokens items : List String}

theorem blanks_empty (mark : Char) : Blanks mark "" := nofun

theorem Blanks.isBlank {blanks : String} (blank : Blanks mark blanks) : isBlank blanks = true :=
  List.all_eq_true.2 fun c inside => (blank c inside).1

theorem Blanks.apart {blanks : String} (blank : Blanks mark blanks) : mark ∉ blanks.toList :=
  fun inside => (blank mark inside).2 rfl

theorem Token.isBlank_between (solid : Token mark token) :
    isBlank (before ++ token ++ after) = false := by
  obtain ⟨c, first, seen⟩ := solid.begins
  rw [isBlank, List.all_eq_false]
  refine ⟨c, ?_, Bool.eq_false_iff.1 seen⟩
  rw [String.toList_append, String.toList_append]
  exact List.mem_append_left _ (List.mem_append_right _ (List.mem_of_head? first))

theorem Token.strip_between (first : Blanks mark before) (solid : Token mark token)
    (last : Blanks mark after) : strip (before ++ token ++ after) = token := by
  have begins : ∀ c ∈ token.toList.head?, isSpace c = false := by
    obtain ⟨c, here, seen⟩ := solid.begins
    rw [here]
    rintro c ⟨⟩
    exact seen
  have ends : ∀ c ∈ token.toList.getLast?, isSpace c = false := by
    obtain ⟨c, here, seen⟩ := solid.ends
    rw [here]
    rintro c ⟨⟩
    exact seen
  rw [strip, String.toList_append, String.toList_append, List.append_assoc,
    trim_of_ends (fun c inside => (first c inside).1) begins ends
      (fun c inside => (last c inside).1), String.ofList_toList]

theorem Padded.bare (padded : Padded mark tokens items) : Padded mark tokens tokens := by
  induction padded with
  | nil => exact .nil
  | blank _ _ ih => exact ih
  | token _ solid _ _ ih =>
    have alone := Padded.token (blanks_empty mark) solid (blanks_empty mark) ih
    rwa [String.empty_append, String.append_empty] at alone

theorem Padded.apart (padded : Padded mark tokens items) : ∀ item ∈ items, mark ∉ item.toList := by
  induction padded with
  | nil => exact nofun
  | blank blank _ ih => exact List.forall_mem_cons.2 ⟨blank.apart, ih⟩
  | token first solid last _ ih =>
    refine List.forall_mem_cons.2 ⟨?_, ih⟩
    rw [String.toList_append, String.toList_append, List.mem_append, List.mem_append]
    rintro ((inside | inside) | inside)
    · exact first.apart inside
    · exact solid.apart inside
    · exact last.apart inside

end Text

namespace Generator

variable {mark : Char} {tokens items : List String}

theorem tidy_cons (item : String) (items : List String) :
    tidy (item :: items) =
      if Text.isBlank item then tidy items else Text.strip item :: tidy items := by
  unfold tidy
  cases blank : Text.isBlank item with
  | true => rw [List.filter_cons_of_neg (by simp [blank]), if_pos rfl]
  | false =>
    rw [List.filter_cons_of_pos (by simp [blank]), List.map_cons, if_neg Bool.false_ne_true]

/-- Of padded tokens there remain the tokens. -/
theorem tidy_padded (padded : Text.Padded mark tokens items) : tidy items = tokens := by
  induction padded with
  | nil => rfl
  | blank blank _ ih => rw [tidy_cons, if_pos blank.isBlank, ih]
  | token first solid last _ ih =>
    rw [tidy_cons, solid.isBlank_between, if_neg Bool.false_ne_true,
      Text.Token.strip_between first solid last, ih]

theorem items?_list (padded : Text.Padded mark tokens items) (separator : String) :
    items? separator (.list (tokens.map .text)) = some tokens := by
  have shown : (tokens.map Value.text).map Value.display = tokens := by
    rw [List.map_map]
    exact List.map_id tokens
  rw [items?, shown, tidy_padded padded.bare]

theorem items?_joined (padded : Text.Padded mark tokens items) :
    items? (String.singleton mark) (.text ((String.singleton mark).intercalate items)) =
      some tokens := by
  have divides : String.singleton mark ≠ "" := String.singleton_ne_empty
  rw [items?, if_neg divides]
  by_cases none : items = []
  · subst none
    cases padded
    rfl
  · change some (tidy (Text.splitBy _ ((String.singleton mark).intercalate items))) = _
    rw [Text.splitBy_intercalate padded.apart none, tidy_padded padded]
  -- A text is of none of the forms that are tried before.
  all_goals nofun

end Generator

namespace Profile

variable {separator key : String} {value : Value} {tokens : List String}

theorem readings_addAttribute (whole : value ≠ .null)
    (stands : Generator.items? separator value = some tokens) (profile : Profile)
    (names : List String) :
    (profile.addAttribute key value).readings separator names =
      names.flatMap fun name =>
        if name = key then tokens else profile.readings separator [name] := by
  unfold readings
  congr 1
  funext name
  by_cases here : name = key
  · rw [if_pos here, here, get?_addAttribute whole, Option.getD_some, stands, Option.getD_some]
  · rw [if_neg here, get?_addAttribute_of_apart fun same => absurd same here,
      List.flatMap_singleton]

end Profile

/-- A generator that reads attributes grants the same, and in the same order, whether an attribute
is a list of tokens or a text of the tokens with the mark between them that texts are split at,
however many blanks there are around the tokens and however many empty items between them. What the
attribute gives are the tokens. -/
theorem list_and_text_grant_alike {mark : Char} {tokens items : List String}
    (padded : Text.Padded mark tokens items) (profile : Profile) (key : String)
    (roleKeys permissionKeys : List String) :
    let separator := String.singleton mark
    let generator := Generator.fromAttributes roleKeys permissionKeys separator
    let listed := profile.addAttribute key (.list (tokens.map .text))
    let joined := profile.addAttribute key (.text (separator.intercalate items))
    ∃ roles permissions,
      generator.generate listed = .ok { listed with roles, permissions } ∧
      generator.generate joined = .ok { joined with roles, permissions } ∧
      (key ∈ roleKeys → ∀ token ∈ tokens, token ∈ roles) ∧
      (key ∈ permissionKeys → ∀ token ∈ tokens, token ∈ permissions) := by
  intro separator generator listed joined
  have divides : separator ≠ "" := String.singleton_ne_empty
  let read (names : List String) : List String :=
    names.flatMap fun name =>
      if name = key then tokens else profile.readings separator [name]
  have isList : Value.list (tokens.map .text) ≠ .null := nofun
  have isText : Value.text (separator.intercalate items) ≠ .null := nofun
  have byList (names : List String) : listed.readings separator names = read names :=
    profile.readings_addAttribute isList (Generator.items?_list padded separator) names
  have byText (names : List String) : joined.readings separator names = read names :=
    profile.readings_addAttribute isText (Generator.items?_joined padded) names
  have named {names : List String} (inside : key ∈ names) (held : List String) :
      ∀ token ∈ tokens, token ∈ grant held (read names) := by
    intro token member
    exact mem_grant.2 (Or.inr (List.mem_flatMap.2 ⟨key, inside, by rwa [if_pos rfl]⟩))
  refine ⟨grant profile.roles (read roleKeys), grant profile.permissions (read permissionKeys),
    ?_, ?_, fun inside => named inside _, fun inside => named inside _⟩
  · rw [Generator.generate_fromAttributes roleKeys permissionKeys divides, byList, byList]
    rfl
  · rw [Generator.generate_fromAttributes roleKeys permissionKeys divides, byText, byText]
    rfl

theorem spaced_groups_granted :
    let profile : Profile := { id := "jo", roles := ["dev"] }
    let text := " \tdev\t  night\tshift \t"
    Text.Padded ' ' ["dev", "night\tshift"] ["", "\tdev\t", "", "night\tshift", "\t"] ∧
      ∃ roles permissions,
        (Generator.fromAttributes ["groups"] [] " ").generate
            (profile.addAttribute "groups" (.text text)) =
          .ok { profile.addAttribute "groups" (.text text) with roles, permissions } ∧
        "night\tshift" ∈ roles := by
  intro profile text
  have tab : Text.Blanks ' ' "\t" := by
    intro c inside
    rw [List.mem_singleton.1 inside]
    decide
  have nothing := Text.blanks_empty ' '
  have dev : Text.Token ' ' "dev" :=
    ⟨⟨'d', rfl, by decide⟩, ⟨'v', rfl, by decide⟩, by decide⟩
  have shift : Text.Token ' ' "night\tshift" :=
    ⟨⟨'n', rfl, by decide⟩, ⟨'t', rfl, by decide⟩, by decide⟩
  have padded : Text.Padded ' ' ["dev", "night\tshift"]
      ["", "\tdev\t", "", "night\tshift", "\t"] :=
    .blank nothing (.token tab dev tab (.blank nothing (.token nothing shift nothing
      (.blank tab .nil))))
  obtain ⟨roles, permissions, -, granted, held, -⟩ :=
    list_and_text_grant_alike padded profile "groups" ["groups"] []
  exact ⟨padded, roles, permissions, granted,
    held List.mem_cons_self _ (List.mem_cons_of_mem _ List.mem_cons_self)⟩

end SignOn
