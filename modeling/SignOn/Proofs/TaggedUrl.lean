import SignOn.Proofs.AbsoluteUrl

/-!
Tagging a URL with a parameter and completing it with an origin. A parameter is written behind the
path and an origin in front of it, so neither gets in the way of the other: a tagged URL begins with
what it began with before, as long as that holds none of the marks a tag is written with. A URL that
is tagged first and completed later is the one that is completed first and tagged later.
-/

namespace SignOn

theorem Text.prefix_append_cons_iff {mark : Char} {start : List Char} (absent : mark ∉ start)
    (before after : List Char) : start <+: before ++ mark :: after ↔ start <+: before := by
  constructor
  · intro begins
    obtain ⟨rest, whole⟩ := begins
    rcases List.append_eq_append_iff.1 whole with ⟨more, same, -⟩ | ⟨more, same, back⟩
    · rw [same]
      apply List.prefix_append
    · cases more with
      | nil => simp [same]
      | cons c more =>
        have first : mark = c := (List.cons.inj back).1
        apply absurd _ absent
        simp [same, first]
  · intro begins
    exact begins.trans (List.prefix_append before _)

namespace Url

variable {front start : List Char}

theorem beforeFragment_append (fragmentless : '#' ∉ front) (cs : List Char) :
    beforeFragment (front ++ cs) = front ++ beforeFragment cs := by
  unfold beforeFragment
  rw [Text.cut_append_of_not_mem fragmentless]

theorem fragment_append (fragmentless : '#' ∉ front) (cs : List Char) :
    fragment (front ++ cs) = fragment cs := by
  unfold fragment
  rw [Text.cut_append_of_not_mem fragmentless]

theorem joined_append (queryless : '?' ∉ front) (url more : List Char) :
    joined (front ++ url) more = front ++ joined url more := by
  have same : '?' ∈ front ++ url ↔ '?' ∈ url := by simp [queryless]
  simp only [joined, same, List.append_assoc]

/-- What stands in front of a URL without opening a query or a fragment stays in front of it when
the URL is tagged. -/
theorem addParameter_append {front : String} (queryless : '?' ∉ front.toList)
    (fragmentless : '#' ∉ front.toList) (url name : String) (value : Option String) :
    addParameter (front ++ url) name value = front ++ addParameter url name value := by
  apply String.toList_inj.1
  calc (addParameter (front ++ url) name value).toList
      = joined (beforeFragment (front.toList ++ url.toList)) (assignment name value) ++
          fragment (front.toList ++ url.toList) := by
        rw [toList_addParameter, String.toList_append]
    _ = front.toList ++ (joined (beforeFragment url.toList) (assignment name value) ++
          fragment url.toList) := by
        rw [beforeFragment_append fragmentless, fragment_append fragmentless,
          joined_append queryless, List.append_assoc]
    _ = (front ++ addParameter url name value).toList := by
        rw [String.toList_append, toList_addParameter]

theorem prefix_iff_beforeFragment (fragmentless : '#' ∉ start) (cs : List Char) :
    start <+: cs ↔ start <+: beforeFragment cs := by
  have whole := Text.cut_append '#' cs
  unfold beforeFragment
  cases behind : (Text.cut '#' cs).2 with
  | none =>
    rw [behind, List.append_nil] at whole
    rw [← whole]
  | some after =>
    rw [behind] at whole
    calc start <+: cs
        ↔ start <+: (Text.cut '#' cs).1 ++ '#' :: after := by rw [← whole]
      _ ↔ start <+: (Text.cut '#' cs).1 := Text.prefix_append_cons_iff fragmentless _ _

theorem isPrefixOf_addParameter
    (unmarked : '?' ∉ start ∧ '&' ∉ start ∧ '#' ∉ start) (url name : String)
    (value : Option String) :
    start.isPrefixOf (addParameter url name value).toList = start.isPrefixOf url.toList := by
  obtain ⟨queryless, joinless, fragmentless⟩ := unmarked
  have apart : (if '?' ∈ beforeFragment url.toList then '&' else '?') ∉ start := by
    split
    · exact joinless
    · exact queryless
  have tagged : start <+: (addParameter url name value).toList ↔
      start <+: beforeFragment url.toList := by
    rw [toList_addParameter, joined, List.append_assoc, List.cons_append]
    apply Text.prefix_append_cons_iff apart
  rw [Bool.eq_iff_iff, List.isPrefixOf_iff_prefix, List.isPrefixOf_iff_prefix, tagged,
    prefix_iff_beforeFragment fragmentless url.toList]

theorem isAbsolute_addParameter (url name : String) (value : Option String) :
    isAbsolute (addParameter url name value) = isAbsolute url := by
  unfold isAbsolute
  rw [isPrefixOf_addParameter (by decide), isPrefixOf_addParameter (by decide)]

theorem rooted_addParameter (url name : String) (value : Option String) :
    rooted (addParameter url name value) = addParameter (rooted url) name value := by
  have unmarked : '?' ∉ "/".toList ∧ '&' ∉ "/".toList ∧ '#' ∉ "/".toList := by decide
  have begins := isPrefixOf_addParameter unmarked url name value
  unfold rooted
  rw [begins]
  by_cases slash : "/".toList.isPrefixOf url.toList = true
  · rw [if_pos slash, if_pos slash]
  · rw [if_neg slash, if_neg slash]
    symm
    apply addParameter_append <;> decide

/-- It does not matter whether a URL is tagged before it is completed or afterwards, whatever the
URL is, and tagging does not decide whether there is anything to complete. -/
theorem tagging_commutes_with_completing (url name : String) (value : Option String)
    {origin : Origin} (noQuery : '?' ∉ origin.scheme.toList ∧ '?' ∉ origin.server.toList)
    (noFragment : '#' ∉ origin.scheme.toList ∧ '#' ∉ origin.server.toList) :
    addParameter (prependHost url origin) name value =
        prependHost (addParameter url name value) origin ∧
      isAbsolute (addParameter url name value) = isAbsolute url := by
  have known := isAbsolute_addParameter url name value
  apply And.intro _ known
  cases absolute : isAbsolute url with
  | true =>
    rw [absolute] at known
    rw [prependHost_of_absolute absolute, prependHost_of_absolute known]
  | false =>
    have queryless := origin.not_mem_text (by decide) noQuery.1 noQuery.2
    have fragmentless := origin.not_mem_text (by decide) noFragment.1 noFragment.2
    rw [absolute] at known
    calc addParameter (prependHost url origin) name value
        = addParameter (origin.text ++ rooted url) name value := by
          rw [prependHost_of_relative absolute]
      _ = origin.text ++ addParameter (rooted url) name value :=
          addParameter_append queryless fragmentless _ _ _
      _ = origin.text ++ rooted (addParameter url name value) := by rw [rooted_addParameter]
      _ = prependHost (addParameter url name value) origin :=
          (prependHost_of_relative known origin).symm

theorem cut_short_url_commutes :
    let url := "http:/#//id.test?x"
    let origin : Origin := ⟨"HTTPS", "app.test", 8443⟩
    ('?' ∉ origin.scheme.toList ∧ '?' ∉ origin.server.toList) ∧
      ('#' ∉ origin.scheme.toList ∧ '#' ∉ origin.server.toList) ∧
      addParameter (prependHost url origin) "a b" (some "1") =
        "HTTPS://app.test:8443/http:/?a%20b=1#//id.test?x" ∧
      isAbsolute (addParameter url "a b" (some "1")) = false := by
  intro url origin
  have noQuery : '?' ∉ origin.scheme.toList ∧ '?' ∉ origin.server.toList := by decide
  have noFragment : '#' ∉ origin.scheme.toList ∧ '#' ∉ origin.server.toList := by decide
  have tagged : addParameter url "a b" (some "1") = "http:/?a%20b=1#//id.test?x" := by decide
  have relative : isAbsolute url = false := by decide
  obtain ⟨same, known⟩ :=
    tagging_commutes_with_completing url "a b" (some "1") noQuery noFragment
  refine ⟨noQuery, noFragment, ?_, known.trans relative⟩
  rw [same, tagged]
  decide

end Url

end SignOn
