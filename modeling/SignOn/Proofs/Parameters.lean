import SignOn.Proofs.Form
import SignOn.Proofs.JsonText

/-!
Parameters appended to a URL one at a time. Name and value are written as components, so the form
decoder reads them back from the query as they were given, behind the parameters that the URL had
before; the fragment stays where it is. Completing a URL with an origin leaves its parameters alone.
-/

namespace SignOn

theorem Text.not_mem_of_isBlank {text : String} {mark : Char} (blank : isBlank text = true)
    (seen : isSpace mark = false) : mark ∉ text.toList := by
  intro inside
  have unseen := List.all_eq_true.1 blank mark inside
  rw [seen] at unseen
  cases unseen

theorem Text.cut_append_of_not_mem {mark : Char} {before : List Char} (absent : mark ∉ before)
    (cs : List Char) :
    Text.cut mark (before ++ cs) = (before ++ (Text.cut mark cs).1, (Text.cut mark cs).2) := by
  induction before with
  | nil => rfl
  | cons c before ih =>
    have other : c ≠ mark := fun same => absent (same ▸ List.mem_cons_self)
    have rest := ih (fun inside => absent (List.mem_cons_of_mem c inside))
    simp only [List.cons_append, Text.cut, if_neg other, rest]

theorem Origin.not_mem_text (origin : Origin) {mark : Char}
    (special : mark ∉ ['-', ':', '/'] ∧ mark.isDigit = false)
    (scheme : mark ∉ origin.scheme.toList) (server : mark ∉ origin.server.toList) :
    mark ∉ origin.text.toList := by
  obtain ⟨other, digit⟩ := special
  simp only [List.mem_cons, List.not_mem_nil, or_false, not_or] at other
  have port : mark ∉ origin.portText.toList := by
    unfold Origin.portText
    split
    · exact List.not_mem_nil
    · rw [String.toList_append, List.mem_append]
      rintro (colon | written)
      · exact other.2.1 (List.mem_singleton.1 colon)
      · rcases Value.mem_intText written with sign | numeral
        · exact other.1 sign
        · rw [digit] at numeral
          cases numeral
  have divider : mark ∉ "://".toList := by
    change mark ∉ [':', '/', '/']
    simp [other]
  unfold Origin.text
  simp only [String.toList_append, List.mem_append]
  rintro (((inside | inside) | inside) | inside)
  · exact scheme inside
  · exact divider inside
  · exact server inside
  · exact port inside

namespace Percent

theorem formBytes_encodeChars (cs : List Char) :
    formBytes (encodeChars cs) = Utf8.encodeChars cs := by
  induction cs with
  | nil => rfl
  | cons c cs ih =>
    rw [encodeChars, List.flatMap_cons, formBytes_escapeChar]
    exact congrArg (Utf8.encodeChar c ++ ·) ih

theorem decodeFormChars_encodeChars (text : String) :
    decodeFormChars (encodeChars text.toList) = text := by
  rw [decodeFormChars, formBytes_encodeChars, Utf8.decodeLossy_encodeChars]
  exact String.ofList_toList

theorem not_mem_encodeChars {mark : Char} (special : isFormChar mark = false) (cs : List Char) :
    mark ∉ encodeChars cs := by
  intro member
  obtain ⟨source, -, inside⟩ := List.mem_flatMap.1 member
  rw [isFormChar_of_mem_escapeChar inside] at special
  cases special

theorem encodeChars_of_unreserved {cs : List Char} (plain : ∀ c ∈ cs, isUnreserved c = true) :
    encodeChars cs = cs := by
  induction cs with
  | nil => rfl
  | cons c cs ih =>
    have rest := ih fun other member => plain other (List.mem_cons_of_mem c member)
    rw [encodeChars, List.flatMap_cons, escapeChar, if_pos (plain c List.mem_cons_self)]
    exact congrArg (c :: ·) rest

theorem readField_name {part : List Char} {name : String}
    (plain : ∀ c ∈ name.toList, isUnreserved c = true)
    (written : (Text.cut '=' part).1 = name.toList) : (readField part).1 = name := by
  change decodeFormChars (Text.cut '=' part).1 = name
  rw [written]
  calc decodeFormChars name.toList
      = decodeFormChars (encodeChars name.toList) := by rw [encodeChars_of_unreserved plain]
    _ = name := decodeFormChars_encodeChars name

end Percent

namespace Url

theorem not_mem_assignment {mark : Char} (special : Percent.isFormChar mark = false)
    (other : mark ≠ '=') (name : String) (value : Option String) :
    mark ∉ assignment name value := by
  unfold assignment
  rw [List.mem_append, List.mem_cons]
  rintro (inside | equals | inside)
  · exact Percent.not_mem_encodeChars special _ inside
  · exact other equals
  · exact Percent.not_mem_encodeChars special _ inside

theorem decodeFormList_assignment (name : String) (value : Option String) :
    Percent.decodeFormList (assignment name value) = [(name, value.getD "")] := by
  have joined : '&' ∉ assignment name value := not_mem_assignment (by decide) (by decide) name value
  have nonempty : (! (assignment name value).isEmpty) = true := by
    unfold assignment
    cases Percent.encodeChars name.toList with
    | nil => rfl
    | cons c cs => rfl
  have apart : '=' ∉ Percent.encodeChars name.toList :=
    Percent.not_mem_encodeChars (by decide) name.toList
  have read : Percent.readField (assignment name value) = (name, value.getD "") := by
    unfold Percent.readField assignment
    rw [Text.cut_append_cons apart]
    simp only [Option.getD_some, Percent.decodeFormChars_encodeChars]
  unfold Percent.decodeFormList
  rw [List.splitOn_eq_singleton joined]
  simp only [List.filter_cons, nonempty, if_true, List.filter_nil, List.map_cons, List.map_nil,
    read]

theorem not_mem_beforeFragment (cs : List Char) : '#' ∉ beforeFragment cs :=
  Text.not_mem_cut '#' cs

theorem beforeFragment_append_fragment {before : List Char} (unfragmented : '#' ∉ before)
    (cs : List Char) : beforeFragment (before ++ fragment cs) = before := by
  unfold beforeFragment fragment
  cases (Text.cut '#' cs).2 with
  | none => rw [List.append_nil, Text.cut_of_not_mem unfragmented]
  | some after => rw [Text.cut_append_cons unfragmented]

theorem fragment_append_fragment {before : List Char} (unfragmented : '#' ∉ before)
    (cs : List Char) : fragment (before ++ fragment cs) = fragment cs := by
  unfold fragment
  cases (Text.cut '#' cs).2 with
  | none => rw [List.append_nil, Text.cut_of_not_mem unfragmented]
  | some after => rw [Text.cut_append_cons unfragmented]

theorem query_of_beforeFragment {cs before : List Char} (same : beforeFragment cs = before) :
    query cs = query before := by
  have unfragmented : '#' ∉ before := same ▸ not_mem_beforeFragment cs
  rw [query, query, same, beforeFragment_of_not_mem unfragmented]

theorem toList_addParameter (url name : String) (value : Option String) :
    (addParameter url name value).toList =
      joined (beforeFragment url.toList) (assignment name value) ++ fragment url.toList :=
  String.toList_ofList

/-- A parameter is joined to what stands in front of the fragment; the fragment is what it was. -/
theorem addParameter_parts (url name : String) (value : Option String) :
    beforeFragment (addParameter url name value).toList =
        joined (beforeFragment url.toList) (assignment name value) ∧
      fragment (addParameter url name value).toList = fragment url.toList := by
  have plain : '#' ∉ assignment name value := not_mem_assignment (by decide) (by decide) name value
  have whole := not_mem_joined (not_mem_beforeFragment url.toList) plain
  rw [toList_addParameter]
  exact ⟨beforeFragment_append_fragment whole url.toList,
    fragment_append_fragment whole url.toList⟩

theorem query_addParameter (url name : String) (value : Option String) :
    query (addParameter url name value).toList =
      (if '?' ∈ beforeFragment url.toList then query url.toList ++ ['&'] else []) ++
        assignment name value := by
  have plain : '#' ∉ assignment name value := not_mem_assignment (by decide) (by decide) name value
  rw [query_of_beforeFragment (addParameter_parts url name value).1,
    query_joined (not_mem_beforeFragment url.toList) plain, ← query_of_beforeFragment rfl]

/-- Behind the parameters that a URL has there comes the one that is added. -/
theorem parameters_addParameter (url name : String) (value : Option String) :
    parameters (addParameter url name value) = parameters url ++ [(name, value.getD "")] := by
  have plain : '#' ∉ assignment name value := not_mem_assignment (by decide) (by decide) name value
  unfold parameters
  rw [query_of_beforeFragment (addParameter_parts url name value).1,
    decodeFormList_joined (not_mem_beforeFragment url.toList) plain,
    ← query_of_beforeFragment rfl, decodeFormList_assignment]

theorem hasParameter_assignment (name : String) (value : Option String) (other : String) :
    ((assignment name value).splitOn '&').any (fun part =>
      ! part.isEmpty && (Text.cut '=' part).1 == other.toList) =
        (other == Percent.encode name) := by
  have joined : '&' ∉ assignment name value := not_mem_assignment (by decide) (by decide) name value
  have apart : '=' ∉ Percent.encodeChars name.toList :=
    Percent.not_mem_encodeChars (by decide) name.toList
  have nonempty : (assignment name value).isEmpty = false := by
    rw [List.isEmpty_eq_false_iff]
    simp [assignment]
  have written : (Text.cut '=' (assignment name value)).1 = (Percent.encode name).toList := by
    rw [assignment, Text.cut_append_cons apart, Percent.encode, String.toList_ofList]
  rw [List.splitOn_eq_singleton joined, List.any_cons, List.any_nil, Bool.or_false, nonempty,
    Bool.not_false, Bool.true_and, written, Bool.eq_iff_iff, beq_iff_eq, beq_iff_eq,
    String.toList_inj]
  exact eq_comm

theorem hasParameter_addParameter_eq (url name : String) (value : Option String) (other : String) :
    hasParameter (addParameter url name value) other =
      (hasParameter url other || other == Percent.encode name) := by
  unfold hasParameter
  rw [query_addParameter]
  by_cases mark : '?' ∈ beforeFragment url.toList
  · rw [if_pos mark, List.append_assoc, List.singleton_append, List.splitOn_append_cons_self,
      List.any_append, hasParameter_assignment]
  · rw [if_neg mark, List.nil_append, hasParameter_assignment, query_eq_nil mark]
    rfl

theorem hasParameter_addParameter {name : String}
    (plain : ∀ c ∈ name.toList, Percent.isUnreserved c = true) (url : String)
    (value : Option String) : hasParameter (addParameter url name value) name = true := by
  have same : Percent.encode name = name := by
    rw [Percent.encode, Percent.encodeChars_of_unreserved plain, String.ofList_toList]
  rw [hasParameter_addParameter_eq, same, beq_self_eq_true, Bool.or_true]

theorem hasParameter_eq_false {url name : String}
    (plain : ∀ c ∈ name.toList, Percent.isUnreserved c = true)
    (absent : ∀ field ∈ parameters url, field.1 ≠ name) : hasParameter url name = false := by
  unfold hasParameter
  rw [List.any_eq_false]
  intro part member assigns
  obtain ⟨nonempty, written⟩ := Bool.and_eq_true_iff.1 assigns
  have field : Percent.readField part ∈ parameters url :=
    List.mem_map_of_mem (List.mem_filter.2 ⟨member, nonempty⟩)
  exact absent _ field (Percent.readField_name plain (eq_of_beq written))

theorem query_append {front : List Char} (noQuery : '?' ∉ front) (noFragment : '#' ∉ front)
    (cs : List Char) : query (front ++ cs) = query cs := by
  unfold query beforeFragment
  rw [Text.cut_append_of_not_mem noFragment, Text.cut_append_of_not_mem noQuery]

theorem parameters_prependHost (url : String) {origin : Origin}
    (noQuery : '?' ∉ origin.scheme.toList ∧ '?' ∉ origin.server.toList)
    (noFragment : '#' ∉ origin.scheme.toList ∧ '#' ∉ origin.server.toList) :
    parameters (prependHost url origin) = parameters url := by
  unfold prependHost
  split
  · rfl
  · have queryless := origin.not_mem_text (by decide) noQuery.1 noQuery.2
    have fragmentless := origin.not_mem_text (by decide) noFragment.1 noFragment.2
    unfold parameters
    rw [String.toList_append, query_append queryless fragmentless]
    split
    · rfl
    · rw [String.toList_append]
      change Percent.decodeFormList (query (['/'] ++ url.toList)) = _
      rw [query_append (by decide) (by decide)]

theorem hasParameter_of_isBlank {url : String} (blank : Text.isBlank url = true) (name : String) :
    hasParameter url name = false := by
  have whole : query url.toList = [] := by
    unfold query beforeFragment
    rw [Text.cut_of_not_mem (Text.not_mem_of_isBlank blank (by decide)),
      Text.cut_of_not_mem (Text.not_mem_of_isBlank blank (by decide))]
    rfl
  unfold hasParameter
  rw [whole]
  rfl

theorem isBlank_addParameter (url name : String) (value : Option String) :
    Text.isBlank (addParameter url name value) = false := by
  apply eq_false_of_ne_true
  intro blank
  refine Text.not_mem_of_isBlank blank (show Text.isSpace '=' = false by decide) ?_
  unfold addParameter assignment
  simp

end Url

end SignOn
