import SignOn.Proofs.Utf8
import SignOn.Url

/-!
Forms and queries read back. A component that was encoded is read as the text it was made of; since
none of its characters is a separator, a form is taken apart where it was put together, and so is
the query of a URL that a form was appended to.
-/

namespace SignOn

theorem Text.cut_of_not_mem {mark : Char} {cs : List Char} (absent : mark ∉ cs) :
    Text.cut mark cs = (cs, none) := by
  induction cs with
  | nil => rfl
  | cons c cs ih =>
    have other : c ≠ mark := fun same => absent (same ▸ List.mem_cons_self)
    have rest := ih (fun inside => absent (List.mem_cons_of_mem c inside))
    simp only [Text.cut, if_neg other, rest]

theorem Text.cut_append_cons {mark : Char} {before : List Char} (absent : mark ∉ before)
    (after : List Char) : Text.cut mark (before ++ mark :: after) = (before, some after) := by
  induction before with
  | nil => exact if_pos rfl
  | cons c cs ih =>
    have other : c ≠ mark := fun same => absent (same ▸ List.mem_cons_self)
    have rest := ih (fun inside => absent (List.mem_cons_of_mem c inside))
    simp only [List.cons_append, Text.cut, if_neg other, rest]

theorem Text.cut_append_of_mem {mark : Char} {cs : List Char} (inside : mark ∈ cs)
    (more : List Char) :
    Text.cut mark (cs ++ more) = ((Text.cut mark cs).1, (Text.cut mark cs).2.map (· ++ more)) := by
  obtain ⟨before, after, rfl, first⟩ := List.eq_append_cons_of_mem inside
  rw [List.append_assoc, List.cons_append, Text.cut_append_cons first, Text.cut_append_cons first]
  rfl

namespace Percent

theorem hexValue_hexDigit : ∀ n < 16, hexValue? (hexDigit n) = some n := by
  decide

theorem isUnreserved_hexDigit : ∀ n < 16, isUnreserved (hexDigit n) = true := by
  decide

theorem formBytes_escapeByte (byte : UInt8) (rest : List Char) :
    formBytes (escapeByte byte ++ rest) = byte :: formBytes rest := by
  have bound := byte.toNat_lt
  have high := hexValue_hexDigit (byte.toNat / 16) (by omega)
  have low := hexValue_hexDigit (byte.toNat % 16) (by omega)
  unfold escapeByte
  rw [List.cons_append, List.cons_append, List.cons_append, List.nil_append, formBytes]
  simp only [high, low]
  rw [Nat.div_add_mod, UInt8.ofNat_toNat]

theorem formBytes_escapeBytes (bytes : List UInt8) (rest : List Char) :
    formBytes (bytes.flatMap escapeByte ++ rest) = bytes ++ formBytes rest := by
  induction bytes with
  | nil => rfl
  | cons byte bytes ih =>
    rw [List.flatMap_cons, List.append_assoc, formBytes_escapeByte, ih]
    rfl

theorem formBytes_cons {c : Char} (plain : c ≠ '%') (rest : List Char) :
    formBytes (c :: rest) = (if c = '+' then [0x20] else Utf8.encodeChar c) ++ formBytes rest := by
  rw [formBytes]
  -- What is left is that no escape begins here.
  intro a b cs same
  exact absurd same plain

theorem formBytes_escapeChar (c : Char) (rest : List Char) :
    formBytes (escapeChar c ++ rest) = Utf8.encodeChar c ++ formBytes rest := by
  unfold escapeChar
  by_cases plain : isUnreserved c = true
  · have percent : c ≠ '%' := by
      rintro rfl
      exact absurd plain (by decide)
    have plus : c ≠ '+' := by
      rintro rfl
      exact absurd plain (by decide)
    rw [if_pos plain, List.singleton_append, formBytes_cons percent, if_neg plus]
  · rw [if_neg plain]
    exact formBytes_escapeBytes (Utf8.encodeChar c) rest

theorem formBytes_escapeFormChar (c : Char) (rest : List Char) :
    formBytes (escapeFormChar c ++ rest) = Utf8.encodeChar c ++ formBytes rest := by
  unfold escapeFormChar
  by_cases space : c = ' '
  · subst space
    exact formBytes_cons (by decide) rest
  · rw [if_neg space]
    exact formBytes_escapeChar c rest

theorem formBytes_encodeFormChars (cs : List Char) :
    formBytes (encodeFormChars cs) = Utf8.encodeChars cs := by
  induction cs with
  | nil => rfl
  | cons c cs ih =>
    rw [encodeFormChars, List.flatMap_cons, formBytes_escapeFormChar]
    exact congrArg (Utf8.encodeChar c ++ ·) ih

theorem decodeFormChars_encodeFormChars (text : String) :
    decodeFormChars (encodeFormChars text.toList) = text := by
  rw [decodeFormChars, formBytes_encodeFormChars, Utf8.decodeLossy_encodeChars]
  exact String.ofList_toList

def isFormChar (c : Char) : Bool := isUnreserved c || c == '%' || c == '+'

theorem isFormChar_of_mem_escapeByte {byte : UInt8} {c : Char} (member : c ∈ escapeByte byte) :
    isFormChar c = true := by
  have bound := byte.toNat_lt
  simp only [escapeByte, List.mem_cons, List.not_mem_nil, or_false] at member
  rcases member with rfl | rfl | rfl
  · decide
  · rw [isFormChar, isUnreserved_hexDigit _ (by omega)]
    rfl
  · rw [isFormChar, isUnreserved_hexDigit _ (by omega)]
    rfl

theorem isFormChar_of_mem_escapeChar {source c : Char} (member : c ∈ escapeChar source) :
    isFormChar c = true := by
  unfold escapeChar at member
  split at member
  next plain =>
    rw [List.mem_singleton.1 member, isFormChar, plain]
    rfl
  next =>
    obtain ⟨byte, -, written⟩ := List.mem_flatMap.1 member
    exact isFormChar_of_mem_escapeByte written

theorem isFormChar_of_mem_encodeFormChars {cs : List Char} {c : Char}
    (member : c ∈ encodeFormChars cs) : isFormChar c = true := by
  obtain ⟨source, -, inside⟩ := List.mem_flatMap.1 member
  unfold escapeFormChar at inside
  split at inside
  · rw [List.mem_singleton.1 inside]
    decide
  · exact isFormChar_of_mem_escapeChar inside

theorem not_mem_encodeFormChars {mark : Char} (special : isFormChar mark = false)
    (cs : List Char) : mark ∉ encodeFormChars cs := by
  intro member
  rw [isFormChar_of_mem_encodeFormChars member] at special
  cases special

theorem not_mem_formField {mark : Char} (special : isFormChar mark = false) (other : mark ≠ '=')
    (field : String × String) : mark ∉ formField field := by
  unfold formField
  rw [List.mem_append, List.mem_cons]
  rintro (name | equals | value)
  · exact not_mem_encodeFormChars special _ name
  · exact other equals
  · exact not_mem_encodeFormChars special _ value

theorem not_mem_intercalate {mark : Char} (special : isFormChar mark = false)
    (equals : mark ≠ '=') (joiner : mark ≠ '&') (fields : Fields) :
    mark ∉ ['&'].intercalate (fields.map formField) := by
  apply Text.not_mem_intercalate
  · rwa [List.mem_singleton]
  · intro part member
    obtain ⟨field, -, rfl⟩ := List.mem_map.1 member
    exact not_mem_formField special equals field

theorem formField_nonempty (field : String × String) : (! (formField field).isEmpty) = true := by
  unfold formField
  cases encodeFormChars field.1.toList with
  | nil => rfl
  | cons c cs => rfl

theorem readField_formField (field : String × String) : readField (formField field) = field := by
  have apart : '=' ∉ encodeFormChars field.1.toList := not_mem_encodeFormChars (by decide) _
  unfold readField formField
  rw [Text.cut_append_cons apart]
  simp only [Option.getD_some, decodeFormChars_encodeFormChars]

theorem decodeFormList_intercalate (fields : Fields) :
    decodeFormList (['&'].intercalate (fields.map formField)) = fields := by
  cases fields with
  | nil => rfl
  | cons first rest =>
    have apart : ∀ part ∈ (first :: rest).map formField, '&' ∉ part := by
      intro part member
      obtain ⟨field, -, rfl⟩ := List.mem_map.1 member
      exact not_mem_formField (by decide) (by decide) field
    have whole : ∀ part ∈ (first :: rest).map formField, (! part.isEmpty) = true := by
      intro part member
      obtain ⟨field, -, rfl⟩ := List.mem_map.1 member
      exact formField_nonempty field
    rw [decodeFormList, List.splitOn_intercalate '&' apart (List.cons_ne_nil _ _),
      List.filter_eq_self.2 whole, List.map_map]
    have reads : readField ∘ formField = id := funext readField_formField
    rw [reads, List.map_id]

theorem decodeForm_encodeForm (fields : Fields) : decodeForm (encodeForm fields) = fields := by
  rw [decodeForm, encodeForm, String.toList_ofList, decodeFormList_intercalate]

theorem not_mem_encodeForm (fields : Fields) : '#' ∉ (encodeForm fields).toList := by
  rw [encodeForm, String.toList_ofList]
  exact not_mem_intercalate (by decide) (by decide) (by decide) fields

theorem decodeFormList_append (first second : List Char) :
    decodeFormList (first ++ '&' :: second) = decodeFormList first ++ decodeFormList second := by
  unfold decodeFormList
  rw [List.splitOn_append_cons_self, List.filter_append, List.map_append]

/-- The values that fields give to a name. -/
def valuesOf (name : String) (fields : Fields) : List String :=
  (fields.filter (·.1 == name)).map (·.2)

theorem valuesOf_append (name : String) (first second : Fields) :
    valuesOf name (first ++ second) = valuesOf name first ++ valuesOf name second := by
  rw [valuesOf, List.filter_append, List.map_append]
  rfl

theorem valuesOf_eq_nil {name : String} {fields : Fields}
    (absent : ∀ field ∈ fields, field.1 ≠ name) : valuesOf name fields = [] := by
  have none : fields.filter (·.1 == name) = [] :=
    List.filter_eq_nil_iff.2 fun field member same => absent field member (eq_of_beq same)
  rw [valuesOf, none]
  rfl

end Percent

namespace Url

theorem beforeFragment_of_not_mem {cs : List Char} (unfragmented : '#' ∉ cs) :
    beforeFragment cs = cs := by
  rw [beforeFragment, Text.cut_of_not_mem unfragmented]

/-- A URL with text joined to it, which goes on with the query or begins one. -/
def joined (url more : List Char) : List Char := url ++ (if '?' ∈ url then '&' else '?') :: more

theorem not_mem_joined {url more : List Char} (unfragmented : '#' ∉ url) (plain : '#' ∉ more) :
    '#' ∉ joined url more := by
  have joiner : '#' ≠ if '?' ∈ url then '&' else '?' := by split <;> decide
  unfold joined
  rw [List.mem_append, List.mem_cons]
  rintro (inside | mark | inside)
  · exact unfragmented inside
  · exact joiner mark
  · exact plain inside

theorem cut_joined (url more : List Char) :
    Text.cut '?' (joined url more) =
      ((Text.cut '?' url).1,
        some ((if '?' ∈ url then (Text.cut '?' url).2.getD [] ++ ['&'] else []) ++ more)) := by
  unfold joined
  by_cases mark : '?' ∈ url
  · obtain ⟨before, after, whole, first⟩ := List.eq_append_cons_of_mem mark
    rw [if_pos mark, if_pos mark, Text.cut_append_of_mem mark, whole, Text.cut_append_cons first]
    simp
  · rw [if_neg mark, if_neg mark, Text.cut_append_cons mark, Text.cut_of_not_mem mark,
      List.nil_append]

theorem query_joined {url more : List Char} (unfragmented : '#' ∉ url) (plain : '#' ∉ more) :
    query (joined url more) = (if '?' ∈ url then query url ++ ['&'] else []) ++ more := by
  rw [query, query, beforeFragment_of_not_mem (not_mem_joined unfragmented plain),
    beforeFragment_of_not_mem unfragmented, cut_joined]
  rfl

theorem query_eq_nil {cs : List Char} (bare : '?' ∉ beforeFragment cs) : query cs = [] := by
  rw [query, Text.cut_of_not_mem bare]
  rfl

theorem decodeFormList_joined {url more : List Char} (unfragmented : '#' ∉ url)
    (plain : '#' ∉ more) :
    Percent.decodeFormList (query (joined url more)) =
      Percent.decodeFormList (query url) ++ Percent.decodeFormList more := by
  rw [query_joined unfragmented plain]
  by_cases mark : '?' ∈ url
  · rw [if_pos mark, List.append_assoc, List.singleton_append, Percent.decodeFormList_append]
  · have bare : query url = [] := by
      apply query_eq_nil
      rwa [beforeFragment_of_not_mem unfragmented]
    rw [if_neg mark, bare]
    rfl

theorem toList_append_form (url form : String) :
    (url ++ (if '?' ∈ url.toList then "&" else "?") ++ form).toList =
      joined url.toList form.toList := by
  unfold joined
  by_cases mark : '?' ∈ url.toList
  · simp [mark]
  · simp [mark]

theorem parameters_append_form (url : String) (fields : Percent.Fields)
    (unfragmented : '#' ∉ url.toList) :
    parameters (url ++ (if '?' ∈ url.toList then "&" else "?") ++ Percent.encodeForm fields) =
      parameters url ++ fields := by
  unfold parameters
  rw [toList_append_form, decodeFormList_joined unfragmented (Percent.not_mem_encodeForm fields)]
  exact congrArg (parameters url ++ ·) (Percent.decodeForm_encodeForm fields)

end Url

end SignOn
