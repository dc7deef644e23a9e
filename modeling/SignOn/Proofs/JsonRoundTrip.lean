import SignOn.Proofs.JsonText

/-!
Reading back the values of JSON. What is written for a value without floating-point numbers, tuples
and sets is read as that value, wherever a comma or the end of the line follows it. The text of a
value is fuel enough to read it: each item and each entry takes at least one character.
-/

namespace SignOn

/-- The values that a file keeps: numbers are not too long, the keys of a table differ, and lists
and tables stand in one another up to a number of levels. -/
inductive Value.Storable : Nat → Value → Prop where
  | null (levels : Nat) : Storable levels .null
  | bool (levels : Nat) (b : Bool) : Storable levels (.bool b)
  | int (levels : Nat) {n : Int} (fits : n.natAbs < 10 ^ Json.mostDigits) : Storable levels (.int n)
  | text (levels : Nat) (s : String) : Storable levels (.text s)
  | list {levels : Nat} {items : List Value} (inside : ∀ item ∈ items, Storable levels item) :
      Storable (levels + 1) (.list items)
  | table {levels : Nat} {entries : Entries Value} (distinct : (entries.map (·.1)).Nodup)
      (inside : ∀ entry ∈ entries, Storable levels entry.2) : Storable (levels + 1) (.table entries)

theorem Value.Storable.mono {levels more : Nat} {value : Value} (storable : Storable levels value)
    (least : levels ≤ more) : Storable more value := by
  induction storable generalizing more with
  | null => exact .null more
  | bool _ b => exact .bool more b
  | int _ fits => exact .int more fits
  | text _ s => exact .text more s
  | list _ ih =>
    cases more with
    | zero => cases least
    | succ more => exact .list fun item member => ih item member (Nat.le_of_succ_le_succ least)
  | table distinct _ ih =>
    cases more with
    | zero => cases least
    | succ more =>
      exact .table distinct fun entry member => ih entry member (Nat.le_of_succ_le_succ least)

namespace Entries

variable {α : Type}

theorem put_of_not_mem {entries : Entries α} {key : String} (new : key ∉ entries.map (·.1))
    (item : α) : entries.put key item = entries ++ [(key, item)] := by
  induction entries with
  | nil => rfl
  | cons entry rest ih =>
    rw [List.map_cons, List.mem_cons, not_or] at new
    rw [put, if_neg (Ne.symm new.1), ih new.2]
    rfl

theorem ofList_of_nodup {entries : Entries α} (distinct : (entries.map (·.1)).Nodup) :
    Entries.ofList entries = entries := by
  have written (before after : Entries α) (apart : ((before ++ after).map (·.1)).Nodup) :
      after.foldl (fun entries entry => entries.put entry.1 entry.2) before = before ++ after := by
    induction after generalizing before with
    | nil => exact (List.append_nil before).symm
    | cons entry rest ih =>
      have new : entry.1 ∉ before.map (·.1) := by
        rw [List.map_append, List.map_cons] at apart
        intro old
        obtain ⟨-, -, differ⟩ := List.nodup_append.1 apart
        exact differ _ old _ List.mem_cons_self rfl
      rw [List.foldl_cons, put_of_not_mem new, ih, List.append_assoc, List.singleton_append]
      rwa [List.append_assoc, List.singleton_append]
  exact written [] entries distinct

end Entries

namespace Json

theorem writeItems_eq_map (charset : Charset) (depth : Nat) (items : List Value) :
    writeItems charset depth items = items.map (write charset depth) := by
  induction items with
  | nil => rfl
  | cons item rest ih => rw [writeItems, ih, List.map_cons]

def writeEntry (charset : Charset) (depth : Nat) (entry : String × Value) : List Char :=
  writeString charset entry.1.toList ++ ':' :: ' ' :: write charset depth entry.2

theorem writeEntries_eq_map (charset : Charset) (depth : Nat) (entries : Entries Value) :
    writeEntries charset depth entries = entries.map (writeEntry charset depth) := by
  induction entries with
  | nil => rfl
  | cons entry rest ih =>
    obtain ⟨key, item⟩ := entry
    rw [writeEntries, ih, List.map_cons]
    rfl

variable {charset : Charset}

theorem skipGap_margin (depth : Nat) (cs : List Char) :
    skipGap (margin depth ++ cs) = skipGap cs := by
  unfold skipGap margin
  refine List.dropWhile_append_of_pos fun c member => ?_
  rcases List.mem_cons.1 member with line | blank
  · rw [line]
    rfl
  · rw [List.eq_of_mem_replicate blank]
    rfl

theorem ends_margin (depth : Nat) (cs : List Char) : Ends (margin depth ++ cs) := .line _

theorem ends_comma (depth : Nat) (cs : List Char) : Ends (',' :: margin depth ++ cs) := .comma _

theorem skipGap_comma (depth : Nat) (cs : List Char) :
    skipGap (',' :: margin depth ++ cs) = ',' :: (margin depth ++ cs) := rfl

def Opens (cs : List Char) : Prop :=
  ∃ c tail, cs = c :: tail ∧ isGap c = false ∧ c ∉ [']', '}', '\uFEFF']

theorem Opens.append {cs : List Char} (opens : Opens cs) (more : List Char) :
    Opens (cs ++ more) := by
  obtain ⟨c, tail, rfl, first⟩ := opens
  exact ⟨c, tail ++ more, rfl, first⟩

theorem opens_intercalate {part : List Char} (opens : Opens part) (between : List Char)
    (parts : List (List Char)) : Opens (between.intercalate (part :: parts)) := by
  cases parts with
  | nil => rwa [List.intercalate_singleton]
  | cons next parts =>
    rw [List.intercalate_cons_cons, List.append_assoc]
    exact opens.append _

theorem skipGap_of_opens {cs : List Char} (opens : Opens cs) (rest : List Char) :
    skipGap (cs ++ rest) = cs ++ rest := by
  obtain ⟨c, tail, rfl, stays, -⟩ := opens
  rw [List.cons_append]
  exact List.dropWhile_cons_of_neg (by rw [stays]; exact Bool.false_ne_true)

theorem not_isGap_of_isDigit {c : Char} (digit : c.isDigit = true) : isGap c = false := by
  cases gap : isGap c with
  | false => rfl
  | true =>
    unfold isGap at gap
    simp only [Bool.or_eq_true, beq_iff_eq] at gap
    rcases gap with ((rfl | rfl) | rfl) | rfl
    all_goals exact absurd digit (by decide)

theorem enclose_begins (opening closing : Char) (depth : Nat) (parts : List (List Char)) :
    ∃ tail, enclose opening closing depth parts = opening :: tail := by
  cases parts with
  | nil => exact ⟨_, rfl⟩
  | cons part rest => exact ⟨_, rfl⟩

theorem intText_begins (n : Int) : ∃ c tail, (Value.intText n).toList = c :: tail ∧
    (c = '-' ∨ c.isDigit = true) := by
  obtain ⟨c, tail, digits, digit⟩ := toDigits_first n.natAbs
  rw [Value.toList_intText, digits]
  by_cases negative : n < 0
  · rw [if_pos negative]
    exact ⟨'-', _, rfl, Or.inl rfl⟩
  · rw [if_neg negative]
    exact ⟨c, tail, rfl, Or.inr digit⟩

theorem opens_write {levels : Nat} {value : Value} (storable : Value.Storable levels value)
    (depth : Nat) : Opens (write charset depth value) := by
  cases storable with
  | null => exact ⟨'n', _, rfl, by decide⟩
  | bool _ b =>
    cases b with
    | false => exact ⟨'f', _, rfl, by decide⟩
    | true => exact ⟨'t', _, rfl, by decide⟩
  | int _ fits =>
    rename_i n
    obtain ⟨c, tail, written, minus | digit⟩ := intText_begins n
    · exact ⟨c, tail, written, minus ▸ by decide⟩
    · refine ⟨c, tail, written, not_isGap_of_isDigit digit, fun closes => ?_⟩
      have none : ∀ mark ∈ [']', '}', '\uFEFF'], mark.isDigit = false := by simp
      rw [none c closes] at digit
      cases digit
  | text _ s => exact ⟨'"', _, rfl, by decide⟩
  | list inside =>
    obtain ⟨tail, begins⟩ := enclose_begins '[' ']' depth (writeItems charset (depth + 1) _)
    exact ⟨'[', tail, begins, by decide⟩
  | table distinct inside =>
    obtain ⟨tail, begins⟩ := enclose_begins '{' '}' depth (writeEntries charset (depth + 1) _)
    exact ⟨'{', tail, begins, by decide⟩

theorem value_of_scalar {cs : List Char} {c : Char} {tail : List Char} (begins : cs = c :: tail)
    (plain : c = '-' ∨ c.isDigit = true) (fuel levels : Nat) :
    value (fuel + 1) levels cs = scalar cs := by
  subst begins
  have apart (other : Char) (letter : other.isDigit = false) (differs : other ≠ '-') :
      c ≠ other := by
    rintro rfl
    rcases plain with minus | digit
    · exact differs minus
    · rw [letter] at digit
      cases digit
  rw [value]
  · intro rest same
    exact apart '"' (by decide) (by decide) (List.cons.inj same).1
  · intro rest same
    exact apart '[' (by decide) (by decide) (List.cons.inj same).1
  · intro rest same
    exact apart '{' (by decide) (by decide) (List.cons.inj same).1

/-- Whatever the depth and the fuel, the text of a value in front of what ends it is read as that
value. -/
def ReadsBack (charset : Charset) (levels : Nat) (item : Value) : Prop :=
  ∀ depth fuel rest, (write charset depth item).length ≤ fuel → Ends rest →
    value fuel levels (write charset depth item ++ rest) = .ok (item, rest)

variable {levels : Nat}

theorem readsBack_null : ReadsBack charset levels .null := by
  intro depth fuel rest enough ends
  cases fuel with
  | zero => cases enough
  | succ fuel => rfl

theorem readsBack_bool (b : Bool) : ReadsBack charset levels (.bool b) := by
  intro depth fuel rest enough ends
  cases fuel with
  | zero => cases b <;> cases enough
  | succ fuel => cases b <;> rfl

theorem readsBack_int {n : Int} (fits : n.natAbs < 10 ^ mostDigits) :
    ReadsBack charset levels (.int n) := by
  intro depth fuel rest enough ends
  change (Value.intText n).toList.length ≤ fuel at enough
  change value fuel levels ((Value.intText n).toList ++ rest) = _
  obtain ⟨c, tail, written, plain⟩ := intText_begins n
  cases fuel with
  | zero =>
    rw [written] at enough
    cases enough
  | succ fuel =>
    have begins : (Value.intText n).toList ++ rest = c :: (tail ++ rest) := by
      rw [written]
      rfl
    rw [value_of_scalar begins plain]
    exact scalar_intText fits ends

theorem readsBack_text (s : String) : ReadsBack charset levels (.text s) := by
  intro depth fuel rest enough ends
  cases fuel with
  | zero => cases enough
  | succ fuel =>
    change value (fuel + 1) levels
      ('"' :: (s.toList.flatMap (escapeChar charset) ++ ['"']) ++ rest) = _
    rw [List.cons_append, List.append_assoc, List.singleton_append, value, string_writeString]
    rfl

section

variable {fuel : Nat} {cs named valued rest more left : List Char} {item : Value} {key : String}

theorem items_last (read : value fuel levels cs = .ok (item, rest))
    (closes : skipGap rest = ']' :: left) : items (fuel + 1) levels cs = .ok ([item], left) := by
  rw [items, read]
  simp only [bind, Except.bind, closes]

theorem items_more {others : List Value} (read : value fuel levels cs = .ok (item, rest))
    (comma : skipGap rest = ',' :: more)
    (further : items fuel levels (skipGap more) = .ok (others, left)) :
    items (fuel + 1) levels cs = .ok (item :: others, left) := by
  rw [items, read]
  simp only [bind, Except.bind, comma, further]

theorem members_last (name : string named = .ok (key, ':' :: valued))
    (read : value fuel levels (skipGap valued) = .ok (item, rest))
    (closes : skipGap rest = '}' :: left) :
    members (fuel + 1) levels ('"' :: named) = .ok ([(key, item)], left) := by
  have colon : skipGap (':' :: valued) = ':' :: valued := rfl
  rw [members, name]
  simp only [bind, Except.bind, colon, read, closes]

theorem members_more {others : List (String × Value)}
    (name : string named = .ok (key, ':' :: valued))
    (read : value fuel levels (skipGap valued) = .ok (item, rest))
    (comma : skipGap rest = ',' :: more)
    (further : members fuel levels (skipGap more) = .ok (others, left)) :
    members (fuel + 1) levels ('"' :: named) = .ok ((key, item) :: others, left) := by
  have colon : skipGap (':' :: valued) = ':' :: valued := rfl
  rw [members, name]
  simp only [bind, Except.bind, colon, read, comma, further]

end

theorem items_of_readsBack {above depth fuel : Nat} {first : Value} {more : List Value}
    (rest : List Char) (reads : ∀ item ∈ first :: more, ReadsBack charset levels item)
    (opens : ∀ item ∈ first :: more, Opens (write charset depth item))
    (enough : ((',' :: margin depth).intercalate
      ((first :: more).map (write charset depth))).length < fuel) :
    items fuel levels ((',' :: margin depth).intercalate
      ((first :: more).map (write charset depth)) ++ (margin above ++ ']' :: rest)) =
        .ok (first :: more, rest) := by
  induction more generalizing first fuel with
  | nil =>
    cases fuel with
    | zero => cases enough
    | succ fuel =>
      simp only [List.map_cons, List.map_nil, List.intercalate_singleton] at enough ⊢
      exact items_last (reads first List.mem_cons_self depth fuel _ (Nat.le_of_lt_succ enough)
        (ends_margin above _)) (skipGap_margin above _)
  | cons second more ih =>
    cases fuel with
    | zero => cases enough
    | succ fuel =>
      have next := opens_intercalate (opens second (by simp)) (',' :: margin depth)
        (more.map (write charset depth))
      rw [List.map_cons, List.map_cons, List.intercalate_cons_cons] at enough ⊢
      simp only [List.length_append, List.length_cons] at enough
      rw [List.append_assoc, List.append_assoc]
      refine items_more (reads first List.mem_cons_self depth fuel _ (by omega)
        (ends_comma depth _))
        (skipGap_comma depth _) ?_
      rw [skipGap_margin, skipGap_of_opens next]
      apply ih
      · exact fun item member => reads item (List.mem_cons_of_mem _ member)
      · exact fun item member => opens item (List.mem_cons_of_mem _ member)
      · rw [List.map_cons]
        omega

theorem opens_writeEntry (charset : Charset) (depth : Nat) (entry : String × Value) :
    Opens (writeEntry charset depth entry) := ⟨'"', _, rfl, by decide⟩

theorem entry_of_readsBack {depth fuel : Nat} {entry : String × Value} {rest : List Char}
    (reads : ReadsBack charset levels entry.2) (opens : Opens (write charset depth entry.2))
    (enough : (writeEntry charset depth entry).length ≤ fuel) (ends : Ends rest) :
    ∃ named valued, writeEntry charset depth entry ++ rest = '"' :: named ∧
      string named = .ok (entry.1, ':' :: valued) ∧
      value fuel levels (skipGap valued) = .ok (entry.2, rest) := by
  refine ⟨entry.1.toList.flatMap (escapeChar charset) ++
    '"' :: ':' :: ' ' :: (write charset depth entry.2 ++ rest), _, ?_,
    string_writeString charset entry.1 _, ?_⟩
  · simp [writeEntry, writeString]
  · have shown : skipGap (' ' :: (write charset depth entry.2 ++ rest)) =
        write charset depth entry.2 ++ rest := skipGap_of_opens opens rest
    have shorter : (write charset depth entry.2).length ≤ fuel := by
      simp only [writeEntry, List.length_append, List.length_cons] at enough
      omega
    rw [shown]
    exact reads depth fuel rest shorter ends

theorem members_of_readsBack {above depth fuel : Nat} {first : String × Value}
    {more : List (String × Value)} (rest : List Char)
    (reads : ∀ entry ∈ first :: more, ReadsBack charset levels entry.2)
    (opens : ∀ entry ∈ first :: more, Opens (write charset depth entry.2))
    (enough : ((',' :: margin depth).intercalate
      ((first :: more).map (writeEntry charset depth))).length < fuel) :
    members fuel levels ((',' :: margin depth).intercalate
      ((first :: more).map (writeEntry charset depth)) ++ (margin above ++ '}' :: rest)) =
        .ok (first :: more, rest) := by
  induction more generalizing first fuel with
  | nil =>
    cases fuel with
    | zero => cases enough
    | succ fuel =>
      simp only [List.map_cons, List.map_nil, List.intercalate_singleton] at enough ⊢
      obtain ⟨named, valued, begins, name, read⟩ :=
        entry_of_readsBack (reads first List.mem_cons_self) (opens first List.mem_cons_self)
          (Nat.le_of_lt_succ enough) (ends_margin above ('}' :: rest))
      rw [begins]
      exact members_last name read (skipGap_margin above _)
  | cons second more ih =>
    cases fuel with
    | zero => cases enough
    | succ fuel =>
      have next := opens_intercalate (opens_writeEntry charset depth second) (',' :: margin depth)
        (more.map (writeEntry charset depth))
      rw [List.map_cons, List.map_cons, List.intercalate_cons_cons] at enough ⊢
      simp only [List.length_append, List.length_cons] at enough
      rw [List.append_assoc, List.append_assoc]
      obtain ⟨named, valued, begins, name, read⟩ :=
        entry_of_readsBack (reads first List.mem_cons_self) (opens first List.mem_cons_self)
          (show _ ≤ fuel by omega) (ends_comma depth _)
      rw [begins]
      refine members_more name read (skipGap_comma depth _) ?_
      rw [skipGap_margin, skipGap_of_opens next]
      apply ih
      · exact fun entry member => reads entry (List.mem_cons_of_mem _ member)
      · exact fun entry member => opens entry (List.mem_cons_of_mem _ member)
      · rw [List.map_cons]
        omega

section

variable {fuel depth : Nat} {part rest left : List Char} {parts : List (List Char)}

theorem enclose_cons (opening closing : Char) (depth : Nat) (part : List Char)
    (parts : List (List Char)) (rest : List Char) :
    enclose opening closing depth (part :: parts) ++ rest =
      opening :: (margin (depth + 1) ++ ((',' :: margin (depth + 1)).intercalate (part :: parts) ++
        (margin depth ++ closing :: rest))) := by
  simp [enclose]

theorem length_inside_lt {opening closing : Char}
    (enough : (enclose opening closing depth (part :: parts)).length ≤ fuel + 1) :
    ((',' :: margin (depth + 1)).intercalate (part :: parts)).length < fuel := by
  have whole := congrArg List.length (enclose_cons opening closing depth part parts [])
  simp only [List.length_append, List.length_cons, List.length_nil] at whole
  omega

theorem skipGap_inside (opens : Opens part) (depth : Nat) (parts : List (List Char))
    (after : List Char) :
    ∃ c tail, (',' :: margin (depth + 1)).intercalate (part :: parts) ++ after = c :: tail ∧
      skipGap (margin (depth + 1) ++ c :: tail) = c :: tail ∧ c ≠ ']' ∧ c ≠ '}' := by
  have inside := opens_intercalate opens (',' :: margin (depth + 1)) parts
  have begins := (skipGap_margin (depth + 1) _).trans (skipGap_of_opens inside after)
  obtain ⟨c, tail, same, -, none⟩ := inside.append after
  rw [same] at begins
  refine ⟨c, tail, same, begins, ?_, ?_⟩
  · rintro rfl
    exact none (by simp)
  · rintro rfl
    exact none (by simp)

theorem value_list {read : List Value} (opens : Opens part)
    (further : items fuel levels ((',' :: margin (depth + 1)).intercalate (part :: parts) ++
      (margin depth ++ ']' :: rest)) = .ok (read, left)) :
    value (fuel + 1) (levels + 1) (enclose '[' ']' depth (part :: parts) ++ rest) =
      .ok (.list read, left) := by
  obtain ⟨c, tail, same, begins, noBracket, -⟩ :=
    skipGap_inside opens depth parts (margin depth ++ ']' :: rest)
  rw [same] at further
  rw [enclose_cons, same]
  unfold value
  simp only [begins]
  split
  next empty => cases empty
  next closes _ => exact absurd (List.cons.inj closes).1 noBracket
  next opened _ =>
    cases opened
    rw [further]
    rfl

theorem value_table {read : List (String × Value)} (opens : Opens part)
    (further : members fuel levels ((',' :: margin (depth + 1)).intercalate (part :: parts) ++
      (margin depth ++ '}' :: rest)) = .ok (read, left)) :
    value (fuel + 1) (levels + 1) (enclose '{' '}' depth (part :: parts) ++ rest) =
      .ok (.table (Entries.ofList read), left) := by
  obtain ⟨c, tail, same, begins, -, noBrace⟩ :=
    skipGap_inside opens depth parts (margin depth ++ '}' :: rest)
  rw [same] at further
  rw [enclose_cons, same]
  unfold value
  simp only [begins]
  split
  next empty => cases empty
  next closes _ => exact absurd (List.cons.inj closes).1 noBrace
  next opened _ =>
    cases opened
    rw [further]
    rfl

end

theorem readsBack_list {items : List Value}
    (reads : ∀ item ∈ items, ReadsBack charset levels item)
    (opens : ∀ item ∈ items, ∀ depth, Opens (write charset depth item)) :
    ReadsBack charset (levels + 1) (.list items) := by
  intro depth fuel rest enough ends
  unfold write at enough ⊢
  rw [writeItems_eq_map] at enough ⊢
  cases fuel with
  | zero =>
    obtain ⟨tail, begins⟩ := enclose_begins '[' ']' depth (items.map (write charset (depth + 1)))
    rw [begins] at enough
    cases enough
  | succ fuel =>
    cases items with
    | nil => rfl
    | cons first more =>
      apply value_list (opens first List.mem_cons_self (depth + 1))
      apply items_of_readsBack rest reads
      · exact fun item member => opens item member (depth + 1)
      · exact length_inside_lt enough

theorem readsBack_table {entries : Entries Value} (distinct : (entries.map (·.1)).Nodup)
    (reads : ∀ entry ∈ entries, ReadsBack charset levels entry.2)
    (opens : ∀ entry ∈ entries, ∀ depth, Opens (write charset depth entry.2)) :
    ReadsBack charset (levels + 1) (.table entries) := by
  intro depth fuel rest enough ends
  unfold write at enough ⊢
  rw [writeEntries_eq_map] at enough ⊢
  cases fuel with
  | zero =>
    obtain ⟨tail, begins⟩ :=
      enclose_begins '{' '}' depth (entries.map (writeEntry charset (depth + 1)))
    rw [begins] at enough
    cases enough
  | succ fuel =>
    cases entries with
    | nil => rfl
    | cons first more =>
      have whole : Value.table (first :: more) = .table (Entries.ofList (first :: more)) := by
        rw [Entries.ofList_of_nodup distinct]
      rw [whole]
      apply value_table (opens_writeEntry charset (depth + 1) first)
      apply members_of_readsBack rest reads
      · exact fun entry member => opens entry member (depth + 1)
      · exact length_inside_lt enough

/-- What is written for a value that a file keeps is read as that value. -/
theorem readsBack_of_storable {value : Value} (storable : Value.Storable levels value) :
    ReadsBack charset levels value := by
  induction storable with
  | null => exact readsBack_null
  | bool _ b => exact readsBack_bool b
  | int _ fits => exact readsBack_int fits
  | text _ s => exact readsBack_text s
  | list inside ih =>
    exact readsBack_list ih fun item member depth => opens_write (inside item member) depth
  | table distinct inside ih =>
    exact readsBack_table distinct ih fun entry member depth =>
      opens_write (inside entry member) depth

/-- The text of a value, and the line end behind it, is read as that value. -/
theorem read_write {value : Value} (storable : Value.Storable mostLevels value) :
    read (write charset 0 value ++ ['\n']) = .ok value := by
  have opens : Opens (write charset 0 value) := opens_write storable 0
  have shown := skipGap_of_opens opens ['\n']
  obtain ⟨c, tail, same, -, none⟩ := opens.append ['\n']
  have reads : ReadsBack charset mostLevels value := readsBack_of_storable storable
  have back := reads 0 (2 * (write charset 0 value ++ ['\n']).length + 2) ['\n']
    (by simp only [List.length_append]; omega) (.line [])
  unfold read
  split
  next more mark =>
    obtain ⟨rfl, -⟩ := List.cons.inj (same.symm.trans mark)
    exact absurd (by simp) none
  next =>
    rw [shown, back]
    rfl

theorem not_mem_escapeUnit (unit : Nat) : '\r' ∉ escapeUnit unit := by
  have digits (width : Nat) : ∀ n, '\r' ∉ Text.hexDigits width n := by
    induction width with
    | zero => exact fun n => List.not_mem_nil
    | succ width ih =>
      intro n
      have last : ∀ digit < 16, '\r' ≠ Text.lowerHexDigit digit := by decide
      rw [Text.hexDigits, List.mem_append, List.mem_singleton]
      rintro (above | here)
      · exact ih (n / 16) above
      · exact last (n % 16) (Nat.mod_lt _ (by decide)) here
  intro member
  simp only [escapeUnit, List.mem_cons] at member
  rcases member with backslash | letter | digit
  · cases backslash
  · cases letter
  · exact digits 4 unit digit

theorem not_mem_writeString (text : List Char) : '\r' ∉ writeString charset text := by
  have escaped (c : Char) : '\r' ∉ escapeChar charset c := by
    intro member
    rcases escapeChar_cases charset c with
      ⟨letter, known, written⟩ | written | ⟨written, visible, -⟩
    · rw [written, List.mem_cons, List.mem_singleton] at member
      rcases member with backslash | same
      · cases backslash
      · subst same
        cases known
    · rw [written, List.mem_flatMap] at member
      obtain ⟨unit, -, inside⟩ := member
      exact not_mem_escapeUnit unit inside
    · rw [written, List.mem_singleton] at member
      subst member
      exact absurd visible (by decide)
  intro member
  simp only [writeString, List.mem_cons, List.mem_append, List.mem_flatMap, List.mem_nil_iff,
    or_false] at member
  rcases member with (quote | ⟨c, -, inside⟩) | quote
  · cases quote
  · exact escaped c inside
  · cases quote

theorem not_mem_enclose {opening closing : Char} (marks : '\r' ∉ [opening, closing]) (depth : Nat)
    {parts : List (List Char)} (clean : ∀ part ∈ parts, '\r' ∉ part) :
    '\r' ∉ enclose opening closing depth parts := by
  have line (depth : Nat) : '\r' ∉ margin depth := by
    simp [margin]
  cases parts with
  | nil => exact marks
  | cons part parts =>
    have between : '\r' ∉ ',' :: margin (depth + 1) := by
      simp [line]
    have inside := Text.not_mem_intercalate between clean
    have whole := enclose_cons opening closing depth part parts []
    rw [List.append_nil] at whole
    simp only [List.mem_cons, List.mem_nil_iff, or_false, not_or] at marks
    rw [whole]
    simp [marks, line, inside]

theorem not_mem_write {levels : Nat} {value : Value} (storable : Value.Storable levels value)
    (depth : Nat) : '\r' ∉ write charset depth value := by
  induction storable generalizing depth with
  | null =>
    change '\r' ∉ "null".toList
    decide
  | bool _ b =>
    cases b with
    | false =>
      change '\r' ∉ "false".toList
      decide
    | true =>
      change '\r' ∉ "true".toList
      decide
  | int _ fits =>
    intro member
    rcases Value.mem_intText member with sign | digit
    · cases sign
    · cases digit
  | text _ s => exact not_mem_writeString s.toList
  | list inside ih =>
    unfold write
    apply not_mem_enclose (by decide)
    rw [writeItems_eq_map]
    intro part member
    obtain ⟨item, known, rfl⟩ := List.mem_map.1 member
    exact ih item known (depth + 1)
  | table distinct inside ih =>
    unfold write
    apply not_mem_enclose (by decide)
    rw [writeEntries_eq_map]
    intro part member
    obtain ⟨entry, known, rfl⟩ := List.mem_map.1 member
    unfold writeEntry
    simp [not_mem_writeString, ih entry known (depth + 1)]

end Json

end SignOn
