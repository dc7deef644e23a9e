import SignOn.Settings
import SignOn.Proofs.JsonRoundTrip

/-!
What a file says of settings, read as settings again. A field is left out only where it equals its
default, and where it is left out the default is what the reader puts in its place. The declared
fields come first and the extra ones after them, which is how the reader tells them apart.
-/

namespace SignOn

namespace Entries

variable {α : Type} {entries : Entries α}

theorem get?_eq_none {key : String} (absent : key ∉ entries.map (·.1)) :
    entries.get? key = none := by
  refine List.lookup_eq_none_iff.2 fun entry member => ?_
  refine bne_iff_ne.2 ?_
  rintro rfl
  exact absent (List.mem_map_of_mem member)

theorem get?_filter (distinct : (entries.map (·.1)).Nodup) (keeps : String × α → Bool)
    (key : String) :
    get? (entries.filter keeps) key =
      (entries.get? key).filter (fun item => keeps (key, item)) := by
  induction entries with
  | nil => rfl
  | cons entry rest ih =>
    obtain ⟨known, item⟩ := entry
    rw [List.map_cons, List.nodup_cons] at distinct
    have further := ih distinct.2
    by_cases same : key = known
    · subst same
      have absent := get?_eq_none distinct.1
      rw [absent] at further
      unfold get? at further ⊢
      by_cases kept : keeps (key, item) = true
      · simp [kept, Option.filter]
      · simp [kept, Option.filter, further]
    · have other : (key == known) = false := beq_eq_false_iff_ne.2 same
      unfold get? at further ⊢
      by_cases kept : keeps (known, item) = true
      · simp [kept, List.lookup_cons, other, further]
      · simp [kept, List.lookup_cons, other, further]

end Entries

namespace Value

theorem portableItems_eq_map (items : List Value) : portableItems items = items.map portable := by
  induction items with
  | nil => rfl
  | cons item rest ih => rw [portableItems, ih, List.map_cons]

theorem portableEntries_eq_map (entries : Entries Value) :
    portableEntries entries = entries.map fun entry => (entry.1, portable entry.2) := by
  induction entries with
  | nil => rfl
  | cons entry rest ih => rw [portableEntries, ih, List.map_cons]

theorem portableEntries_eq_self {entries : Entries Value}
    (each : ∀ entry ∈ entries, portable entry.2 = entry.2) : portableEntries entries = entries := by
  rw [portableEntries_eq_map]
  refine (List.map_congr_left fun entry member => ?_).trans (List.map_id entries)
  rw [each entry member]
  rfl

theorem portable_of_storable {levels : Nat} {value : Value} (storable : Storable levels value) :
    portable value = value := by
  induction storable with
  | list _ ih =>
    rw [portable, portableItems_eq_map]
    exact congrArg Value.list ((List.map_congr_left ih).trans (List.map_id _))
  | table _ _ ih => rw [portable, portableEntries_eq_self ih]
  | _ => rfl

variable {levels : Nat}

theorem storable_optionalText (s : Option String) : Storable levels (optionalText s) := by
  cases s with
  | none => exact .null levels
  | some s => exact .text levels s

theorem storable_texts (items : List String) : Storable (levels + 1) (texts items) := by
  refine .list fun item member => ?_
  obtain ⟨s, -, rfl⟩ := List.mem_map.1 member
  exact .text levels s

theorem storable_textTable {entries : Entries String} (distinct : (entries.map (·.1)).Nodup) :
    Storable (levels + 1) (textTable entries) := by
  refine .table ?_ fun entry member => ?_
  · rwa [List.map_map]
  · obtain ⟨known, -, rfl⟩ := List.mem_map.1 member
    exact .text levels known.2

end Value

namespace Checked

variable {α : Type}

/-- The check reads back what is shown, and nothing but equal things show as equal values. -/
structure Inverts (check : Value → Checked α) (shown : α → Value) : Prop where
  reads : ∀ a, check (shown a) = .valid a
  faithful : ∀ a b, (shown a).same (shown b) = true → a = b

theorem eachItem_map {check : Value → Checked α} {shown : α → Value} {items : List α}
    (reads : ∀ a ∈ items, check (shown a) = .valid a) (n : Nat) :
    eachItem check n (items.map shown) = .valid items := by
  induction items generalizing n with
  | nil => rfl
  | cons a rest ih =>
    have further := ih (fun b member => reads b (List.mem_cons_of_mem a member)) (n + 1)
    rw [List.map_cons, eachItem, reads a List.mem_cons_self, further]
    rfl

theorem inverts_text : Inverts text .text where
  reads _ := rfl
  faithful a b same := by
    simpa [Value.same, Value.sameAtom, Value.whole?] using same

theorem inverts_bool : Inverts bool .bool where
  reads _ := rfl
  faithful a b same := by
    cases a <;> cases b <;> simp_all [Value.same, Value.sameAtom, Value.whole?]

theorem inverts_optionalText : Inverts (orNull text) Value.optionalText where
  reads a := by cases a <;> rfl
  faithful a b same := by
    cases a <;> cases b <;>
      simp_all [Value.optionalText, Value.same, Value.sameAtom, Value.whole?]

theorem inverts_texts : Inverts (list text) Value.texts where
  reads items := by
    have each : ∀ s ∈ items, text (.text s) = .valid s := fun s _ => inverts_text.reads s
    exact eachItem_map each 0
  faithful a b same := by
    unfold Value.texts Value.same at same
    induction a generalizing b with
    | nil => cases b <;> simp_all [Value.sameItems]
    | cons s rest ih =>
      cases b with
      | nil => simp [Value.sameItems] at same
      | cons t others =>
        simp only [List.map_cons, Value.sameItems, Bool.and_eq_true] at same
        rw [inverts_text.faithful s t same.1, ih others same.2]

theorem inverts_textTable : Inverts (table text) Value.textTable where
  reads entries := by
    induction entries with
    | nil => rfl
    | cons entry rest ih =>
      change eachEntry text (rest.map fun entry => (entry.1, .text entry.2)) = .valid rest at ih
      change (fun a others => (entry.1, a) :: others) <$> (text (.text entry.2)).within _ <*>
        eachEntry text (rest.map fun entry => (entry.1, .text entry.2)) = _
      rw [ih]
      rfl
  faithful a b same := by
    unfold Value.textTable Value.same at same
    induction a generalizing b with
    | nil => cases b <;> simp_all [Value.sameEntries]
    | cons entry rest ih =>
      cases b with
      | nil => simp [Value.sameEntries] at same
      | cons entry' others =>
        obtain ⟨key, s⟩ := entry
        obtain ⟨key', t⟩ := entry'
        simp only [List.map_cons, Value.sameEntries, Bool.and_eq_true, beq_iff_eq] at same
        obtain ⟨⟨rfl, shown⟩, further⟩ := same
        rw [inverts_text.faithful s t shown, ih others further]

end Checked

namespace ClientSettings

/-- What validation makes sure of: tables are dictionaries, and an extra field is not declared. -/
structure Validated (settings : ClientSettings) : Prop where
  users : (settings.users.map (·.1)).Nodup
  extras : (settings.extras.map (·.1)).Nodup
  apart : ∀ entry ∈ settings.extras, entry.1 ∉ declaredNames

def said (settings : ClientSettings) : Entries Value :=
  settings.declaredFields.filter (! isDefault ·) ++ settings.extras

theorem declaredNames_nodup : declaredNames.Nodup := by
  decide

variable {settings : ClientSettings} {key : String} {value : Value}

theorem get?_said (validated : settings.Validated)
    (declared : settings.declaredFields.get? key = some value) :
    settings.said.get? key = if isDefault (key, value) then none else some value := by
  have keys : settings.declaredFields.map (·.1) = declaredNames := rfl
  have distinct : (settings.declaredFields.map (·.1)).Nodup := declaredNames_nodup
  have extra : settings.extras.get? key = none := by
    apply Entries.get?_eq_none
    intro member
    obtain ⟨entry, inside, rfl⟩ := List.mem_map.1 member
    have undeclared : settings.declaredFields.get? entry.1 = none :=
      Entries.get?_eq_none (keys ▸ validated.apart entry inside)
    cases undeclared.symm.trans declared
  have kept : Entries.get? (settings.declaredFields.filter (! isDefault ·)) key =
      if isDefault (key, value) then none else some value := by
    rw [Entries.get?_filter distinct, declared]
    by_cases left : isDefault (key, value) = true <;> simp [Option.filter, left]
  unfold said Entries.get? at *
  rw [List.lookup_append, kept, extra, Option.or_none]

theorem optional_said {α : Type} {check : Value → Checked α} {shown : α → Value} {a default : α}
    (validated : settings.Validated) (inverts : Checked.Inverts check shown) (apart : key ≠ "type")
    (declared : settings.declaredFields.get? key = some (shown a))
    (standard : (declaredFields { type := "" }).get? key = some (shown default)) :
    Checked.optional settings.said key default check = .valid a := by
  unfold Checked.optional
  rw [get?_said validated declared]
  cases left : isDefault (key, shown a) with
  | true =>
    have same : (shown a).same (shown default) = true := by
      simpa [isDefault, standard, apart] using left
    rw [inverts.faithful a default same]
    rfl
  | false =>
    simp only [Bool.false_eq_true, if_false, inverts.reads]
    rfl

theorem required_said (validated : settings.Validated) :
    Checked.required settings.said "type" Checked.text = .valid settings.type := by
  have declared : settings.declaredFields.get? "type" = some (.text settings.type) := rfl
  have kept : isDefault ("type", .text settings.type) = false := rfl
  unfold Checked.required
  rw [get?_said validated declared, kept]
  rfl

theorem undeclared_said (validated : settings.Validated) :
    settings.said.filter (fun entry => entry.1 ∉ declaredNames) = settings.extras := by
  have none : (settings.declaredFields.filter (! isDefault ·)).filter
      (fun entry => entry.1 ∉ declaredNames) = [] := by
    apply List.filter_eq_nil_iff.2
    intro entry member
    have declared : entry.1 ∈ settings.declaredFields.map (·.1) :=
      List.mem_map_of_mem (List.mem_filter.1 member).1
    change entry.1 ∈ declaredNames at declared
    simp [declared]
  have all : settings.extras.filter (fun entry => entry.1 ∉ declaredNames) = settings.extras := by
    apply List.filter_eq_self.2
    intro entry member
    simp [validated.apart entry member]
  rw [said, List.filter_append, none, all, List.nil_append]

open Checked in
theorem ofEntries_said (validated : settings.Validated) :
    ofEntries settings.said = .valid settings := by
  unfold ofEntries
  rw [required_said validated, undeclared_said validated]
  repeat rw [optional_said validated inverts_optionalText (by decide) rfl rfl]
  repeat rw [optional_said validated inverts_text (by decide) rfl rfl]
  repeat rw [optional_said validated inverts_bool (by decide) rfl rfl]
  repeat rw [optional_said validated inverts_texts (by decide) rfl rfl]
  rw [optional_said validated inverts_textTable (by decide) rfl rfl]
  rfl

/-- A file can hold the extra fields as they are, in so many levels. -/
def Keepable (levels : Nat) (settings : ClientSettings) : Prop :=
  ∀ entry ∈ settings.extras, Value.Storable levels entry.2

variable {levels : Nat}

theorem dump_eq (keepable : settings.Keepable levels) : settings.dump = .table settings.said := by
  have kept : Value.portableEntries settings.extras = settings.extras :=
    Value.portableEntries_eq_self fun entry member =>
      Value.portable_of_storable (keepable entry member)
  rw [dump, said, kept]

/-- What a file says of settings is read as those settings. -/
theorem ofValue_dump (validated : settings.Validated) (keepable : settings.Keepable levels) :
    ofValue settings.dump = .valid settings := by
  rw [dump_eq keepable]
  exact ofEntries_said validated

theorem storable_dump (validated : settings.Validated) (keepable : settings.Keepable (levels + 1)) :
    Value.Storable (levels + 2) settings.dump := by
  have declared : ∀ entry ∈ settings.declaredFields, Value.Storable (levels + 1) entry.2 := by
    simp [declaredFields, Value.storable_optionalText, Value.storable_texts,
      Value.storable_textTable validated.users, Value.Storable.text, Value.Storable.bool]
  have names : (settings.declaredFields.map (·.1)).Nodup := declaredNames_nodup
  have kept : ((settings.declaredFields.filter (! isDefault ·)).map (·.1)).Sublist
      (settings.declaredFields.map (·.1)) := List.filter_sublist.map _
  have distinct : (settings.said.map (·.1)).Nodup := by
    rw [said, List.map_append]
    refine List.nodup_append.2 ⟨names.sublist kept, validated.extras, ?_⟩
    rintro name here other there rfl
    obtain ⟨entry, extra, rfl⟩ := List.mem_map.1 there
    exact validated.apart entry extra (kept.subset here)
  rw [dump_eq keepable]
  refine .table distinct fun entry member => ?_
  rcases List.mem_append.1 member with kept | extra
  · exact declared entry (List.mem_filter.1 kept).1
  · exact keepable entry extra

end ClientSettings

namespace ClientsConfig

open Checked

variable {config : ClientsConfig} {levels : Nat}

/-- What a file says of a configuration is read as that configuration. -/
theorem ofValue_dump (validated : ∀ settings ∈ config.clients, settings.Validated)
    (keepable : ∀ settings ∈ config.clients, settings.Keepable levels) :
    ofValue config.dump = .valid config := by
  obtain ⟨callbackUrl, defaultClient, clients⟩ := config
  have each : list ClientSettings.ofValue (.list (clients.map ClientSettings.dump)) =
      .valid clients :=
    eachItem_map (fun settings member =>
      ClientSettings.ofValue_dump (validated settings member) (keepable settings member)) 0
  change ofEntries (optionalField "callback_url" callbackUrl ++
    optionalField "default_client" defaultClient ++ (if clients.isEmpty then []
      else [("clients", .list (clients.map ClientSettings.dump))])) = _
  generalize said : optionalField "callback_url" callbackUrl ++
    optionalField "default_client" defaultClient ++ (if clients.isEmpty then []
      else [("clients", .list (clients.map ClientSettings.dump))]) = entries
  have callback : optional entries "callback_url" none (orNull text) = .valid callbackUrl := by
    subst said
    cases callbackUrl <;> cases defaultClient <;> cases clients <;> rfl
  have fallback : optional entries "default_client" none (orNull text) = .valid defaultClient := by
    subst said
    cases callbackUrl <;> cases defaultClient <;> cases clients <;> rfl
  have listed : optional entries "clients" [] (list ClientSettings.ofValue) = .valid clients := by
    subst said
    cases clients with
    | nil => cases callbackUrl <;> cases defaultClient <;> rfl
    | cons first rest =>
      have found := congrArg (within (.key "clients")) each
      cases callbackUrl <;> cases defaultClient <;> exact found
  unfold ofEntries
  rw [callback, fallback, listed]
  rfl

theorem storable_optionalField {key : String} {s : Option String} {entry : String × Value}
    (member : entry ∈ optionalField key s) : Value.Storable levels entry.2 := by
  cases s with
  | none => cases member
  | some s =>
    rw [List.mem_singleton.1 member]
    exact .text levels s

theorem storable_dump (validated : ∀ settings ∈ config.clients, settings.Validated)
    (keepable : ∀ settings ∈ config.clients, settings.Keepable (levels + 1)) :
    Value.Storable (levels + 4) config.dump := by
  have listed : Value.Storable (levels + 3) (.list (config.clients.map ClientSettings.dump)) := by
    refine .list fun item member => ?_
    obtain ⟨settings, known, rfl⟩ := List.mem_map.1 member
    exact ClientSettings.storable_dump (validated settings known) (keepable settings known)
  obtain ⟨callbackUrl, defaultClient, clients⟩ := config
  unfold dump
  refine .table ?_ fun entry member => ?_
  · cases callbackUrl <;> cases defaultClient <;> cases clients <;>
      simp [optionalField]
  · rcases List.mem_append.1 member with optionals | clientList
    · rcases List.mem_append.1 optionals with given | given
      · exact storable_optionalField given
      · exact storable_optionalField given
    · split at clientList
      · cases clientList
      · rw [List.mem_singleton.1 clientList]
        exact listed

end ClientsConfig

/-- The values that come from outside: every table in them is a dictionary. -/
inductive Value.Orderly : Value → Prop where
  | null : Orderly .null
  | bool (b : Bool) : Orderly (.bool b)
  | int (n : Int) : Orderly (.int n)
  | float (x : Binary64) : Orderly (.float x)
  | text (s : String) : Orderly (.text s)
  | list {items : List Value} (inside : ∀ item ∈ items, Orderly item) : Orderly (.list items)
  | tuple {items : List Value} (inside : ∀ item ∈ items, Orderly item) : Orderly (.tuple items)
  | set {items : List Value} (inside : ∀ item ∈ items, Orderly item) : Orderly (.set items)
  | table {entries : Entries Value} (distinct : (entries.map (·.1)).Nodup)
      (inside : ∀ entry ∈ entries, Orderly entry.2) : Orderly (.table entries)

theorem Value.orderly_of_get? {entries : Entries Value} {key : String} {value : Value}
    (orderly : ∀ entry ∈ entries, entry.2.Orderly) (found : entries.get? key = some value) :
    value.Orderly := by
  obtain ⟨before, after, split, -⟩ := List.lookup_eq_some_iff.1 found
  exact orderly (key, value) (by simp [split])

namespace Checked

variable {α β : Type}

theorem seq_eq_valid {f : Checked (α → β)} {a : Checked α} {b : β} :
    f <*> a = .valid b ↔ ∃ g x, f = .valid g ∧ a = .valid x ∧ b = g x := by
  cases f <;> cases a <;> simp [Seq.seq, both, eq_comm]

theorem map_eq_valid {f : α → β} {a : Checked α} {b : β} :
    f <$> a = .valid b ↔ ∃ x, a = .valid x ∧ b = f x := by
  cases a <;> simp [Functor.map, both, eq_comm]

theorem within_eq_valid {place : Place} {a : Checked α} {b : α} :
    a.within place = .valid b ↔ a = .valid b := by
  cases a <;> simp [within]

theorem mem_of_eachItem {check : Value → Checked α} {items : List Value} {n : Nat}
    {checked : List α} (valid : eachItem check n items = .valid checked) :
    ∀ a ∈ checked, ∃ item ∈ items, check item = .valid a := by
  induction items generalizing n checked with
  | nil =>
    cases valid
    exact fun a absent => absurd absent List.not_mem_nil
  | cons item rest ih =>
    unfold eachItem at valid
    obtain ⟨g, others, mapped, further, rfl⟩ := seq_eq_valid.1 valid
    obtain ⟨first, read, rfl⟩ := map_eq_valid.1 mapped
    intro a member
    rcases List.mem_cons.1 member with rfl | later
    · exact ⟨item, List.mem_cons_self, within_eq_valid.1 read⟩
    · obtain ⟨source, inside, same⟩ := ih further a later
      exact ⟨source, List.mem_cons_of_mem _ inside, same⟩

theorem keys_of_eachEntry {check : Value → Checked α} {entries : Entries Value}
    {checked : Entries α} (valid : eachEntry check entries = .valid checked) :
    checked.map (·.1) = entries.map (·.1) := by
  induction entries generalizing checked with
  | nil =>
    cases valid
    rfl
  | cons entry rest ih =>
    unfold eachEntry at valid
    obtain ⟨g, others, mapped, further, rfl⟩ := seq_eq_valid.1 valid
    obtain ⟨first, -, rfl⟩ := map_eq_valid.1 mapped
    exact congrArg (entry.1 :: ·) (ih further)

theorem nodup_of_table {check : Value → Checked α} {entries : Entries Value} {key : String}
    {checked : Entries α} (orderly : ∀ entry ∈ entries, entry.2.Orderly)
    (valid : optional entries key [] (table check) = .valid checked) :
    (checked.map (·.1)).Nodup := by
  unfold optional at valid
  cases found : entries.get? key with
  | none =>
    rw [found] at valid
    cases valid
    exact List.nodup_nil
  | some value =>
    have known := Value.orderly_of_get? orderly found
    simp only [found] at valid
    have read := within_eq_valid.1 valid
    cases known with
    | table distinct inside => exact keys_of_eachEntry read ▸ distinct
    | _ => cases read

theorem mem_of_list {check : Value → Checked α} {entries : Entries Value} {key : String}
    {checked : List α} (orderly : ∀ entry ∈ entries, entry.2.Orderly)
    (valid : optional entries key [] (list check) = .valid checked) :
    ∀ a ∈ checked, ∃ item, item.Orderly ∧ check item = .valid a := by
  unfold optional at valid
  intro a member
  cases found : entries.get? key with
  | none =>
    rw [found] at valid
    cases valid
    cases member
  | some value =>
    have known := Value.orderly_of_get? orderly found
    simp only [found] at valid
    have read := within_eq_valid.1 valid
    cases known with
    | list inside =>
      obtain ⟨item, known, same⟩ := mem_of_eachItem read a member
      exact ⟨item, inside item known, same⟩
    | tuple inside =>
      obtain ⟨item, known, same⟩ := mem_of_eachItem read a member
      exact ⟨item, inside item known, same⟩
    | set inside =>
      obtain ⟨item, known, same⟩ := mem_of_eachItem read a member
      exact ⟨item, inside item known, same⟩
    | _ => cases read

end Checked

namespace ClientSettings

open Checked

theorem validated_of_ofValue {value : Value} {settings : ClientSettings} (orderly : value.Orderly)
    (checked : ofValue value = .valid settings) : settings.Validated := by
  cases orderly with
  | table distinct inside =>
    rename_i entries
    change ofEntries entries = .valid settings at checked
    -- The extra fields come last, eight fields before them the users, and eleven before those.
    obtain ⟨_, extras, others, undeclared, same⟩ := seq_eq_valid.1 checked
    iterate 8
      replace others := seq_eq_valid.1 others
      obtain ⟨_, _, others, -, rfl⟩ := others
    replace others := seq_eq_valid.1 others
    obtain ⟨_, users, others, known, rfl⟩ := others
    iterate 11
      replace others := seq_eq_valid.1 others
      obtain ⟨_, _, others, -, rfl⟩ := others
    obtain ⟨_, -, rfl⟩ := map_eq_valid.1 others
    cases undeclared
    subst same
    refine ⟨?_, ?_, ?_⟩
    · exact nodup_of_table inside known
    · exact distinct.sublist (List.filter_sublist.map _)
    · intro entry member
      simpa using (List.mem_filter.1 member).2
  | _ => cases checked

end ClientSettings

namespace ClientsConfig

open Checked

theorem validated_of_ofValue {value : Value} {config : ClientsConfig} (orderly : value.Orderly)
    (checked : ofValue value = .valid config) :
    ∀ settings ∈ config.clients, settings.Validated := by
  cases orderly with
  | table distinct inside =>
    rename_i entries
    change ofEntries entries = .valid config at checked
    obtain ⟨_, clients, others, listed, same⟩ := seq_eq_valid.1 checked
    replace others := seq_eq_valid.1 others
    obtain ⟨_, _, others, -, rfl⟩ := others
    obtain ⟨_, -, rfl⟩ := map_eq_valid.1 others
    subst same
    intro settings member
    obtain ⟨item, known, read⟩ := mem_of_list inside listed settings member
    exact ClientSettings.validated_of_ofValue known read
  | _ => cases checked

end ClientsConfig

end SignOn
