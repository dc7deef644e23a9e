/-!
Small maps that remember the order in which their keys were first written: request parameters,
headers, session attributes, profile attributes. A look-up after a write or a removal is all that
the rest of the library needs to know of them.
-/

namespace SignOn

/-- Entries kept in the order in which their keys were first written. -/
abbrev Entries (α : Type) := List (String × α)

namespace Entries

variable {α : Type}

def get? (entries : Entries α) (key : String) : Option α := List.lookup key entries

def contains (entries : Entries α) (key : String) : Bool := (entries.get? key).isSome

def put (entries : Entries α) (key : String) (item : α) : Entries α :=
  match entries with
  | [] => [(key, item)]
  | (known, old) :: rest =>
    if known = key then (known, item) :: rest else (known, old) :: put rest key item

def remove (entries : Entries α) (key : String) : Entries α :=
  entries.filter fun entry => entry.1 != key

def ofList (written : List (String × α)) : Entries α :=
  written.foldl (fun entries (key, item) => entries.put key item) []

@[simp] theorem get?_put (entries : Entries α) (key other : String) (item : α) :
    (entries.put key item).get? other =
      if other = key then some item else entries.get? other := by
  induction entries with
  | nil =>
    by_cases h : other = key
    · simp [put, get?, h]
    · simp [put, get?, List.lookup_cons, beq_eq_false_iff_ne.2 h, h]
  | cons head rest ih =>
    obtain ⟨known, old⟩ := head
    by_cases k : known = key
    · subst k
      by_cases h : other = known
      · simp [put, get?, h]
      · simp [put, get?, List.lookup_cons, beq_eq_false_iff_ne.2 h, h]
    · by_cases o : other = known
      · subst o
        simp [put, get?, k]
      · have away : (other == known) = false := by simpa using o
        simpa only [put, if_neg k, get?, List.lookup_cons, away] using ih

theorem lookup_filter_ne {κ : Type} [BEq κ] [LawfulBEq κ] [DecidableEq κ] (entries : List (κ × α))
    (key other : κ) :
    (entries.filter fun entry => entry.1 != key).lookup other =
      if other = key then none else entries.lookup other := by
  induction entries with
  | nil => simp
  | cons head rest ih =>
    obtain ⟨known, old⟩ := head
    by_cases k : known = key
    · subst k
      by_cases h : other = known
      · simpa [h] using ih
      · have away : (other == known) = false := by simpa using h
        simpa [h, List.lookup_cons, away] using ih
    · by_cases o : other = known
      · subst o
        simp [k]
      · have away : (other == known) = false := by simpa using o
        simpa [k, List.lookup_cons, away] using ih

@[simp] theorem get?_remove (entries : Entries α) (key other : String) :
    (entries.remove key).get? other = if other = key then none else entries.get? other :=
  lookup_filter_ne entries key other

end Entries

end SignOn
