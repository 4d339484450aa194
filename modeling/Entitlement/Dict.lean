/-!
# Dictionaries with ordered keys

A dictionary maps texts to values and lists its entries by ascending key, in
the order of their code points.  Two dictionaries with the same entries are
therefore equal, and every text written from one is canonical.

The functions on bare lists of entries are the working form: recursive types
such as JSON values and permission trees hold plain lists, for a list with a
proof cannot occur inside a recursive type.  `Dict` is the closed form, for
attributes and conditions.
-/

namespace Entitlement

universe u v

variable {α : Type u} {β : Type v}

/-! ## Entries in order -/

/-- The keys of the entries ascend strictly, so none occurs twice. -/
def Ascending (entries : List (String × α)) : Prop :=
  entries.Pairwise fun earlier later => earlier.1 < later.1

/-- Puts `value` under `key` at its place in ascending order; an entry that
already has the key keeps its place and takes the new value. -/
def putEntry (key : String) (value : α) : List (String × α) → List (String × α)
  | [] => [(key, value)]
  | (head, held) :: rest =>
      if key = head then (head, value) :: rest
      else if key < head then (key, value) :: (head, held) :: rest
      else (head, held) :: putEntry key value rest

/-- Every key of `putEntry key value entries` is `key` or was there before. -/
theorem mem_putEntry_key {key : String} {value : α} {entries : List (String × α)}
    {entry : String × α} (hentry : entry ∈ putEntry key value entries) :
    entry.1 = key ∨ ∃ old ∈ entries, old.1 = entry.1 := by
  induction entries with
  | nil => simp only [putEntry, List.mem_singleton] at hentry; simp [hentry]
  | cons first rest ih =>
      obtain ⟨head, held⟩ := first
      simp only [putEntry] at hentry
      split at hentry
      · rcases List.mem_cons.mp hentry with rfl | hrest
        · exact Or.inr ⟨(head, held), by simp, rfl⟩
        · exact Or.inr ⟨entry, List.mem_cons_of_mem _ hrest, rfl⟩
      · split at hentry
        · rcases List.mem_cons.mp hentry with rfl | hrest
          · exact Or.inl rfl
          · exact Or.inr ⟨entry, hrest, rfl⟩
        · rcases List.mem_cons.mp hentry with rfl | hrest
          · exact Or.inr ⟨(head, held), by simp, rfl⟩
          · rcases ih hrest with hkey | ⟨old, hold, hkey⟩
            · exact Or.inl hkey
            · exact Or.inr ⟨old, List.mem_cons_of_mem _ hold, hkey⟩

theorem Ascending.putEntry {key : String} {value : α} {entries : List (String × α)}
    (hascending : Ascending entries) : Ascending (putEntry key value entries) := by
  induction entries with
  | nil => exact List.pairwise_singleton _ _
  | cons first rest ih =>
      obtain ⟨head, held⟩ := first
      obtain ⟨hhead, hrest⟩ := List.pairwise_cons.mp hascending
      simp only [Entitlement.putEntry]
      split
      · exact List.pairwise_cons.mpr ⟨hhead, hrest⟩
      · rename_i hne
        split
        · -- The new entry comes before all others.
          rename_i hlt
          refine List.pairwise_cons.mpr ⟨?_, hascending⟩
          intro entry hentry
          rcases List.mem_cons.mp hentry with rfl | hmem
          · exact hlt
          · exact String.lt_trans hlt (hhead entry hmem)
        · -- The new entry comes later, so what is behind the first one is an old entry or this one.
          rename_i hnlt
          refine List.pairwise_cons.mpr ⟨?_, ih hrest⟩
          intro entry hentry
          have hafter : head < key :=
            Decidable.byContradiction fun hnot =>
              hne (String.le_antisymm (String.not_lt.mp hnot) (String.not_lt.mp hnlt))
          rcases mem_putEntry_key hentry with hkey | ⟨old, hold, hkey⟩
          · exact hkey ▸ hafter
          · exact hkey ▸ hhead old hold

/-- The value under `key` after putting one there. -/
theorem lookup_putEntry_self (key : String) (value : α) (entries : List (String × α)) :
    (putEntry key value entries).lookup key = some value := by
  induction entries with
  | nil => simp [putEntry]
  | cons first rest ih =>
      obtain ⟨head, held⟩ := first
      simp only [putEntry]
      split
      · rename_i heq; simp [heq]
      · rename_i hne
        split
        · simp
        · simp [List.lookup_cons, beq_false_of_ne hne, ih]

/-- Putting a value under `key` leaves every other key as it was. -/
theorem lookup_putEntry_of_ne {key other : String} (hne : other ≠ key) (value : α)
    (entries : List (String × α)) :
    (putEntry key value entries).lookup other = entries.lookup other := by
  induction entries with
  | nil => simp [putEntry, List.lookup_cons, beq_false_of_ne hne]
  | cons first rest ih =>
      obtain ⟨head, held⟩ := first
      simp only [putEntry]
      split
      · rename_i heq; subst heq; simp [List.lookup_cons, beq_false_of_ne hne]
      · split
        · simp [List.lookup_cons, beq_false_of_ne hne]
        · simp [List.lookup_cons, ih]

/-! ## Dictionaries -/

/-- A finite map from texts to values, listed by ascending key. -/
structure Dict (α : Type u) where
  entries : List (String × α)
  ascending : Ascending entries

namespace Dict

/-- The dictionary without entries. -/
def empty : Dict α := ⟨[], List.Pairwise.nil⟩

instance : EmptyCollection (Dict α) := ⟨empty⟩

instance : Inhabited (Dict α) := ⟨empty⟩

/-- The value under `key`, if there is one. -/
def get? (dict : Dict α) (key : String) : Option α := dict.entries.lookup key

/-- The dictionary with `value` under `key`, whatever was there before. -/
def insert (dict : Dict α) (key : String) (value : α) : Dict α :=
  ⟨putEntry key value dict.entries, dict.ascending.putEntry⟩

/-- The dictionary of a list of entries; of two with one key the later counts. -/
def ofList (entries : List (String × α)) : Dict α :=
  entries.foldl (fun dict entry => dict.insert entry.1 entry.2) empty

/-- Whether there are no entries. -/
def isEmpty (dict : Dict α) : Bool := dict.entries.isEmpty

/-- The dictionary with every value replaced by its image. -/
def map (f : α → β) (dict : Dict α) : Dict β where
  entries := dict.entries.map fun entry => (entry.1, f entry.2)
  ascending := List.pairwise_map.mpr (dict.ascending.imp fun hlt => hlt)

theorem get?_empty (key : String) : (empty : Dict α).get? key = none := rfl

theorem get?_insert_self (dict : Dict α) (key : String) (value : α) :
    (dict.insert key value).get? key = some value :=
  lookup_putEntry_self key value dict.entries

theorem get?_insert_of_ne (dict : Dict α) {key other : String} (hne : other ≠ key) (value : α) :
    (dict.insert key value).get? other = dict.get? other :=
  lookup_putEntry_of_ne hne value dict.entries

end Dict

end Entitlement
