import Entitlement.Dict
import Mathlib.Data.List.Induction

/-!
# Entries and values of a dictionary

A dictionary lists each key once and its keys in ascending order, so the entry of a key and the
value under it say the same, and a dictionary is known by the values under its keys
(`Ascending.eq_of_lookup_eq`).

Entries are put in one by one (`putEntry`).  Three facts about this are used wherever
dictionaries are built or compared.

* Entries under other keys are not touched (`filter_putEntry`), and an entry that is taken out can
  be put back (`Ascending.putEntry_filter`).
* Behind all others an entry is appended (`putEntry_eq_append`), so a list that ascends becomes
  the dictionary of just its entries (`ofList_entries`).
* In any other list the last value that is given for a key counts (`get?_ofList`).
-/

namespace Entitlement

universe u v

variable {α : Type u} {β : Type v} {key : String} {value : α} {entries others : List (String × α)}

theorem Ascending.ne_of_mem {head : String × α} {rest : List (String × α)}
    (hascending : Ascending (head :: rest)) {entry : String × α} (hentry : entry ∈ rest) :
    entry.1 ≠ head.1 := by
  intro hkey
  have hlt : head.1 < entry.1 := (List.pairwise_cons.mp hascending).1 entry hentry
  rw [hkey] at hlt
  exact String.lt_irrefl _ hlt

/-- Where no key occurs twice, the value under a key is the one of its only entry. -/
theorem lookup_eq_some_iff_of_nodup (hkeys : (entries.map (·.1)).Nodup) :
    entries.lookup key = some value ↔ (key, value) ∈ entries := by
  induction entries with
  | nil => simp
  | cons first rest ih =>
      obtain ⟨head, held⟩ := first
      obtain ⟨hfirst, hrest⟩ := List.nodup_cons.mp hkeys
      rw [List.lookup_cons, List.mem_cons, ← ih hrest]
      by_cases hkey : key = head
      · subst hkey
        -- The key does not come again, so its value is the first one.
        have hfree : rest.lookup key ≠ some value := by
          intro hlookup
          exact hfirst (List.mem_map.mpr ⟨(key, value), (ih hrest).mp hlookup, rfl⟩)
        simp [hfree, eq_comm]
      · simp [beq_false_of_ne hkey, hkey]

theorem Ascending.nodup_keys (hascending : Ascending entries) : (entries.map (·.1)).Nodup := by
  induction entries with
  | nil => exact List.nodup_nil
  | cons first rest ih =>
      refine List.nodup_cons.mpr ⟨?_, ih (List.pairwise_cons.mp hascending).2⟩
      intro hfirst
      obtain ⟨entry, hentry, hkey⟩ := List.mem_map.mp hfirst
      exact hascending.ne_of_mem hentry hkey

/-- Among ascending entries, the value under a key is the one of its only entry. -/
theorem Ascending.lookup_eq_some_iff {entries : List (String × α)}
    (hascending : Ascending entries) :
    entries.lookup key = some value ↔ (key, value) ∈ entries :=
  lookup_eq_some_iff_of_nodup hascending.nodup_keys

/-- Among ascending entries, a key that has a value has that one entry. -/
theorem Ascending.filter_eq_singleton {entries : List (String × α)}
    (hascending : Ascending entries) (hlookup : entries.lookup key = some value) :
    entries.filter (·.1 == key) = [(key, value)] := by
  induction entries with
  | nil => contradiction
  | cons first rest ih =>
      obtain ⟨head, held⟩ := first
      rw [List.lookup_cons] at hlookup
      by_cases hkey : key = head
      · subst hkey
        -- Keys ascend, so none of the later ones is this one.
        have hnone : rest.filter (·.1 == key) = [] := by
          rw [List.filter_eq_nil_iff]
          intro entry hentry
          simpa using hascending.ne_of_mem hentry
        obtain rfl : held = value := by simpa using hlookup
        rw [List.filter_cons_of_pos (by simp), hnone]
      · rw [beq_false_of_ne hkey] at hlookup
        rw [List.filter_cons_of_neg (by simpa using Ne.symm hkey)]
        exact ih (List.pairwise_cons.mp hascending).2 hlookup

/-! ## Entries by their values -/

theorem lookup_map_snd (f : α → β) (key : String) (entries : List (String × α)) :
    (entries.map fun entry => (entry.1, f entry.2)).lookup key = (entries.lookup key).map f := by
  induction entries with
  | nil => rfl
  | cons first rest ih =>
      rw [List.map_cons, List.lookup_cons, List.lookup_cons, ih]
      by_cases hkey : key = first.1
      · simp [hkey]
      · simp [beq_false_of_ne hkey]

theorem mem_of_lookup_eq_some (hlookup : entries.lookup key = some value) :
    (key, value) ∈ entries := by
  obtain ⟨before, after, rfl, _⟩ := List.lookup_eq_some_iff.mp hlookup
  simp

theorem Ascending.filter (hascending : Ascending entries) (p : String × α → Bool) :
    Ascending (entries.filter p) :=
  List.Pairwise.filter p hascending

/-- Among ascending entries, leaving some out leaves the value under a key or takes it
away. -/
theorem Ascending.lookup_filter (hascending : Ascending entries) (p : String × α → Bool)
    (key : String) :
    (entries.filter p).lookup key = (entries.lookup key).filter fun value => p (key, value) := by
  apply Option.ext
  intro value
  rw [(hascending.filter p).lookup_eq_some_iff, List.mem_filter, ← hascending.lookup_eq_some_iff,
    Option.filter_eq_some_iff]

/-- Ascending entries are known by the values under the keys. -/
theorem Ascending.eq_of_lookup_eq (hascending : Ascending entries) (hothers : Ascending others)
    (hlookup : ∀ key, entries.lookup key = others.lookup key) : entries = others := by
  have hnodup : ∀ {entries : List (String × α)}, Ascending entries → entries.Nodup := by
    intro entries hascending
    refine List.Pairwise.imp ?_ hascending
    rintro earlier _ hlt rfl
    exact String.lt_irrefl _ hlt
  have hmem : ∀ entry, entry ∈ entries ↔ entry ∈ others := by
    intro entry
    rw [← hascending.lookup_eq_some_iff, ← hothers.lookup_eq_some_iff, hlookup]
  -- The same entries without repetitions, and there is only one ascending order of them.
  have hperm := (List.perm_ext_iff_of_nodup (hnodup hascending) (hnodup hothers)).mpr hmem
  refine hperm.eq_of_pairwise ?_ hascending hothers
  intro earlier later _ _ hlt hgt
  exact absurd (String.lt_trans hlt hgt) (String.lt_irrefl _)

/-- An entry that is put in has no part in the entries under other keys. -/
theorem filter_putEntry {p : String → Bool} (hkey : p key = false) (value : α)
    (entries : List (String × α)) :
    ((putEntry key value entries).filter fun entry => p entry.1) =
      entries.filter fun entry => p entry.1 := by
  induction entries with
  | nil => simp [putEntry, hkey]
  | cons first rest ih =>
      obtain ⟨head, held⟩ := first
      rw [putEntry]
      split
      · rename_i heq
        rw [List.filter_cons, List.filter_cons]
        simp [← heq, hkey]
      · split
        · simp [hkey]
        · rw [List.filter_cons, List.filter_cons, ih]

/-- An entry that is taken out can be put back. -/
theorem Ascending.putEntry_filter (hascending : Ascending entries)
    (hlookup : entries.lookup key = some value) :
    Entitlement.putEntry key value (entries.filter (·.1 != key)) = entries := by
  refine (hascending.filter _).putEntry.eq_of_lookup_eq hascending ?_
  intro other
  -- Compared key by key: under its own key the entry is back, and the others were never gone.
  by_cases hother : other = key
  · rw [hother, lookup_putEntry_self, hlookup]
  · rw [lookup_putEntry_of_ne hother, hascending.lookup_filter]
    have hkept : (other != key) = true := by simpa using hother
    simp only [hkept]
    cases entries.lookup other <;> rfl

theorem putEntry_eq_append (hlast : ∀ entry ∈ entries, entry.1 < key) (value : α) :
    putEntry key value entries = entries ++ [(key, value)] := by
  induction entries with
  | nil => rfl
  | cons first rest ih =>
      obtain ⟨head, held⟩ := first
      obtain ⟨hhead, hrest⟩ := List.forall_mem_cons.mp hlast
      have hne : key ≠ head := by
        rintro rfl
        exact String.lt_irrefl _ hhead
      have hnlt : ¬ key < head := fun hlt => String.lt_irrefl _ (String.lt_trans hlt hhead)
      rw [putEntry, if_neg hne, if_neg hnlt, ih hrest, List.cons_append]

/-- Entries that ascend are put in one after the other at the end. -/
theorem foldl_putEntry (hascending : Ascending (entries ++ others)) :
    others.foldl (fun found entry => putEntry entry.1 entry.2 found) entries =
      entries ++ others := by
  induction others generalizing entries with
  | nil => simp
  | cons entry rest ih =>
      have hlast : ∀ earlier ∈ entries, earlier.1 < entry.1 := by
        intro earlier hearlier
        exact (List.pairwise_append.mp hascending).2.2 earlier hearlier entry
          (List.mem_cons_self ..)
      have hsplit : entries ++ entry :: rest = (entries ++ [entry]) ++ rest := by simp
      rw [hsplit] at hascending ⊢
      rw [List.foldl_cons, putEntry_eq_append hlast, ih hascending]

namespace Dict

theorem get?_eq_some_iff {dict : Dict α} :
    dict.get? key = some value ↔ (key, value) ∈ dict.entries :=
  dict.ascending.lookup_eq_some_iff

theorem mem_entries_insert_self (dict : Dict α) (key : String) (value : α) :
    (key, value) ∈ (dict.insert key value).entries :=
  get?_eq_some_iff.mp (dict.get?_insert_self key value)

theorem mem_entries_insert_of_ne {dict : Dict α} {other : String} {held : α} (hne : other ≠ key)
    (hmem : (other, held) ∈ dict.entries) : (other, held) ∈ (dict.insert key value).entries := by
  rw [← get?_eq_some_iff] at hmem ⊢
  rw [get?_insert_of_ne dict hne, hmem]

/-- Putting a value under a key brings in the entry of the key and no other. -/
theorem eq_or_mem_of_mem_entries_insert {dict : Dict α} {entry : String × α}
    (hentry : entry ∈ (dict.insert key value).entries) :
    entry = (key, value) ∨ entry ∈ dict.entries := by
  obtain ⟨other, held⟩ := entry
  rw [← get?_eq_some_iff] at hentry
  by_cases hkey : other = key
  · subst hkey
    rw [get?_insert_self] at hentry
    exact Or.inl (by rw [Option.some.inj hentry])
  · rw [get?_insert_of_ne dict hkey] at hentry
    exact Or.inr (get?_eq_some_iff.mp hentry)

/-- Dictionaries with the same entries are the same. -/
theorem eq_of_entries_eq {dict other : Dict α} (hentries : dict.entries = other.entries) :
    dict = other := by
  cases dict
  cases other
  subst hentries
  rfl

/-! ### Dictionaries of lists -/

theorem ofList_concat (entries : List (String × α)) (entry : String × α) :
    ofList (entries ++ [entry]) = (ofList entries).insert entry.1 entry.2 := by
  rw [ofList, List.foldl_append]
  rfl

theorem entries_ofList (entries : List (String × α)) :
    (ofList entries).entries =
      entries.foldl (fun found entry => putEntry entry.1 entry.2 found) [] := by
  induction entries using List.reverseRecOn with
  | nil => rfl
  | append_singleton entries entry ih =>
      rw [ofList_concat, List.foldl_append, ← ih]
      rfl

/-- Of the values that are listed for a key the last one counts. -/
theorem get?_ofList (entries : List (String × α)) (key : String) :
    (ofList entries).get? key = entries.reverse.lookup key := by
  induction entries using List.reverseRecOn with
  | nil => rfl
  | append_singleton entries entry ih =>
      rw [ofList_concat, List.reverse_append, List.reverse_singleton, List.singleton_append,
        List.lookup_cons]
      -- The last entry is the first one from behind.
      by_cases hkey : key = entry.1
      · rw [hkey, get?_insert_self, beq_self_eq_true]
      · rw [get?_insert_of_ne _ hkey, beq_false_of_ne hkey, ih]

theorem mem_of_mem_entries_ofList {entry : String × α} (hentry : entry ∈ (ofList entries).entries) :
    entry ∈ entries := by
  obtain ⟨key, value⟩ := entry
  rw [← get?_eq_some_iff, get?_ofList] at hentry
  exact List.mem_reverse.mp (mem_of_lookup_eq_some hentry)

/-- A dictionary is the one of its own entries. -/
theorem ofList_entries (dict : Dict α) : ofList dict.entries = dict := by
  refine eq_of_entries_eq ?_
  rw [entries_ofList]
  exact foldl_putEntry dict.ascending

end Dict

end Entitlement
