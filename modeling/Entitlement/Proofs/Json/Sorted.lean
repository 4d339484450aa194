import Entitlement.Json.Reader
import Entitlement.Proofs.Dict

/-!
# Values of documents are sorted

A document lists the members of an object as they are written, a value by ascending key.  So
whatever a document denotes is ordered (`Document.ordered_of_value?`).  A value that was put
together in another order, as records are, is written in that order too; what the document
denotes then is the value with its members sorted (`Document.value?_ofJson_eq_sorted`).

Sorting puts the members in one after the other, so of two members with one key the later one
remains, as when a document is read.  It leaves an ordered value as it is
(`sorted_of_ordered`), because ascending members are put in each behind the last
(`ofMembers_of_ascending`).  Hence an ordered value that is written is also the value that is
read (`Document.value?_ofJson`).

The recursions are those of values and of documents: a value, its items, its members.
-/

namespace Entitlement

namespace Json

/-! ## Ordered members -/

theorem orderedMembers_iff {members : List (String × Json)} :
    OrderedMembers members ↔ ∀ entry ∈ members, entry.2.Ordered := by
  induction members with
  | nil => simp [OrderedMembers]
  | cons entry rest ih =>
      obtain ⟨key, value⟩ := entry
      simp [OrderedMembers, ih]

theorem ofMembers_eq (members : List (String × Json)) :
    ofMembers members = .obj (Dict.ofList members).entries := by
  rw [ofMembers, Dict.entries_ofList]

/-- Members whose values are ordered make an ordered object. -/
theorem ordered_ofMembers {members : List (String × Json)} (hordered : OrderedMembers members) :
    (ofMembers members).Ordered := by
  rw [ofMembers_eq]
  refine ⟨(Dict.ofList members).ascending, orderedMembers_iff.mpr ?_⟩
  intro entry hentry
  exact orderedMembers_iff.mp hordered entry (Dict.mem_of_mem_entries_ofList hentry)

theorem ofMembers_of_ascending {members : List (String × Json)} (hascending : Ascending members) :
    ofMembers members = .obj members := by
  have hnothing : Ascending ([] ++ members) := hascending
  exact congrArg Json.obj (foldl_putEntry hnothing)

/-! ## Sorting -/

mutual
/-- The value with the members of every object in ascending order. -/
def sorted : Json → Json
  | .arr items => .arr (sortedItems items)
  | .obj members => ofMembers (sortedMembers members)
  | scalar => scalar
/-- The items of an array, sorted within. -/
def sortedItems : List Json → List Json
  | [] => []
  | item :: rest => item.sorted :: sortedItems rest
/-- The members of an object with their values sorted, in the order in which they are. -/
def sortedMembers : List (String × Json) → List (String × Json)
  | [] => []
  | (key, value) :: rest => (key, value.sorted) :: sortedMembers rest
end

mutual
theorem sorted_of_ordered (value : Json) (hordered : value.Ordered) : value.sorted = value := by
  cases value with
  | null | bool | num | str => rw [sorted] <;> simp
  | arr items => rw [sorted, sortedItems_of_ordered items hordered]
  | obj members =>
      rw [sorted, sortedMembers_of_ordered members hordered.2, ofMembers_of_ascending hordered.1]
theorem sortedItems_of_ordered (items : List Json) (hordered : OrderedItems items) :
    sortedItems items = items := by
  cases items with
  | nil => rfl
  | cons item rest =>
      rw [sortedItems, sorted_of_ordered item hordered.1, sortedItems_of_ordered rest hordered.2]
theorem sortedMembers_of_ordered (members : List (String × Json))
    (hordered : OrderedMembers members) : sortedMembers members = members := by
  match members, hordered with
  | [], _ => rfl
  | (key, value) :: rest, hordered =>
      rw [sortedMembers, sorted_of_ordered value hordered.1,
        sortedMembers_of_ordered rest hordered.2]
end

end Json

/-! ## Documents -/

namespace Document

theorem itemValues_cons {item : Document} {rest : List Document} {values : List Json}
    (hvalues : itemValues (item :: rest) = some values) :
    ∃ value later, item.value? = some value ∧ itemValues rest = some later ∧
      values = value :: later := by
  rw [itemValues] at hvalues
  split at hvalues
  · rename_i value later hvalue hlater
    exact ⟨value, later, hvalue, hlater, (Option.some.inj hvalues).symm⟩
  · contradiction

theorem memberValues_cons {key : Option String} {member : Document}
    {rest : List (Option String × Document)} {valued : List (String × Json)}
    (hvalues : memberValues ((key, member) :: rest) = some valued) :
    ∃ known value later, key = some known ∧ member.value? = some value ∧
      memberValues rest = some later ∧ valued = (known, value) :: later := by
  cases key with
  | none => contradiction
  | some known =>
      simp only [memberValues] at hvalues
      split at hvalues
      · rename_i found value later hkey hvalue hlater
        obtain rfl : known = found := Option.some.inj hkey
        exact ⟨known, value, later, rfl, hvalue, hlater, (Option.some.inj hvalues).symm⟩
      · contradiction

mutual
/-- What a document denotes is ordered. -/
theorem ordered_of_value? (document : Document) {value : Json}
    (hvalue : document.value? = some value) : value.Ordered := by
  cases document with
  | null | bool =>
      obtain rfl := Option.some.inj hvalue
      trivial
  | num | str =>
      obtain ⟨_, _, rfl⟩ := Option.map_eq_some_iff.mp hvalue
      trivial
  | arr items =>
      obtain ⟨values, hvalues, rfl⟩ := Option.map_eq_some_iff.mp hvalue
      exact ordered_of_itemValues items hvalues
  | obj members =>
      obtain ⟨values, hvalues, rfl⟩ := Option.map_eq_some_iff.mp hvalue
      exact Json.ordered_ofMembers (ordered_of_memberValues members hvalues)
theorem ordered_of_itemValues (items : List Document) {values : List Json}
    (hvalues : itemValues items = some values) : Json.OrderedItems values := by
  cases items with
  | nil =>
      obtain rfl := Option.some.inj hvalues
      trivial
  | cons item rest =>
      obtain ⟨value, later, hvalue, hlater, rfl⟩ := itemValues_cons hvalues
      exact ⟨ordered_of_value? item hvalue, ordered_of_itemValues rest hlater⟩
theorem ordered_of_memberValues (members : List (Option String × Document))
    {values : List (String × Json)} (hvalues : memberValues members = some values) :
    Json.OrderedMembers values := by
  match members, hvalues with
  | [], hvalues =>
      obtain rfl := Option.some.inj hvalues
      trivial
  | (key, member) :: rest, hvalues =>
      obtain ⟨_, value, later, _, hvalue, hlater, rfl⟩ := memberValues_cons hvalues
      exact ⟨ordered_of_value? member hvalue, ordered_of_memberValues rest hlater⟩
end

mutual
/-- A document that lists a value denotes it with its members sorted. -/
theorem value?_ofJson_eq_sorted (value : Json) : (ofJson value).value? = some value.sorted := by
  cases value with
  | null | bool | num | str => rfl
  | arr items => rw [ofJson, value?, itemValues_ofItems items, Json.sorted, Option.map_some]
  -- Members are sorted on the way in: a value lists them by ascending key.
  | obj members =>
      rw [ofJson, value?, memberValues_ofMembers members, Json.sorted, Option.map_some]
theorem itemValues_ofItems (items : List Json) :
    itemValues (ofItems items) = some (Json.sortedItems items) := by
  cases items with
  | nil => rfl
  | cons item rest =>
      rw [ofItems, itemValues, value?_ofJson_eq_sorted item, itemValues_ofItems rest,
        Json.sortedItems]
theorem memberValues_ofMembers (members : List (String × Json)) :
    memberValues (ofMembers members) = some (Json.sortedMembers members) := by
  match members with
  | [] => rfl
  | (key, value) :: rest =>
      have hvalue := value?_ofJson_eq_sorted value
      have hrest := memberValues_ofMembers rest
      simp only [ofMembers, memberValues, hvalue, hrest, Json.sortedMembers]
end

/-- A document that lists an ordered value denotes this value. -/
theorem value?_ofJson (value : Json) (hordered : value.Ordered) :
    (ofJson value).value? = some value := by
  rw [value?_ofJson_eq_sorted, Json.sorted_of_ordered value hordered]

end Document

end Entitlement
