import Entitlement.Proofs.Decode.Reads
import Entitlement.Proofs.Decode.Yields

/-!
# Decoding a document and decoding its value

A text is decoded as the document that it is, with the members of an object as they are
written.  A value at hand has its members by ascending key, and of two members with one key
only the later.  A decoder reads by value (`Decoder.ByValue`) if what it reads from a document
it reads from the value of the document as well.

For a record the one thing to see is that a field which finds its member in the document finds
it in the value: a member that occurs twice would have been refused, so the only member with
the name of the field is also the last one (`exists_lookup_of_findMember`).  A field that finds
none finds none in the value either (`lookup_eq_none_of_findMember`).  For a record that is
given as a list nothing is reordered, and the items correspond one by one
(`getElem?_of_itemValues`).

The converse fails: a document that has a member of a record twice has a value from which the
record is read, but is itself refused.  So this is stated for what was read, and says nothing
about faults.
-/

namespace Entitlement

variable {α β : Type}

/-- What the decoder reads from a document it reads from the value of the document. -/
def Decoder.ByValue (decoder : Decoder α) : Prop :=
  ∀ {document : Document} {value : Json} {result : α}, document.value? = some value →
    decoder none document = .ok result → decoder none (Document.ofJson value) = .ok result

namespace Decode

variable {decoder : Decoder α} {name : String} {result : α} {document : Document}
  {items : List Document} {values : List Json} {members : List (Option String × Document)}
  {valued : List (String × Json)}

/-! ## Values and lists of them -/

theorem byValue_text : text.ByValue := by
  intro document value result hvalue hread
  cases document with
  | str written =>
      obtain ⟨written, rfl, rfl⟩ := Option.map_eq_some_iff.mp hvalue
      exact hread
  | null | bool | num | arr | obj => contradiction

theorem byValue_identifier : identifier.ByValue := by
  intro document value result hvalue hread
  cases document with
  | str written =>
      obtain ⟨written, rfl, rfl⟩ := Option.map_eq_some_iff.mp hvalue
      exact hread
  | null | bool | num | arr | obj => contradiction

theorem byValue_anything : anything.ByValue := by
  intro document value result hvalue hread
  rw [anything, hvalue] at hread
  obtain rfl : value = result := Except.ok.inj hread
  rw [anything, Document.value?_ofJson value (Document.ordered_of_value? document hvalue)]
  rfl

theorem byValue_mapped (f : α → β) (hbyValue : decoder.ByValue) :
    (mapped f decoder).ByValue := by
  intro document value result hvalue hread
  obtain ⟨delivered, hdecoded, himage⟩ := mapped_eq_ok.mp hread
  exact mapped_eq_ok.mpr ⟨delivered, hbyValue hvalue hdecoded, himage⟩

theorem itemsFrom_of_itemValues (hbyValue : decoder.ByValue) {results : List α} {index : Nat}
    (hvalues : Document.itemValues items = some values)
    (hread : itemsFrom decoder none index items = .ok results) :
    itemsFrom decoder none index (Document.ofItems values) = .ok results := by
  induction items generalizing index values results with
  | nil =>
      obtain rfl : [] = values := Option.some.inj hvalues
      exact hread
  | cons item rest ih =>
      obtain ⟨value, later, hvalue, hlater, rfl⟩ := Document.itemValues_cons hvalues
      obtain ⟨first, others, hitem, hrest, rfl⟩ := itemsFrom_cons_eq_ok.mp hread
      rw [Document.ofItems]
      exact itemsFrom_cons_eq_ok.mpr ⟨first, others, hbyValue hvalue hitem, ih hlater hrest, rfl⟩

theorem byValue_listOf (hbyValue : decoder.ByValue) : (listOf decoder).ByValue := by
  intro document value result hvalue hread
  cases document with
  | arr items =>
      obtain ⟨values, hvalues, rfl⟩ := Option.map_eq_some_iff.mp hvalue
      exact itemsFrom_of_itemValues hbyValue hvalues hread
  | null | bool | num | str | obj => contradiction

/-! ## Members and items of a document and of its value -/

theorem lookup_eq_none_of_findMember {place : Nat}
    (hvalues : Document.memberValues members = some valued)
    (hfind : findMember name place members = none) : valued.reverse.lookup name = none := by
  induction members generalizing place valued with
  | nil =>
      obtain rfl : [] = valued := Option.some.inj hvalues
      rfl
  | cons member rest ih =>
      obtain ⟨key, member⟩ := member
      obtain ⟨known, value, later, rfl, _, hlater, rfl⟩ := Document.memberValues_cons hvalues
      rw [findMember] at hfind
      split at hfind
      · contradiction
      · rename_i hkey
        have hne : name ≠ known := fun heq => hkey (congrArg some heq.symm)
        rw [List.reverse_cons, List.lookup_append, ih hlater hfind]
        simp [List.lookup_cons, beq_false_of_ne hne]

/-- A member that is the only one with its name is the last one with it. -/
theorem exists_lookup_of_findMember {place found : Nat} {member : Document}
    (hvalues : Document.memberValues members = some valued)
    (hfind : findMember name place members = some (found, member, none)) :
    ∃ value, member.value? = some value ∧ valued.reverse.lookup name = some value := by
  induction members generalizing place valued with
  | nil => contradiction
  | cons first rest ih =>
      obtain ⟨key, held⟩ := first
      obtain ⟨known, value, later, rfl, hvalue, hlater, rfl⟩ := Document.memberValues_cons hvalues
      rw [findMember] at hfind
      rw [List.reverse_cons, List.lookup_append]
      split at hfind
      · rename_i hkey
        obtain rfl : known = name := Option.some.inj hkey
        simp only [Option.some.injEq, Prod.mk.injEq, Option.map_eq_none_iff] at hfind
        -- No later member has the name, so the last one with it is this one.
        obtain ⟨_, rfl, hrest⟩ := hfind
        refine ⟨value, hvalue, ?_⟩
        rw [lookup_eq_none_of_findMember hlater hrest]
        simp
      · obtain ⟨value, hvalue, hlookup⟩ := ih hlater hfind
        exact ⟨value, hvalue, by rw [hlookup, Option.some_or]⟩

theorem length_of_itemValues (hvalues : Document.itemValues items = some values) :
    (Document.ofItems values).length = items.length := by
  induction items generalizing values with
  | nil =>
      obtain rfl : [] = values := Option.some.inj hvalues
      rfl
  | cons item rest ih =>
      obtain ⟨value, later, _, hlater, rfl⟩ := Document.itemValues_cons hvalues
      rw [Document.ofItems, List.length_cons, List.length_cons, ih hlater]

theorem getElem?_of_itemValues (hvalues : Document.itemValues items = some values) {index : Nat}
    {item : Document} (hitem : items[index]? = some item) :
    ∃ value, item.value? = some value ∧
      (Document.ofItems values)[index]? = some (Document.ofJson value) := by
  induction items generalizing index values with
  | nil => contradiction
  | cons first rest ih =>
      obtain ⟨value, later, hvalue, hlater, rfl⟩ := Document.itemValues_cons hvalues
      cases index with
      | zero =>
          obtain rfl : first = item := Option.some.inj hitem
          exact ⟨value, hvalue, rfl⟩
      | succ index => exact ih hlater hitem

/-! ## Fields -/

/-- What the fields of a record read from a document they read from the value of the
document. -/
structure Fields.ByValue (fields : Fields α) : Prop where
  named : ∀ {members : List (Option String × Document)} {valued : List (String × Json)}
    {result : α}, Document.memberValues members = some valued →
      fields.named none members = .ok result →
        fields.named none (Document.ofMembers (Dict.ofList valued).entries) = .ok result
  listed : ∀ {short : Nat → Misfit} {start : Nat} {items : List Document} {values : List Json}
    {result : α}, Document.itemValues items = some values →
      fields.listed short none start items = .ok result →
        fields.listed short none start (Document.ofItems values) = .ok result

namespace Fields.ByValue

variable {fields : Fields α}

theorem seq {first : Fields (α → β)} (hfirst : first.ByValue) (hfields : fields.ByValue) :
    (first <*> fields).ByValue where
  named hvalues hread := by
    obtain ⟨f, value, hf, hvalue, rfl⟩ := Part.exists_of_both hread
    show Part.both (first.named none _) (fields.named none _) = _
    rw [hfirst.named hvalues hf, hfields.named hvalues hvalue]
    rfl
  listed hvalues hread := by
    obtain ⟨f, value, hf, hvalue, rfl⟩ := Part.exists_of_both hread
    show Part.both (first.listed _ none _ _) (fields.listed _ none _ _) = _
    rw [hfirst.listed hvalues hf, hfields.listed hvalues hvalue]
    rfl

theorem map (f : α → β) (hfields : fields.ByValue) : (f <$> fields).ByValue := by
  have hpure : (pure f : Fields (α → β)).ByValue :=
    ⟨fun _ hread => hread, fun _ hread => hread⟩
  exact hpure.seq hfields

end Fields.ByValue

theorem namedField_byValue (hbyValue : decoder.ByValue) {absent : Except Misfit α}
    (hvalues : Document.memberValues members = some valued)
    (hread : namedField name decoder absent none members = .ok result) :
    namedField name decoder absent none
      (Document.ofMembers (Dict.ofList valued).entries) = .ok result := by
  have hlookup := Dict.get?_ofList valued name
  unfold namedField at hread
  split at hread
  · -- No member has the name, in the document or in the value.
    rename_i hfind
    rw [lookup_eq_none_of_findMember hvalues hfind] at hlookup
    rw [namedField, findMember_eq_none hlookup]
    rw [eq_ok_of_mapError hread]
    rfl
  · rename_i place member again hfind
    split at hread
    · contradiction
    · contradiction
    · -- One member has the name; a second one would have been refused as a repetition.
      rename_i hdecoded
      obtain rfl : _ = result := Except.ok.inj hread
      obtain ⟨value, hvalue, hlast⟩ := exists_lookup_of_findMember hvalues hfind
      rw [hlast] at hlookup
      obtain ⟨found, hfound⟩ :=
        exists_findMember_eq_some (Dict.ofList valued).ascending.nodup_keys hlookup 0
      rw [namedField, hfound]
      simp only [hbyValue hvalue hdecoded]

theorem listedField_byValue (hbyValue : decoder.ByValue) {absent : Except Misfit α} {index : Nat}
    (hvalues : Document.itemValues items = some values)
    (hread : listedField decoder absent none index items = .ok result) :
    listedField decoder absent none index (Document.ofItems values) = .ok result := by
  unfold listedField at hread
  split at hread
  · rename_i hnone
    -- An array and its value have the same length, so the item is missing in both.
    have hnone' : (Document.ofItems values)[index]? = none := by
      rw [List.getElem?_eq_none_iff, length_of_itemValues hvalues]
      exact List.getElem?_eq_none_iff.mp hnone
    rw [listedField, hnone', eq_ok_of_mapError hread]
    rfl
  · rename_i item hitem
    obtain ⟨value, hvalue, hitem'⟩ := getElem?_of_itemValues hvalues hitem
    rw [listedField, hitem']
    show (decoder none (Document.ofJson value)).mapError _ = _
    rw [hbyValue hvalue (eq_ok_of_mapError hread)]
    rfl

theorem byValue_required (name : String) (hbyValue : decoder.ByValue) :
    (required name decoder).ByValue :=
  ⟨namedField_byValue hbyValue, listedField_byValue hbyValue⟩

theorem byValue_defaulting (name : String) (hbyValue : decoder.ByValue) (default : α) :
    (defaulting name decoder default).ByValue :=
  ⟨namedField_byValue hbyValue, listedField_byValue hbyValue⟩

theorem byValue_record (name : String) {fields : Fields α} (hfields : fields.ByValue) :
    (record name fields).ByValue := by
  intro document value result hvalue hread
  cases document with
  | null | bool | num | str => contradiction
  | obj members =>
      -- A record may be written as an object.
      obtain ⟨valued, hvalues, rfl⟩ := Option.map_eq_some_iff.mp hvalue
      simp only [record] at hread
      split at hread
      · contradiction
      · have hnamed : fields.named (inner none)
            (Document.ofMembers (Dict.ofList valued).entries) = .ok result :=
          hfields.named hvalues (eq_ok_of_mapError hread)
        rw [Json.ofMembers_eq, Document.ofJson]
        simp only [record, any_isNone_ofMembers, hnamed]
        rfl
  | arr items =>
      -- Or as an array of its fields in order; how many there are left over is not changed.
      obtain ⟨values, hvalues, rfl⟩ := Option.map_eq_some_iff.mp hvalue
      simp only [record] at hread
      split at hread
      · contradiction
      · rename_i delivered hlisted
        have hlisted' : fields.listed (Misfit.short · name fields.count) (inner none) 0
            (Document.ofItems values) = .ok delivered := hfields.listed hvalues hlisted
        simp only [Document.ofJson, record, hlisted', length_of_itemValues hvalues]
        exact hread

end Decode

end Entitlement
