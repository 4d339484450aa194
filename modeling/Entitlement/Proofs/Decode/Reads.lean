import Entitlement.Proofs.Json.Sorted
import Entitlement.Proofs.Text
import Entitlement.Record

/-!
# What decoders read from written values

A written value is read as the document that lists it.  `Decoder.Reads` says what a
decoder makes of a value wherever there is room for the depth of it, `Fields.Reads` what
the fields of a record make of the members of an object.  The lemmas follow the
composition of the decoders, one for each way to build a decoder, so that for a record it
is enough to name the member that each field finds.

* Scalars are read as what they are: `reads_text`, `reads_identifier`, `reads_variant`.
* Lists and dictionaries are read item by item, each by a decoder that may make something else of
  it than what was written: `reads_listOf`, `reads_dictOf`.
* A record is read by its fields, which are put together one after the other
  (`Fields.Reads.map`, `Fields.Reads.seq`, `reads_record`).  A field finds its member by name and
  demands that no other has it, so keys must not be repeated
  (`exists_findMember_eq_some`).

Room is what is left of the nesting that a reader admits.  Only the decoder of arbitrary values
asks for it, but every other one hands it on, one level less for each level it goes in
(`Suffices.inner`).
-/

namespace Entitlement

variable {α β : Type}

namespace Decode

/-! ## Room -/

/-- The room, where it is limited at all, suffices for a depth. -/
def Suffices (room : Option Nat) (depth : Nat) : Prop := ∀ limit ∈ room, depth ≤ limit

variable {room : Option Nat} {depth inside : Nat}

theorem Suffices.mono (hroom : Suffices room depth) (hinside : inside ≤ depth) :
    Suffices room inside := fun limit hlimit => Nat.le_trans hinside (hroom limit hlimit)

/-- Room for a whole is room for its parts, one level further in. -/
theorem Suffices.inner (hroom : Suffices room (depth + 1)) : Suffices (inner room) depth := by
  intro limit hlimit
  obtain ⟨outer, houter, rfl⟩ := Option.map_eq_some_iff.mp hlimit
  have hle := hroom outer houter
  omega

end Decode

open Decode

/-- What a decoder makes of a value, wherever there is room for it. -/
def Decoder.Reads (decoder : Decoder α) (value : Json) (result : α) : Prop :=
  ∀ room, Suffices room (Document.ofJson value).depth →
    decoder room (Document.ofJson value) = .ok result

theorem Decoder.Reads.ofJson {decoder : Decoder α} {value : Json} {result : α}
    (hreads : decoder.Reads value result) : decoder.ofJson value = .ok result := by
  have hroom : Suffices none (Document.ofJson value).depth := by
    intro limit hlimit
    contradiction
  rw [Decoder.ofJson, hreads none hroom]
  rfl

namespace Decode

variable {decoder : Decoder α} {value : Json} {result : α} {name : String}

/-! ## Scalars -/

theorem reads_anything (hordered : value.Ordered) : anything.Reads value value := by
  intro room hroom
  have hall : room.all ((Document.ofJson value).depth ≤ ·) = true := by
    cases room with
    | none => rfl
    | some limit => simpa using hroom limit rfl
  rw [anything, Document.value?_ofJson value hordered]
  exact if_pos hall

theorem reads_text (written : String) : text.Reads (.str written) written := fun _ _ => rfl

theorem reads_time (written : String) : time.Reads (.str written) written := fun _ _ => rfl

theorem reads_identifier (id : Uuid) : identifier.Reads id.toJson id := by
  intro room _
  simp only [identifier, Uuid.toJson, Document.ofJson, Uuid.parse?_text]

theorem reads_variant {known : List (String × α)} (hname : known.lookup name = some result) :
    (variant known).Reads (.str name) result := by
  intro room _
  simp only [variant, Document.ofJson, hname]

/-! ## Composed values -/

theorem reads_mapped (f : α → β) (hreads : decoder.Reads value result) :
    (mapped f decoder).Reads value (f result) := by
  intro room hroom
  rw [mapped, hreads room hroom]
  rfl

theorem reads_nullable_null : (nullable decoder).Reads .null none := fun _ _ => rfl

theorem reads_nullable (hreads : decoder.Reads value result) (hnull : value ≠ .null) :
    (nullable decoder).Reads value (some result) := by
  intro room hroom
  have hfound : (nullable decoder) room (Document.ofJson value) =
      (decoder room (Document.ofJson value)).map some := by
    cases value with
    | null => contradiction
    | _ => rfl
  rw [hfound, hreads room hroom]
  rfl

theorem itemsFrom_eq_ok {write : β → Json} {read : β → α} {values : List β} {room : Option Nat}
    (hreads : ∀ value ∈ values, decoder.Reads (write value) (read value))
    (hroom : Suffices room (Document.depthOfItems (Document.ofItems (values.map write))))
    (index : Nat) :
    itemsFrom decoder room index (Document.ofItems (values.map write)) =
      .ok (values.map read) := by
  induction values generalizing index with
  | nil => rfl
  | cons value rest ih =>
      obtain ⟨hvalue, hrest⟩ := List.forall_mem_cons.mp hreads
      rw [List.map_cons, Document.ofItems, Document.depthOfItems] at hroom
      have hfirst := hvalue room (hroom.mono (Nat.le_max_left ..))
      have hlater := ih hrest (hroom.mono (Nat.le_max_right ..)) (index + 1)
      rw [List.map_cons, Document.ofItems, itemsFrom, hfirst, hlater]
      rfl

theorem reads_listOf {write : β → Json} {read : β → α} {values : List β}
    (hreads : ∀ value ∈ values, decoder.Reads (write value) (read value)) :
    (listOf decoder).Reads (.arr (values.map write)) (values.map read) := by
  intro room hroom
  exact itemsFrom_eq_ok hreads hroom.inner 0

theorem membersFrom_eq_ok {write : β → Json} {read : β → α} {entries : List (String × β)}
    {room : Option Nat}
    (hreads : ∀ entry ∈ entries, decoder.Reads (write entry.2) (read entry.2))
    (hroom : Suffices room (Document.depthOfMembers
      (Document.ofMembers (entries.map fun entry => (entry.1, write entry.2))))) :
    membersFrom decoder room
        (Document.ofMembers (entries.map fun entry => (entry.1, write entry.2))) =
      .ok (entries.map fun entry => (entry.1, read entry.2)) := by
  induction entries with
  | nil => rfl
  | cons entry rest ih =>
      obtain ⟨hentry, hrest⟩ := List.forall_mem_cons.mp hreads
      rw [List.map_cons, Document.ofMembers, Document.depthOfMembers] at hroom
      have hfirst := hentry room (hroom.mono (Nat.le_max_left ..))
      have hlater := ih hrest (hroom.mono (Nat.le_max_right ..))
      rw [List.map_cons, Document.ofMembers, membersFrom, hfirst, hlater]
      rfl

theorem reads_dictOf {write : β → Json} {read : β → α} {dict : Dict β}
    (hreads : ∀ entry ∈ dict.entries, decoder.Reads (write entry.2) (read entry.2)) :
    (dictOf decoder).Reads (Json.ofDict (dict.map write)) (dict.map read) := by
  intro room hroom
  show (membersFrom decoder (inner room) (Document.ofMembers
    (dict.entries.map fun entry => (entry.1, write entry.2)))).map Dict.ofList = _
  rw [membersFrom_eq_ok hreads hroom.inner]
  exact congrArg Except.ok (Dict.ofList_entries (dict.map read))

/-! ## Records -/

/-- What the fields of a record make of the members of an object. -/
def Fields.Reads (fields : Fields α) (members : List (String × Json)) (result : α) : Prop :=
  ∀ room, Suffices room (Document.depthOfMembers (Document.ofMembers members)) →
    fields.named room (Document.ofMembers members) = .ok result

variable {fields : Fields α} {members : List (String × Json)}

theorem any_isNone_ofMembers (members : List (String × Json)) :
    (Document.ofMembers members).any (·.1.isNone) = false := by
  induction members with
  | nil => rfl
  | cons member rest ih => exact ih

theorem reads_record (name : String) (hreads : fields.Reads members result) :
    (record name fields).Reads (.obj members) result := by
  intro room hroom
  show (if (Document.ofMembers members).any (·.1.isNone) then malformed
    else (fields.named (inner room) (Document.ofMembers members)).mapError (·.2)) = _
  rw [any_isNone_ofMembers, hreads (inner room) hroom.inner]
  rfl

theorem Fields.Reads.map (f : α → β) (hreads : fields.Reads members result) :
    (f <$> fields).Reads members (f result) := by
  intro room hroom
  show Part.both (.ok f) (fields.named room _) = _
  rw [hreads room hroom]
  rfl

theorem Fields.Reads.seq {first : Fields (α → β)} {f : α → β} (hfirst : first.Reads members f)
    (hreads : fields.Reads members result) : (first <*> fields).Reads members (f result) := by
  intro room hroom
  show Part.both (first.named room _) (fields.named room _) = _
  rw [hfirst room hroom, hreads room hroom]
  rfl

/-! ## Fields -/

theorem findMember_eq_none (hlookup : members.lookup name = none) (place : Nat) :
    findMember name place (Document.ofMembers members) = none := by
  induction members generalizing place with
  | nil => rfl
  | cons member rest ih =>
      obtain ⟨key, held⟩ := member
      rw [List.lookup_cons] at hlookup
      by_cases hkey : name = key
      · simp [hkey] at hlookup
      · rw [beq_false_of_ne hkey] at hlookup
        have hne : ¬ some key = some name := fun heq => hkey (Option.some.inj heq).symm
        rw [Document.ofMembers, findMember, if_neg hne, ih hlookup]

/-- Where no key occurs twice, a field finds the member with its name and no other. -/
theorem exists_findMember_eq_some (hkeys : (members.map (·.1)).Nodup)
    (hlookup : members.lookup name = some value) (place : Nat) :
    ∃ found, findMember name place (Document.ofMembers members) =
      some (found, Document.ofJson value, none) := by
  induction members generalizing place with
  | nil => contradiction
  | cons member rest ih =>
      obtain ⟨key, held⟩ := member
      obtain ⟨hfree, hrest⟩ := List.nodup_cons.mp hkeys
      rw [List.lookup_cons] at hlookup
      by_cases hkey : name = key
      · subst hkey
        obtain rfl : held = value := by simpa using hlookup
        -- The field looks on for a repetition, and there is none.
        have hlater : rest.lookup name = none := by
          rw [List.lookup_eq_none_iff]
          intro other hother
          simp only [bne_iff_ne, ne_eq]
          rintro rfl
          exact hfree (List.mem_map.mpr ⟨other, hother, rfl⟩)
        refine ⟨place, ?_⟩
        rw [Document.ofMembers, findMember, if_pos rfl, findMember_eq_none hlater]
        rfl
      · rw [beq_false_of_ne hkey] at hlookup
        have hne : ¬ some key = some name := fun heq => hkey (Option.some.inj heq).symm
        obtain ⟨found, hfound⟩ := ih hrest hlookup (place + 1)
        refine ⟨found, ?_⟩
        rw [Document.ofMembers, findMember, if_neg hne, hfound]

theorem depth_le_of_lookup (hlookup : members.lookup name = some value) :
    (Document.ofJson value).depth ≤
      Document.depthOfMembers (Document.ofMembers members) := by
  induction members with
  | nil => contradiction
  | cons member rest ih =>
      obtain ⟨key, held⟩ := member
      rw [Document.ofMembers, Document.depthOfMembers]
      rw [List.lookup_cons] at hlookup
      by_cases hkey : name = key
      · obtain rfl : held = value := by simpa [hkey] using hlookup
        exact Nat.le_max_left ..
      · rw [beq_false_of_ne hkey] at hlookup
        exact Nat.le_trans (ih hlookup) (Nat.le_max_right ..)

theorem namedField_of_lookup (hkeys : (members.map (·.1)).Nodup)
    (hlookup : members.lookup name = some value) (hreads : decoder.Reads value result)
    (absent : Except Misfit α) {room : Option Nat}
    (hroom : Suffices room (Document.depthOfMembers (Document.ofMembers members))) :
    namedField name decoder absent room (Document.ofMembers members) = .ok result := by
  obtain ⟨found, hfound⟩ := exists_findMember_eq_some hkeys hlookup 0
  rw [namedField, hfound]
  simp only [hreads room (hroom.mono (depth_le_of_lookup hlookup))]

theorem namedField_of_absent (hlookup : members.lookup name = none) (default : α)
    (room : Option Nat) :
    namedField name decoder (.ok default) room (Document.ofMembers members) = .ok default := by
  rw [namedField, findMember_eq_none hlookup]
  rfl

theorem reads_required (hkeys : (members.map (·.1)).Nodup)
    (hlookup : members.lookup name = some value) (hreads : decoder.Reads value result) :
    (required name decoder).Reads members result :=
  fun _ hroom => namedField_of_lookup hkeys hlookup hreads _ hroom

theorem reads_optional {written : Option α} (hkeys : (members.map (·.1)).Nodup)
    (hlookup : members.lookup name = some value) (hreads : (nullable decoder).Reads value written) :
    (optional name decoder).Reads members written :=
  fun _ hroom => namedField_of_lookup hkeys hlookup hreads _ hroom

theorem reads_defaulting (hkeys : (members.map (·.1)).Nodup)
    (hlookup : members.lookup name = some value) (hreads : decoder.Reads value result)
    (default : α) : (defaulting name decoder default).Reads members result :=
  fun _ hroom => namedField_of_lookup hkeys hlookup hreads _ hroom

theorem reads_defaulting_of_absent (hlookup : members.lookup name = none) (default : α) :
    (defaulting name decoder default).Reads members default :=
  fun room _ => namedField_of_absent hlookup default room

end Decode

end Entitlement
