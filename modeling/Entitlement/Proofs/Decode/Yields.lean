import Entitlement.Decode
import Entitlement.Proofs.Json.Sorted

/-!
# What decoders deliver

A decoder reads a value from many documents: a record as an object or as a list, with members
in any order and others among them, from a text or from a value at hand.  `Decoder.Yields` says
that it reads a value from some document, whichever it is, and `Fields.Yields` the same of the
fields of a record.

Which values these are is read off the decoder, one lemma for each way to build it: a record
delivers what its fields deliver (`yields_of_record`), and a field what its own decoder delivers,
or what its absence amounts to (`yields_of_defaulting`).

So a property of what is read can be proved without any document.  For a record with several
fields the lemmas `Fields.Yields.exists_of_seq` and `Fields.Yields.exists_of_map` peel off
one field after the other, from the last to the first, and at the end each part of the record is
known to be what its field delivers.  An object and a list are told apart once, in
`yields_of_record`, and by no later proof.
-/

namespace Entitlement

variable {α β : Type}

/-- Faults that are told otherwise do not change what is read. -/
theorem eq_ok_of_mapError {ε δ : Type} {f : ε → δ} {read : Except ε α} {result : α}
    (hread : read.mapError f = .ok result) : read = .ok result := by
  cases read with
  | error fault => contradiction
  | ok value => exact congrArg _ (Except.ok.inj hread)

/-- A decoder delivers a value for some document. -/
def Decoder.Yields (decoder : Decoder α) (result : α) : Prop :=
  ∃ room document, decoder room document = .ok result

namespace Decoder.Yields

variable {decoder : Decoder α} {result : α}

theorem of_ofJson {value : Json} (hread : decoder.ofJson value = .ok result) :
    decoder.Yields result := by
  exact ⟨none, Document.ofJson value, eq_ok_of_mapError hread⟩

theorem of_ofText {text : String} (hread : decoder.ofText text = .ok result) :
    decoder.Yields result := by
  unfold Decoder.ofText at hread
  split at hread
  · contradiction
  · rename_i document _ _
    split at hread
    · -- What is delivered is read from the document at the front, if nothing follows it.
      rename_i delivered hdecoded
      obtain rfl : delivered = result := Except.ok.inj hread
      exact ⟨_, document, hdecoded⟩
    · split at hread <;> contradiction

end Decoder.Yields

namespace Decode

variable {decoder : Decoder α} {result : α}

/-! ## Values and lists of them -/

theorem ordered_of_yields_anything {value : Json} (hyields : anything.Yields value) :
    value.Ordered := by
  obtain ⟨room, document, hread⟩ := hyields
  unfold anything at hread
  split at hread
  · rename_i found hvalue
    split at hread
    · obtain rfl : found = value := Except.ok.inj hread
      exact Document.ordered_of_value? document hvalue
    · contradiction
  · contradiction

theorem mapped_eq_ok {f : α → β} {room : Option Nat} {document : Document} {image : β} :
    mapped f decoder room document = .ok image ↔
      ∃ value, decoder room document = .ok value ∧ f value = image := by
  unfold mapped
  cases decoder room document with
  | error fault => exact ⟨nofun, nofun⟩
  | ok value => simp [Except.map]

theorem exists_yields_of_mapped {f : α → β} {image : β}
    (hyields : (mapped f decoder).Yields image) :
    ∃ value, decoder.Yields value ∧ f value = image := by
  obtain ⟨room, document, hread⟩ := hyields
  obtain ⟨value, hdecoded, himage⟩ := mapped_eq_ok.mp hread
  exact ⟨value, ⟨room, document, hdecoded⟩, himage⟩

/-- Items are read if the first is and the others are. -/
theorem itemsFrom_cons_eq_ok {room : Option Nat} {index : Nat} {item : Document}
    {rest : List Document} {values : List α} :
    itemsFrom decoder room index (item :: rest) = .ok values ↔
      ∃ value later, decoder room item = .ok value ∧
        itemsFrom decoder room (index + 1) rest = .ok later ∧ values = value :: later := by
  rw [itemsFrom]
  constructor
  · intro hread
    -- The first fault ends the reading.
    cases hitem : decoder room item with
    | error fault =>
        rw [hitem] at hread
        contradiction
    | ok value =>
        cases hrest : itemsFrom decoder room (index + 1) rest with
        | error fault =>
            rw [hitem, hrest] at hread
            contradiction
        | ok later =>
            rw [hitem, hrest] at hread
            exact ⟨value, later, rfl, rfl, (Except.ok.inj hread).symm⟩
  · rintro ⟨value, later, hitem, hrest, rfl⟩
    rw [hitem, hrest]
    rfl

theorem yields_of_itemsFrom {room : Option Nat} {index : Nat} {items : List Document}
    {values : List α} (hread : itemsFrom decoder room index items = .ok values) :
    ∀ value ∈ values, decoder.Yields value := by
  induction items generalizing index values with
  | nil =>
      obtain rfl : [] = values := Except.ok.inj hread
      exact fun _ hvalue => absurd hvalue List.not_mem_nil
  | cons item rest ih =>
      obtain ⟨value, later, hitem, hrest, rfl⟩ := itemsFrom_cons_eq_ok.mp hread
      exact List.forall_mem_cons.mpr ⟨⟨room, item, hitem⟩, ih hrest⟩

theorem yields_of_mem_listOf {values : List α} (hyields : (listOf decoder).Yields values) :
    ∀ value ∈ values, decoder.Yields value := by
  obtain ⟨room, document, hread⟩ := hyields
  cases document with
  | arr items => exact yields_of_itemsFrom hread
  | null | bool | num | str | obj => contradiction

/-! ## Records -/

/-- The fields of a record deliver a value for some members of an object, or for some items of
a list. -/
def Fields.Yields (fields : Fields α) (result : α) : Prop :=
  (∃ room members, fields.named room members = .ok result) ∨
    ∃ short room start items, fields.listed short room start items = .ok result

theorem Part.exists_of_both {first : Part (α → β)} {second : Part α} {image : β}
    (hboth : first.both second = .ok image) :
    ∃ f value, first = .ok f ∧ second = .ok value ∧ f value = image := by
  cases first with
  | error early => cases second <;> contradiction
  | ok f =>
      cases second with
      | error late => contradiction
      | ok value => exact ⟨f, value, rfl, rfl, Except.ok.inj hboth⟩

namespace Fields.Yields

variable {fields : Fields α}

theorem exists_of_seq {first : Fields (α → β)} {image : β}
    (hyields : (first <*> fields).Yields image) :
    ∃ f value, first.Yields f ∧ fields.Yields value ∧ f value = image := by
  rcases hyields with ⟨room, members, hread⟩ | ⟨short, room, start, items, hread⟩
  · obtain ⟨f, value, hfirst, hsecond, himage⟩ := Part.exists_of_both hread
    exact ⟨f, value, Or.inl ⟨_, _, hfirst⟩, Or.inl ⟨_, _, hsecond⟩, himage⟩
  · obtain ⟨f, value, hfirst, hsecond, himage⟩ := Part.exists_of_both hread
    exact ⟨f, value, Or.inr ⟨_, _, _, _, hfirst⟩, Or.inr ⟨_, _, _, _, hsecond⟩, himage⟩

theorem exists_of_map {f : α → β} {image : β} (hyields : (f <$> fields).Yields image) :
    ∃ value, fields.Yields value ∧ f value = image := by
  -- To map is to apply a constant, which every document delivers.
  have hseq : (pure f <*> fields).Yields image := hyields
  obtain ⟨_, value, ⟨_, _, hpure⟩ | ⟨_, _, _, _, hpure⟩, hvalue, himage⟩ := hseq.exists_of_seq
  all_goals
    obtain rfl := Except.ok.inj hpure
    exact ⟨value, hvalue, himage⟩

end Fields.Yields

theorem yields_of_record {name : String} {fields : Fields α}
    (hyields : (record name fields).Yields result) : fields.Yields result := by
  obtain ⟨room, document, hread⟩ := hyields
  cases document with
  | null | bool | num | str => contradiction
  | obj members =>
      simp only [record] at hread
      -- A record that is written as an object must not have members with broken names.
      split at hread
      · contradiction
      · exact Or.inl ⟨_, _, eq_ok_of_mapError hread⟩
  | arr items =>
      simp only [record] at hread
      split at hread
      · contradiction
      · rename_i value hlisted
        split at hread
        · obtain rfl : value = result := Except.ok.inj hread
          exact Or.inr ⟨_, _, _, _, hlisted⟩
        · contradiction

/-! ## Fields -/

theorem yields_of_namedField {name : String} {absent : Except Misfit α} {room : Option Nat}
    {members : List (Option String × Document)}
    (hread : namedField name decoder absent room members = .ok result) :
    absent = .ok result ∨ decoder.Yields result := by
  unfold namedField at hread
  split at hread
  · exact Or.inl (eq_ok_of_mapError hread)
  · split at hread
    · contradiction
    · contradiction
    · rename_i value hdecoded _
      obtain rfl : value = result := Except.ok.inj hread
      exact Or.inr ⟨_, _, hdecoded⟩

theorem yields_of_listedField {absent : Except Misfit α} {room : Option Nat} {index : Nat}
    {items : List Document} (hread : listedField decoder absent room index items = .ok result) :
    absent = .ok result ∨ decoder.Yields result := by
  unfold listedField at hread
  split at hread
  · exact Or.inl (eq_ok_of_mapError hread)
  · exact Or.inr ⟨_, _, eq_ok_of_mapError hread⟩

/-- A field with a default delivers the default, or what its decoder delivers. -/
theorem yields_of_defaulting {name : String} {default : α}
    (hyields : (defaulting name decoder default).Yields result) :
    result = default ∨ decoder.Yields result := by
  have hcases : Except.ok default = (.ok result : Except Misfit α) ∨ decoder.Yields result := by
    rcases hyields with ⟨room, members, hread⟩ | ⟨short, room, start, items, hread⟩
    · exact yields_of_namedField hread
    · exact yields_of_listedField hread
  exact hcases.imp (fun hdefault => (Except.ok.inj hdefault).symm) id

end Decode

end Entitlement
