import Entitlement.Proofs.Database.Sound
import Entitlement.Proofs.Resolution.Provenance
import Entitlement.Proofs.Store.Lookup

/-!
# Links to records that are spelled otherwise

A reference is checked text by text, so a link holds its record's identifier as the record
has it.  A lookup however reads the identifier of a link in any of its spellings and asks
for the record by the written form.  Where an identifier is stored in another spelling the
link is read, the record exists, and it is not found.

Hence what is linked and what is found differ exactly by such links (`Misspells`).  The
proof compares identifiers: a lookup delivers those that have a row, in the order of the
request (`Lookup.map_key_of_result`), and the identifiers that are asked for are the ones
that the link rows say (`of_result_actor`, `roleIds_of_mem_groups`).

* `Lookup.map_key_eq_distinct_iff`: all that is asked for is delivered exactly when every
  identifier that is asked for has a row.
* `forall_isSome_rowOf?_iff`: that fails exactly at a misspelled link, because every link refers
  to a record.  This is where references have to be checked; without that a link may
  also refer to nothing.

Roles of the actor, its groups and the roles of these are three instances of one argument.
-/

namespace Entitlement

namespace Database

variable {database : Database} {id : Uuid} {ids : List Uuid} {actor : Actor}

/-! ## Links -/

/-- A record has a link to an identifier that is not in its written form, and in its written
form none of the records has it. -/
def Misspells (links records : List Row) (column other : String) (id : Uuid) : Prop :=
  ∃ row ∈ links, row.cell column = .text id.text ∧
    ∃ text linked, row.cell other = .text text ∧ Uuid.parse? (Text.trim text) = some linked ∧
      text ≠ linked.text ∧ ∀ held ∈ records, held.cell "id" ≠ .text linked.text

/-- Where every link refers to a record, a record is missed exactly by a misspelled link. -/
theorem forall_isSome_rowOf?_iff {links records : List Row} {column other : String}
    (hrefers : ∀ row ∈ links, ∃ held ∈ records, held.cell "id" = row.cell other)
    (hids : (rowsAbout links column id).mapM (readId · other) = .ok ids) :
    (∀ linked ∈ ids, (rowOf? records linked).isSome = true) ↔
      ¬ Misspells links records column other id := by
  constructor
  · rintro hfound ⟨row, hrow, hcell, text, linked, htext, hparse, _, hnone⟩
    -- The misspelled link is read as an identifier that is asked for, and no record has it.
    have habout : row ∈ rowsAbout links column id :=
      List.mem_filter.mpr ⟨hrow, by simpa using hcell⟩
    have hlinked : linked ∈ ids :=
      (mem_of_mapM hids linked).mpr ⟨row, habout, readId_eq_ok_iff.mpr ⟨text, htext, hparse⟩⟩
    obtain ⟨held, hheld, hsame⟩ := isSome_rowOf?_iff.mp (hfound linked hlinked)
    exact hnone held hheld hsame
  · intro hspelled linked hlinked
    by_contra hmissing
    rw [isSome_rowOf?_iff, not_exists] at hmissing
    obtain ⟨row, habout, hread⟩ := (mem_of_mapM hids linked).mp hlinked
    obtain ⟨hrow, hcell⟩ := List.mem_filter.mp habout
    obtain ⟨text, htext, hparse⟩ := readId_eq_ok_iff.mp hread
    refine hspelled ⟨row, hrow, by simpa using hcell, text, linked, htext, hparse, ?_, ?_⟩
    · -- The record to which the link refers has the very text of the link.
      rintro rfl
      obtain ⟨held, hheld, hsame⟩ := hrefers row hrow
      exact hmissing held ⟨hheld, hsame.trans htext⟩
    · exact fun held hheld hsame => hmissing held ⟨hheld, hsame⟩

/-- What is found is all that is asked for when nothing that is asked for is missing. -/
theorem Lookup.map_key_eq_distinct_iff {α : Type} {lookup : Lookup α} {records : List α}
    (hresult : lookup.result ids = .ok records) :
    records.map lookup.key = distinct ids ↔
      ∀ linked ∈ ids, (rowOf? lookup.rows linked).isSome = true := by
  rw [map_key_of_result hresult, List.filter_eq_self]
  simp only [mem_distinct_iff]

/-- **Which assigned records are found.**  Where references are checked, a lookup of an
actor's roles delivers one role for each of them unless a link of the actor is misspelled,
and then it does not.  So it is with the actor's groups, and with the roles of each group
that is delivered. -/
theorem assigned_records_found_iff (hsound : database.Sound)
    (hchecked : database.foreignKeys = true)
    (hactor : (database.store.actor id).result = .ok (some actor)) :
    (∀ roles, (database.store.roles actor.roleIds).result = .ok roles →
      (roles.map (·.id) = distinct actor.roleIds ↔
        ¬ Misspells database.userRoles database.roles "user_id" "role_id" id)) ∧
      ∀ groups, (database.store.groups actor.groupIds).result = .ok groups →
        (groups.map (·.id) = distinct actor.groupIds ↔
          ¬ Misspells database.groupMembers database.userGroups "user_id" "group_id" id) ∧
        ∀ group ∈ groups, ∀ roles, (database.store.roles group.roleIds).result = .ok roles →
          (roles.map (·.id) = distinct group.roleIds ↔
            ¬ Misspells database.groupRoles database.roles "group_id" "role_id" group.id) := by
  -- Where references are checked, the text of every link is the identifier of a record.
  have hrefers : ∀ table, ∀ column ∈ Table.columns table, ∀ target,
      column.references = some target → ∀ row ∈ database.rows table,
        ∃ held ∈ database.rows target, held.cell "id" = row.cell column.name :=
    fun table column hcolumn target htarget row hrow =>
      hsound.references hchecked table row hrow column hcolumn target htarget
  obtain ⟨_, hroleIds, hgroupIds⟩ := of_result_actor hactor
  refine ⟨fun roles hroles => ?_, fun groups hgroups => ⟨?_, fun group hgroup roles hroles => ?_⟩⟩
  · rw [result_roles] at hroles
    refine (Lookup.map_key_eq_distinct_iff hroles).trans ?_
    exact forall_isSome_rowOf?_iff
      (hrefers .userRoles (.link "role_id" .roles) (by simp [Table.columns]) .roles rfl) hroleIds
  · rw [result_groups] at hgroups
    refine (Lookup.map_key_eq_distinct_iff hgroups).trans ?_
    exact forall_isSome_rowOf?_iff
      (hrefers .groupMembers (.link "group_id" .userGroups) (by simp [Table.columns]) .userGroups
        rfl)
      hgroupIds
  · rw [result_roles] at hroles
    refine (Lookup.map_key_eq_distinct_iff hroles).trans ?_
    exact forall_isSome_rowOf?_iff
      (hrefers .groupRoles (.link "role_id" .roles) (by simp [Table.columns]) .roles rfl)
      (roleIds_of_mem_groups hgroups hgroup)

end Database

/-! ## A role in capitals -/

namespace Sample

open Database

/-- An identifier in capitals, as no lookup asks for it. -/
def capitals : String := "BBBBBBBB-BBBB-BBBB-BBBB-BBBBBBBBBBBB"

/-- The identifier that is written in capitals. -/
def capitalId : Uuid := uuid ⟨11, by decide⟩

/-- An actor who is linked to a role with an identifier in capitals. -/
def capitalRows : List (Table × Cells) := [
  (.users, [("id", .text actor.id.text), ("email", .text "a@acme.test"),
    ("domain", .text "acme"), ("department", .text "legal")]),
  (.roles, [("id", .text capitals), ("domain", .text "acme"), ("department", .text "legal"),
    ("role_name", .text "lead")]),
  (.userRoles, [("user_id", .text actor.id.text), ("role_id", .text capitals)])]

/-- The database of these rows. -/
def capitalDatabase : Database := (ofRows true capitalRows).toOption.getD (.empty true)

/-- The actor as the database has it. -/
def capitalActor : Actor := { actor with roleIds := [capitalId] }

theorem sound_capitalDatabase : capitalDatabase.Sound := by
  have hrows : ofRows true capitalRows = .ok capitalDatabase := rfl
  exact (Built.of_ofRows hrows).sound

theorem result_actor_capitalDatabase :
    (capitalDatabase.store.actor actor.id).result = .ok (some capitalActor) := rfl

/-- The role is asked for by its written form and is not found. -/
theorem result_roles_capitalDatabase :
    (capitalDatabase.store.roles capitalActor.roleIds).result = .ok [] := by
  have hids : distinct capitalActor.roleIds = [capitalId] := rfl
  rw [result_roles, Lookup.result, hids, Lookup.find, rowsOf]
  show Except.map _ (List.mapM _ (([capitalId].mergeSort _).filterMap _)) = _
  rw [List.mergeSort_singleton]
  rfl

end Sample

open Database

/-- The role in capitals is missed, so its link is misspelled. -/
theorem misspells_capitals :
    ∃ actor, (Sample.capitalDatabase.store.actor Sample.actor.id).result = .ok (some actor) ∧
      (Sample.capitalDatabase.store.roles actor.roleIds).result = .ok [] ∧
      Misspells Sample.capitalDatabase.userRoles Sample.capitalDatabase.roles "user_id" "role_id"
        Sample.actor.id := by
  refine ⟨_, Sample.result_actor_capitalDatabase, Sample.result_roles_capitalDatabase, ?_⟩
  obtain ⟨hroles, _⟩ := Database.assigned_records_found_iff Sample.sound_capitalDatabase rfl
    Sample.result_actor_capitalDatabase
  by_contra hspelled
  have hall := (hroles [] Sample.result_roles_capitalDatabase).mpr hspelled
  contradiction

/-- A role that is assigned, and that exists, can be missed without any failure. -/
theorem not_forall_assigned_roles_found :
    ¬ ∀ (database : Database) (id : Uuid) (actor : Actor) (roles : List Role),
      database.Sound → database.foreignKeys = true →
      (database.store.actor id).result = .ok (some actor) →
      (database.store.roles actor.roleIds).result = .ok roles →
      roles.map (·.id) = distinct actor.roleIds := by
  intro hfound
  have hall := hfound _ _ _ _ Sample.sound_capitalDatabase rfl
    Sample.result_actor_capitalDatabase Sample.result_roles_capitalDatabase
  contradiction

end Entitlement
