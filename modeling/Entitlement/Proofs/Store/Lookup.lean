import Entitlement.Proofs.Distinct
import Entitlement.Proofs.Outcome
import Entitlement.Proofs.Text
import Entitlement.Store.Database
import Mathlib.Data.List.Basic

/-!
# What a lookup in the database delivers

A lookup joins tables: it fetches the rows of all records that are asked for, sorts the links of
all of them by record, and puts the records back into the order of the request.  Here the join
is undone.

* **Links.**  The links of a record are its own rows, read one by one (`mapM_readId_linkedTo`).
* **Order.**  A record stands where its identifier was first asked for
  (`filterMap_find?_of_mapM`), although the rows are read by ascending identifier.
* **Kinds.**  Roles and groups are looked up in the same way, from other tables and by another
  reader.  `Lookup` is the way, with tables and reader as its parts; `roleLookup` and
  `groupLookup` are its two cases, and what is said of a lookup holds of both.

So what is delivered for one identifier depends on no other, except that any failure is a failure
of the whole.  From this it is read off which roles an actor reaches: by a link of its own, or by
one of a group to which it is linked (`reaches_iff`).
-/

namespace Entitlement

/-! ## Rows and records -/

namespace Database

variable {database : Database} {rows : List Row} {row : Row} {column other : String}
  {id : Uuid} {ids : List Uuid} {roles : List Role} {groups : List Group} {group : Group}
  {actor : Actor} {α β : Type}

/-! ### Cells -/

theorem readText_eq_ok_iff {text : String} :
    readText row column = .ok text ↔ row.cell column = .text text := by
  unfold readText
  cases row.cell column <;> simp

theorem readId_eq_ok_iff :
    readId row column = .ok id ↔
      ∃ text, row.cell column = .text text ∧ Uuid.parse? (Text.trim text) = some id := by
  rw [readId, bind_eq_ok]
  simp only [readText_eq_ok_iff]
  refine exists_congr fun text => and_congr_right fun _ => ?_
  cases Uuid.parse? (Text.trim text) <;> simp

/-- The written form of an identifier reads back. -/
theorem readId_of_cell (hcell : row.cell column = .text id.text) :
    readId row column = .ok id := by
  refine readId_eq_ok_iff.mpr ⟨id.text, hcell, ?_⟩
  rw [Uuid.trim_text, Uuid.parse?_text]

/-! ### Links -/

/-- The rows of a link table that are about one record, in their order. -/
def rowsAbout (rows : List Row) (column : String) (id : Uuid) : List Row :=
  rows.filter fun row => row.cell column == .text id.text

/-- **The links of a record are its own rows.**  Sorting the links of many records by record
leaves for each of them what its own rows say, in their order. -/
theorem mapM_readId_linkedTo {pairs : List (Uuid × Uuid)}
    (hlinks : links rows column other ids = .ok pairs) (hid : id ∈ ids) :
    (rowsAbout rows column id).mapM (readId · other) = .ok (linkedTo id pairs) := by
  induction rows generalizing pairs with
  | nil =>
      obtain rfl : [] = pairs := Except.ok.inj hlinks
      rfl
  | cons row rest ih =>
      rw [links, List.filter_cons] at hlinks
      cases hheld : holdsOneOf row column ids with
      | false =>
          rw [hheld] at hlinks
          have hother : (row.cell column == .text id.text) = false := by
            have hall := List.any_eq_false.mp hheld id hid
            simpa using hall
          rw [rowsAbout, List.filter_cons, if_neg (by simp [hother])]
          exact ih hlinks
      | true =>
          rw [hheld, if_pos rfl] at hlinks
          obtain ⟨pair, later, hpair, hlater, rfl⟩ := mapM_cons_eq_ok.mp hlinks
          obtain ⟨owner, howner, hpair⟩ := bind_eq_ok.mp hpair
          obtain ⟨target, htarget, hpair⟩ := bind_eq_ok.mp hpair
          obtain rfl := Except.ok.inj hpair
          -- The row is about the record whose identifier it holds in written form.
          obtain ⟨held, _, hcell⟩ := List.any_eq_true.mp hheld
          have hcell : row.cell column = .text held.text := by simpa using hcell
          obtain rfl : held = owner :=
            Except.ok.inj ((readId_of_cell hcell).symm.trans howner)
          by_cases hsame : held = id
          · subst hsame
            have hkept : (row.cell column == .text held.text) = true := by simp [hcell]
            rw [rowsAbout, List.filter_cons, if_pos hkept, linkedTo, List.filter_cons,
              if_pos (by simp), List.map_cons]
            exact mapM_cons_eq_ok.mpr ⟨target, _, htarget, ih hlater, rfl⟩
          · have hdropped : (row.cell column == .text id.text) = false := by
              simp [hcell, Uuid.text_inj, hsame]
            rw [rowsAbout, List.filter_cons, if_neg (by simp [hdropped]), linkedTo,
              List.filter_cons, if_neg (by simpa using hsame)]
            exact ih hlater

/-- Where links are fetched, each of the rows about a record can be read. -/
theorem exists_readId_of_links {pairs : List (Uuid × Uuid)}
    (hlinks : links rows column other ids = .ok pairs) (hid : id ∈ ids) (hrow : row ∈ rows)
    (hcell : row.cell column = .text id.text) : ∃ linked, readId row other = .ok linked :=
  exists_eq_ok_of_mapM (mapM_readId_linkedTo hlinks hid)
    (List.mem_filter.mpr ⟨hrow, by simpa using hcell⟩)

/-! ### Records in the order of the request -/

theorem cell_of_rowOf? (hrow : rowOf? rows id = some row) : row.cell "id" = .text id.text := by
  simpa using List.find?_some hrow

theorem isSome_rowOf?_iff :
    (rowOf? rows id).isSome = true ↔ ∃ held ∈ rows, held.cell "id" = .text id.text := by
  simp [rowOf?, List.find?_isSome]

theorem find?_filterMap_eq {look : Uuid → Option α} {key : α → Uuid}
    (hkey : ∀ id record, look id = some record → key record = id) (hid : id ∈ ids) :
    (ids.filterMap look).find? (key · == id) = look id := by
  induction ids with
  | nil => contradiction
  | cons first rest ih =>
      cases hlook : look first with
      | none =>
          rw [List.filterMap_cons_none hlook]
          rcases List.mem_cons.mp hid with rfl | hrest
          · -- A record found for another identifier has that other identifier as its key.
            rw [hlook, List.find?_eq_none]
            intro record hrecord
            obtain ⟨other, _, hother⟩ := List.mem_filterMap.mp hrecord
            simp only [beq_iff_eq]
            rintro rfl
            rw [hkey other record hother, hother] at hlook
            contradiction
          · exact ih hrest
      | some record =>
          rw [List.filterMap_cons_some hlook]
          -- The first record is the one that is sought, or has another key and is passed over.
          by_cases hfirst : first = id
          · subst hfirst
            rw [List.find?_cons_of_pos (by simpa using hkey first record hlook), hlook]
          · have hne : key record ≠ id := hkey first record hlook ▸ hfirst
            rw [List.find?_cons_of_neg (by simpa using hne)]
            exact ih ((List.mem_cons.mp hid).resolve_left (Ne.symm hfirst))

/-- What reading the row of an identifier gives, if it has one and this can be read. -/
def recordOf? (rows : List Row) (read : Row → Except Error α) (id : Uuid) : Option α :=
  (rowOf? rows id).bind fun row => (read row).toOption

section Records

variable {read : Row → Except Error α} {key : α → Uuid} {record : α} {found : List α}

theorem recordOf?_of_none (hrow : rowOf? rows id = none) : recordOf? rows read id = none := by
  rw [recordOf?, hrow, Option.bind_none]

theorem recordOf?_of_ok (hrow : rowOf? rows id = some row) (hrecord : read row = .ok record) :
    recordOf? rows read id = some record := by
  rw [recordOf?, hrow, Option.bind_some, hrecord]
  rfl

theorem exists_of_recordOf? (hrecord : recordOf? rows read id = some record) :
    ∃ row, rowOf? rows id = some row ∧ read row = .ok record := by
  obtain ⟨row, hrow, hread⟩ := Option.bind_eq_some_iff.mp hrecord
  refine ⟨row, hrow, ?_⟩
  cases hvalue : read row with
  | ok value =>
      rw [hvalue] at hread
      exact congrArg Except.ok (Option.some.inj hread)
  | error error =>
      rw [hvalue] at hread
      contradiction

/-- The rows that are found are read one by one, and none of them fails. -/
theorem eq_filterMap_recordOf? (hfound : (ids.filterMap (rowOf? rows)).mapM read = .ok found) :
    found = ids.filterMap (recordOf? rows read) ∧
      ∀ id ∈ ids, ∀ row, rowOf? rows id = some row → ∃ record, read row = .ok record := by
  induction ids generalizing found with
  | nil => exact ⟨(Except.ok.inj hfound).symm, nofun⟩
  | cons first rest ih =>
      cases hrow : rowOf? rows first with
      | none =>
          rw [List.filterMap_cons_none hrow] at hfound
          obtain ⟨hrest, hread⟩ := ih hfound
          refine ⟨?_, List.forall_mem_cons.mpr ⟨?_, hread⟩⟩
          · rw [List.filterMap_cons_none (recordOf?_of_none hrow), ← hrest]
          · intro row hsome
            rw [hrow] at hsome
            contradiction
      | some row =>
          rw [List.filterMap_cons_some hrow] at hfound
          -- One failure would have failed them all, so this row and the others can be read.
          obtain ⟨record, later, hrecord, hlater, rfl⟩ := mapM_cons_eq_ok.mp hfound
          obtain ⟨hrest, hread⟩ := ih hlater
          refine ⟨?_, List.forall_mem_cons.mpr ⟨?_, hread⟩⟩
          · rw [List.filterMap_cons_some (recordOf?_of_ok hrow hrecord), ← hrest]
          · intro other hsome
            obtain rfl := Option.some.inj (hrow.symm.trans hsome)
            exact ⟨record, hrecord⟩

variable (hkey : ∀ id row record, row.cell "id" = .text id.text → read row = .ok record →
  key record = id)
include hkey

/-- **Records in the order of the request.**  Records that are fetched in any other order
and then put back are those that their rows give, one identifier after the other. -/
theorem filterMap_find?_of_mapM (hfound : (rowsOf rows ids).mapM read = .ok found) :
    (ids.filterMap fun id => found.find? (key · == id)) = ids.filterMap (recordOf? rows read) ∧
      ∀ id ∈ ids, ∀ row, rowOf? rows id = some row → ∃ record, read row = .ok record := by
  obtain ⟨rfl, hread⟩ := eq_filterMap_recordOf? hfound
  have hsorted : ∀ id, id ∈ ids.mergeSort (fun a b => decide (a.text ≤ b.text)) ↔ id ∈ ids :=
    fun id => List.mem_mergeSort
  refine ⟨?_, fun id hid => hread id ((hsorted id).mpr hid)⟩
  refine List.filterMap_congr fun id hid => find?_filterMap_eq ?_ ((hsorted id).mpr hid)
  intro id record hrecord
  obtain ⟨row, hrow, hrecord⟩ := exists_of_recordOf? hrecord
  exact hkey id row record (cell_of_rowOf? hrow) hrecord

/-- The records that are delivered are those of the identifiers that have a row. -/
theorem map_key_of_mapM (hfound : (rowsOf rows ids).mapM read = .ok found) :
    (ids.filterMap fun id => found.find? (key · == id)).map key =
      ids.filter fun id => (rowOf? rows id).isSome := by
  obtain ⟨heq, hread⟩ := filterMap_find?_of_mapM hkey hfound
  rw [heq, List.map_filterMap, ← List.filterMap_eq_filter]
  refine List.filterMap_congr fun id hid => ?_
  cases hrow : rowOf? rows id with
  | none =>
      rw [recordOf?_of_none hrow]
      simp [Option.guard, hrow]
  | some row =>
      obtain ⟨record, hrecord⟩ := hread id hid row hrow
      rw [recordOf?_of_ok hrow hrecord]
      simp [Option.guard, hrow, hkey id row record (cell_of_rowOf? hrow) hrecord]

end Records

/-! ### One lookup for every kind of record -/

/-- How records of one kind are looked up: in which table they are, in which two tables they are
linked, and how a record is read from its row and its links. -/
structure Lookup (α : Type) where
  rows : List Row
  /-- The column of both link tables that says which record a link is about. -/
  column : String
  first : List Row
  firstOther : String
  second : List Row
  secondOther : String
  read : List (Uuid × Uuid) → List (Uuid × Uuid) → Row → Except Error α
  key : α → Uuid
  /-- A record has the identifier of its row. -/
  key_of_read : ∀ users groups id row record, row.cell "id" = .text id.text →
    read users groups row = .ok record → key record = id

namespace Lookup

variable {lookup : Lookup α} {found records : List α} {record : α}

/-- Fetches both kinds of links and then the records, by ascending identifier. -/
def find (lookup : Lookup α) (ids : List Uuid) : Except Error (List α) := do
  let firstLinks ← links lookup.first lookup.column lookup.firstOther ids
  let secondLinks ← links lookup.second lookup.column lookup.secondOther ids
  (rowsOf lookup.rows ids).mapM (lookup.read firstLinks secondLinks)

/-- Puts what is found back into the order of the request. -/
def deliver (lookup : Lookup α) (ids : List Uuid) (found : List α) : List α :=
  ids.filterMap fun id => found.find? (lookup.key · == id)

/-- What is delivered for identifiers, each of which is looked up once. -/
def result (lookup : Lookup α) (ids : List Uuid) : Except Error (List α) :=
  (lookup.find (distinct ids)).map (lookup.deliver (distinct ids))

theorem links_nil (rows : List Row) (column other : String) :
    links rows column other [] = .ok [] := by
  have hnone : rows.filter (holdsOneOf · column []) = [] :=
    List.filter_eq_nil_iff.mpr fun _ _ => Bool.false_ne_true
  rw [links, hnone]
  rfl

theorem find_nil (lookup : Lookup α) : lookup.find [] = .ok [] := by
  rw [find, links_nil, links_nil, rowsOf, List.mergeSort_nil, List.filterMap_nil]
  rfl

theorem find_eq_ok_iff :
    lookup.find ids = .ok found ↔ ∃ firstLinks secondLinks,
      links lookup.first lookup.column lookup.firstOther ids = .ok firstLinks ∧
        links lookup.second lookup.column lookup.secondOther ids = .ok secondLinks ∧
        (rowsOf lookup.rows ids).mapM (lookup.read firstLinks secondLinks) = .ok found := by
  unfold find
  simp only [bind_eq_ok, exists_and_left]

/-- What a lookup delivers is read with links that were fetched for all of it. -/
theorem exists_of_result (hresult : lookup.result ids = .ok records) :
    ∃ firstLinks secondLinks found,
      links lookup.first lookup.column lookup.firstOther (distinct ids) = .ok firstLinks ∧
        links lookup.second lookup.column lookup.secondOther (distinct ids) = .ok secondLinks ∧
        (rowsOf lookup.rows (distinct ids)).mapM (lookup.read firstLinks secondLinks) =
          .ok found ∧
        records = lookup.deliver (distinct ids) found := by
  unfold result at hresult
  cases hfind : lookup.find (distinct ids) with
  | error error =>
      rw [hfind] at hresult
      contradiction
  | ok found =>
      rw [hfind] at hresult
      obtain ⟨firstLinks, secondLinks, hfirst, hsecond, hfound⟩ := find_eq_ok_iff.mp hfind
      exact ⟨firstLinks, secondLinks, found, hfirst, hsecond, hfound,
        (Except.ok.inj hresult).symm⟩

/-- **Which records are found**: those of the identifiers that have a row, each once. -/
theorem map_key_of_result (hresult : lookup.result ids = .ok records) :
    records.map lookup.key = (distinct ids).filter fun id => (rowOf? lookup.rows id).isSome := by
  obtain ⟨_, _, found, _, _, hfound, rfl⟩ := exists_of_result hresult
  exact map_key_of_mapM (lookup.key_of_read _ _) hfound

/-- A record that is delivered is read from the row of an identifier that was asked for. -/
theorem exists_row_of_mem_result (hresult : lookup.result ids = .ok records)
    (hrecord : record ∈ records) :
    ∃ firstLinks secondLinks, ∃ id ∈ distinct ids, ∃ row,
      links lookup.first lookup.column lookup.firstOther (distinct ids) = .ok firstLinks ∧
        links lookup.second lookup.column lookup.secondOther (distinct ids) = .ok secondLinks ∧
        rowOf? lookup.rows id = some row ∧ lookup.read firstLinks secondLinks row = .ok record := by
  obtain ⟨firstLinks, secondLinks, found, hfirst, hsecond, hfound, rfl⟩ := exists_of_result hresult
  obtain ⟨heq, _⟩ := filterMap_find?_of_mapM (lookup.key_of_read _ _) hfound
  rw [deliver, heq] at hrecord
  obtain ⟨id, hid, hrecord⟩ := List.mem_filterMap.mp hrecord
  obtain ⟨row, hrow, hread⟩ := exists_of_recordOf? hrecord
  exact ⟨firstLinks, secondLinks, id, hid, row, hfirst, hsecond, hrow, hread⟩

/-- Where a lookup succeeds, every row of an identifier that was asked for has been read. -/
theorem exists_read_of_result (hresult : lookup.result ids = .ok records)
    (hid : id ∈ distinct ids) (hrow : rowOf? lookup.rows id = some row) :
    ∃ firstLinks secondLinks record, lookup.read firstLinks secondLinks row = .ok record := by
  obtain ⟨firstLinks, secondLinks, found, _, _, hfound, _⟩ := exists_of_result hresult
  obtain ⟨_, hread⟩ := filterMap_find?_of_mapM (lookup.key_of_read _ _) hfound
  exact ⟨firstLinks, secondLinks, hread id hid row hrow⟩

theorem result_liftExcept (result : Except Error α) :
    (store.liftExcept result).result = result := rfl

/-- A store that skips the lookup for no identifiers at all, and that may report something
before it delivers, delivers all the same. -/
theorem result_eq {deliver : List α → Outcome (List α)} {ids : List Uuid}
    (hdeliver : ∀ found, (deliver found).result = .ok (lookup.deliver (distinct ids) found)) :
    (if (distinct ids).isEmpty then return []
      else store.liftExcept (lookup.find (distinct ids)) >>= deliver : Outcome (List α)).result =
      lookup.result ids := by
  unfold result
  split
  · -- Without identifiers nothing is fetched, which is what a lookup of none delivers.
    rename_i hnone
    rw [List.isEmpty_iff.mp hnone, find_nil]
    rfl
  · rw [Outcome.result_bind, result_liftExcept]
    cases lookup.find (distinct ids) with
    | ok found => exact hdeliver found
    | error error => rfl

end Lookup

/-! ### Roles, groups and actors -/

theorem id_of_readRole {users groups : List (Uuid × Uuid)} {role : Role}
    (hcell : row.cell "id" = .text id.text) (hread : readRole users groups row = .ok role) :
    role.id = id := by
  obtain ⟨held, hheld, hread⟩ := bind_eq_ok.mp hread
  obtain rfl : id = held := Except.ok.inj ((readId_of_cell hcell).symm.trans hheld)
  obtain ⟨domain, _, hread⟩ := bind_eq_ok.mp hread
  obtain ⟨department, _, hread⟩ := bind_eq_ok.mp hread
  obtain ⟨roleName, _, hread⟩ := bind_eq_ok.mp hread
  obtain ⟨text, _, hread⟩ := bind_eq_ok.mp hread
  obtain ⟨tree, _, hread⟩ := bind_eq_ok.mp hread
  rw [← Except.ok.inj hread]

theorem readGroup_of_cell {roles members : List (Uuid × Uuid)}
    (hcell : row.cell "id" = .text id.text) :
    readGroup roles members row = .ok ⟨id, linkedTo id roles, linkedTo id members⟩ := by
  rw [readGroup, readId_of_cell hcell]
  rfl

/-- Roles come with their users and their groups. -/
def roleLookup (database : Database) : Lookup Role where
  rows := database.roles
  column := "role_id"
  first := database.userRoles
  firstOther := "user_id"
  second := database.groupRoles
  secondOther := "group_id"
  read := readRole
  key := Role.id
  key_of_read _ _ _ _ _ hcell hread := id_of_readRole hcell hread

/-- Groups come with their roles and their members. -/
def groupLookup (database : Database) : Lookup Group where
  rows := database.userGroups
  column := "group_id"
  first := database.groupRoles
  firstOther := "role_id"
  second := database.groupMembers
  secondOther := "user_id"
  read := readGroup
  key := Group.id
  key_of_read _ _ _ _ _ hcell hread := by
    rw [readGroup_of_cell hcell] at hread
    rw [← Except.ok.inj hread]

theorem result_roles (database : Database) (ids : List Uuid) :
    (database.store.roles ids).result = database.roleLookup.result ids := by
  have hread : database.readRoles = database.roleLookup.find := rfl
  unfold store
  simp only [hread]
  exact Lookup.result_eq fun _ => rfl

theorem result_groups (database : Database) (ids : List Uuid) :
    (database.store.groups ids).result = database.groupLookup.result ids := by
  have hread : database.readGroups = database.groupLookup.find := rfl
  unfold store
  simp only [hread]
  exact Lookup.result_eq fun _ => rfl

/-- The roles of a group that is delivered are those of its own link rows. -/
theorem roleIds_of_mem_groups (hgroups : (database.store.groups ids).result = .ok groups)
    (hgroup : group ∈ groups) :
    (rowsAbout database.groupRoles "group_id" group.id).mapM (readId · "role_id") =
      .ok group.roleIds := by
  rw [result_groups] at hgroups
  obtain ⟨roles, members, id, hid, row, hlinks, _, hrow, hread⟩ :=
    Lookup.exists_row_of_mem_result hgroups hgroup
  change readGroup roles members row = .ok group at hread
  rw [readGroup_of_cell (cell_of_rowOf? hrow)] at hread
  obtain rfl := Except.ok.inj hread
  exact mapM_readId_linkedTo hlinks hid

theorem readActor_of_none (hrow : rowOf? database.users id = none) :
    database.readActor id = .ok none := by
  unfold readActor
  rw [hrow]

theorem readActor_of_rowOf? (hrow : rowOf? database.users id = some row) :
    database.readActor id = (do
      let email ← readText row "email"
      let domain ← readText row "domain"
      let department ← readText row "department"
      let roles ← links database.userRoles "user_id" "role_id" [id]
      let groups ← links database.groupMembers "user_id" "group_id" [id]
      return some ⟨id, email, domain, department, linkedTo id roles, linkedTo id groups⟩) := by
  unfold readActor
  rw [hrow]
  simp only
  rw [readId_of_cell (cell_of_rowOf? hrow)]
  rfl

/-- The roles and the groups of an actor are those of its own link rows. -/
theorem of_result_actor (hactor : (database.store.actor id).result = .ok (some actor)) :
    actor.id = id ∧
      (rowsAbout database.userRoles "user_id" id).mapM (readId · "role_id") =
        .ok actor.roleIds ∧
      (rowsAbout database.groupMembers "user_id" id).mapM (readId · "group_id") =
        .ok actor.groupIds := by
  have hread : database.readActor id = .ok (some actor) := hactor
  cases hrow : rowOf? database.users id with
  | none =>
      rw [readActor_of_none hrow] at hread
      exact absurd (Except.ok.inj hread) nofun
  | some row =>
      rw [readActor_of_rowOf? hrow] at hread
      obtain ⟨email, _, hread⟩ := bind_eq_ok.mp hread
      obtain ⟨domain, _, hread⟩ := bind_eq_ok.mp hread
      obtain ⟨department, _, hread⟩ := bind_eq_ok.mp hread
      obtain ⟨roles, hroles, hread⟩ := bind_eq_ok.mp hread
      obtain ⟨groups, hgroups, hread⟩ := bind_eq_ok.mp hread
      obtain rfl := Option.some.inj (Except.ok.inj hread)
      exact ⟨rfl, mapM_readId_linkedTo hroles (List.mem_singleton_self _),
        mapM_readId_linkedTo hgroups (List.mem_singleton_self _)⟩

end Database

/-! ## Roles that an actor reaches -/

namespace Database

variable {database : Database} {rows : List Row} {column other : String}
  {id linked user role : Uuid} {ids : List Uuid} {actor : Actor} {groups : List Group}

/-! ### Reach -/

/-- A link leads from one record to another: its row holds the written form of the one
identifier, and the other in any spelling. -/
def Leads (rows : List Row) (column other : String) (id linked : Uuid) : Prop :=
  ∃ row ∈ rows, row.cell column = .text id.text ∧ readId row other = .ok linked

/-- A user reaches a role: it is linked to the role, or to a group that is there and is linked
to the role. -/
inductive Reaches (database : Database) (user role : Uuid) : Prop where
  | direct (hlink : Leads database.userRoles "user_id" "role_id" user role)
  | viaGroup (group : Uuid)
      (hmember : Leads database.groupMembers "user_id" "group_id" user group)
      (hgroup : ∃ row ∈ database.userGroups, row.cell "id" = .text group.text)
      (hshare : Leads database.groupRoles "group_id" "role_id" group role)

/-- The identifiers that are read from the link rows of a record are those to which its links
lead. -/
theorem mem_iff_leads (hids : (rowsAbout rows column id).mapM (readId · other) = .ok ids) :
    linked ∈ ids ↔ Leads rows column other id linked := by
  rw [mem_of_mapM hids]
  constructor
  · rintro ⟨row, habout, hread⟩
    obtain ⟨hrow, hcell⟩ := List.mem_filter.mp habout
    exact ⟨row, hrow, by simpa using hcell, hread⟩
  · rintro ⟨row, hrow, hcell, hread⟩
    exact ⟨row, List.mem_filter.mpr ⟨hrow, by simpa using hcell⟩, hread⟩

/-! ### What is delivered -/

theorem mem_distinct_iff : id ∈ distinct ids ↔ id ∈ ids :=
  mem_distinctBy_iff fun _ _ _ _ hsame => hsame

/-- The roles of the groups that are delivered are those to which links of the groups lead. -/
theorem mem_flatMap_roleIds_iff (hgroups : (database.store.groups ids).result = .ok groups) :
    role ∈ groups.flatMap (·.roleIds) ↔
      ∃ group ∈ ids, (∃ row ∈ database.userGroups, row.cell "id" = .text group.text) ∧
        Leads database.groupRoles "group_id" "role_id" group role := by
  have hdelivered : groups.map (·.id) = _ :=
    Lookup.map_key_of_result (result_groups database ids ▸ hgroups)
  have hlinks : ∀ group ∈ groups, role ∈ group.roleIds ↔
      Leads database.groupRoles "group_id" "role_id" group.id role :=
    fun group hgroup => mem_iff_leads (roleIds_of_mem_groups hgroups hgroup)
  -- A group is delivered if it is asked for and has a row.
  have hfound : ∀ id, (∃ group ∈ groups, group.id = id) ↔
      id ∈ ids ∧ ∃ row ∈ database.userGroups, row.cell "id" = .text id.text := by
    intro id
    rw [← List.mem_map, hdelivered, List.mem_filter, mem_distinct_iff, isSome_rowOf?_iff]
    exact Iff.rfl
  rw [List.mem_flatMap]
  constructor
  · rintro ⟨group, hgroup, hrole⟩
    obtain ⟨hasked, hrow⟩ := (hfound group.id).mp ⟨group, hgroup, rfl⟩
    exact ⟨group.id, hasked, hrow, (hlinks group hgroup).mp hrole⟩
  · rintro ⟨id, hasked, hrow, hleads⟩
    obtain ⟨group, hgroup, rfl⟩ := (hfound id).mpr ⟨hasked, hrow⟩
    exact ⟨group, hgroup, (hlinks group hgroup).mpr hleads⟩

/-- **What is reached is what is delivered**: the roles of the actor's record, and those of its
groups. -/
theorem reaches_iff (hactor : (database.store.actor user).result = .ok (some actor))
    (hgroups : (database.store.groups actor.groupIds).result = .ok groups) :
    database.Reaches user role ↔ role ∈ actor.roleIds ∨ role ∈ groups.flatMap (·.roleIds) := by
  obtain ⟨_, hroleIds, hgroupIds⟩ := of_result_actor hactor
  rw [mem_iff_leads hroleIds, mem_flatMap_roleIds_iff hgroups]
  constructor
  · rintro (hlink | ⟨group, hmember, hrow, hshare⟩)
    · exact Or.inl hlink
    · exact Or.inr ⟨group, (mem_iff_leads hgroupIds).mpr hmember, hrow, hshare⟩
  · rintro (hlink | ⟨group, hasked, hrow, hshare⟩)
    · exact .direct hlink
    · exact .viaGroup group ((mem_iff_leads hgroupIds).mp hasked) hrow hshare

end Database

end Entitlement
