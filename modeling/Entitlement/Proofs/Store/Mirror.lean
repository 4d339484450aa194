import Entitlement.Proofs.Resolution.EffectiveRoles
import Entitlement.Proofs.Store.Lookup

/-!
# Directories that hold the records of a database

A database says the records in rows, a directory holds them.  `Directory.Mirrors` says that
both have the same: every row shows a record, with its links in the order of their rows,
and the directory finds exactly the records that rows show.

What a row shows is a relation and not a function (`ShowsRole`, `ShowsGroup`, `ShowsActor`), so
that it can be stated without saying how the row is read.  Two facts tie it down: a row shows at
most one record (`ShowsRole.unique` and its siblings), and it shows one whenever it can be read
(`exists_showsRole` and its siblings).

A database is `Textual` when lookups find text where they look for it, and identifiers in their
written form.  It is `Legible` when its permission trees can be read besides, so that every row
can show a record.  Then a lookup in the database delivers what the directory finds, except that
it delivers once what the directory repeats (`result_roles_of_mirrors`,
`result_groups_of_mirrors`, `result_actor_of_mirrors`).  All three rest on `Finds`, which says of
one table what `Directory.Mirrors` says of all.
-/

namespace Entitlement

namespace Database

variable {database : Database} {rows : List Row} {row : Row} {column other : String}
  {id : Uuid} {ids linked : List Uuid} {α : Type}

/-! ## What a row shows -/

/-- The columns of a table that lookups read, apart from identifiers. -/
def Table.textColumns : Table → List String
  | .users => ["email", "domain", "department"]
  | .roles => ["domain", "department", "role_name", "permission_tree"]
  | .userGroups => []
  | .userRoles => []
  | .groupRoles => []
  | .groupMembers => []

/-- The columns that lookups read hold text, and those of identifiers hold the written form of
one. -/
structure Textual (database : Database) : Prop where
  ids : ∀ table, ∀ row ∈ database.rows table, ∀ column ∈ table.key,
    ∃ id : Uuid, row.cell column = .text id.text
  texts : ∀ table, ∀ row ∈ database.rows table, ∀ column ∈ table.textColumns,
    ∃ text, row.cell column = .text text

/-- A row holds a permission tree that is neither blank nor JSON. -/
def HoldsCorruptTree (row : Row) : Prop :=
  ∃ text, row.cell "permission_tree" = .text text ∧ (Text.trim text).isEmpty = false ∧
    Json.parse? text = none

/-- The columns that lookups read can be read: identifiers are in their written form, the
others hold text, and permission trees are blank or JSON. -/
structure Legible (database : Database) : Prop where
  ids : ∀ table, ∀ row ∈ database.rows table, ∀ column ∈ table.key,
    ∃ id : Uuid, row.cell column = .text id.text
  texts : ∀ table, ∀ row ∈ database.rows table, ∀ column ∈ table.textColumns,
    ∃ text, row.cell column = .text text
  trees : ∀ row ∈ database.roles, ∀ text, row.cell "permission_tree" = .text text →
    (Text.trim text).isEmpty = true ∨ ∃ value, Json.parse? text = some value

theorem Legible.textual (hlegible : database.Legible) : database.Textual :=
  ⟨hlegible.ids, hlegible.texts⟩

theorem Legible.not_holdsCorruptTree (hlegible : database.Legible) (hrow : row ∈ database.roles) :
    ¬ HoldsCorruptTree row := by
  rintro ⟨text, htext, hblank, hnone⟩
  rcases hlegible.trees row hrow text htext with hempty | ⟨value, hvalue⟩
  · exact Bool.false_ne_true (hblank.symm.trans hempty)
  · exact Option.some_ne_none value (hvalue.symm.trans hnone)

/-- The records to which the links of a record refer, in the order of the links. -/
def ShowsLinks (rows : List Row) (column other : String) (id : Uuid) (linked : List Uuid) :
    Prop :=
  (rowsAbout rows column id).map (·.cell other) = linked.map fun id => .text id.text

/-- A text shows a permission tree: blank text the one without grants, JSON its own. -/
def ShowsTree (text : String) (tree : Tree) : Prop :=
  ((Text.trim text).isEmpty = true ∧ tree = .empty) ∨
    ((Text.trim text).isEmpty = false ∧
      ∃ value, Json.parse? text = some value ∧ tree = .ofJson value)

/-- A row shows a role. -/
structure ShowsRole (database : Database) (row : Row) (role : Role) : Prop where
  id : row.cell "id" = .text role.id.text
  domain : row.cell "domain" = .text role.domain
  department : row.cell "department" = .text role.department
  roleName : row.cell "role_name" = .text role.roleName
  tree : ∃ text, row.cell "permission_tree" = .text text ∧ ShowsTree text role.tree
  userIds : ShowsLinks database.userRoles "role_id" "user_id" role.id role.userIds
  groupIds : ShowsLinks database.groupRoles "role_id" "group_id" role.id role.groupIds

/-- A row shows a group. -/
structure ShowsGroup (database : Database) (row : Row) (group : Group) : Prop where
  id : row.cell "id" = .text group.id.text
  roleIds : ShowsLinks database.groupRoles "group_id" "role_id" group.id group.roleIds
  userIds : ShowsLinks database.groupMembers "group_id" "user_id" group.id group.userIds

/-- A row shows an actor. -/
structure ShowsActor (database : Database) (row : Row) (actor : Actor) : Prop where
  id : row.cell "id" = .text actor.id.text
  email : row.cell "email" = .text actor.email
  domain : row.cell "domain" = .text actor.domain
  department : row.cell "department" = .text actor.department
  roleIds : ShowsLinks database.userRoles "user_id" "role_id" actor.id actor.roleIds
  groupIds : ShowsLinks database.groupMembers "user_id" "group_id" actor.id actor.groupIds

/-! ## Every row that can be read shows one record -/

theorem exists_map_cell_eq (hcells : ∀ row ∈ rows, ∃ id : Uuid, row.cell other = .text id.text) :
    ∃ linked : List Uuid, rows.map (·.cell other) = linked.map fun id => .text id.text := by
  induction rows with
  | nil => exact ⟨[], rfl⟩
  | cons row rest ih =>
      obtain ⟨⟨id, hid⟩, hrest⟩ := List.forall_mem_cons.mp hcells
      obtain ⟨linked, hlinked⟩ := ih hrest
      exact ⟨id :: linked, by rw [List.map_cons, List.map_cons, hid, hlinked]⟩

theorem Textual.exists_showsLinks (htextual : database.Textual) (table : Table)
    (column other : String) (hother : other ∈ table.key) (id : Uuid) :
    ∃ linked, ShowsLinks (database.rows table) column other id linked :=
  exists_map_cell_eq fun row hrow =>
    htextual.ids table row (List.mem_filter.mp hrow).1 other hother

theorem ShowsLinks.unique {others : List Uuid} (hlinked : ShowsLinks rows column other id linked)
    (hothers : ShowsLinks rows column other id others) : linked = others := by
  refine (List.map_inj_right fun first second hsame => ?_).mp (hlinked.symm.trans hothers)
  exact Uuid.text_inj.mp (Cell.text.inj hsame)

theorem exists_showsTree {text : String}
    (htext : (Text.trim text).isEmpty = true ∨ ∃ value, Json.parse? text = some value) :
    ∃ tree, ShowsTree text tree := by
  cases hblank : (Text.trim text).isEmpty with
  | true => exact ⟨.empty, Or.inl ⟨hblank, rfl⟩⟩
  | false =>
      obtain ⟨value, hvalue⟩ := htext.resolve_left (by simp [hblank])
      exact ⟨.ofJson value, Or.inr ⟨hblank, value, hvalue, rfl⟩⟩

theorem readTree_of_showsTree {text : String} {tree : Tree} (hshows : ShowsTree text tree)
    (id : Uuid) : readTree id text = .ok tree := by
  rcases hshows with ⟨hblank, rfl⟩ | ⟨hblank, value, hvalue, rfl⟩
  · rw [readTree, if_pos hblank]
  · rw [readTree, if_neg (by simp [hblank]), hvalue]

theorem cell_text_inj {text written : String} (htext : row.cell column = .text text)
    (hwritten : row.cell column = .text written) : text = written :=
  Cell.text.inj (htext.symm.trans hwritten)

theorem ShowsRole.unique {role held : Role} (hrole : ShowsRole database row role)
    (hheld : ShowsRole database row held) : role = held := by
  obtain ⟨id, domain, department, roleName, tree, userIds, groupIds⟩ := role
  obtain rfl : id = held.id := Uuid.text_inj.mp (cell_text_inj hrole.id hheld.id)
  -- The tree is the one that is read from the text, and there is only one such text.
  obtain ⟨text, htext, htree⟩ := hrole.tree
  obtain ⟨written, hwritten, hheldTree⟩ := hheld.tree
  obtain rfl := cell_text_inj htext hwritten
  obtain rfl : domain = held.domain := cell_text_inj hrole.domain hheld.domain
  obtain rfl : department = held.department := cell_text_inj hrole.department hheld.department
  obtain rfl : roleName = held.roleName := cell_text_inj hrole.roleName hheld.roleName
  have hread : readTree held.id text = .ok tree := readTree_of_showsTree htree held.id
  obtain rfl : tree = held.tree :=
    Except.ok.inj (hread.symm.trans (readTree_of_showsTree hheldTree held.id))
  obtain rfl : userIds = held.userIds := hrole.userIds.unique hheld.userIds
  obtain rfl : groupIds = held.groupIds := hrole.groupIds.unique hheld.groupIds
  rfl

theorem ShowsGroup.unique {group held : Group} (hgroup : ShowsGroup database row group)
    (hheld : ShowsGroup database row held) : group = held := by
  obtain ⟨id, roleIds, userIds⟩ := group
  obtain rfl : id = held.id := Uuid.text_inj.mp (cell_text_inj hgroup.id hheld.id)
  obtain rfl : roleIds = held.roleIds := hgroup.roleIds.unique hheld.roleIds
  obtain rfl : userIds = held.userIds := hgroup.userIds.unique hheld.userIds
  rfl

theorem ShowsActor.unique {actor held : Actor} (hactor : ShowsActor database row actor)
    (hheld : ShowsActor database row held) : actor = held := by
  obtain ⟨id, email, domain, department, roleIds, groupIds⟩ := actor
  obtain rfl : id = held.id := Uuid.text_inj.mp (cell_text_inj hactor.id hheld.id)
  obtain rfl : email = held.email := cell_text_inj hactor.email hheld.email
  obtain rfl : domain = held.domain := cell_text_inj hactor.domain hheld.domain
  obtain rfl : department = held.department := cell_text_inj hactor.department hheld.department
  obtain rfl : roleIds = held.roleIds := hactor.roleIds.unique hheld.roleIds
  obtain rfl : groupIds = held.groupIds := hactor.groupIds.unique hheld.groupIds
  rfl

section Textual

variable (htextual : database.Textual)
include htextual

theorem exists_showsRole (hrow : row ∈ database.roles) (hsane : ¬ HoldsCorruptTree row) :
    ∃ role, ShowsRole database row role := by
  have htext : ∀ column ∈ Table.roles.textColumns, ∃ text, row.cell column = .text text :=
    htextual.texts .roles row hrow
  obtain ⟨id, hid⟩ := htextual.ids .roles row hrow "id" (by decide)
  obtain ⟨domain, hdomain⟩ := htext "domain" (by decide)
  obtain ⟨department, hdepartment⟩ := htext "department" (by decide)
  obtain ⟨roleName, hroleName⟩ := htext "role_name" (by decide)
  obtain ⟨text, hwritten⟩ := htext "permission_tree" (by decide)
  -- The one thing that can go wrong in a textual row is its tree.
  obtain ⟨tree, htree⟩ : ∃ tree, ShowsTree text tree := by
    apply exists_showsTree
    by_contra hcorrupt
    obtain ⟨hblank, hjson⟩ := not_or.mp hcorrupt
    refine hsane ⟨text, hwritten, by simpa using hblank, ?_⟩
    simpa [Option.eq_none_iff_forall_ne_some] using hjson
  obtain ⟨userIds, husers⟩ :=
    htextual.exists_showsLinks .userRoles "role_id" "user_id" (by decide) id
  obtain ⟨groupIds, hgroups⟩ :=
    htextual.exists_showsLinks .groupRoles "role_id" "group_id" (by decide) id
  exact ⟨⟨id, domain, department, roleName, tree, userIds, groupIds⟩, hid, hdomain, hdepartment,
    hroleName, ⟨text, hwritten, htree⟩, husers, hgroups⟩

theorem exists_showsGroup (hrow : row ∈ database.userGroups) :
    ∃ group, ShowsGroup database row group := by
  obtain ⟨id, hid⟩ := htextual.ids .userGroups row hrow "id" (by decide)
  obtain ⟨roleIds, hroles⟩ :=
    htextual.exists_showsLinks .groupRoles "group_id" "role_id" (by decide) id
  obtain ⟨userIds, husers⟩ :=
    htextual.exists_showsLinks .groupMembers "group_id" "user_id" (by decide) id
  exact ⟨⟨id, roleIds, userIds⟩, hid, hroles, husers⟩

theorem exists_showsActor (hrow : row ∈ database.users) :
    ∃ actor, ShowsActor database row actor := by
  have htext : ∀ column ∈ Table.users.textColumns, ∃ text, row.cell column = .text text :=
    htextual.texts .users row hrow
  obtain ⟨id, hid⟩ := htextual.ids .users row hrow "id" (by decide)
  obtain ⟨email, hemail⟩ := htext "email" (by decide)
  obtain ⟨domain, hdomain⟩ := htext "domain" (by decide)
  obtain ⟨department, hdepartment⟩ := htext "department" (by decide)
  obtain ⟨roleIds, hroles⟩ :=
    htextual.exists_showsLinks .userRoles "user_id" "role_id" (by decide) id
  obtain ⟨groupIds, hgroups⟩ :=
    htextual.exists_showsLinks .groupMembers "user_id" "group_id" (by decide) id
  exact ⟨⟨id, email, domain, department, roleIds, groupIds⟩, hid, hemail, hdomain, hdepartment,
    hroles, hgroups⟩

end Textual

/-! ## Looking up records -/

theorem exists_forall₂ {shows : Row → α → Prop}
    (hexists : ∀ row ∈ rows, ∃ record, shows row record) :
    ∃ records, List.Forall₂ shows rows records := by
  induction rows with
  | nil => exact ⟨[], .nil⟩
  | cons row rest ih =>
      obtain ⟨⟨record, hrecord⟩, hrest⟩ := List.forall_mem_cons.mp hexists
      obtain ⟨records, hrecords⟩ := ih hrest
      exact ⟨record :: records, .cons hrecord hrecords⟩

/-- Where rows differ in their identifiers, each of the records that they show is found. -/
theorem find?_eq_some_iff_of_forall₂ {shows : Row → α → Prop} {key : α → Uuid}
    {records : List α}
    (hcell : ∀ row record, shows row record → row.cell "id" = .text (key record).text)
    (hunique : ∀ row record held, shows row record → shows row held → record = held)
    (hkeys : rows.Pairwise fun earlier later => earlier.cellsOf ["id"] ≠ later.cellsOf ["id"])
    (hrecords : List.Forall₂ shows rows records) (record : α) :
    records.find? (key · == key record) = some record ↔ ∃ row ∈ rows, shows row record := by
  induction hrecords with
  | nil => simp
  | @cons row first rest _ hfirst _ ih =>
      obtain ⟨hothers, hkeys⟩ := List.pairwise_cons.mp hkeys
      rw [List.exists_mem_cons_iff]
      by_cases hsame : key first = key record
      · rw [List.find?_cons_of_pos (by simpa using hsame), Option.some_inj]
        -- The first record has the identifier, so it is the one that is found.
        constructor
        · rintro rfl
          exact Or.inl hfirst
        · rintro (hrow | ⟨other, hother, hrow⟩)
          · exact hunique row first record hfirst hrow
          · -- Another row has another identifier.
            refine absurd ?_ (hothers other hother)
            simp [Row.cellsOf, hcell _ _ hfirst, hcell _ _ hrow, hsame]
      · rw [List.find?_cons_of_neg (by simpa using hsame), ih hkeys]
        refine (or_iff_right fun hrow => hsame ?_).symm
        rw [hunique row first record hfirst hrow]

/-- A directory finds by their identifiers exactly the records that the rows of a table
show, and every row shows one. -/
structure Finds (rows : List Row) (shows : Row → α → Prop) (key : α → Uuid)
    (look : Uuid → Option α) : Prop where
  cell : ∀ row record, shows row record → row.cell "id" = .text (key record).text
  record : ∀ row ∈ rows, ∃ record, shows row record
  found : ∀ record, look (key record) = some record ↔ ∃ row ∈ rows, shows row record
  own : ∀ id record, look id = some record → key record = id

section Finds

variable {shows : Row → α → Prop} {key : α → Uuid} {look : Uuid → Option α}
  (hfinds : Finds rows shows key look)
include hfinds

theorem Finds.exists_of_rowOf? (hrow : rowOf? rows id = some row) :
    ∃ record, key record = id ∧ shows row record ∧ look id = some record := by
  have hmem := List.mem_of_find?_eq_some hrow
  obtain ⟨record, hshows⟩ := hfinds.record row hmem
  obtain rfl : key record = id :=
    Uuid.text_inj.mp (cell_text_inj (hfinds.cell row record hshows) (cell_of_rowOf? hrow))
  exact ⟨record, rfl, hshows, (hfinds.found record).mpr ⟨row, hmem, hshows⟩⟩

theorem Finds.eq_none_of_rowOf? (hrow : rowOf? rows id = none) : look id = none := by
  by_contra hfound
  obtain ⟨record, hrecord⟩ := Option.ne_none_iff_exists'.mp hfound
  obtain rfl := hfinds.own id record hrecord
  obtain ⟨row, hmem, hshows⟩ := (hfinds.found record).mp hrecord
  exact absurd (hfinds.cell row record hshows) (by simpa using List.find?_eq_none.mp hrow row hmem)

end Finds

/-- A lookup that reads the records as the rows show them delivers what is found. -/
theorem Finds.result_eq {lookup : Lookup α} {shows : Row → α → Prop} {look : Uuid → Option α}
    (hfinds : Finds lookup.rows shows lookup.key look)
    (hlinks : ∃ firstLinks secondLinks,
      links lookup.first lookup.column lookup.firstOther (distinct ids) = .ok firstLinks ∧
        links lookup.second lookup.column lookup.secondOther (distinct ids) = .ok secondLinks ∧
        ∀ row record, shows row record → lookup.key record ∈ distinct ids →
          lookup.read firstLinks secondLinks row = .ok record) :
    lookup.result ids = .ok ((distinct ids).filterMap look) := by
  obtain ⟨firstLinks, secondLinks, hfirst, hsecond, hread⟩ := hlinks
  -- For each identifier, reading its row and looking it up in the directory agree.
  have hsome : ∀ id ∈ distinct ids, ∀ row, rowOf? lookup.rows id = some row →
      ∃ record, lookup.read firstLinks secondLinks row = .ok record ∧ look id = some record := by
    intro id hid row hrow
    obtain ⟨record, rfl, hshows, hlook⟩ := hfinds.exists_of_rowOf? hrow
    exact ⟨record, hread row record hshows hid, hlook⟩
  -- Hence no row that is fetched fails, and the order of the request decides the rest.
  have hrows : ∀ row ∈ rowsOf lookup.rows (distinct ids),
      ∃ record, lookup.read firstLinks secondLinks row = .ok record := by
    intro row hrow
    obtain ⟨id, hid, hfound⟩ := List.mem_filterMap.mp hrow
    obtain ⟨record, hrecord, _⟩ := hsome id (List.mem_mergeSort.mp hid) row hfound
    exact ⟨record, hrecord⟩
  obtain ⟨found, hfound⟩ := exists_mapM_eq_ok hrows
  have hfind : lookup.find (distinct ids) = .ok found :=
    Lookup.find_eq_ok_iff.mpr ⟨firstLinks, secondLinks, hfirst, hsecond, hfound⟩
  rw [Lookup.result, hfind]
  refine congrArg Except.ok ?_
  rw [Lookup.deliver, (filterMap_find?_of_mapM (lookup.key_of_read _ _) hfound).1]
  refine List.filterMap_congr fun id hid => ?_
  cases hrow : rowOf? lookup.rows id with
  | none => rw [recordOf?_of_none hrow, hfinds.eq_none_of_rowOf? hrow]
  | some row =>
      obtain ⟨record, hrecord, hlook⟩ := hsome id hid row hrow
      rw [recordOf?_of_ok hrow hrecord, hlook]

theorem Textual.exists_links (htextual : database.Textual) (table : Table)
    (column other : String) (hcolumn : column ∈ table.key) (hother : other ∈ table.key)
    (ids : List Uuid) :
    ∃ pairs, links (database.rows table) column other ids = .ok pairs := by
  refine exists_mapM_eq_ok fun row hrow => ?_
  have hmem : row ∈ database.rows table := (List.mem_filter.mp hrow).1
  obtain ⟨id, hid⟩ := htextual.ids table row hmem column hcolumn
  obtain ⟨linked, hlinked⟩ := htextual.ids table row hmem other hother
  exact ⟨(id, linked), bind_eq_ok.mpr ⟨id, readId_of_cell hid,
    bind_eq_ok.mpr ⟨linked, readId_of_cell hlinked, rfl⟩⟩⟩

theorem Textual.exists_role_links (htextual : database.Textual) (ids : List Uuid) :
    ∃ users groups, links database.userRoles "role_id" "user_id" ids = .ok users ∧
      links database.groupRoles "role_id" "group_id" ids = .ok groups := by
  obtain ⟨users, husers⟩ :=
    htextual.exists_links .userRoles "role_id" "user_id" (by decide) (by decide) ids
  obtain ⟨groups, hgroups⟩ :=
    htextual.exists_links .groupRoles "role_id" "group_id" (by decide) (by decide) ids
  exact ⟨users, groups, husers, hgroups⟩

theorem Textual.exists_group_links (htextual : database.Textual) (ids : List Uuid) :
    ∃ roles members, links database.groupRoles "group_id" "role_id" ids = .ok roles ∧
      links database.groupMembers "group_id" "user_id" ids = .ok members := by
  obtain ⟨roles, hroles⟩ :=
    htextual.exists_links .groupRoles "group_id" "role_id" (by decide) (by decide) ids
  obtain ⟨members, hmembers⟩ :=
    htextual.exists_links .groupMembers "group_id" "user_id" (by decide) (by decide) ids
  exact ⟨roles, members, hroles, hmembers⟩

/-- Where links are fetched for many records, each gets the ones that its rows show. -/
theorem ShowsLinks.linkedTo_eq {pairs : List (Uuid × Uuid)}
    (hshows : ShowsLinks rows column other id linked)
    (hlinks : links rows column other ids = .ok pairs) (hid : id ∈ ids) :
    linkedTo id pairs = linked := by
  -- Every link is in written form, so reading the own rows gives what they show.
  have hread : ∀ (rows : List Row) (linked : List Uuid),
      rows.map (·.cell other) = linked.map (fun id => .text id.text) →
        rows.mapM (readId · other) = .ok linked := by
    intro rows
    induction rows with
    | nil =>
        intro linked hmap
        rw [List.map_eq_nil_iff.mp hmap.symm]
        rfl
    | cons row rest ih =>
        intro linked hmap
        obtain ⟨first, later, rfl, hfirst, hlater⟩ := List.map_eq_cons_iff.mp hmap.symm
        exact mapM_cons_eq_ok.mpr
          ⟨first, later, readId_of_cell hfirst.symm, ih later hlater.symm, rfl⟩
  exact Except.ok.inj ((mapM_readId_linkedTo hlinks hid).symm.trans (hread _ _ hshows))

theorem readRole_of_shows {role : Role} {users groups : List (Uuid × Uuid)}
    (hshows : ShowsRole database row role) (hid : role.id ∈ ids)
    (husers : links database.userRoles "role_id" "user_id" ids = .ok users)
    (hgroups : links database.groupRoles "role_id" "group_id" ids = .ok groups) :
    readRole users groups row = .ok role := by
  obtain ⟨text, htext, htree⟩ := hshows.tree
  have hrecord : (⟨role.id, role.domain, role.department, role.roleName, role.tree,
      linkedTo role.id users, linkedTo role.id groups⟩ : Role) = role := by
    rw [hshows.userIds.linkedTo_eq husers hid, hshows.groupIds.linkedTo_eq hgroups hid]
  exact bind_eq_ok.mpr ⟨_, readId_of_cell hshows.id,
    bind_eq_ok.mpr ⟨_, readText_eq_ok_iff.mpr hshows.domain,
    bind_eq_ok.mpr ⟨_, readText_eq_ok_iff.mpr hshows.department,
    bind_eq_ok.mpr ⟨_, readText_eq_ok_iff.mpr hshows.roleName,
    bind_eq_ok.mpr ⟨_, readText_eq_ok_iff.mpr htext,
    bind_eq_ok.mpr ⟨_, readTree_of_showsTree htree role.id, congrArg Except.ok hrecord⟩⟩⟩⟩⟩⟩

theorem readGroup_of_shows {group : Group} {roles members : List (Uuid × Uuid)}
    (hshows : ShowsGroup database row group) (hid : group.id ∈ ids)
    (hroles : links database.groupRoles "group_id" "role_id" ids = .ok roles)
    (hmembers : links database.groupMembers "group_id" "user_id" ids = .ok members) :
    readGroup roles members row = .ok group := by
  rw [readGroup_of_cell hshows.id, hshows.roleIds.linkedTo_eq hroles hid,
    hshows.userIds.linkedTo_eq hmembers hid]

theorem readActor_of_shows {actor : Actor} (htextual : database.Textual)
    (hrow : rowOf? database.users actor.id = some row) (hshows : ShowsActor database row actor) :
    database.readActor actor.id = .ok (some actor) := by
  obtain ⟨roles, hroles⟩ :=
    htextual.exists_links .userRoles "user_id" "role_id" (by decide) (by decide) [actor.id]
  obtain ⟨groups, hgroups⟩ :=
    htextual.exists_links .groupMembers "user_id" "group_id" (by decide) (by decide) [actor.id]
  have hid : actor.id ∈ [actor.id] := List.mem_singleton_self _
  have hrecord : (⟨actor.id, actor.email, actor.domain, actor.department,
      linkedTo actor.id roles, linkedTo actor.id groups⟩ : Actor) = actor := by
    rw [hshows.roleIds.linkedTo_eq hroles hid, hshows.groupIds.linkedTo_eq hgroups hid]
  rw [readActor_of_rowOf? hrow]
  exact bind_eq_ok.mpr ⟨_, readText_eq_ok_iff.mpr hshows.email,
    bind_eq_ok.mpr ⟨_, readText_eq_ok_iff.mpr hshows.domain,
    bind_eq_ok.mpr ⟨_, readText_eq_ok_iff.mpr hshows.department,
    bind_eq_ok.mpr ⟨_, hroles, bind_eq_ok.mpr ⟨_, hgroups,
      congrArg (fun actor => Except.ok (some actor)) hrecord⟩⟩⟩⟩⟩

end Database

open Database

/-! ## Directories -/

/-- A directory finds exactly the records that the rows of a database show. -/
structure Directory.Mirrors (directory : Directory) (database : Database) : Prop where
  roles : ∀ role, directory.role? role.id = some role ↔
    ∃ row ∈ database.roles, ShowsRole database row role
  groups : ∀ group, directory.group? group.id = some group ↔
    ∃ row ∈ database.userGroups, ShowsGroup database row group
  actors : ∀ actor, directory.actor? actor.id = some actor ↔
    ∃ row ∈ database.users, ShowsActor database row actor

namespace Database

variable {database : Database} {directory : Directory}

/-- A directory of the records that the rows show, row by row, holds the same records. -/
theorem mirrors_of_forall₂ (hsound : database.Sound)
    (hroles : List.Forall₂ (ShowsRole database) database.roles directory.roles)
    (hgroups : List.Forall₂ (ShowsGroup database) database.userGroups directory.groups)
    (hactors : List.Forall₂ (ShowsActor database) database.users directory.actors) :
    directory.Mirrors database where
  roles := find?_eq_some_iff_of_forall₂ (fun _ _ => ShowsRole.id) (fun _ _ _ => ShowsRole.unique)
    (hsound.keys .roles) hroles
  groups := find?_eq_some_iff_of_forall₂ (fun _ _ => ShowsGroup.id) (fun _ _ _ => ShowsGroup.unique)
    (hsound.keys .userGroups) hgroups
  actors := find?_eq_some_iff_of_forall₂ (fun _ _ => ShowsActor.id) (fun _ _ _ => ShowsActor.unique)
    (hsound.keys .users) hactors

theorem exists_mirrors (hsound : database.Sound) (hlegible : database.Legible) :
    ∃ directory : Directory, directory.Mirrors database := by
  obtain ⟨roles, hroles⟩ := exists_forall₂ fun _ hrow =>
    exists_showsRole hlegible.textual hrow (hlegible.not_holdsCorruptTree hrow)
  obtain ⟨groups, hgroups⟩ := exists_forall₂ fun _ hrow => exists_showsGroup hlegible.textual hrow
  obtain ⟨actors, hactors⟩ := exists_forall₂ fun _ hrow => exists_showsActor hlegible.textual hrow
  exact ⟨⟨roles, groups, actors⟩, mirrors_of_forall₂ hsound hroles hgroups hactors⟩

section Mirrors

variable (hlegible : database.Legible) (hmirrors : directory.Mirrors database)
include hlegible hmirrors

theorem finds_roles : Finds database.roles (ShowsRole database) Role.id directory.role? where
  cell _ _ := ShowsRole.id
  record _ hrow := exists_showsRole hlegible.textual hrow (hlegible.not_holdsCorruptTree hrow)
  found := hmirrors.roles
  own _ _ := Directory.id_of_role?

theorem finds_groups :
    Finds database.userGroups (ShowsGroup database) Group.id directory.group? where
  cell _ _ := ShowsGroup.id
  record _ := exists_showsGroup hlegible.textual
  found := hmirrors.groups
  own _ _ hgroup := by simpa using List.find?_some hgroup

theorem finds_actors : Finds database.users (ShowsActor database) Actor.id directory.actor? where
  cell _ _ := ShowsActor.id
  record _ := exists_showsActor hlegible.textual
  found := hmirrors.actors
  own _ _ hactor := by simpa using List.find?_some hactor

theorem result_roles_of_mirrors (ids : List Uuid) :
    (database.store.roles ids).result = .ok ((distinct ids).filterMap directory.role?) := by
  rw [result_roles]
  obtain ⟨users, groups, husers, hgroups⟩ := hlegible.textual.exists_role_links (distinct ids)
  refine Finds.result_eq (finds_roles hlegible hmirrors) ⟨users, groups, husers, hgroups, ?_⟩
  intro row role hshows hid
  exact readRole_of_shows hshows hid husers hgroups

theorem result_groups_of_mirrors (ids : List Uuid) :
    (database.store.groups ids).result = .ok ((distinct ids).filterMap directory.group?) := by
  rw [result_groups]
  obtain ⟨roles, members, hroles, hmembers⟩ := hlegible.textual.exists_group_links (distinct ids)
  refine Finds.result_eq (finds_groups hlegible hmirrors) ⟨roles, members, hroles, hmembers, ?_⟩
  intro row group hshows hid
  exact readGroup_of_shows hshows hid hroles hmembers

theorem result_actor_of_mirrors (id : Uuid) :
    (database.store.actor id).result = .ok (directory.actor? id) := by
  have hfinds := finds_actors hlegible hmirrors
  show database.readActor id = _
  cases hrow : rowOf? database.users id with
  | none => rw [readActor_of_none hrow, hfinds.eq_none_of_rowOf? hrow]
  | some row =>
      obtain ⟨actor, rfl, hshows, hactor⟩ := hfinds.exists_of_rowOf? hrow
      rw [readActor_of_shows hlegible.textual hrow hshows, hactor]

end Mirrors

end Database

end Entitlement
