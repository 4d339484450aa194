import Entitlement.Proofs.Resolution.Lookups
import Entitlement.Proofs.Resolution.Mirror
import Entitlement.Proofs.Resolution.Strictness

/-!
# Resolutions that meet a corrupt tree

Where columns hold text, and those of identifiers hold written forms, one thing alone can fail a
lookup: a permission tree that is neither blank nor JSON.  So actors and groups are always found
(`exists_result_actor`, `exists_result_groups`).  A lookup of roles fails exactly when one of the
roles that are asked for has such a tree (`exists_hasCorruptTree_of_result_roles`,
`not_hasCorruptTree_of_result_roles`), and else every role comes as its row shows it.

Where references are checked besides, a lenient resolution depends on the trees of the roles that
the user reaches, on each of them and on no other.  It fails when one of these is corrupt, since
some lookup asks for it (`exists_error_of_hasCorruptTree`), and for no other reason
(`exists_hasCorruptTree_of_error`).  When it succeeds, its rules are made of all that is reached
(`exists_roles_of_policy`).  The trees of other roles are not read at all
(`result_resolveById_of_sameReachedTrees`).
-/

namespace Entitlement

/-! ## Which lookups fail -/

namespace Database

variable {database : Database} {row : Row} {id user : Uuid} {ids : List Uuid} {role : Role}
  {roles : List Role} {users groups : List (Uuid × Uuid)} {error : Error}

/-- A role has a permission tree that is neither blank nor JSON. -/
def HasCorruptTree (database : Database) (id : Uuid) : Prop :=
  ∃ row ∈ database.roles, row.cell "id" = .text id.text ∧ HoldsCorruptTree row

/-! ### Rows -/

/-- In a table with identifiers for keys the row of an identifier is the only one. -/
theorem Sound.rowOf?_eq_some (hsound : database.Sound) (table : Table)
    (hkey : table.key = ["id"]) (hrow : row ∈ database.rows table)
    (hcell : row.cell "id" = .text id.text) : rowOf? (database.rows table) id = some row := by
  have hkeys := hsound.keys table
  rw [hkey] at hkeys
  -- The induction is on the rows, which are in no other table then.
  generalize database.rows table = rows at hrow hkeys
  induction rows with
  | nil => contradiction
  | cons first rest ih =>
      obtain ⟨hfirst, hrest⟩ := List.pairwise_cons.mp hkeys
      rcases List.mem_cons.mp hrow with rfl | hlater
      · exact List.find?_cons_of_pos (by simp [hcell])
      · have hne : first.cell "id" ≠ .text id.text := by
          intro hsame
          exact hfirst row hlater (by simp [Row.cellsOf, hcell, hsame])
        rw [rowOf?, List.find?_cons_of_neg (by simpa using hne)]
        exact ih hlater hrest

theorem mem_and_cell_of_mem_rowsOf {rows : List Row} (hrow : row ∈ rowsOf rows ids) :
    ∃ id ∈ ids, row ∈ rows ∧ row.cell "id" = .text id.text := by
  obtain ⟨id, hid, hfound⟩ := List.mem_filterMap.mp hrow
  exact ⟨id, List.mem_mergeSort.mp hid, List.mem_of_find?_eq_some hfound, cell_of_rowOf? hfound⟩

section Textual

variable (htextual : database.Textual)
include htextual

theorem readRole_of_holdsCorruptTree (hrow : row ∈ database.roles)
    (hcell : row.cell "id" = .text id.text) (hcorrupt : HoldsCorruptTree row)
    (users groups : List (Uuid × Uuid)) :
    readRole users groups row = .error (.corruptTree id) := by
  have htext : ∀ column ∈ Table.roles.textColumns, ∃ text, readText row column = .ok text := by
    intro column hcolumn
    obtain ⟨text, hheld⟩ := htextual.texts .roles row hrow column hcolumn
    exact ⟨text, readText_eq_ok_iff.mpr hheld⟩
  obtain ⟨domain, hdomain⟩ := htext "domain" (by decide)
  obtain ⟨department, hdepartment⟩ := htext "department" (by decide)
  obtain ⟨roleName, hroleName⟩ := htext "role_name" (by decide)
  obtain ⟨text, hheld, hblank, hnone⟩ := hcorrupt
  have htree : readTree id text = .error (.corruptTree id) := by
    rw [readTree, if_neg (by simp [hblank]), hnone]
  rw [readRole, bind_of_ok (readId_of_cell hcell), bind_of_ok hdomain, bind_of_ok hdepartment,
    bind_of_ok hroleName, bind_of_ok (readText_eq_ok_iff.mpr hheld), htree]
  rfl

/-- A role is read as its row shows it, unless its tree is corrupt. -/
theorem readRole_cases (hrow : row ∈ database.roles) (hcell : row.cell "id" = .text id.text)
    (hid : id ∈ ids) (husers : links database.userRoles "role_id" "user_id" ids = .ok users)
    (hgroups : links database.groupRoles "role_id" "group_id" ids = .ok groups) :
    (HoldsCorruptTree row ∧ readRole users groups row = .error (.corruptTree id)) ∨
      ∃ role, ShowsRole database row role ∧ readRole users groups row = .ok role := by
  by_cases hcorrupt : HoldsCorruptTree row
  · exact Or.inl ⟨hcorrupt, readRole_of_holdsCorruptTree htextual hrow hcell hcorrupt _ _⟩
  · -- All else can be read, so the row shows a role.
    obtain ⟨role, hshows⟩ := exists_showsRole htextual hrow hcorrupt
    obtain rfl : role.id = id := Uuid.text_inj.mp (cell_text_inj hshows.id hcell)
    exact Or.inr ⟨role, hshows, readRole_of_shows hshows hid husers hgroups⟩

/-! ### Lookups -/

theorem exists_result_actor (hknown : ∃ row ∈ database.users, row.cell "id" = .text user.text) :
    ∃ actor, (database.store.actor user).result = .ok (some actor) := by
  obtain ⟨row, hrow⟩ := Option.isSome_iff_exists.mp (isSome_rowOf?_iff.mpr hknown)
  obtain ⟨actor, hshows⟩ := exists_showsActor htextual (List.mem_of_find?_eq_some hrow)
  obtain rfl : actor.id = user := Uuid.text_inj.mp (cell_text_inj hshows.id (cell_of_rowOf? hrow))
  exact ⟨actor, readActor_of_shows htextual hrow hshows⟩

theorem exists_result_groups (ids : List Uuid) :
    ∃ groups, (database.store.groups ids).result = .ok groups := by
  obtain ⟨roles, members, hroles, hmembers⟩ := htextual.exists_group_links (distinct ids)
  obtain ⟨found, hfound⟩ : ∃ found,
      (rowsOf database.userGroups (distinct ids)).mapM (readGroup roles members) = .ok found := by
    refine exists_mapM_eq_ok fun row hrow => ?_
    obtain ⟨id, _, _, hcell⟩ := mem_and_cell_of_mem_rowsOf hrow
    exact ⟨_, readGroup_of_cell hcell⟩
  have hfind : database.groupLookup.find (distinct ids) = .ok found :=
    Lookup.find_eq_ok_iff.mpr ⟨roles, members, hroles, hmembers, hfound⟩
  rw [result_groups, Lookup.result, hfind]
  exact ⟨_, rfl⟩

/-- **A lookup of roles fails at a corrupt tree** of a role that is asked for. -/
theorem exists_hasCorruptTree_of_result_roles
    (herror : (database.store.roles ids).result = .error error) :
    ∃ id ∈ ids, database.HasCorruptTree id ∧ error = .corruptTree id := by
  obtain ⟨users, groups, husers, hgroups⟩ := htextual.exists_role_links (distinct ids)
  have hfind : database.roleLookup.find (distinct ids) =
      (rowsOf database.roles (distinct ids)).mapM (readRole users groups) :=
    (bind_of_ok husers).trans (bind_of_ok hgroups)
  -- The links come along, so what fails is the reading of a row.
  have hfound : (rowsOf database.roles (distinct ids)).mapM (readRole users groups) =
      .error error := by
    rw [result_roles, Lookup.result, hfind] at herror
    cases hread : (rowsOf database.roles (distinct ids)).mapM (readRole users groups) with
    | ok found =>
        rw [hread] at herror
        contradiction
    | error reason =>
        rw [hread] at herror
        exact herror
  obtain ⟨row, hrow, hread⟩ := exists_mem_of_mapM_eq_error hfound
  obtain ⟨id, hid, hmem, hcell⟩ := mem_and_cell_of_mem_rowsOf hrow
  rcases readRole_cases htextual hmem hcell hid husers hgroups with
    ⟨hcorrupt, hfails⟩ | ⟨role, _, hok⟩
  · exact ⟨id, mem_distinct_iff.mp hid, ⟨row, hmem, hcell, hcorrupt⟩,
      Except.error.inj (hread.symm.trans hfails)⟩
  · rw [hread] at hok
    contradiction

/-- A lookup that succeeds delivers roles as their rows show them. -/
theorem exists_showsRole_of_result_roles (hroles : (database.store.roles ids).result = .ok roles)
    (hrole : role ∈ roles) : ∃ row ∈ database.roles, ShowsRole database row role := by
  rw [result_roles] at hroles
  obtain ⟨users, groups, id, hid, row, husers, hgroups, hrow, hread⟩ :=
    Lookup.exists_row_of_mem_result hroles hrole
  have hmem := List.mem_of_find?_eq_some hrow
  rcases readRole_cases htextual hmem (cell_of_rowOf? hrow) hid husers hgroups with
    ⟨_, hfails⟩ | ⟨shown, hshows, hok⟩
  · exact absurd (hread.symm.trans hfails) nofun
  · obtain rfl : role = shown := Except.ok.inj (hread.symm.trans hok)
    exact ⟨row, hmem, hshows⟩

/-- A lookup that succeeds has asked for no role with a corrupt tree. -/
theorem not_hasCorruptTree_of_result_roles (hsound : database.Sound)
    (hroles : (database.store.roles ids).result = .ok roles) (hid : id ∈ ids) :
    ¬ database.HasCorruptTree id := by
  rintro ⟨row, hrow, hcell, hcorrupt⟩
  rw [result_roles] at hroles
  obtain ⟨users, groups, role, hread⟩ := Lookup.exists_read_of_result hroles
    (mem_distinct_iff.mpr hid) (hsound.rowOf?_eq_some .roles rfl hrow hcell)
  have hfails := readRole_of_holdsCorruptTree htextual hrow hcell hcorrupt users groups
  exact absurd (hread.symm.trans hfails) nofun

end Textual

end Database

/-! ## From lookups to resolutions -/

namespace Database

variable {database other : Database} {table target : Table} {row : Row} {column : String}
  {user role id : Uuid} {ids : List Uuid}

/-! ### Links where references are checked -/

theorem Sound.exists_of_link (hsound : database.Sound) (hkeys : database.foreignKeys = true)
    (table target : Table) (hlink : .link column target ∈ table.columns)
    (hrow : row ∈ database.rows table) :
    ∃ held ∈ database.rows target, held.cell "id" = row.cell column :=
  hsound.references hkeys table row hrow _ hlink target rfl

theorem Textual.cell_of_readId (htextual : database.Textual) (table : Table)
    (hcolumn : column ∈ table.key) (hrow : row ∈ database.rows table)
    (hread : readId row column = .ok id) : row.cell column = .text id.text := by
  obtain ⟨held, hheld⟩ := htextual.ids table row hrow column hcolumn
  obtain rfl : held = id := Except.ok.inj ((readId_of_cell hheld).symm.trans hread)
  exact hheld

/-- Who reaches a role has a record. -/
theorem exists_user_of_reaches (hsound : database.Sound) (hkeys : database.foreignKeys = true)
    (hreaches : database.Reaches user role) :
    ∃ row ∈ database.users, row.cell "id" = .text user.text := by
  cases hreaches with
  | direct hlink =>
      obtain ⟨row, hrow, hcell, _⟩ := hlink
      rw [← hcell]
      exact hsound.exists_of_link hkeys .userRoles .users (by simp [Table.columns]) hrow
  | viaGroup group hmember =>
      obtain ⟨row, hrow, hcell, _⟩ := hmember
      rw [← hcell]
      exact hsound.exists_of_link hkeys .groupMembers .users (by simp [Table.columns]) hrow

/-- A role that is reached has a record. -/
theorem exists_role_of_reaches (hsound : database.Sound) (hkeys : database.foreignKeys = true)
    (htextual : database.Textual) (hreaches : database.Reaches user role) :
    ∃ row ∈ database.roles, row.cell "id" = .text role.text := by
  cases hreaches with
  | direct hlink =>
      obtain ⟨row, hrow, _, hread⟩ := hlink
      rw [← htextual.cell_of_readId .userRoles (by decide) hrow hread]
      exact hsound.exists_of_link hkeys .userRoles .roles (by simp [Table.columns]) hrow
  | viaGroup group _ _ hshare =>
      obtain ⟨row, hrow, _, hread⟩ := hshare
      rw [← htextual.cell_of_readId .groupRoles (by decide) hrow hread]
      exact hsound.exists_of_link hkeys .groupRoles .roles (by simp [Table.columns]) hrow

/-! ### Trees that are not reached -/

/-- The second of two rows of a role differs at most in the tree, and only where the user does
not reach the role. -/
def SameReachedTree (user : Uuid) (database : Database) (row held : Row) : Prop :=
  held = row ∨
    (∃ role : Uuid, row.cell "id" = .text role.text ∧ ¬ database.Reaches user role) ∧
      ∀ column, column ≠ "permission_tree" → held.cell column = row.cell column

/-- Databases that differ at most in the trees of roles that a user does not reach. -/
structure SameReachedTrees (user : Uuid) (database other : Database) : Prop where
  others : ∀ table, table ≠ .roles → other.rows table = database.rows table
  roles : List.Forall₂ (SameReachedTree user database) database.roles other.roles

section SameReachedTrees

variable (hsame : SameReachedTrees user database other)
include hsame

theorem SameReachedTrees.rowOf?_eq (hreaches : database.Reaches user id) :
    rowOf? other.roles id = rowOf? database.roles id := by
  have hroles := hsame.roles
  -- Row by row; whether a row is the one of the identifier does not depend on its tree.
  generalize database.roles = rows at hroles
  generalize other.roles = others at hroles
  induction hroles with
  | nil => rfl
  | @cons row held _ _ hfirst _ ih =>
      rw [rowOf?, rowOf?, List.find?_cons, List.find?_cons]
      rcases hfirst with rfl | ⟨⟨role, hcell, hnot⟩, hcells⟩
      · split
        · rfl
        · exact ih
      · -- The row that may differ is about another role.
        have hne : role ≠ id := by
          rintro rfl
          exact hnot hreaches
        have hrow : (row.cell "id" == .text id.text) = false := by
          simp [hcell, Uuid.text_inj, hne]
        have hheld : (held.cell "id" == .text id.text) = false := by
          rw [hcells "id" (by decide), hrow]
        rw [hrow, hheld]
        exact ih

theorem SameReachedTrees.result_roles_eq (hreached : ∀ id ∈ ids, database.Reaches user id) :
    (other.store.roles ids).result = (database.store.roles ids).result := by
  have husers : other.userRoles = database.userRoles := hsame.others .userRoles (by decide)
  have hgroups : other.groupRoles = database.groupRoles := hsame.others .groupRoles (by decide)
  have hrows : rowsOf other.roles (distinct ids) = rowsOf database.roles (distinct ids) := by
    refine List.filterMap_congr fun id hid => hsame.rowOf?_eq (hreached id ?_)
    exact mem_distinct_iff.mp (List.mem_mergeSort.mp hid)
  rw [result_roles, result_roles, Lookup.result, Lookup.result, Lookup.find, Lookup.find]
  simp only [roleLookup, husers, hgroups, hrows]
  rfl

/-- The trees of other roles are not seen. -/
theorem SameReachedTrees.seesAlike : SeesAlike (fun _ => False) user database other where
  actor := by
    have husers : other.users = database.users := hsame.others .users (by decide)
    have hroles : other.userRoles = database.userRoles := hsame.others .userRoles (by decide)
    have hgroups : other.groupMembers = database.groupMembers :=
      hsame.others .groupMembers (by decide)
    show other.readActor user = database.readActor user
    rw [readActor, readActor, husers, hroles, hgroups]
  roles ids hreached := by
    rw [hsame.result_roles_eq hreached]
    exact .refl (fun roles => List.forall₂_same.mpr fun role _ => .refl role) _
  groups ids _ := by
    have hrows : other.userGroups = database.userGroups := hsame.others .userGroups (by decide)
    have hroles : other.groupRoles = database.groupRoles := hsame.others .groupRoles (by decide)
    have hmembers : other.groupMembers = database.groupMembers :=
      hsame.others .groupMembers (by decide)
    have hlookup : other.groupLookup = database.groupLookup := by
      simp only [groupLookup, hrows, hroles, hmembers]
    rw [result_groups, result_groups, hlookup]
    exact .refl (fun groups => List.forall₂_same.mpr fun group _ => .refl group) _

end SameReachedTrees

end Database

/-! ### What is resolved -/

namespace Authorizer

open Database

variable {database other : Database} {user role : Uuid} {error : Error} {policy : Policy}

theorem result_resolveById_of_sameReachedTrees (hsame : SameReachedTrees user database other)
    (strict : Bool) :
    (resolveById ⟨other.store, strict⟩ user).result =
      (resolveById ⟨database.store, strict⟩ user).result := by
  refine (result_resolveById_of_seesAlike hsame.seesAlike strict).resolve_right ?_
  rintro ⟨_, hnone, _⟩
  exact hnone

/-- A lookup of effective roles fails at a corrupt tree of a role that is reached. -/
theorem exists_hasCorruptTree_of_effectiveRoles {actor : Actor} (htextual : database.Textual)
    (hactor : (database.store.actor user).result = .ok (some actor))
    (herror : (database.store.effectiveRoles actor).result = .error error) :
    ∃ role, database.Reaches user role ∧ database.HasCorruptTree role ∧
      error = .corruptTree role := by
  obtain ⟨groups, hgroups⟩ := exists_result_groups htextual actor.groupIds
  -- Whatever is asked for is reached, by the actor or by one of its groups.
  have hcorrupt : ∀ ids, (∀ id ∈ ids, id ∈ actor.roleIds ∨ id ∈ groups.flatMap (·.roleIds)) →
      (database.store.roles ids).result = .error error →
        ∃ role, database.Reaches user role ∧ database.HasCorruptTree role ∧
          error = .corruptTree role := by
    intro ids hasked hfails
    obtain ⟨role, hrole, hcorrupt⟩ := exists_hasCorruptTree_of_result_roles htextual hfails
    exact ⟨role, (reaches_iff hactor hgroups).mpr (hasked role hrole), hcorrupt⟩
  -- Groups are always found, so it is one of the two lookups of roles that failed.
  rw [result_effectiveRoles] at herror
  cases hdirect : (database.store.roles actor.roleIds).result with
  | error reason =>
      rw [hdirect] at herror
      obtain rfl : reason = error := Except.error.inj herror
      exact hcorrupt _ (fun _ => Or.inl) hdirect
  | ok direct =>
      rw [bind_of_ok hdirect, bind_of_ok hgroups] at herror
      cases hshared : (database.store.roles (groups.flatMap (·.roleIds))).result with
      | error reason =>
          rw [hshared] at herror
          obtain rfl : reason = error := Except.error.inj herror
          exact hcorrupt _ (fun _ => Or.inr) hshared
      | ok viaGroups =>
          rw [bind_of_ok hshared] at herror
          contradiction

/-- A lenient resolution fails for no other reason. -/
theorem exists_hasCorruptTree_of_error (htextual : database.Textual)
    (herror : (resolveById ⟨database.store, false⟩ user).result = .error error) :
    ∃ role, database.Reaches user role ∧ database.HasCorruptTree role ∧
      error = .corruptTree role := by
  rw [resolveById, Outcome.result_bind] at herror
  by_cases hknown : ∃ row ∈ database.users, row.cell "id" = .text user.text
  · obtain ⟨actor, hactor⟩ := exists_result_actor htextual hknown
    rw [hactor] at herror
    cases hroles : (database.store.effectiveRoles actor).result with
    | error reason =>
        obtain rfl : reason = error :=
          Except.error.inj ((result_resolve_eq_error hroles).symm.trans herror)
        exact exists_hasCorruptTree_of_effectiveRoles htextual hactor hroles
    | ok roles =>
        have hresolve := (result_resolve_lenient hroles).symm.trans herror
        contradiction
  · rw [result_actor_of_none hknown] at herror
    contradiction

section Sound

variable (hsound : database.Sound) (hkeys : database.foreignKeys = true)
  (htextual : database.Textual)
include hsound hkeys htextual

/-- A corrupt tree of a role that is reached fails the resolution. -/
theorem exists_error_of_hasCorruptTree (hreaches : database.Reaches user role)
    (hcorrupt : database.HasCorruptTree role) (strict : Bool) :
    ∃ error, (resolveById ⟨database.store, strict⟩ user).result = .error error := by
  cases hresult : (resolveById ⟨database.store, strict⟩ user).result with
  | error error => exact ⟨error, rfl⟩
  | ok policy =>
      -- A policy needs a lookup that asks for the role, and that lookup reads the tree.
      obtain ⟨ids, roles, hid, hroles⟩ := exists_roles_of_reaches hresult
        (exists_user_of_reaches hsound hkeys hreaches) hreaches
      exact absurd hcorrupt (not_hasCorruptTree_of_result_roles htextual hsound hroles hid)

/-- A lenient resolution that succeeds makes its rules of all that is reached. -/
theorem exists_roles_of_policy
    (hpolicy : (resolveById ⟨database.store, false⟩ user).result = .ok policy) :
    ∃ roles : List Role, (∀ id, (∃ role ∈ roles, role.id = id) ↔ database.Reaches user id) ∧
      (∀ role ∈ roles, ∃ row ∈ database.roles, ShowsRole database row role) ∧
      policy.rules = (Statement.merge ((leavesOf roles).filterMap
        fun leaf => leaf.1.statement? leaf.2)).value.flatMap Statement.rules := by
  by_cases hknown : ∃ row ∈ database.users, row.cell "id" = .text user.text
  · obtain ⟨actor, roles, hactor, hroles, hresolve⟩ :=
      exists_effectiveRoles_of_resolveById hpolicy hknown
    rw [result_resolve_lenient hroles] at hresolve
    refine ⟨roles, fun id => ?_, fun role hrole => ?_, ?_⟩
    · rw [exists_mem_effectiveRoles_iff hactor hroles]
      exact and_iff_left_of_imp (exists_role_of_reaches hsound hkeys htextual)
    · obtain ⟨direct, groups, viaGroups, hdirect, _, hviaGroups, rfl⟩ :=
        result_effectiveRoles_eq_ok hroles
      -- An effective role comes from one of the two lookups, as its row shows it.
      rcases List.mem_append.mp (mem_of_mem_distinctFrom hrole) with hown | hshared
      · exact exists_showsRole_of_result_roles htextual hdirect hown
      · exact exists_showsRole_of_result_roles htextual hviaGroups hshared
    · rw [← Except.ok.inj hresolve]
      rfl
  · -- Without a record there are no links, so nothing is reached.
    rw [resolveById, Outcome.result_bind, result_actor_of_none hknown] at hpolicy
    refine ⟨[], fun id => ?_, List.forall_mem_nil _, ?_⟩
    · have hnone : ¬ ∃ role ∈ ([] : List Role), role.id = id := by simp
      refine iff_of_false hnone fun hreaches => ?_
      exact hknown (exists_user_of_reaches hsound hkeys hreaches)
    · rw [← Except.ok.inj hpolicy]
      rfl

/-- **A lenient resolution takes every tree that the user reaches, or fails.**  It fails exactly
when one of them is neither blank nor JSON, and then names a role that has such a tree.  Else
the rules are made of all leaves of all roles that are reached.  The trees of other roles make
no difference. -/
theorem resolveById_all_or_nothing (user : Uuid) :
    ((∃ error, (resolveById ⟨database.store, false⟩ user).result = .error error) ↔
        ∃ role, database.Reaches user role ∧ database.HasCorruptTree role) ∧
      (∀ error, (resolveById ⟨database.store, false⟩ user).result = .error error →
        ∃ role, database.Reaches user role ∧ database.HasCorruptTree role ∧
          error = .corruptTree role) ∧
      (∀ policy, (resolveById ⟨database.store, false⟩ user).result = .ok policy →
        ∃ roles : List Role, (∀ id, (∃ role ∈ roles, role.id = id) ↔ database.Reaches user id) ∧
          (∀ role ∈ roles, ∃ row ∈ database.roles, ShowsRole database row role) ∧
          policy.rules = (Statement.merge ((leavesOf roles).filterMap
            fun leaf => leaf.1.statement? leaf.2)).value.flatMap Statement.rules) ∧
      ∀ other, SameReachedTrees user database other →
        (resolveById ⟨other.store, false⟩ user).result =
          (resolveById ⟨database.store, false⟩ user).result := by
  refine ⟨⟨?_, ?_⟩, fun error => exists_hasCorruptTree_of_error htextual,
    fun policy => exists_roles_of_policy hsound hkeys htextual,
    fun other hsame => result_resolveById_of_sameReachedTrees hsame false⟩
  · rintro ⟨error, herror⟩
    obtain ⟨role, hreaches, hcorrupt, _⟩ := exists_hasCorruptTree_of_error htextual herror
    exact ⟨role, hreaches, hcorrupt⟩
  · rintro ⟨role, hreaches, hcorrupt⟩
    exact exists_error_of_hasCorruptTree hsound hkeys htextual hreaches hcorrupt false

end Sound

end Authorizer

/-! ### A corrupt tree in a group -/

namespace Sample

open Database

/-- The identifier of another role. -/
def spareId : Uuid := uuid ⟨7, by decide⟩

/-- A text that is not JSON. -/
def brokenTree : String := "\x7b\"taskAccess\""

/-- The rows of an actor who has a role and is in a group with another one, of which the tree is
broken off. -/
def brokenRows : List (Table × Cells) := [
  (.users, [("id", .text actor.id.text), ("email", .text actor.email),
    ("domain", .text actor.domain), ("department", .text actor.department)]),
  (.roles, [("id", .text lead.id.text), ("domain", .text lead.domain),
    ("department", .text lead.department), ("role_name", .text lead.roleName),
    ("permission_tree", .text leadTree)]),
  (.roles, [("id", .text spareId.text), ("domain", .text lead.domain),
    ("department", .text lead.department), ("role_name", .text "spare"),
    ("permission_tree", .text brokenTree)]),
  (.userGroups, [("id", .text leadsId.text)]),
  (.userRoles, [("user_id", .text actor.id.text), ("role_id", .text lead.id.text)]),
  (.groupRoles, [("group_id", .text leadsId.text), ("role_id", .text spareId.text)]),
  (.groupMembers, [("group_id", .text leadsId.text), ("user_id", .text actor.id.text)])]

/-- The database of these rows. -/
def brokenDatabase : Database := (ofRows true brokenRows).toOption.getD (.empty true)

theorem sound_brokenDatabase : brokenDatabase.Sound := by
  have hrows : ofRows true brokenRows = .ok brokenDatabase := rfl
  exact (Built.of_ofRows hrows).sound

theorem textual_brokenDatabase : brokenDatabase.Textual :=
  textual_of_rows (by decide +kernel) (by decide +kernel)

theorem reaches_spareId : brokenDatabase.Reaches actor.id spareId := by
  have hmember : ∃ row ∈ brokenDatabase.groupMembers, row.cell "user_id" = .text actor.id.text ∧
      row.cell "group_id" = .text leadsId.text := by
    decide +kernel
  have hshare : ∃ row ∈ brokenDatabase.groupRoles, row.cell "group_id" = .text leadsId.text ∧
      row.cell "role_id" = .text spareId.text := by
    decide +kernel
  obtain ⟨member, hmember, huser, hgroup⟩ := hmember
  obtain ⟨share, hshare, hholder, hrole⟩ := hshare
  exact .viaGroup leadsId ⟨member, hmember, huser, readId_of_cell hgroup⟩ (by decide +kernel)
    ⟨share, hshare, hholder, readId_of_cell hrole⟩

theorem hasCorruptTree_brokenDatabase_iff {role : Uuid} :
    brokenDatabase.HasCorruptTree role ↔ role = spareId := by
  have hrows : ∀ row ∈ brokenDatabase.roles, row.cell "permission_tree" = .text leadTree ∨
      row.cell "id" = .text spareId.text := by
    decide +kernel
  have hspare : ∃ row ∈ brokenDatabase.roles, row.cell "id" = .text spareId.text ∧
      row.cell "permission_tree" = .text brokenTree := by
    decide +kernel
  constructor
  · rintro ⟨row, hrow, hcell, text, htext, _, hnone⟩
    rcases hrows row hrow with htree | hid
    · rw [cell_text_inj htext htree] at hnone
      exact absurd (parse?_leadTree.symm.trans hnone) (Option.some_ne_none _)
    · exact Uuid.text_inj.mp (cell_text_inj hcell hid)
  · rintro rfl
    obtain ⟨row, hrow, hid, htree⟩ := hspare
    exact ⟨row, hrow, hid, brokenTree, htree, by decide +kernel, by decide +kernel⟩

end Sample

/-- The actor gets no policy, not even by the role whose tree can be read. -/
theorem broken_tree_of_group_fails_all :
    (Sample.brokenDatabase.Sound ∧ Sample.brokenDatabase.foreignKeys = true ∧
      Sample.brokenDatabase.Textual) ∧
    (Authorizer.resolveById ⟨Sample.brokenDatabase.store, false⟩ Sample.actor.id).result =
      .error (.corruptTree Sample.spareId) := by
  refine ⟨⟨Sample.sound_brokenDatabase, rfl, Sample.textual_brokenDatabase⟩, ?_⟩
  obtain ⟨hfails, hnames, _⟩ := Authorizer.resolveById_all_or_nothing
    Sample.sound_brokenDatabase rfl Sample.textual_brokenDatabase Sample.actor.id
  obtain ⟨error, herror⟩ := hfails.mpr
    ⟨Sample.spareId, Sample.reaches_spareId, Sample.hasCorruptTree_brokenDatabase_iff.mpr rfl⟩
  obtain ⟨role, _, hcorrupt, rfl⟩ := hnames error herror
  rw [herror, Sample.hasCorruptTree_brokenDatabase_iff.mp hcorrupt]

end Entitlement
