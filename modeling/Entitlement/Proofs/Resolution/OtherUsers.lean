import Entitlement.Proofs.Resolution.Lookups
import Entitlement.Proofs.Resolution.Mirror
import Entitlement.Proofs.Store.Extension

/-!
# Records of other users

What a user may do does not depend on who else has the user's roles or is in the user's groups:
with the rows of other users a database looks alike to the user (`AddsOthers.seesAlike`).

There is one exception.  A role is found together with the users who have it, a group with its
members, and these are read as identifiers.  So another user whose identifier is none and who
shares a role or a group with the user makes the lookup fail, and the resolution with it
(`Authorizer.resolveById_unless_disturbed`).

The two directions are proved differently.

* **Nothing else changes a result.**  The lookups in both databases are compared step by step, with
  the failures to read new rows excused.  Roles and groups are looked up in one way, so
  `Lookup.related_result` says it once for both; the records that are found may differ in who
  shares them and in nothing else, which no later step looks at.
* **A row that disturbs does.**  A resolution that succeeds has found every role and every group
  that the user reaches, each with all its links read.  The row is one of them and cannot be read
  (`exists_error_of_disturbs`).
-/

namespace Entitlement

namespace Database

variable {database other : Database} {user : Uuid} {ids : List Uuid} {row : Row}
  {excused : Error → Prop} {α : Type}

/-! ## Lookups with the rows of others -/

/-- Records that correspond are found for the same identifiers. -/
theorem forall₂_filterMap_find? {related : α → α → Prop} {key : α → Uuid} {found others : List α}
    (hkey : ∀ first second, related first second → key second = key first)
    (hfound : List.Forall₂ related found others) (ids : List Uuid) :
    List.Forall₂ related (ids.filterMap fun id => found.find? (key · == id))
      (ids.filterMap fun id => others.find? (key · == id)) := by
  -- For one identifier the first record with it is at the same place in both lists.
  have hsame : ∀ id, Option.Rel related (found.find? (key · == id))
      (others.find? (key · == id)) := by
    intro id
    induction hfound with
    | nil => exact .none
    | cons hfirst _ ih =>
        rw [List.find?_cons, List.find?_cons, hkey _ _ hfirst]
        split
        · exact .some hfirst
        · exact ih
  induction ids with
  | nil => exact .nil
  | cons id rest ih =>
      have hid := hsame id
      rw [List.filterMap_cons, List.filterMap_cons]
      generalize found.find? (key · == id) = first at hid ⊢
      generalize others.find? (key · == id) = second at hid ⊢
      cases hid with
      | none => exact ih
      | some hfirst => exact .cons hfirst ih

theorem related_readRole (users others groups : List (Uuid × Uuid)) (row : Row) :
    Related excused Role.SameGrants (readRole users groups row) (readRole others groups row) := by
  refine .bind_same _ fun id => ?_
  refine .bind_same _ fun domain => ?_
  refine .bind_same _ fun department => ?_
  refine .bind_same _ fun roleName => ?_
  refine .bind_same _ fun text => ?_
  refine .bind_same _ fun tree => ?_
  -- All columns are the same; only the users with whom the role comes may differ.
  exact .ok ⟨_, _, rfl⟩

theorem related_readGroup (roles members others : List (Uuid × Uuid)) (row : Row) :
    Related excused Group.SameRoles (readGroup roles members row) (readGroup roles others row) :=
  .bind_same _ fun _ => .ok ⟨_, rfl⟩

/-- Lookups of the same rows correspond where their links do, each kind in its own way, and
records are read alike from links that correspond. -/
theorem Lookup.related_result {lookup others : Lookup α} {related : α → α → Prop}
    {firstAlike secondAlike : List (Uuid × Uuid) → List (Uuid × Uuid) → Prop}
    (hrows : others.rows = lookup.rows) (hkey : others.key = lookup.key)
    (hfirst : Related excused firstAlike
      (links lookup.first lookup.column lookup.firstOther (distinct ids))
      (links others.first others.column others.firstOther (distinct ids)))
    (hsecond : Related excused secondAlike
      (links lookup.second lookup.column lookup.secondOther (distinct ids))
      (links others.second others.column others.secondOther (distinct ids)))
    (hread : ∀ first first' second second' row, firstAlike first first' →
      secondAlike second second' →
        Related excused related (lookup.read first second row) (others.read first' second' row))
    (hid : ∀ record other, related record other → lookup.key other = lookup.key record) :
    Related excused (List.Forall₂ related) (lookup.result ids) (others.result ids) := by
  -- The two kinds of links are fetched first, then every row is read with both of them.
  have hfind : Related excused (List.Forall₂ related) (lookup.find (distinct ids))
      (others.find (distinct ids)) := by
    rw [find, find, hrows]
    refine hfirst.bind fun first first' _ _ hfirst => ?_
    refine hsecond.bind fun second second' _ _ hsecond => ?_
    exact .mapM fun row _ => hread first first' second second' row hfirst hsecond
  refine hfind.map fun found others' hfound => ?_
  rw [deliver, deliver, hkey]
  exact forall₂_filterMap_find? hid hfound _

section AddsOthers

variable (hadds : AddsOthers user database other) (hsound : database.Sound) (hother : other.Sound)
include hadds hsound hother

theorem AddsOthers.related_roles
    (hexcused : ∀ row, Comes database other .userRoles row → ∀ id ∈ ids,
      row.cell "role_id" = .text id.text → ∀ error, readId row "user_id" = .error error →
        excused error) :
    Related excused (List.Forall₂ Role.SameGrants) (database.store.roles ids).result
      (other.store.roles ids).result := by
  -- No row of a group and its roles comes in, so these links are the very same.
  have hgroups : Related excused Eq
      (links database.groupRoles "role_id" "group_id" (distinct ids))
      (links other.groupRoles "role_id" "group_id" (distinct ids)) := by
    rw [show other.groupRoles = database.groupRoles from
      hadds.rows_eq hsound hother .groupRoles rfl]
    exact .refl (fun _ => rfl) _
  -- The users with a role do change, and they are the ones whose identifiers can fail.
  have husers : Related excused (fun _ _ => True)
      (links database.userRoles "role_id" "user_id" (distinct ids))
      (links other.userRoles "role_id" "user_id" (distinct ids)) :=
    hadds.related_links hsound hother .userRoles fun row hcomes id hid =>
      hexcused row hcomes id (mem_distinct_iff.mp hid)
  rw [result_roles, result_roles]
  refine Lookup.related_result (hadds.rows_eq hsound hother .roles rfl) rfl husers hgroups ?_ ?_
  · rintro users others groups _ row - rfl
    exact related_readRole users others groups row
  · exact fun _ _ hsame => hsame.id_eq

theorem AddsOthers.related_groups
    (hexcused : ∀ row, Comes database other .groupMembers row → ∀ id ∈ ids,
      row.cell "group_id" = .text id.text → ∀ error, readId row "user_id" = .error error →
        excused error) :
    Related excused (List.Forall₂ Group.SameRoles) (database.store.groups ids).result
      (other.store.groups ids).result := by
  have hroles : Related excused Eq
      (links database.groupRoles "group_id" "role_id" (distinct ids))
      (links other.groupRoles "group_id" "role_id" (distinct ids)) := by
    rw [show other.groupRoles = database.groupRoles from
      hadds.rows_eq hsound hother .groupRoles rfl]
    exact .refl (fun _ => rfl) _
  -- Here it is the members that change.
  have hmembers : Related excused (fun _ _ => True)
      (links database.groupMembers "group_id" "user_id" (distinct ids))
      (links other.groupMembers "group_id" "user_id" (distinct ids)) :=
    hadds.related_links hsound hother .groupMembers fun row hcomes id hid =>
      hexcused row hcomes id (mem_distinct_iff.mp hid)
  rw [result_groups, result_groups]
  refine Lookup.related_result (hadds.rows_eq hsound hother .userGroups rfl) rfl hroles hmembers
    ?_ ?_
  · rintro roles _ members others row rfl -
    exact related_readGroup roles members others row
  · exact fun _ _ hsame => hsame.id_eq

/-- **With the rows of other users a database looks alike**, but for failures to read them. -/
theorem AddsOthers.seesAlike
    (hknown : ∃ held ∈ database.users, held.cell "id" = .text user.text) :
    SeesAlike (fun error => ∃ row, Disturbs user database other row error) user database other where
  actor := hadds.result_actor_eq hsound hother
  roles _ hreached := hadds.related_roles hsound hother fun row hcomes id hid hcell _ hread =>
    ⟨row, hknown, .role id hcomes (hreached id hid) hcell, hread⟩
  groups _ hmember := hadds.related_groups hsound hother fun row hcomes id hid hcell _ hread =>
    ⟨row, hknown, .group id hcomes (hmember id hid) hcell, hread⟩

end AddsOthers

end Database

/-! ## What is resolved -/

namespace Authorizer

open Database

variable {database other : Database} {user : Uuid}

/-- A resolution does not succeed with a row that disturbs the user. -/
theorem exists_error_of_disturbs (hadds : AddsOthers user database other) {row : Row}
    {error : Error} (hdisturbs : Disturbs user database other row error) (strict : Bool) :
    ∃ error, (resolveById ⟨other.store, strict⟩ user).result = .error error := by
  cases hresult : (resolveById ⟨other.store, strict⟩ user).result with
  | error reason => exact ⟨reason, rfl⟩
  | ok policy =>
      -- Whoever gets a policy has been shown all roles and groups, with all who share them.
      exfalso
      have hknown : ∃ held ∈ other.users, held.cell "id" = .text user.text := by
        obtain ⟨held, hheld, hcell⟩ := hdisturbs.known
        exact ⟨held, hadds.kept .users held hheld, hcell⟩
      obtain ⟨linked, hlinked⟩ : ∃ linked, readId row "user_id" = .ok linked := by
        cases hdisturbs.shares with
        | role role hcomes hreaches hcell =>
            obtain ⟨ids, roles, hid, hroles⟩ :=
              exists_roles_of_reaches hresult hknown (hadds.reaches hreaches)
            rw [result_roles] at hroles
            obtain ⟨users, _, _, husers, _⟩ := Lookup.exists_of_result hroles
            exact exists_readId_of_links husers (mem_distinct_iff.mpr hid) hcomes.1 hcell
        | group group hcomes hmember hcell =>
            obtain ⟨ids, groups, hid, hgroups⟩ :=
              exists_groups_of_leads hresult hknown (hadds.leads .groupMembers hmember)
            rw [result_groups] at hgroups
            obtain ⟨_, members, _, _, hmembers, _⟩ := Lookup.exists_of_result hgroups
            exact exists_readId_of_links hmembers (mem_distinct_iff.mpr hid) hcomes.1 hcell
      rw [hdisturbs.unreadable] at hlinked
      contradiction

/-- Records of other users leave a result as it is, or it is the failure to read one of them. -/
theorem result_resolveById_of_addsOthers (hsound : database.Sound) (hother : other.Sound)
    (hadds : AddsOthers user database other) (strict : Bool) :
    (resolveById ⟨other.store, strict⟩ user).result =
        (resolveById ⟨database.store, strict⟩ user).result ∨
      ∃ error, (∃ row, Disturbs user database other row error) ∧
        (resolveById ⟨other.store, strict⟩ user).result = .error error := by
  by_cases hknown : ∃ held ∈ database.users, held.cell "id" = .text user.text
  · exact result_resolveById_of_seesAlike (hadds.seesAlike hsound hother hknown) strict
  · -- Without a record there are no further lookups.
    left
    rw [resolveById, resolveById, Outcome.result_bind, Outcome.result_bind,
      hadds.result_actor_eq hsound hother, result_actor_of_none hknown]

/-- **Records of other users do not change what a user may do.**  The result is the same, be it
a policy or a failure, unless someone whose identifier cannot be read shares a role or a group
with the user.  Then there is no policy: the resolution fails as before, or because of that
identifier. -/
theorem resolveById_unless_disturbed (hsound : database.Sound) (hother : other.Sound)
    (hadds : AddsOthers user database other) (strict : Bool) :
    ((¬ ∃ row error, Disturbs user database other row error) →
        (resolveById ⟨other.store, strict⟩ user).result =
          (resolveById ⟨database.store, strict⟩ user).result) ∧
      ((∃ row error, Disturbs user database other row error) →
        ∃ error, (resolveById ⟨other.store, strict⟩ user).result = .error error ∧
          ((resolveById ⟨database.store, strict⟩ user).result = .error error ∨
            ∃ row, Disturbs user database other row error)) := by
  have hresult := result_resolveById_of_addsOthers hsound hother hadds strict
  constructor
  · intro hquiet
    refine hresult.resolve_right ?_
    rintro ⟨error, ⟨row, hdisturbs⟩, _⟩
    exact hquiet ⟨row, error, hdisturbs⟩
  · rintro ⟨row, _, hdisturbs⟩
    obtain ⟨error, herror⟩ := exists_error_of_disturbs hadds hdisturbs strict
    refine ⟨error, herror, ?_⟩
    -- The failure is an old one, or it is excused and so one by a row that disturbs.
    rcases hresult with hsame | ⟨reason, hreason, hfails⟩
    · exact Or.inl (hsame.symm.trans herror)
    · obtain rfl : reason = error := Except.error.inj (hfails.symm.trans herror)
      exact Or.inr hreason

end Authorizer

/-! ## Someone who shares a role -/

namespace Sample

open Database

/-- What is said of someone with a given identifier who gets the role of the actor. -/
def newcomer (name : String) : List (Table × Cells) := [
  (.users, [("id", .text name), ("email", .text "b@acme.test"), ("domain", .text "acme"),
    ("department", .text "legal")]),
  (.userRoles, [("user_id", .text name), ("role_id", .text lead.id.text)])]

/-- The row of this user. -/
def newUser (name : String) : Row :=
  ⟨2, [("id", .text name), ("email", .text "b@acme.test"), ("domain", .text "acme"),
    ("department", .text "legal"), ("created_at", .generated)]⟩

/-- The row that gives the role to this user. -/
def newLink (name : String) : Row :=
  ⟨2, [("user_id", .text name), ("role_id", .text lead.id.text)]⟩

/-- The rows that come in with this user. -/
def newRows (name : String) : Table → List Row
  | .users => [newUser name]
  | .userRoles => [newLink name]
  | _ => []

/-- The shared database with these rows. -/
def joinedDatabase (name : String) : Database :=
  { sharedDatabase with
    users := sharedDatabase.users ++ [newUser name]
    userRoles := sharedDatabase.userRoles ++ [newLink name] }

/-- The identifier of a colleague, as it is written. -/
def colleagueName : String := (uuid ⟨6, by decide⟩).text

/-- An identifier that cannot be read. -/
def strangerName : String := "nope"

theorem sound_joinedDatabase {name : String}
    (hname : name = colleagueName ∨ name = strangerName) : (joinedDatabase name).Sound := by
  have hrows : ofRows true (sharedRows ++ newcomer name) = .ok (joinedDatabase name) := by
    rcases hname with rfl | rfl <;> rfl
  exact (Built.of_ofRows hrows).sound

theorem rows_joinedDatabase (name : String) (table : Table) :
    (joinedDatabase name).rows table = sharedDatabase.rows table ++ newRows name table := by
  cases table with
  | users => rfl
  | userRoles => rfl
  | roles => exact (List.append_nil _).symm
  | userGroups => exact (List.append_nil _).symm
  | groupRoles => exact (List.append_nil _).symm
  | groupMembers => exact (List.append_nil _).symm

/-- Whatever the shared database says of single users it says of the actor. -/
theorem cell_of_mem_sharedDatabase {table : Table} {column : String} {row : Row}
    (hcolumn : table.ownerColumn? = some column) (hrow : row ∈ sharedDatabase.rows table) :
    row.cell column = .text actor.id.text := by
  have howner : ∀ table ∈ Table.all, ∀ row ∈ sharedDatabase.rows table,
      ∀ column ∈ table.ownerColumn?, row.cell column = .text actor.id.text := by
    decide +kernel
  exact howner table (by cases table <;> decide) row hrow column hcolumn

section Newcomer

variable {name : String} {table : Table} {row : Row}

theorem cell_of_mem_newRows (hrow : row ∈ newRows name table) :
    ∃ column, table.ownerColumn? = some column ∧ row.cell column = .text name := by
  cases table with
  | users =>
      obtain rfl := List.mem_singleton.mp hrow
      exact ⟨_, rfl, rfl⟩
  | userRoles =>
      obtain rfl := List.mem_singleton.mp hrow
      exact ⟨_, rfl, rfl⟩
  | roles => contradiction
  | userGroups => contradiction
  | groupRoles => contradiction
  | groupMembers => contradiction

theorem comes_of_mem_newRows (hname : name ≠ actor.id.text) (hrow : row ∈ newRows name table) :
    Comes sharedDatabase (joinedDatabase name) table row := by
  refine ⟨?_, fun hold => ?_⟩
  · rw [rows_joinedDatabase]
    exact List.mem_append_right _ hrow
  · obtain ⟨column, hcolumn, hcell⟩ := cell_of_mem_newRows hrow
    exact hname (cell_text_inj hcell (cell_of_mem_sharedDatabase hcolumn hold))

theorem addsUsers_joinedDatabase (hname : name ≠ actor.id.text) :
    AddsUsers actor.id sharedDatabase (joinedDatabase name) where
  toAddsOthers := by
    refine .of_append (rows_joinedDatabase name) fun table row hrow => ?_
    obtain ⟨column, hcolumn, hcell⟩ := cell_of_mem_newRows hrow
    refine ⟨column, hcolumn, fun hsame => hname (cell_text_inj hcell hsame)⟩
  newcomers table row htable hcomes := by
    have huser : newUser name ∈ newRows name .users := List.mem_singleton_self _
    refine ⟨newUser name, comes_of_mem_newRows hname huser, ?_⟩
    obtain ⟨hrow, hnot⟩ := hcomes
    rw [rows_joinedDatabase] at hrow
    obtain ⟨column, hcolumn, hcell⟩ :=
      cell_of_mem_newRows ((List.mem_append.mp hrow).resolve_left hnot)
    obtain rfl : "user_id" = column := by
      cases table <;> first | contradiction | exact Option.some.inj hcolumn
    exact hcell

end Newcomer

/-- The link of someone whose identifier cannot be read disturbs the actor. -/
theorem disturbs_stranger : Disturbs actor.id sharedDatabase (joinedDatabase strangerName)
    (newLink strangerName) (.invalidId strangerName) where
  known := by decide +kernel
  shares := by
    have hlink : ∃ row ∈ sharedDatabase.userRoles, row.cell "user_id" = .text actor.id.text ∧
        row.cell "role_id" = .text lead.id.text := by
      decide +kernel
    obtain ⟨row, hrow, huser, hrole⟩ := hlink
    have hcomes : Comes sharedDatabase (joinedDatabase strangerName) .userRoles
        (newLink strangerName) :=
      comes_of_mem_newRows (by decide +kernel) (List.mem_singleton_self _)
    exact .role lead.id hcomes (.direct ⟨row, hrow, huser, readId_of_cell hrole⟩) rfl
  unreadable := rfl

theorem resolves_sharedDatabase :
    ∃ policy, (Authorizer.resolveById ⟨sharedDatabase.store, true⟩ actor.id).result = .ok policy ∧
      (policy.can (ownTask .manage)).value = true := by
  have hactor : (sharedDatabase.store.actor actor.id).result = .ok (some sharedActor) :=
    result_actor_of_mirrors legible_sharedDatabase mirrors_sharedDatabase actor.id
  have hroles := result_effectiveRoles_of_mirrors legible_sharedDatabase mirrors_sharedDatabase
    sharedActor
  obtain ⟨policy, hpolicy, hcan⟩ := Authorizer.permits_eq_true_iff.mp
    (show Authorizer.permits ⟨sharedDirectory.store, true⟩ sharedActor (ownTask .manage) = true by
      decide +kernel)
  refine ⟨policy, ?_, hcan⟩
  have hresolve : (Authorizer.resolve ⟨sharedDatabase.store, true⟩ sharedActor).result =
      (Authorizer.resolve ⟨sharedDirectory.store, true⟩ sharedActor).result :=
    Authorizer.result_resolve_congr rfl hroles
  rw [Authorizer.resolveById, Outcome.result_bind, hactor]
  exact hresolve.trans hpolicy

end Sample

open Sample

/-- With a colleague who has the same role the actor gets the same policy, and manages tasks as
before. -/
theorem colleague_leaves_policy_as_it_is :
    (sharedDatabase.Sound ∧ (joinedDatabase colleagueName).Sound ∧
      Database.AddsOthers actor.id sharedDatabase (joinedDatabase colleagueName)) ∧
    ∃ policy, (Authorizer.resolveById ⟨sharedDatabase.store, true⟩ actor.id).result = .ok policy ∧
      (Authorizer.resolveById ⟨(joinedDatabase colleagueName).store, true⟩ actor.id).result =
        .ok policy ∧
      (policy.can (ownTask .manage)).value = true := by
  have hsound := sound_joinedDatabase (Or.inl rfl)
  have hadds : Database.AddsUsers actor.id sharedDatabase (joinedDatabase colleagueName) :=
    addsUsers_joinedDatabase (by decide +kernel)
  refine ⟨⟨sound_sharedDatabase, hsound, hadds.toAddsOthers⟩, ?_⟩
  obtain ⟨policy, hpolicy, hcan⟩ := resolves_sharedDatabase
  obtain ⟨hsame, _⟩ :=
    Authorizer.resolveById_unless_disturbed sound_sharedDatabase hsound hadds.toAddsOthers true
  refine ⟨policy, hpolicy, (hsame ?_).trans hpolicy, hcan⟩
  rintro ⟨row, error, hdisturbs⟩
  have hread : ∀ row ∈ (joinedDatabase colleagueName).userRoles ++
      (joinedDatabase colleagueName).groupMembers, ∃ digit,
        row.cell "user_id" = .text (uuid digit).text := by
    decide +kernel
  obtain ⟨digit, hcell⟩ : ∃ digit, row.cell "user_id" = .text (uuid digit).text := by
    cases hdisturbs.shares with
    | role _ hcomes => exact hread row (List.mem_append_left _ hcomes.1)
    | group _ hcomes => exact hread row (List.mem_append_right _ hcomes.1)
  exact absurd ((Database.readId_of_cell hcell).symm.trans hdisturbs.unreadable) nofun

/-- Someone whose identifier cannot be read, and who gets the role of the actor, takes the
actor's policy away. -/
theorem not_forall_resolveById_of_addsUsers :
    ¬ ∀ (database other : Database) (user : Uuid) (strict : Bool),
      database.Sound → other.Sound → Database.AddsUsers user database other →
      (Authorizer.resolveById ⟨other.store, strict⟩ user).result =
        (Authorizer.resolveById ⟨database.store, strict⟩ user).result := by
  intro hundisturbed
  have hadds : Database.AddsUsers actor.id sharedDatabase (joinedDatabase strangerName) :=
    addsUsers_joinedDatabase (by decide +kernel)
  have hsame := hundisturbed _ _ _ true sound_sharedDatabase (sound_joinedDatabase (Or.inr rfl))
    hadds
  obtain ⟨policy, hpolicy, _⟩ := resolves_sharedDatabase
  obtain ⟨error, herror⟩ :=
    Authorizer.exists_error_of_disturbs hadds.toAddsOthers disturbs_stranger true
  rw [herror, hpolicy] at hsame
  cases hsame

end Entitlement
