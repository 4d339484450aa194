import Entitlement.Proofs.Database.Sound
import Entitlement.Proofs.Record.Normal
import Entitlement.Proofs.Store.Mirror

/-!
# Resolving from a database and from a directory

A database delivers each record of a request once, a directory as often as it is asked for.
The requests differ as well: the groups that come twice from a directory bring their roles
twice.  None of this reaches the effective roles, of which only the first occurrences are
kept, and these stand in the same order (`Authorizer.result_effectiveRoles_of_mirrors`).  What
is resolved depends on a store through the actor's record and the effective roles alone, so it
is the same for a database and for a directory that holds its records.

Two facts about requests make this precise.  Identifiers may be asked for once each, since what
is found for a later occurrence is dropped anyway (`distinctRoles_filterMap`).  And identifiers
that are replaced by lists of others, as groups are by their roles, may be replaced once each
(`distinct_append_flatMap_distinct`).

That a directory exists at all which holds the records of a database is the part that needs the
database to be legible: a row that cannot be read shows no record.  Errors of the kind that
`Legible` excludes are the subject of another module.
-/

namespace Entitlement

open Database

/-! ## Requests without repetitions -/

theorem distinct_append_distinct (ids others : List Uuid) :
    distinct (distinct ids ++ distinct others) = distinct (ids ++ others) := by
  have hnothing : ∀ (seen : List Uuid), ∀ key ∈ ([] : List Uuid), key ∈ seen := fun _ => nofun
  have hseen : ∀ key, key ∈ (distinct ids).map id ++ [] ↔ key ∈ ids.map id ++ [] := by
    intro key
    rw [List.map_id, List.map_id, List.append_nil, List.append_nil]
    exact mem_distinct_iff
  show distinctFrom id [] (distinctFrom id [] ids ++ distinctFrom id [] others) =
    distinctFrom id [] (ids ++ others)
  rw [distinctFrom_append, distinctFrom_append, distinctFrom_distinctFrom (hnothing _),
    distinctFrom_distinctFrom (hnothing _)]
  exact congrArg _ (distinctFrom_congr hseen others)

theorem distinct_append_flatMap_distinct (ids keys : List Uuid) (replace : Uuid → List Uuid) :
    distinct (ids ++ (distinct keys).flatMap replace) = distinct (ids ++ keys.flatMap replace) := by
  show distinctFrom id [] (ids ++ (distinctFrom id [] keys).flatMap replace) =
    distinctFrom id [] (ids ++ keys.flatMap replace)
  rw [distinctFrom_append, distinctFrom_append, distinctFrom_flatMap nofun]

namespace Directory

variable {directory : Directory}

theorem distinctRoles_filterMap (directory : Directory) (ids : List Uuid) :
    distinctRoles (ids.filterMap directory.role?) = (distinct ids).filterMap directory.role? :=
  distinctFrom_filterMap (fun _ _ hrole => id_of_role? hrole) (fun _ _ _ => Iff.rfl) ids

theorem flatMap_roleIds_filterMap (directory : Directory) (ids : List Uuid) :
    (ids.filterMap directory.group?).flatMap (·.roleIds) =
      ids.flatMap fun id => ((directory.group? id).map (·.roleIds)).getD [] := by
  induction ids with
  | nil => rfl
  | cons id rest ih =>
      rw [List.filterMap_cons, List.flatMap_cons, ← ih]
      cases directory.group? id <;> rfl

end Directory

/-! ## Effective roles -/

section Mirrors

variable {database : Database} {directory : Directory} (hlegible : database.Legible)
  (hmirrors : directory.Mirrors database)
include hlegible hmirrors

theorem result_rolesOf_of_mirrors (ids : List Uuid) :
    (database.store.rolesOf ids).result = .ok ((distinct ids).filterMap directory.role?) := by
  cases ids with
  | nil => rfl
  | cons id rest => exact result_roles_of_mirrors hlegible hmirrors (id :: rest)

theorem result_groupsOf_of_mirrors (ids : List Uuid) :
    (database.store.groupsOf ids).result = .ok ((distinct ids).filterMap directory.group?) := by
  cases ids with
  | nil => rfl
  | cons id rest => exact result_groups_of_mirrors hlegible hmirrors (id :: rest)

/-- The effective roles of an actor are the same, and in the same order. -/
theorem result_effectiveRoles_of_mirrors (actor : Actor) :
    (database.store.effectiveRoles actor).result =
      (directory.store.effectiveRoles actor).result := by
  let replace (id : Uuid) : List Uuid := ((directory.group? id).map (·.roleIds)).getD []
  -- A directory finds the roles that are named, one by one and with all repetitions.
  have hdirectory : (directory.store.effectiveRoles actor).result =
      .ok ((distinct (actor.roleIds ++ actor.groupIds.flatMap replace)).filterMap
        directory.role?) := by
    rw [Directory.result_effectiveRoles, ← List.filterMap_append,
      Directory.distinctRoles_filterMap, Directory.roleIdsOfGroups,
      Directory.flatMap_roleIds_filterMap]
  rw [hdirectory]
  unfold Store.effectiveRoles
  split
  · rename_i hnone
    obtain ⟨hroles, hgroups⟩ : actor.roleIds = [] ∧ actor.groupIds = [] := by
      simpa using hnone
    rw [hroles, hgroups]
    rfl
  · -- Three lookups, each without repetitions; what is dropped early would be dropped at the end.
    rw [Outcome.result_bind, result_rolesOf_of_mirrors hlegible hmirrors]
    simp only
    rw [Outcome.result_bind, result_groupsOf_of_mirrors hlegible hmirrors]
    simp only
    rw [Outcome.result_bind, result_rolesOf_of_mirrors hlegible hmirrors]
    simp only
    rw [Outcome.result_liftM_bind, Outcome.result_pure, ← List.filterMap_append,
      Directory.distinctRoles_filterMap, distinct_append_distinct,
      Directory.flatMap_roleIds_filterMap, distinct_append_flatMap_distinct]

end Mirrors

/-! ## What is resolved -/

namespace Authorizer

variable {authorizer other : Authorizer} {actor : Actor}

/-- What is merged depends on a store through the effective roles only. -/
theorem result_mergedStatements_congr (hstrict : other.strict = authorizer.strict)
    (hroles : (other.store.effectiveRoles actor).result =
      (authorizer.store.effectiveRoles actor).result) :
    (other.mergedStatements actor).result = (authorizer.mergedStatements actor).result := by
  rw [mergedStatements, mergedStatements, Outcome.result_bind, Outcome.result_bind, hroles]
  cases (authorizer.store.effectiveRoles actor).result with
  | error error => rfl
  | ok roles =>
      simp only
      rw [Outcome.result_bind, Outcome.result_bind, result_statementsOf, result_statementsOf,
        hstrict]

theorem result_resolve_congr (hstrict : other.strict = authorizer.strict)
    (hroles : (other.store.effectiveRoles actor).result =
      (authorizer.store.effectiveRoles actor).result) :
    (other.resolve actor).result = (authorizer.resolve actor).result := by
  rw [resolve, resolve, Outcome.result_bind, Outcome.result_bind,
    result_mergedStatements_congr hstrict hroles]

theorem result_summarize_congr (hstrict : other.strict = authorizer.strict)
    (hroles : (other.store.effectiveRoles actor).result =
      (authorizer.store.effectiveRoles actor).result) :
    (other.summarize actor).result = (authorizer.summarize actor).result := by
  rw [summarize, summarize, Outcome.result_bind, Outcome.result_bind,
    result_mergedStatements_congr hstrict hroles]

/-- **A database and a directory that holds its records resolve alike.**  There is such a
directory for every sound and legible database, and whichever it is, policies and summaries
are the same for every identifier, and so are failures. -/
theorem database_resolves_like_directory {database : Database} (hsound : database.Sound)
    (hlegible : database.Legible) :
    (∃ directory : Directory, directory.Mirrors database) ∧
      ∀ directory : Directory, directory.Mirrors database → ∀ (strict : Bool) (id : Uuid),
        (resolveById ⟨database.store, strict⟩ id).result =
            (resolveById ⟨directory.store, strict⟩ id).result ∧
          (summarizeById ⟨database.store, strict⟩ id).result =
            (summarizeById ⟨directory.store, strict⟩ id).result := by
  refine ⟨exists_mirrors hsound hlegible, fun directory hmirrors strict id => ?_⟩
  -- A store is asked for the actor first and then, through the actor, for the roles.
  have hactor : (database.store.actor id).result = (directory.store.actor id).result :=
    result_actor_of_mirrors hlegible hmirrors id
  have hroles : ∀ actor, (database.store.effectiveRoles actor).result =
      (directory.store.effectiveRoles actor).result :=
    result_effectiveRoles_of_mirrors hlegible hmirrors
  constructor
  · rw [resolveById, resolveById, Outcome.result_bind, Outcome.result_bind, hactor]
    cases (directory.store.actor id).result with
    | error error => rfl
    | ok found =>
        cases found with
        | none => rfl
        | some actor => exact result_resolve_congr rfl (hroles actor)
  · rw [summarizeById, summarizeById, Outcome.result_bind, Outcome.result_bind, hactor]
    cases (directory.store.actor id).result with
    | error error => rfl
    | ok found =>
        cases found with
        | none => rfl
        | some actor => exact result_summarize_congr rfl (hroles actor)

end Authorizer

/-! ## A role that comes twice -/

namespace Sample

/-- The identifier of a group. -/
def leadsId : Uuid := uuid ⟨5, by decide⟩

/-- The grants of the lead, as they are written. -/
def leadTree : String := lead.tree.toJson.text

theorem parse?_leadTree : Json.parse? leadTree = some lead.tree.toJson :=
  numberFree_leadTree.parse?_text (by decide) ordered_leadTree

/-- The rows of an actor who has a role and is in a group that has the same role. -/
def sharedRows : List (Table × Cells) := [
  (.users, [("id", .text actor.id.text), ("email", .text actor.email),
    ("domain", .text actor.domain), ("department", .text actor.department)]),
  (.roles, [("id", .text lead.id.text), ("domain", .text lead.domain),
    ("department", .text lead.department), ("role_name", .text lead.roleName),
    ("permission_tree", .text leadTree)]),
  (.userGroups, [("id", .text leadsId.text)]),
  (.userRoles, [("user_id", .text actor.id.text), ("role_id", .text lead.id.text)]),
  (.groupRoles, [("group_id", .text leadsId.text), ("role_id", .text lead.id.text)]),
  (.groupMembers, [("group_id", .text leadsId.text), ("user_id", .text actor.id.text)])]

/-- The database of these rows. -/
def sharedDatabase : Database := (ofRows true sharedRows).toOption.getD (.empty true)

theorem sound_sharedDatabase : sharedDatabase.Sound := by
  have hrows : ofRows true sharedRows = .ok sharedDatabase := rfl
  exact (Built.of_ofRows hrows).sound

/-- Identifiers that are written like those of the samples, and texts that can be read. -/
theorem textual_of_rows {database : Database}
    (hids : ∀ table ∈ Table.all, ∀ row ∈ database.rows table, ∀ column ∈ table.key,
      ∃ digit, row.cell column = .text (uuid digit).text)
    (htexts : ∀ table ∈ Table.all, ∀ row ∈ database.rows table, ∀ column ∈ table.textColumns,
      (readText row column).toOption.isSome) : database.Textual where
  ids table row hrow column hcolumn := by
    obtain ⟨digit, hcell⟩ := hids table (by cases table <;> decide) row hrow column hcolumn
    exact ⟨uuid digit, hcell⟩
  texts table row hrow column hcolumn := by
    have hsome := htexts table (by cases table <;> decide) row hrow column hcolumn
    cases hvalue : readText row column with
    | ok text => exact ⟨text, readText_eq_ok_iff.mp hvalue⟩
    | error error =>
        rw [hvalue] at hsome
        contradiction

theorem textual_sharedDatabase : sharedDatabase.Textual :=
  textual_of_rows (by decide +kernel) (by decide +kernel)

theorem legible_sharedDatabase : sharedDatabase.Legible where
  ids := textual_sharedDatabase.ids
  texts := textual_sharedDatabase.texts
  trees row hrow text hcell := by
    have htree : ∀ row ∈ sharedDatabase.roles, row.cell "permission_tree" = .text leadTree := by
      decide +kernel
    obtain rfl : leadTree = text := Cell.text.inj ((htree row hrow).symm.trans hcell)
    exact Or.inr ⟨_, parse?_leadTree⟩

/-- The actor as the rows show it. -/
def sharedActor : Actor := { actor with groupIds := [leadsId] }

/-- The directory of the same records. -/
def sharedDirectory : Directory where
  roles := [{ lead with userIds := [actor.id], groupIds := [leadsId] }]
  groups := [⟨leadsId, [lead.id], [actor.id]⟩]
  actors := [sharedActor]

theorem mirrors_sharedDatabase : sharedDirectory.Mirrors sharedDatabase := by
  have htree : ShowsTree leadTree lead.tree :=
    Or.inr ⟨by decide +kernel, lead.tree.toJson, parse?_leadTree, rfl⟩
  exact mirrors_of_forall₂ sound_sharedDatabase
    (.cons ⟨rfl, rfl, rfl, rfl, ⟨leadTree, rfl, htree⟩, rfl, rfl⟩ .nil)
    (.cons ⟨rfl, rfl, rfl⟩ .nil)
    (.cons ⟨rfl, rfl, rfl, rfl, rfl, rfl⟩ .nil)

end Sample

/-- The actor has the right of the role that comes twice, from the database as from the
directory. -/
theorem shared_role_resolves_alike :
    ∃ policy, (Authorizer.resolveById ⟨Sample.sharedDatabase.store, true⟩
        Sample.actor.id).result = .ok policy ∧
      (Authorizer.resolveById ⟨Sample.sharedDirectory.store, true⟩
        Sample.actor.id).result = .ok policy ∧
      (policy.can (Sample.ownTask .manage)).value = true := by
  obtain ⟨_, hresolve⟩ := Authorizer.database_resolves_like_directory
    Sample.sound_sharedDatabase Sample.legible_sharedDatabase
  obtain ⟨halike, _⟩ := hresolve Sample.sharedDirectory Sample.mirrors_sharedDatabase true
    Sample.actor.id
  obtain ⟨policy, hpolicy, hcan⟩ := Authorizer.permits_eq_true_iff.mp
    (show Authorizer.permits ⟨Sample.sharedDirectory.store, true⟩ Sample.sharedActor
      (Sample.ownTask .manage) = true by decide +kernel)
  have hfound : (Authorizer.resolveById ⟨Sample.sharedDirectory.store, true⟩
      Sample.actor.id).result = .ok policy := hpolicy
  exact ⟨policy, halike.trans hfound, hfound, hcan⟩

end Entitlement
