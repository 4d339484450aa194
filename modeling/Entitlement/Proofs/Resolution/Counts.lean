import Entitlement.Proofs.Resolution.Strictness
import Entitlement.Proofs.Statement.FirstHighest
import Entitlement.Proofs.Tree.Grants
import Mathlib.Data.Set.Card

/-!
# What a summary counts

The numbers of a summary come from different places: roles are counted after the lookups, the
leaves of a role by recursion on its tree, and permissions after the walk, the reading of
leaves and the merge.  All of them are compared with the leaves of the effective roles.

* **Roles.**  Every role that the actor reaches is an effective role, and none of them is there
  twice (`Directory.encard_reachedRoles`).
* **Leaves.**  The count by recursion is the number of leaves that the walk reports
  (`length_leavesOf`).
* **Statements.**  There is at most one for a leaf, and there is one for each exactly when all
  leaves are levels (`length_statements_eq_iff`).
* **Permissions.**  Merging keeps one statement for each key (`Statement.length_merge`), hence all
  of them exactly when no two have the same (`Statement.length_merge_eq_iff`).

So permissions are as many as leaves exactly when neither step loses anything.  And since no
statement is without rules, a policy is without them only if nothing is permitted
(`Policy.rules_compile_eq_nil_iff`).
-/

namespace Entitlement

/-! ## Roles that are reached -/

namespace Directory

variable {directory : Directory} {actor : Actor} {roles : List Role} {id : Uuid}

/-- An actor reaches a role by its identifier: it names the role itself, or it names a group
that the directory holds and that names the role. -/
inductive Reaches (directory : Directory) (actor : Actor) (id : Uuid) : Prop where
  | direct (hnamed : id ∈ actor.roleIds)
  | viaGroup (groupId : Uuid) (group : Group) (hmember : groupId ∈ actor.groupIds)
      (hgroup : directory.group? groupId = some group) (hshared : id ∈ group.roleIds)

/-- The roles that a directory holds and that an actor reaches. -/
def reachedRoles (directory : Directory) (actor : Actor) : Set Role :=
  {role | directory.role? role.id = some role ∧ directory.Reaches actor role.id}

theorem reaches_iff_named : directory.Reaches actor id ↔
    id ∈ actor.roleIds ∨ id ∈ directory.roleIdsOfGroups actor := by
  unfold roleIdsOfGroups
  simp only [List.mem_flatMap, List.mem_filterMap]
  constructor
  · intro hreaches
    cases hreaches with
    | direct hnamed => exact Or.inl hnamed
    | viaGroup groupId group hmember hgroup hshared =>
        exact Or.inr ⟨group, ⟨groupId, hmember, hgroup⟩, hshared⟩
  · intro hnamed
    rcases hnamed with hnamed | ⟨group, ⟨groupId, hmember, hgroup⟩, hshared⟩
    · exact .direct hnamed
    · exact .viaGroup groupId group hmember hgroup hshared

theorem mem_effectiveRoles_iff_reached {role : Role}
    (hroles : (directory.store.effectiveRoles actor).result = .ok roles) :
    role ∈ roles ↔ role ∈ directory.reachedRoles actor := by
  rw [mem_effectiveRoles_iff hroles, ← reaches_iff_named]
  exact Iff.rfl

theorem nodup_effectiveRoles (hroles : (directory.store.effectiveRoles actor).result = .ok roles) :
    roles.Nodup := by
  rw [result_effectiveRoles] at hroles
  -- The roles are told apart by their identifiers, so they do not repeat either.
  rw [← Except.ok.inj hroles]
  exact List.Nodup.of_map Role.id (nodup_map_distinctFrom Role.id [] _)

/-- There are as many effective roles as roles that are reached. -/
theorem encard_reachedRoles (hroles : (directory.store.effectiveRoles actor).result = .ok roles) :
    (directory.reachedRoles actor).encard = roles.length := by
  classical
  have hreached : directory.reachedRoles actor = {role | role ∈ roles} := by
    ext role
    exact (mem_effectiveRoles_iff_reached hroles).symm
  calc (directory.reachedRoles actor).encard
      = (roles.toFinset : Set Role).encard := by rw [hreached, List.coe_toFinset]
    _ = roles.toFinset.card := Set.encard_coe_eq_coe_finsetCard _
    _ = roles.length := by rw [List.toFinset_card_of_nodup (nodup_effectiveRoles hroles)]

end Directory

/-! ## Leaves and statements -/

section Leaves

variable {roles : List Role}

theorem length_leavesOf (roles : List Role) :
    (leavesOf roles).length = (roles.map fun role => role.tree.leafCount).sum := by
  unfold leavesOf
  simp only [List.length_flatMap, List.length_map, Tree.length_flatten]

/-- The leaves of some roles make as many statements exactly when all of them are levels. -/
theorem length_statements_eq_iff :
    ((leavesOf roles).filterMap fun leaf => leaf.1.statement? leaf.2).length =
        (leavesOf roles).length ↔
      ∀ role ∈ roles, ∀ grant ∈ role.tree.flatten, grant.leaf.level? ≠ none := by
  rw [List.filterMap_length_eq_length]
  unfold leavesOf
  simp only [List.mem_flatMap, List.mem_map, Role.statement?, Option.isSome_map]
  constructor
  · intro hall role hrole grant hgrant
    exact Option.isSome_iff_ne_none.mp (hall (role, grant) ⟨role, hrole, grant, hgrant, rfl⟩)
  · rintro hall leaf ⟨role, hrole, grant, hgrant, rfl⟩
    exact Option.isSome_iff_ne_none.mpr (hall role hrole grant hgrant)

end Leaves

/-! ## Statements and permissions -/

namespace Statement

/-- There are as many merged statements as different keys. -/
theorem length_merge (statements : List Statement) :
    (merge statements).value.length = (statements.map Statement.key).toFinset.card := by
  have hsame : ((merge statements).value.map Statement.key).toFinset =
      (statements.map Statement.key).toFinset := by
    ext key
    rw [List.mem_toFinset, List.mem_toFinset, map_key_merge, List.mem_eraseDups]
  rw [← hsame, List.toFinset_card_of_nodup (nodup_map_key_merge statements), List.length_map]

theorem length_merge_le (statements : List Statement) :
    (merge statements).value.length ≤ statements.length := by
  calc (merge statements).value.length
      = (statements.map Statement.key).toFinset.card := length_merge statements
    _ ≤ (statements.map Statement.key).length := List.toFinset_card_le _
    _ = statements.length := List.length_map _

/-- Merging keeps all statements exactly when no two have the same key. -/
theorem length_merge_eq_iff {statements : List Statement} :
    (merge statements).value.length = statements.length ↔
      (statements.map Statement.key).Nodup := by
  rw [length_merge, ← List.length_map Statement.key]
  exact Multiset.toFinset_card_eq_card_iff_nodup

end Statement

/-! ## Summaries -/

namespace Authorizer

/-- A lenient summary is built from the effective roles and from their merged statements. -/
theorem result_summarize_lenient {store : Store} {actor : Actor} {roles : List Role}
    (hroles : (store.effectiveRoles actor).result = .ok roles) :
    (summarize ⟨store, false⟩ actor).result =
      .ok (.build roles (Statement.merge ((leavesOf roles).filterMap
        fun leaf => leaf.1.statement? leaf.2)).value) := by
  rw [summarize, mergedStatements, Outcome.result_bind, Outcome.result_bind, hroles]
  simp only
  rw [Outcome.result_bind, result_statementsOf_lenient]
  rfl

/-- **A summary counts what is granted.**  Where levels are lenient, a summary always comes
about.  It counts the roles that the actor reaches, for each of them the leaves that the walk
of its tree reports, and as permissions the different keys of all statements that the roles
make.  So there are at most as many permissions as leaves in all, and as many exactly when
every leaf is a level and no two statements have the same key; and there are none exactly when
the policy of the actor has no rules. -/
theorem summary_counts_grants (directory : Directory) (actor : Actor) :
    ∃ roles statements summary policy,
      (directory.store.effectiveRoles actor).result = .ok roles ∧
      (statementsOf ⟨directory.store, false⟩ roles).result = .ok statements ∧
      (summarize ⟨directory.store, false⟩ actor).result = .ok summary ∧
      (resolve ⟨directory.store, false⟩ actor).result = .ok policy ∧
      (∀ role, role ∈ roles ↔ role ∈ directory.reachedRoles actor) ∧
      (summary.totalRoles : ℕ∞) = (directory.reachedRoles actor).encard ∧
      summary.roles.map (fun role => (role.id, role.grantCount)) =
        roles.map (fun role => (role.id.text, role.tree.flatten.length)) ∧
      summary.totalPermissions = (statements.map Statement.key).toFinset.card ∧
      summary.totalPermissions ≤ (summary.roles.map (·.grantCount)).sum ∧
      (summary.totalPermissions = (summary.roles.map (·.grantCount)).sum ↔
        (∀ role ∈ roles, ∀ grant ∈ role.tree.flatten, grant.leaf.level? ≠ none) ∧
          (statements.map Statement.key).Nodup) ∧
      (summary.totalPermissions = 0 ↔ policy.rules = []) := by
  obtain ⟨roles, hroles⟩ : ∃ roles, (directory.store.effectiveRoles actor).result = .ok roles :=
    ⟨_, directory.result_effectiveRoles actor⟩
  have hmade := result_statementsOf_lenient directory.store roles
  have hsummary := result_summarize_lenient hroles
  have hpolicy := result_resolve_lenient hroles
  -- Leaves, statements and permissions are compared in turn; each step can only lose.
  have hlevels := @length_statements_eq_iff roles
  have hleaves : ((leavesOf roles).filterMap fun leaf => leaf.1.statement? leaf.2).length ≤
      (leavesOf roles).length := List.length_filterMap_le ..
  -- From here on it does not matter how the statements were made.
  generalize ((leavesOf roles).filterMap fun leaf => leaf.1.statement? leaf.2) = statements
    at hmade hsummary hpolicy hlevels hleaves
  have hmerged := Statement.length_merge_le statements
  -- The summary counts the leaves by recursion on the trees.
  have htotal : ((Summary.build roles (Statement.merge statements).value).roles.map
      (·.grantCount)).sum = (leavesOf roles).length := by
    rw [length_leavesOf, Summary.build, List.map_map]
    rfl
  refine ⟨roles, statements, _, _, hroles, hmade, hsummary, hpolicy,
    fun _ => Directory.mem_effectiveRoles_iff_reached hroles,
    (Directory.encard_reachedRoles hroles).symm, ?_, Statement.length_merge statements, ?_, ?_, ?_⟩
  · simp only [Summary.build, List.map_map, Tree.length_flatten]
    rfl
  · rw [htotal]
    exact hmerged.trans hleaves
  · -- Neither step from the leaves to the permissions makes anything more.
    rw [htotal, ← hlevels, ← Statement.length_merge_eq_iff]
    show (Statement.merge statements).value.length = (leavesOf roles).length ↔ _
    omega
  · rw [Policy.rules_compile_eq_nil_iff]
    exact List.length_eq_zero_iff

end Authorizer

end Entitlement
