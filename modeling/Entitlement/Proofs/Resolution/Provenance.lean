import Entitlement.Proofs.Statement.Merge
import Entitlement.Proofs.Statement.OfRole

/-!
# Where the rights of an actor come from

A resolved policy is compiled from the merged statements of the actor's effective roles.  Every
one of them is what one role makes of one leaf of its tree, so what the policy allows is granted
by a single leaf of a single role: its level covers the action, and the query meets all its
conditions, the role's domain and department among them
(`Authorizer.exists_grant_of_can_resolve`).

The proof follows the pipeline backwards, with one lemma for each of its steps.

* `Authorizer.result_resolve_eq_ok`: a policy was compiled from merged statements.
* `Authorizer.can_resolve_eq_true_iff`: what it allows is allowed by one of them, and denied by
  none.
* `Authorizer.result_mergedStatements_eq_ok`: they were merged from what the effective roles make
  of their leaves.
* `Authorizer.exists_grant_of_mem_merged`: merging makes up no statement, so each of them is what
  one role makes of one leaf.

Everything else that is proved about resolved policies starts from these lemmas, or from
`Authorizer.result_resolve`, which says in one equation whether there is a policy and which.
-/

namespace Entitlement

/-! ## The pipeline backwards -/

namespace Authorizer

variable {authorizer : Authorizer} {actor : Actor} {policy : Policy} {query : Query}
  {roles : List Role} {merged : List Statement}

theorem result_mergedStatements_eq_ok
    (hmerged : (authorizer.mergedStatements actor).result = .ok (roles, merged)) :
    (authorizer.store.effectiveRoles actor).result = .ok roles ∧
      merged =
        (Statement.merge (roles.flatMap fun role => role.granted role.tree.flatten)).value := by
  rw [mergedStatements, Outcome.result_bind_eq_ok] at hmerged
  obtain ⟨found, hfound, hmerged⟩ := hmerged
  obtain ⟨statements, hstatements, hmerged⟩ := Outcome.result_bind_eq_ok.mp hmerged
  rw [Outcome.result_liftM_bind, Outcome.result_liftM_bind, Outcome.result_pure] at hmerged
  obtain ⟨rfl, rfl⟩ := Prod.mk.inj (Except.ok.inj hmerged)
  exact ⟨hfound, by rw [result_statementsOf_eq_ok hstatements]⟩

theorem result_resolve_eq_ok (hresolve : (authorizer.resolve actor).result = .ok policy) :
    ∃ roles merged, (authorizer.mergedStatements actor).result = .ok (roles, merged) ∧
      policy = (Policy.compile merged (some (.ofActor actor))).value := by
  rw [resolve, Outcome.result_bind_eq_ok] at hresolve
  obtain ⟨⟨roles, merged⟩, hmerged, hresolve⟩ := hresolve
  rw [Outcome.result_liftM] at hresolve
  exact ⟨roles, merged, hmerged, (Except.ok.inj hresolve).symm⟩

/-- The policy that an actor gets by its effective roles, unless one of their leaves is
refused. -/
theorem result_resolve (hroles : (authorizer.store.effectiveRoles actor).result = .ok roles) :
    (authorizer.resolve actor).result =
      unlessRefused authorizer.strict (roles.flatMap fun role => role.tree.flatten)
        (Policy.compile (Statement.merge
            (roles.flatMap fun role => role.granted role.tree.flatten)).value
          (some (.ofActor actor))).value := by
  rw [resolve, mergedStatements, Outcome.result_bind, Outcome.result_bind, hroles]
  simp only
  rw [Outcome.result_bind, result_statementsOf]
  unfold unlessRefused
  cases refused? authorizer.strict (roles.flatMap fun role => role.tree.flatten) <;> rfl

/-- Whether an actor gets a policy, and one that allows a query. -/
def permits (authorizer : Authorizer) (actor : Actor) (query : Query) : Bool :=
  match (authorizer.resolve actor).result with
  | .ok policy => (policy.can query).value
  | .error _ => false

theorem permits_eq_true_iff :
    authorizer.permits actor query = true ↔
      ∃ policy, (authorizer.resolve actor).result = .ok policy ∧
        (policy.can query).value = true := by
  unfold permits
  cases (authorizer.resolve actor).result with
  | ok policy => simp
  | error error => simp

/-- A resolved policy allows a query exactly when one merged statement allows it
and none denies it. -/
theorem can_resolve_eq_true_iff (hresolve : (authorizer.resolve actor).result = .ok policy) :
    ∃ roles merged, (authorizer.mergedStatements actor).result = .ok (roles, merged) ∧
      ∀ query, (policy.can query).value = true ↔
        (∃ statement ∈ merged, statement.Allows (policy.identity query.context) query) ∧
          ∀ statement ∈ merged, ¬ statement.Denies (policy.identity query.context) query := by
  obtain ⟨roles, merged, hmerged, rfl⟩ := result_resolve_eq_ok hresolve
  exact ⟨roles, merged, hmerged, fun query => Policy.can_compile_eq_true_iff⟩

/-- A merged statement is what one effective role makes of one leaf. -/
theorem exists_grant_of_mem_merged
    (hmerged : (authorizer.mergedStatements actor).result = .ok (roles, merged))
    {statement : Statement} (hstatement : statement ∈ merged) :
    ∃ role ∈ roles, ∃ path level, ⟨path, .access level⟩ ∈ role.tree.flatten ∧
      statement = .ofGrant role path level := by
  obtain ⟨_, rfl⟩ := result_mergedStatements_eq_ok hmerged
  have hmade := Statement.mem_of_mem_merge hstatement
  obtain ⟨role, hrole, hgranted⟩ := List.mem_flatMap.mp hmade
  exact ⟨role, hrole, Role.mem_granted_iff.mp hgranted⟩

theorem isGranted_of_mem_made {statement : Statement}
    (hstatement : statement ∈ roles.flatMap fun role => role.granted role.tree.flatten) :
    statement.IsGranted := by
  obtain ⟨role, _, hmade⟩ := List.mem_flatMap.mp hstatement
  obtain ⟨path, level, _, rfl⟩ := Role.mem_granted_iff.mp hmade
  exact ⟨role, path, level, rfl⟩

theorem isGranted_of_mem_merged
    (hmerged : (authorizer.mergedStatements actor).result = .ok (roles, merged))
    {statement : Statement} (hstatement : statement ∈ merged) : statement.IsGranted := by
  obtain ⟨_, rfl⟩ := result_mergedStatements_eq_ok hmerged
  exact isGranted_of_mem_made (Statement.mem_of_mem_merge hstatement)

/-- **No right without a grant.**  What a resolved policy allows is granted by the
statement of one leaf of one effective role: it is about the subject of the query,
its level grants the action, and the query meets every condition of it, so that
the resource belongs to the domain and the department of that role. -/
theorem exists_grant_of_can_resolve
    (hresolve : (authorizer.resolve actor).result = .ok policy)
    (hcan : (policy.can query).value = true) :
    ∃ roles, (authorizer.store.effectiveRoles actor).result = .ok roles ∧
      ∃ role ∈ roles, ∃ path level statement,
        ⟨path, .access level⟩ ∈ role.tree.flatten ∧
        .viewAccess ≤ level ∧
        (Statement.ofLeaf authorizer.strict role path (.access level)).result =
          .ok (some statement) ∧
        statement.level = level ∧
        statement.subject = query.subject ∧
        (∀ entry ∈ statement.conditions.entries,
          query.context.Meets (policy.identity query.context) entry) ∧
        query.context.lookup? "domain" (policy.identity query.context) =
          some (.str role.domain) ∧
        query.context.lookup? "department" (policy.identity query.context) =
          some (.str role.department) ∧
        statement.Grants query.action := by
  obtain ⟨roles, merged, hmerged, hanswers⟩ := can_resolve_eq_true_iff hresolve
  obtain ⟨⟨statement, hstatement, hallows⟩, _⟩ := (hanswers query).mp hcan
  obtain ⟨role, hrole, path, level, hgrant, rfl⟩ := exists_grant_of_mem_merged hmerged hstatement
  -- No path means the wildcard subject, so the statement is about the query's own.
  obtain ⟨hsubject, hconditions⟩ := Statement.matches_ofGrant_iff.mp hallows.1
  obtain ⟨hdomain, hdepartment⟩ := Statement.lookup?_of_meets_ofGrant hconditions
  have hlevel := Statement.viewAccess_le_of_grants hallows.grants
  exact ⟨roles, (result_mergedStatements_eq_ok hmerged).1, role, hrole, path, level,
    .ofGrant role path level, hgrant, hlevel, rfl, rfl, hsubject, hconditions, hdomain,
    hdepartment, hallows.grants⟩

end Authorizer

/-! ## An actor with one role -/

namespace Sample

/-- The identifier that repeats a digit. -/
def uuid (digit : Fin 16) : Uuid := ⟨List.replicate 32 digit, List.length_replicate⟩

/-- A role that has every right on the tasks of its organization, and may look at
those that are assigned to the actor. -/
def lead : Role where
  id := uuid ⟨1, by decide⟩
  domain := "acme"
  department := "legal"
  roleName := "lead"
  tree := .group [("taskAccess", .group
    [("all", .leaf (.access .adminAccess)), ("assigned", .leaf (.access .viewAccess))])]
  userIds := []
  groupIds := []

/-- An actor with that role. -/
def actor : Actor where
  id := uuid ⟨2, by decide⟩
  email := "a@acme.test"
  domain := "acme"
  department := "legal"
  roleIds := [lead.id]
  groupIds := []

/-- The records of the actor and its role. -/
def directory : Directory := ⟨[lead], [], [actor]⟩

/-- What may be done to a task that is assigned to the actor. -/
def ownTask (action : Action) : Query :=
  ⟨action, .task, .ofAttributes (Dict.ofList [("assignedTo", .str actor.id.text)])⟩

end Sample

/-- The lead manages a task by a leaf of a role of the task's own organization. -/
theorem exists_grant_of_lead :
    ∃ policy, (Authorizer.resolve ⟨Sample.directory.store, true⟩ Sample.actor).result = .ok policy ∧
      (policy.can (Sample.ownTask .manage)).value = true ∧
      ∃ roles, (Sample.directory.store.effectiveRoles Sample.actor).result = .ok roles ∧
        ∃ role ∈ roles, ∃ path level, ⟨path, .access level⟩ ∈ role.tree.flatten ∧
          .viewAccess ≤ level ∧
          (Sample.ownTask .manage).context.lookup? "domain" policy.actor =
            some (.str role.domain) := by
  obtain ⟨policy, hresolve, hcan⟩ := Authorizer.permits_eq_true_iff.mp
    (show Authorizer.permits ⟨Sample.directory.store, true⟩ Sample.actor (Sample.ownTask .manage) =
      true by decide +kernel)
  obtain ⟨roles, hroles, role, hrole, path, level, _, hgrant, hlevel, _, _, _, _, hdomain, _⟩ :=
    Authorizer.exists_grant_of_can_resolve hresolve hcan
  exact ⟨policy, hresolve, hcan, roles, hroles, role, hrole, path, level, hgrant, hlevel, hdomain⟩

end Entitlement
