import Entitlement.Proofs.Resolution.EffectiveRoles
import Entitlement.Proofs.Resolution.Provenance

/-!
# Strict and lenient levels

A leaf that is an access level makes one statement, whether levels are strict or not.  Any
other leaf makes none: where levels are lenient it causes one warning, and where they are
strict it ends the resolution.

So what a lenient resolution delivers and what it warns of are read off the leaves of the
effective roles, in their order (`Authorizer.result_statementsOf_lenient`,
`Authorizer.warnings_resolve_lenient`).  For the warnings it has to be seen that no other step
has one to give: merging and compiling report much, but none of it is a warning.

A strict resolution finds the same leaves and reads them in the same order, so that it either
fails at the first one that is no level or passes over none and delivers the same policy
(`Authorizer.result_resolve_strict`).

Both are stated over `leavesOf`, the leaves of all effective roles in one list, each with its
role.  The functions `Role.statement?` and `Role.warning?` say of a single leaf what it makes and
what it causes, so a run over the leaves is a `filterMap` over that list.
-/

namespace Entitlement

/-! ## Leaves -/

/-- The leaves of roles, one role after the other, each with the role that has it. -/
def leavesOf (roles : List Role) : List (Role × Grant) :=
  roles.flatMap fun role => role.tree.flatten.map fun grant => (role, grant)

theorem leavesOf_cons (role : Role) (roles : List Role) :
    leavesOf (role :: roles) =
      role.tree.flatten.map (fun grant => (role, grant)) ++ leavesOf roles :=
  List.flatMap_cons ..

namespace Role

/-- The statement that a role makes of a leaf, if the leaf is a level. -/
def statement? (role : Role) (grant : Grant) : Option Statement :=
  grant.leaf.level?.map (Statement.ofGrant role grant.path)

/-- The warning about a leaf, if it is no level.  It names the role, the path and what
stands there. -/
def warning? (role : Role) (grant : Grant) : Option Event :=
  if grant.leaf.level? = none then
    some (.droppedGrant role.id role.roleName grant.path grant.leaf.text)
  else none

end Role

theorem flatMap_granted_eq (roles : List Role) :
    (roles.flatMap fun role => role.granted role.tree.flatten) =
      (leavesOf roles).filterMap fun leaf => leaf.1.statement? leaf.2 := by
  rw [leavesOf, List.filterMap_flatMap]
  simp only [List.filterMap_map]
  rfl

theorem flatMap_flatten_eq (roles : List Role) :
    (roles.flatMap fun role => role.tree.flatten) = (leavesOf roles).map (·.2) := by
  rw [leavesOf, List.map_flatMap]
  simp only [List.map_map, Function.comp_def, List.map_id']

/-! ## Warnings

Reading leaves is the only step that warns. -/

namespace Statement

variable {role : Role} {grant : Grant}

theorem warnings_ofLeaf (role : Role) (grant : Grant) :
    (ofLeaf false role grant.path grant.leaf).warnings = (role.warning? grant).toList := by
  obtain ⟨path, leaf⟩ := grant
  cases leaf with
  | access level => rfl
  | unrecognized value => rfl

theorem result_ofLeaf_lenient (role : Role) (grant : Grant) :
    (ofLeaf false role grant.path grant.leaf).result = .ok (role.statement? grant) := by
  obtain ⟨path, leaf⟩ := grant
  cases leaf with
  | access level => rfl
  | unrecognized value => rfl

theorem warnings_absorb (key : String) (statement : Statement) (merged : Keyed) :
    (absorb key statement merged).warnings = [] := by
  induction merged with
  | nil => rfl
  | cons first rest ih =>
      rw [absorb]
      -- A statement that takes the place of another is reported, but for debugging only.
      split
      · split
        · rw [Traced.warnings_bind, Traced.warnings_report_of_debug rfl]
          rfl
        · rfl
      · rw [Traced.warnings_bind, ih]
        rfl

theorem warnings_absorbAll (merged : Keyed) (statements : List Statement) :
    (absorbAll merged statements).warnings = [] := by
  induction statements generalizing merged with
  | nil => rfl
  | cons statement rest ih =>
      rw [absorbAll, Traced.warnings_bind, warnings_absorb, ih]
      rfl

theorem warnings_merge (statements : List Statement) : (merge statements).warnings = [] := by
  rw [merge, Traced.warnings_bind, warnings_absorbAll]
  rfl

end Statement

theorem Policy.warnings_compile (statements : List Statement) (actor : Option Identity) :
    (compile statements actor).warnings = [] := rfl

namespace Role

/-- Reading leaves warns of those that are no levels, one after the other. -/
theorem warnings_statementsOf (role : Role) (grants : List Grant) :
    (role.statementsOf false grants).warnings = grants.filterMap role.warning? := by
  induction grants with
  | nil => rfl
  | cons grant rest ih =>
      -- Lenient reading goes on behind a leaf that is no level, so the rest has a result.
      have hrest : (role.statementsOf false rest).result = .ok (role.granted rest) := by
        rw [result_statementsOf, unlessRefused_false]
      rw [statementsOf, Outcome.warnings_bind_of_ok (Statement.result_ofLeaf_lenient role grant),
        Outcome.warnings_bind_of_ok hrest, Statement.warnings_ofLeaf, ih, Outcome.warnings_pure,
        List.append_nil, List.filterMap_cons]
      cases role.warning? grant <;> rfl

theorem warnings_statements (role : Role) :
    (role.statements false).warnings = role.tree.flatten.filterMap role.warning? := by
  have hleaves : (role.statementsOf false role.tree.flatten).result =
      .ok (role.granted role.tree.flatten) := by
    rw [result_statementsOf, unlessRefused_false]
  rw [statements, Outcome.warnings_bind_of_ok hleaves, warnings_statementsOf,
    Outcome.warnings_bind_of_ok (Outcome.result_liftM _), Outcome.warnings_liftM,
    Traced.warnings_report_of_debug rfl]
  exact List.append_nil _

end Role

theorem Directory.warnings_effectiveRoles (directory : Directory) (actor : Actor) :
    (directory.store.effectiveRoles actor).warnings = [] := by
  -- Lookups of these records have nothing to tell, and without ids none is made.
  have hroles : ∀ ids, (directory.store.rolesOf ids).warnings = [] := by
    intro ids
    cases ids <;> rfl
  have hgroups : ∀ ids, (directory.store.groupsOf ids).warnings = [] := by
    intro ids
    cases ids <;> rfl
  unfold Store.effectiveRoles
  split
  · rfl
  · rw [Outcome.warnings_bind_of_ok (result_rolesOf directory _), hroles,
      Outcome.warnings_bind_of_ok (result_groupsOf directory _), hgroups,
      Outcome.warnings_bind_of_ok (result_rolesOf directory _), hroles]
    rfl

/-! ## Resolution -/

namespace Authorizer

variable {actor : Actor} {roles : List Role}

theorem result_statementsOf_lenient (store : Store) (roles : List Role) :
    (statementsOf ⟨store, false⟩ roles).result =
      .ok ((leavesOf roles).filterMap fun leaf => leaf.1.statement? leaf.2) := by
  rw [result_statementsOf, unlessRefused_false, flatMap_granted_eq]

theorem warnings_statementsOf (store : Store) (roles : List Role) :
    (statementsOf ⟨store, false⟩ roles).warnings =
      (leavesOf roles).filterMap fun leaf => leaf.1.warning? leaf.2 := by
  induction roles with
  | nil => rfl
  | cons role rest ih =>
      have hrole : (role.statements false).result = .ok (role.granted role.tree.flatten) := by
        rw [Role.result_statements, unlessRefused_false]
      rw [statementsOf, Outcome.warnings_bind_of_ok hrole, Role.warnings_statements,
        Outcome.warnings_bind_of_ok (result_statementsOf_lenient store rest), ih,
        Outcome.warnings_pure, List.append_nil, leavesOf_cons, List.filterMap_append,
        List.filterMap_map]
      rfl

/-- A lenient resolution warns of the leaves that are no levels and of nothing else. -/
theorem warnings_resolve_lenient {store : Store}
    (hroles : (store.effectiveRoles actor).result = .ok roles)
    (hsilent : (store.effectiveRoles actor).warnings = []) :
    (resolve ⟨store, false⟩ actor).warnings =
      (leavesOf roles).filterMap fun leaf => leaf.1.warning? leaf.2 := by
  have hstatements := result_statementsOf_lenient store roles
  -- Each step has a result, hence what it tells stands side by side with the rest.
  obtain ⟨merged, hmerged⟩ : ∃ merged,
      (mergedStatements ⟨store, false⟩ actor).result = .ok merged := by
    rw [mergedStatements, Outcome.result_bind, hroles]
    simp only
    rw [Outcome.result_bind, hstatements]
    exact ⟨_, rfl⟩
  rw [resolve, Outcome.warnings_bind_of_ok hmerged, Outcome.warnings_liftM,
    Policy.warnings_compile, List.append_nil, mergedStatements,
    Outcome.warnings_bind_of_ok hroles, hsilent, List.nil_append,
    Outcome.warnings_bind_of_ok hstatements, warnings_statementsOf,
    Outcome.warnings_bind_of_ok (Outcome.result_liftM _), Outcome.warnings_liftM,
    Statement.warnings_merge, List.nil_append,
    Outcome.warnings_bind_of_ok (Outcome.result_liftM _), Outcome.warnings_liftM,
    Traced.warnings_report_of_debug rfl]
  exact List.append_nil _

/-- A lenient resolution succeeds with the rules of the leaves that are levels. -/
theorem result_resolve_lenient {store : Store}
    (hroles : (store.effectiveRoles actor).result = .ok roles) :
    (resolve ⟨store, false⟩ actor).result =
      .ok (Policy.compile (Statement.merge ((leavesOf roles).filterMap
        fun leaf => leaf.1.statement? leaf.2)).value (some (.ofActor actor))).value := by
  rw [@result_resolve ⟨store, false⟩ actor roles hroles, unlessRefused_false, flatMap_granted_eq]

/-- A strict resolution fails at the first leaf that is no level, and without one it delivers
what the lenient one does. -/
theorem result_resolve_strict {store : Store} {policy : Policy}
    (hroles : (store.effectiveRoles actor).result = .ok roles)
    (hlenient : (resolve ⟨store, false⟩ actor).result = .ok policy) :
    (resolve ⟨store, true⟩ actor).result =
      match (leavesOf roles).find? fun leaf => leaf.2.leaf.level?.isNone with
      | some (_, grant) => .error (.unknownLevel grant.path grant.leaf.text)
      | none => .ok policy := by
  rw [@result_resolve ⟨store, false⟩ actor roles hroles, unlessRefused_false] at hlenient
  rw [@result_resolve ⟨store, true⟩ actor roles hroles, Except.ok.inj hlenient, unlessRefused,
    refused?, flatMap_flatten_eq, List.find?_map]
  simp only [Bool.true_and, Function.comp_def]
  cases (leavesOf roles).find? fun leaf => leaf.2.leaf.level?.isNone <;> rfl

/-- **Strict and lenient levels agree except on leaves that are no levels.**  A lenient
resolution never fails: each leaf of the effective roles makes one statement if it is a level
and causes one warning if it is none, in the order of the leaves.  A strict one fails exactly
when some leaf is no level, with the path and the text of the first such leaf; else both
deliver the same rules. -/
theorem strict_agrees_unless_refused (directory : Directory) (actor : Actor) :
    ∃ roles policy,
      (directory.store.effectiveRoles actor).result = .ok roles ∧
      (resolve ⟨directory.store, false⟩ actor).result = .ok policy ∧
      (statementsOf ⟨directory.store, false⟩ roles).result =
        .ok ((leavesOf roles).filterMap fun leaf => leaf.1.statement? leaf.2) ∧
      policy.rules = (Statement.merge ((leavesOf roles).filterMap
        fun leaf => leaf.1.statement? leaf.2)).value.flatMap Statement.rules ∧
      (resolve ⟨directory.store, false⟩ actor).warnings =
        ((leavesOf roles).filterMap fun leaf => leaf.1.warning? leaf.2) ∧
      ((∃ error, (resolve ⟨directory.store, true⟩ actor).result = .error error) ↔
        ∃ leaf ∈ leavesOf roles, leaf.2.leaf.level? = none) ∧
      (∀ before role grant after, leavesOf roles = before ++ (role, grant) :: after →
        (∀ leaf ∈ before, leaf.2.leaf.level? ≠ none) → grant.leaf.level? = none →
        (resolve ⟨directory.store, true⟩ actor).result =
          .error (.unknownLevel grant.path grant.leaf.text)) ∧
      ∀ other, (resolve ⟨directory.store, true⟩ actor).result = .ok other →
        other.rules = policy.rules := by
  obtain ⟨roles, hroles⟩ : ∃ roles, (directory.store.effectiveRoles actor).result = .ok roles :=
    ⟨_, directory.result_effectiveRoles actor⟩
  -- The policy is named by its rules first, and only then by what delivers it.
  obtain ⟨policy, hpolicy, hlenient⟩ : ∃ policy,
      policy.rules = (Statement.merge ((leavesOf roles).filterMap
        fun leaf => leaf.1.statement? leaf.2)).value.flatMap Statement.rules ∧
      (resolve ⟨directory.store, false⟩ actor).result = .ok policy :=
    ⟨_, rfl, result_resolve_lenient hroles⟩
  have hstrict := result_resolve_strict hroles hlenient
  refine ⟨roles, policy, hroles, hlenient, result_statementsOf_lenient _ _, hpolicy,
    warnings_resolve_lenient hroles (directory.warnings_effectiveRoles actor), ?_, ?_, ?_⟩
  · -- Failing is finding a leaf that is no level.
    rw [hstrict]
    cases hfirst : (leavesOf roles).find? fun leaf => leaf.2.leaf.level?.isNone with
    | none => simpa using List.find?_eq_none.mp hfirst
    | some leaf =>
        have hleaf := List.find?_some hfirst
        refine iff_of_true ⟨_, rfl⟩ ⟨leaf, List.mem_of_find?_eq_some hfirst, ?_⟩
        simpa using hleaf
  · intro before role grant after hleaves hbefore hgrant
    -- The first leaf that is found is the one behind those that are levels.
    have hfirst : (leavesOf roles).find? (fun leaf => leaf.2.leaf.level?.isNone) =
        some (role, grant) := by
      rw [List.find?_eq_some_iff_append]
      refine ⟨by simp [hgrant], before, after, hleaves, ?_⟩
      intro leaf hleaf
      simpa [Option.isSome_iff_ne_none] using hbefore leaf hleaf
    rw [hstrict, hfirst]
  · intro other hother
    rw [hstrict] at hother
    cases hfirst : (leavesOf roles).find? fun leaf => leaf.2.leaf.level?.isNone with
    | none =>
        rw [hfirst] at hother
        rw [Except.ok.inj hother]
    | some leaf =>
        rw [hfirst] at hother
        contradiction

end Authorizer

end Entitlement
