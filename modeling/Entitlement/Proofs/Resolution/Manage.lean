import Entitlement.Proofs.Resolution.Provenance

/-!
# The wildcards of resolved policies

Two things stand for everything: the action `manage` covers every action, and the subject `all`
every subject.  A resolved policy meets them in the rules of admin access only.

A grant of admin access is the only one that an answer to `manage` can come from.  It does not
lift the restrictions that other grants on the same subject put on single actions: these are
denied although `manage` is allowed.  No others are (`can_iff_not_forbidden_of_can_manage`).

Whoever writes a permission tree chooses its keys, and for a path outside the table the keys
decide what a leaf is about.  Both wildcards are out of reach all the same
(`resolve_reaches_no_wildcard`).  No path means the subject `all`, so no rule is about every
subject.  And managing and deleting come with admin access only: at any other level a statement
allows neither, not even as its own action.
-/

namespace Entitlement

/-! ## Asking for the right to manage -/

/-! ### Statements that allow managing -/

namespace Statement

variable {statement : Statement} {identity : Option Identity} {subject : Subject}
  {context : Context}

/-- What allows managing allows everything. -/
theorem Allows.of_manage (hmanage : statement.Allows identity ⟨.manage, subject, context⟩)
    (action : Action) : statement.Allows identity ⟨action, subject, context⟩ := by
  obtain ⟨⟨hsubject, hconditions⟩, hopen⟩ := hmanage
  refine ⟨⟨hsubject, hconditions⟩, Or.inl ?_⟩
  rcases hopen with ⟨hgrants, hopen⟩ | ⟨_, hextra⟩
  · have hlevel := (grants_iff_of_manage_or_delete (Or.inl rfl)).mp hgrants
    refine ⟨?_, hopen⟩
    rw [Grants, hlevel]
    trivial
  · exact absurd hextra (manage_not_mem_adminExtras _)

end Statement

/-! ### Resolved policies -/

namespace Authorizer

variable {authorizer : Authorizer} {actor : Actor} {policy : Policy} {subject : Subject}
  {context : Context}

/-- **What the right to manage leaves denied.**  When a resolved policy allows
managing, it allows every action but those that a merged statement about the
subject, with its conditions met, forbids: its own action without access,
creating, updating and deleting with view access, and deleting with write
access. -/
theorem can_iff_not_forbidden_of_can_manage
    (hresolve : (authorizer.resolve actor).result = .ok policy)
    (hmanage : (policy.can ⟨.manage, subject, context⟩).value = true) :
    ∃ roles merged, (authorizer.mergedStatements actor).result = .ok (roles, merged) ∧
      ∀ action, (policy.can ⟨action, subject, context⟩).value = true ↔
        ∀ statement ∈ merged, statement.subject = subject →
          (∀ entry ∈ statement.conditions.entries,
            context.Meets (policy.identity context) entry) →
          ¬ statement.Forbids action := by
  obtain ⟨roles, merged, hmerged, hanswers⟩ := can_resolve_eq_true_iff hresolve
  obtain ⟨⟨managing, hmanaging, hallows⟩, _⟩ := (hanswers _).mp hmanage
  refine ⟨roles, merged, hmerged, fun action => ?_⟩
  rw [hanswers]
  constructor
  · rintro ⟨_, hfree⟩ statement hstatement hsubject hconditions hforbids
    exact hfree statement hstatement ⟨⟨Or.inr hsubject, hconditions⟩, hforbids⟩
  · intro hfree
    -- What allows managing allows the action too, so only denials could be in the way.
    refine ⟨⟨managing, hmanaging, hallows.of_manage action⟩, ?_⟩
    rintro statement hstatement ⟨hmatches, hforbids⟩
    obtain ⟨role, _, path, level, _, rfl⟩ := exists_grant_of_mem_merged hmerged hstatement
    obtain ⟨hsubject, hconditions⟩ := Statement.matches_ofGrant_iff.mp hmatches
    exact hfree _ hstatement hsubject hconditions hforbids

end Authorizer

/-- The lead manages the actor's own tasks, and what else may be done to them is
what no merged statement forbids. -/
theorem lead_can_iff_not_forbidden :
    ∃ policy, (Authorizer.resolve ⟨Sample.directory.store, true⟩ Sample.actor).result = .ok policy ∧
      (policy.can (Sample.ownTask .manage)).value = true ∧
      ∃ roles merged, (Authorizer.mergedStatements ⟨Sample.directory.store, true⟩
          Sample.actor).result = .ok (roles, merged) ∧
        ∀ action, (policy.can (Sample.ownTask action)).value = true ↔
          ∀ statement ∈ merged, statement.subject = .task →
            (∀ entry ∈ statement.conditions.entries,
              (Sample.ownTask action).context.Meets policy.actor entry) →
            ¬ statement.Forbids action := by
  obtain ⟨policy, hresolve, hcan⟩ := Authorizer.permits_eq_true_iff.mp
    (show Authorizer.permits ⟨Sample.directory.store, true⟩ Sample.actor (Sample.ownTask .manage) =
      true by decide +kernel)
  exact ⟨policy, hresolve, hcan, Authorizer.can_iff_not_forbidden_of_can_manage hresolve hcan⟩

/-- The right to manage does not stand for every action: the lead manages the
actor's own tasks but, as one of its leaves only lets them be looked at, does not
delete them. -/
theorem not_forall_can_of_can_manage :
    ¬ ∀ (directory : Directory) (strict : Bool) (actor : Actor) (policy : Policy)
        (subject : Subject) (context : Context),
      (Authorizer.resolve ⟨directory.store, strict⟩ actor).result = .ok policy →
      (policy.can ⟨.manage, subject, context⟩).value = true →
      ∀ action, (policy.can ⟨action, subject, context⟩).value = true := by
  intro hall
  have hmanage : Authorizer.permits ⟨Sample.directory.store, true⟩ Sample.actor
      (Sample.ownTask .manage) = true := by
    decide +kernel
  have hdelete : Authorizer.permits ⟨Sample.directory.store, true⟩ Sample.actor
      (Sample.ownTask .delete) = false := by
    decide +kernel
  obtain ⟨policy, hresolve, hcan⟩ := Authorizer.permits_eq_true_iff.mp hmanage
  have hevery : (policy.can (Sample.ownTask .delete)).value = true :=
    hall _ _ _ policy .task (Sample.ownTask .manage).context hresolve hcan .delete
  rw [Authorizer.permits_eq_true_iff.mpr ⟨policy, hresolve, hevery⟩] at hdelete
  contradiction

/-! ## Trees do not reach the wildcards -/

namespace Authorizer

variable {authorizer : Authorizer} {actor : Actor} {policy : Policy}

theorem subject_ne_all_of_resolve (hresolve : (authorizer.resolve actor).result = .ok policy) :
    ∀ rule ∈ policy.rules, rule.subject ≠ .all := by
  obtain ⟨roles, merged, hmerged, rfl⟩ := result_resolve_eq_ok hresolve
  intro rule hrule
  obtain ⟨statement, hstatement, hrule⟩ := List.mem_flatMap.mp hrule
  obtain ⟨role, path, level, rfl⟩ := isGranted_of_mem_merged hmerged hstatement
  rw [(Statement.of_mem_rules hrule).1]
  exact Meaning.subject_ofPath_ne_all path

/-- **Trees do not reach the wildcards.**  No rule of a resolved policy is about every
subject, so nothing is allowed on the subject `all`.  The rules are those of the merged
statements, one statement after the other, and a statement has a rule that allows managing
or deleting exactly when it gives admin access. -/
theorem resolve_reaches_no_wildcard
    (hresolve : (authorizer.resolve actor).result = .ok policy) :
    (∀ rule ∈ policy.rules, rule.subject ≠ .all) ∧
    (∀ query : Query, query.subject = .all → (policy.can query).value = false) ∧
    ∃ roles merged, (authorizer.mergedStatements actor).result = .ok (roles, merged) ∧
      policy.rules = merged.flatMap Statement.rules ∧
      ∀ statement ∈ merged,
        (∃ rule ∈ statement.rules, rule.decision = .allow ∧
          (rule.covers .manage = true ∨ rule.covers .delete = true)) ↔
        statement.level = .adminAccess := by
  have hnever := subject_ne_all_of_resolve hresolve
  refine ⟨hnever, ?_, ?_⟩
  · intro query hall
    rw [← Bool.not_eq_true, Policy.can_eq_true_iff]
    rintro ⟨⟨rule, hrule, _, happlies⟩, _⟩
    rcases happlies.subject with hsubject | hsubject
    · exact hnever rule hrule hsubject
    · exact hnever rule hrule (hsubject.trans hall)
  · obtain ⟨roles, merged, hmerged, rfl⟩ := result_resolve_eq_ok hresolve
    refine ⟨roles, merged, hmerged, Policy.rules_compile, ?_⟩
    intro statement _
    simp only [and_or_left, exists_or, Statement.exists_allowing_rule_covers_iff]
    rw [Statement.grants_iff_of_manage_or_delete (Or.inl rfl),
      Statement.grants_iff_of_manage_or_delete (Or.inr rfl), or_self]

end Authorizer

/-! ### A tree that spells the wildcards -/

namespace Sample

/-- A role that claims admin access to `all` and write access to `manage`. -/
def claimant : Role :=
  { lead with
    tree := .group [("all", .leaf (.access .adminAccess)),
      ("manage", .leaf (.access .writeAccess))] }

/-- Doing something with a resource of the actor's own organization. -/
def within (action : Action) (subject : Subject) : Query := ⟨action, subject, .empty⟩

end Sample

/-- The claimant deletes resources of the kind `All`, which is a kind of its own, and does
nothing on the subject `all`. -/
theorem claimant_reaches_no_wildcard :
    ∃ policy, (Authorizer.resolve ⟨Directory.store ⟨[Sample.claimant], [], [Sample.actor]⟩, true⟩
        Sample.actor).result = .ok policy ∧
      (policy.can (Sample.within .delete (.other "All"))).value = true ∧
      (∀ rule ∈ policy.rules, rule.subject ≠ .all) ∧
      (policy.can (Sample.within .read .all)).value = false := by
  obtain ⟨policy, hresolve, hcan⟩ := Authorizer.permits_eq_true_iff.mp
    (show Authorizer.permits ⟨Directory.store ⟨[Sample.claimant], [], [Sample.actor]⟩, true⟩
      Sample.actor (Sample.within .delete (.other "All")) = true by decide +kernel)
  obtain ⟨hnever, hnothing, _⟩ := Authorizer.resolve_reaches_no_wildcard hresolve
  exact ⟨policy, hresolve, hcan, hnever, hnothing _ rfl⟩

end Entitlement
