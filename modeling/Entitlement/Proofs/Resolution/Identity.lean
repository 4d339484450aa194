import Entitlement.Proofs.Policy.Mentioned
import Entitlement.Proofs.Statement.Key

/-!
# Asking in the name of another identity

A resolved policy keeps its placeholders, and a query may bring an identity of its own.  Two
questions are settled about that.

Leaving out parts of an identity takes values away from conditions.  A statement that still
matches a query matched it before, so no right is won by a statement that allows more.  But a
statement that denies may cease to match, and then a right is won by what no longer stands
against it.  For the policies that resolution makes there is one way to this.  Domain and
department cannot be left out unnoticed, since every statement asks for them, and no statement
asks for the email.  What remains is the identifier: it is left out, and a merged statement that
demands it denies the query to the whole identity (`can_whole_eq_false_iff`).

Nothing of the actor for whom a policy was made goes into its rules: they depend on the roles and
the groups that are assigned and on nothing else (`result_effectiveRoles_of_assignments`).  Hence
a policy that was made for one actor answers, when it is asked in the name of another with the
same assignments, just as the other's own policy does, and reports the same events
(`Policy.can_madeBy_eq`).
-/

namespace Entitlement

/-! ## Less known about who asks -/

section Identity

variable {part whole : Identity} {context : Context} {query : Query} {key : String} {value : Json}

/-! ### Parts of an identity -/

/-- The part of an identity tells what the whole does, or nothing. -/
structure Identity.PartOf (part whole : Identity) : Prop where
  id : part.id = whole.id ∨ part.id = none
  email : part.email = whole.email ∨ part.email = none
  domain : part.domain = whole.domain ∨ part.domain = none
  department : part.department = whole.department ∨ part.department = none

/-- The query as somebody makes it. -/
def Query.madeBy (query : Query) (identity : Identity) : Query :=
  { query with context := { query.context with actor := some identity } }

namespace Identity

theorem map_eq_some_of_part {α β : Type} {f : α → β} {known given : Option α} {image : β}
    (hknown : known = given ∨ known = none) (himage : known.map f = some image) :
    given.map f = some image := by
  rcases hknown with rfl | rfl
  · exact himage
  · contradiction

theorem PartOf.resolve? (hpart : part.PartOf whole) {which : Placeholder}
    (hvalue : part.resolve? which = some value) : whole.resolve? which = some value := by
  cases which with
  | id => exact map_eq_some_of_part hpart.id hvalue
  | email => exact map_eq_some_of_part hpart.email hvalue
  | domain => exact map_eq_some_of_part hpart.domain hvalue
  | department => exact map_eq_some_of_part hpart.department hvalue

theorem PartOf.attribute? (hpart : part.PartOf whole) (hvalue : part.attribute? key = some value) :
    whole.attribute? key = some value := by
  unfold Identity.attribute? at hvalue ⊢
  by_cases hdomain : key = "domain"
  · rw [if_pos hdomain] at hvalue ⊢
    exact hpart.resolve? hvalue
  · rw [if_neg hdomain] at hvalue ⊢
    by_cases hdepartment : key = "department"
    · rw [if_pos hdepartment] at hvalue ⊢
      exact hpart.resolve? hvalue
    · rw [if_neg hdepartment] at hvalue
      contradiction

theorem PartOf.lookup? (hpart : part.PartOf whole)
    (hvalue : context.lookup? key (some part) = some value) :
    context.lookup? key (some whole) = some value := by
  unfold Context.lookup? at hvalue ⊢
  -- An attribute of the resource comes first and has nothing to do with who asks.
  cases hown : context.attributes.get? key with
  | some own =>
      rw [hown] at hvalue
      exact hvalue
  | none =>
      rw [hown] at hvalue
      exact hpart.attribute? hvalue

theorem PartOf.demanded (hpart : part.PartOf whole) {condition : Condition}
    (hvalue : condition.demanded (some part) = .ok value) :
    condition.demanded (some whole) = .ok value := by
  cases condition with
  | literal => exact hvalue
  | placeholder which =>
      unfold Condition.demanded at hvalue ⊢
      simp only [Option.bind_some] at hvalue ⊢
      cases hknown : part.resolve? which with
      | some known =>
          rw [hknown] at hvalue
          rw [hpart.resolve? hknown]
          exact hvalue
      | none =>
          rw [hknown] at hvalue
          contradiction

/-- A condition that the part meets is met by the whole. -/
theorem PartOf.meets (hpart : part.PartOf whole) {entry : String × Condition}
    (hmeets : context.Meets (some part) entry) : context.Meets (some whole) entry := by
  obtain ⟨demanded, actual, hdemanded, hlookup, hsame⟩ := hmeets
  exact ⟨demanded, actual, hpart.demanded hdemanded, hpart.lookup? hlookup, hsame⟩

/-- Where the part lends a domain and a department, it lends all that the whole does. -/
theorem PartOf.lookup?_eq (hpart : part.PartOf whole) {domain department : Json}
    (hdomain : context.lookup? "domain" (some part) = some domain)
    (hdepartment : context.lookup? "department" (some part) = some department) (key : String) :
    context.lookup? key (some part) = context.lookup? key (some whole) := by
  by_cases hkeyDomain : key = "domain"
  · rw [hkeyDomain, hdomain, hpart.lookup? hdomain]
  · by_cases hkeyDepartment : key = "department"
    · rw [hkeyDepartment, hdepartment, hpart.lookup? hdepartment]
    · -- Under any other key an identity has nothing to lend.
      have hlends : ∀ identity : Identity, identity.attribute? key = none := by
        intro identity
        rw [Identity.attribute?, if_neg hkeyDomain, if_neg hkeyDepartment]
      unfold Context.lookup?
      simp only [Option.bind_some, hlends]

end Identity

/-! ### Statements -/

namespace Statement

variable {statement : Statement}

theorem matches_madeBy_iff {identity : Option Identity} {who : Identity} :
    statement.Matches identity (query.madeBy who) ↔ statement.Matches identity query := by
  constructor
  · exact fun hmatches => ⟨hmatches.subject, hmatches.conditions⟩
  · exact fun hmatches => ⟨hmatches.subject, hmatches.conditions⟩

theorem denies_madeBy_iff {identity : Option Identity} {who : Identity} :
    statement.Denies identity (query.madeBy who) ↔ statement.Denies identity query :=
  and_congr_left fun _ => matches_madeBy_iff

theorem allows_madeBy_iff {identity : Option Identity} {who : Identity} :
    statement.Allows identity (query.madeBy who) ↔ statement.Allows identity query :=
  and_congr_left fun _ => matches_madeBy_iff

/-- What a statement allows to the part of an identity, it allows to the whole. -/
theorem Allows.of_partOf (hallows : statement.Allows (some part) query)
    (hpart : part.PartOf whole) : statement.Allows (some whole) query := by
  obtain ⟨⟨hsubject, hconditions⟩, hgrants⟩ := hallows
  exact ⟨⟨hsubject, fun entry hentry => hpart.meets (hconditions entry hentry)⟩, hgrants⟩

/-- The only attribute of the actor that a role's statement demands is the identifier. -/
theorem IsGranted.eq_id_of_placeholder (hgranted : statement.IsGranted) {which : Placeholder}
    (hentry : (key, .placeholder which) ∈ statement.conditions.entries) : which = .id := by
  rcases hgranted.condition_cases hentry with ⟨text, htext | htext⟩ | ⟨known, hknown, hmem⟩
  · cases htext
  · cases htext
  · simpa [Condition.isPlain] using Meaning.isPlain_of_mem_table hknown _ hmem

/-- A statement that ceases to deny when part of the identity is left out demands an
identifier, and it is the identifier that is left out. -/
theorem IsGranted.of_denies_whole (hgranted : statement.IsGranted)
    (hlookup : ∀ key, query.context.lookup? key (some part) =
      query.context.lookup? key (some whole))
    (hpart : part.PartOf whole) (hdenies : statement.Denies (some whole) query)
    (hfree : ¬ statement.Denies (some part) query) :
    part.id = none ∧ whole.id ≠ none ∧
      ∃ key, (key, .placeholder .id) ∈ statement.conditions.entries := by
  obtain ⟨⟨hsubject, hconditions⟩, hforbids⟩ := hdenies
  -- Some condition that the whole meets is not met by the part.
  have hmissed : ∃ entry ∈ statement.conditions.entries,
      ¬ query.context.Meets (some part) entry := by
    by_contra hnone
    refine hfree ⟨⟨hsubject, fun entry hentry => ?_⟩, hforbids⟩
    by_contra hmiss
    exact hnone ⟨entry, hentry, hmiss⟩
  obtain ⟨⟨key, condition⟩, hentry, hmiss⟩ := hmissed
  obtain ⟨demanded, actual, hdemanded, hactual, hsame⟩ := hconditions _ hentry
  -- The attribute is the same, so what the condition demands of the part is not.
  have hdemand : condition.demanded (some part) ≠ .ok demanded := by
    intro hpartDemands
    exact hmiss ⟨demanded, actual, hpartDemands, (hlookup key).trans hactual, hsame⟩
  cases condition with
  | literal => exact absurd hdemanded hdemand
  | placeholder which =>
      obtain rfl := hgranted.eq_id_of_placeholder hentry
      rcases hpart.id with hsameId | hnone
      · refine absurd ?_ hdemand
        rw [← hdemanded]
        simp only [Condition.demanded, Identity.resolve?, Option.bind_some, hsameId]
      · refine ⟨hnone, ?_, key, hentry⟩
        intro hwhole
        simp [Condition.demanded, Identity.resolve?, hwhole] at hdemanded

end Statement

/-! ### Policies -/

namespace Authorizer

variable {authorizer : Authorizer} {actor : Actor} {policy : Policy}

/-- **What is won by leaving out part of an identity.**  Let a resolved policy allow a
query to the part of an identity.  It denies the same query to the whole exactly when the
identifier is left out and a merged statement that demands it denies the query to the
whole. -/
theorem can_whole_eq_false_iff (hresolve : (authorizer.resolve actor).result = .ok policy)
    (hpart : part.PartOf whole) :
    ∃ roles merged, (authorizer.mergedStatements actor).result = .ok (roles, merged) ∧
      ∀ query : Query, (policy.can (query.madeBy part)).value = true →
        ((policy.can (query.madeBy whole)).value = false ↔
          part.id = none ∧ whole.id ≠ none ∧ ∃ statement ∈ merged,
            (∃ key, (key, .placeholder .id) ∈ statement.conditions.entries) ∧
              statement.Denies (some whole) query) := by
  obtain ⟨roles, merged, hmerged, hanswers⟩ := can_resolve_eq_true_iff hresolve
  refine ⟨roles, merged, hmerged, fun query hcan => ?_⟩
  obtain ⟨⟨allowing, hallowing, hallows⟩, hfree⟩ := (hanswers _).mp hcan
  have hallows : allowing.Allows (some part) query := Statement.allows_madeBy_iff.mp hallows
  have hwhole : allowing.Allows (some whole) query := hallows.of_partOf hpart
  -- What allows the query asks for a domain and a department, so the part lends both.
  have hlookup : ∀ key, query.context.lookup? key (some part) =
      query.context.lookup? key (some whole) := by
    obtain ⟨role, path, level, rfl⟩ := isGranted_of_mem_merged hmerged hallowing
    obtain ⟨hdomain, hdepartment⟩ := Statement.lookup?_of_meets_ofGrant hallows.1.conditions
    exact hpart.lookup?_eq hdomain hdepartment
  rw [← Bool.not_eq_true, hanswers]
  constructor
  · intro hdenied
    -- The whole is allowed whatever the part is, so something denies the query to the whole only.
    obtain ⟨denying, hdenying, hdenies⟩ :
        ∃ denying ∈ merged, denying.Denies (some whole) query := by
      by_contra hnone
      refine hdenied ⟨⟨allowing, hallowing, Statement.allows_madeBy_iff.mpr hwhole⟩, ?_⟩
      intro statement hstatement hdenies
      exact hnone ⟨statement, hstatement, Statement.denies_madeBy_iff.mp hdenies⟩
    have hceases : ¬ denying.Denies (some part) query := by
      intro hdenies
      exact hfree denying hdenying (Statement.denies_madeBy_iff.mpr hdenies)
    have hgranted := isGranted_of_mem_merged hmerged hdenying
    obtain ⟨hleft, hknown, hdemands⟩ := hgranted.of_denies_whole hlookup hpart hdenies hceases
    exact ⟨hleft, hknown, denying, hdenying, hdemands, hdenies⟩
  · rintro ⟨_, _, denying, hdenying, _, hdenies⟩ ⟨_, hnone⟩
    exact hnone denying hdenying (Statement.denies_madeBy_iff.mpr hdenies)

end Authorizer

/-! ### The lead without an identifier -/

namespace Sample

/-- What is known about the actor but for the identifier. -/
def anonymous : Identity := { Identity.ofActor actor with id := none }

theorem partOf_anonymous : anonymous.PartOf (.ofActor actor) :=
  ⟨Or.inr rfl, Or.inl rfl, Or.inl rfl, Or.inl rfl⟩

end Sample

/-- The lead may delete the actor's own tasks if it does not say whose they are, and what
denies this to the actor is a statement that demands the identifier. -/
theorem lead_deletes_without_identifier :
    ∃ policy, (Authorizer.resolve ⟨Sample.directory.store, true⟩ Sample.actor).result = .ok policy ∧
      (policy.can ((Sample.ownTask .delete).madeBy Sample.anonymous)).value = true ∧
      ∃ roles merged, (Authorizer.mergedStatements ⟨Sample.directory.store, true⟩
          Sample.actor).result = .ok (roles, merged) ∧
        ((policy.can ((Sample.ownTask .delete).madeBy (.ofActor Sample.actor))).value = false ↔
          Sample.anonymous.id = none ∧ (Identity.ofActor Sample.actor).id ≠ none ∧
            ∃ statement ∈ merged,
              (∃ key, (key, .placeholder .id) ∈ statement.conditions.entries) ∧
                statement.Denies (some (.ofActor Sample.actor)) (Sample.ownTask .delete)) := by
  obtain ⟨policy, hresolve, hcan⟩ := Authorizer.permits_eq_true_iff.mp
    (show Authorizer.permits ⟨Sample.directory.store, true⟩ Sample.actor
      ((Sample.ownTask .delete).madeBy Sample.anonymous) = true by decide +kernel)
  obtain ⟨roles, merged, hmerged, hiff⟩ :=
    Authorizer.can_whole_eq_false_iff hresolve Sample.partOf_anonymous
  exact ⟨policy, hresolve, hcan, roles, merged, hmerged, hiff _ hcan⟩

/-- To leave out part of an identity can win a right: the lead, which only looks at the
actor's own tasks, deletes them for somebody without an identifier. -/
theorem not_forall_can_eq_false_of_partOf :
    ¬ ∀ (directory : Directory) (strict : Bool) (actor : Actor) (policy : Policy)
        (part whole : Identity) (query : Query),
      (Authorizer.resolve ⟨directory.store, strict⟩ actor).result = .ok policy →
      part.PartOf whole → (policy.can (query.madeBy whole)).value = false →
      (policy.can (query.madeBy part)).value = false := by
  intro hall
  have hpart : Authorizer.permits ⟨Sample.directory.store, true⟩ Sample.actor
      ((Sample.ownTask .delete).madeBy Sample.anonymous) = true := by
    decide +kernel
  have hwhole : Authorizer.permits ⟨Sample.directory.store, true⟩ Sample.actor
      ((Sample.ownTask .delete).madeBy (.ofActor Sample.actor)) = false := by
    decide +kernel
  obtain ⟨policy, hresolve, hcan⟩ := Authorizer.permits_eq_true_iff.mp hpart
  have hdenied : (policy.can ((Sample.ownTask .delete).madeBy (.ofActor Sample.actor))).value =
      false := by
    rw [← Bool.not_eq_true]
    intro hallowed
    rw [Authorizer.permits_eq_true_iff.mpr ⟨policy, hresolve, hallowed⟩] at hwhole
    contradiction
  rw [hall _ _ _ policy _ _ _ hresolve Sample.partOf_anonymous hdenied] at hcan
  contradiction

end Identity

/-! ## The same assignments -/

/-! ### Queries in the name of an identity -/

namespace Policy

variable {policy other : Policy} {query : Query} {who : Identity}

/-- **Asking in the name of another.**  Of two policies with the same rules, the one answers
and reports in the name of the actor of the other what the other does by itself. -/
theorem can_madeBy_eq (hrules : other.rules = policy.rules) (hactor : other.actor = some who)
    (hnobody : query.context.actor = none) :
    policy.can (query.madeBy who) = other.can query := by
  have hown : other.identity query.context = some who := by
    rw [identity, hnobody, hactor]
    rfl
  have hnamed : policy.identity (query.madeBy who).context = some who := rfl
  rw [can, can, hown, hnamed, hrules]
  -- Once it is settled for whom a query is answered, it does not matter who brought it: both
  -- queries are about one resource.
  apply answerFrom_congr
  · rfl
  · intro rule _ key _
    exact .of_eq rfl

end Policy

/-! ### Actors with the same assignments -/

/-- Two actors have the same roles and the same groups.  They may differ in all that is known
about them otherwise. -/
structure Actor.SameAssignments (actor other : Actor) : Prop where
  roleIds : other.roleIds = actor.roleIds
  groupIds : other.groupIds = actor.groupIds

variable {authorizer : Authorizer} {actor other : Actor} {policy : Policy}

/-- A store is asked for the assigned records and for nothing else of the actor. -/
theorem Store.result_effectiveRoles_of_assignments (store : Store)
    (hsame : actor.SameAssignments other) :
    (store.effectiveRoles other).result = (store.effectiveRoles actor).result := by
  unfold effectiveRoles
  rw [hsame.roleIds, hsame.groupIds]
  by_cases hnone : (actor.roleIds.isEmpty && actor.groupIds.isEmpty) = true
  · rw [if_pos hnone, if_pos hnone]
  · -- The events name the actor, but the results do not.
    rw [if_neg hnone, if_neg hnone]
    simp only [Outcome.result_bind, Outcome.result_liftM]

namespace Authorizer

/-- The policy that the other actor gets differs in the actor only. -/
theorem result_resolve_of_assignments (hsame : actor.SameAssignments other)
    (hresolve : (authorizer.resolve actor).result = .ok policy) :
    (authorizer.resolve other).result = .ok { policy with actor := some (.ofActor other) } := by
  obtain ⟨roles, merged, hmerged, rfl⟩ := result_resolve_eq_ok hresolve
  obtain ⟨hroles, rfl⟩ := result_mergedStatements_eq_ok hmerged
  have hothers : (authorizer.store.effectiveRoles other).result = .ok roles :=
    (authorizer.store.result_effectiveRoles_of_assignments hsame).trans hroles
  -- Whether a leaf is refused is decided by the roles, which are the same.
  rw [result_resolve hroles, unlessRefused_eq_ok_iff] at hresolve
  rw [result_resolve hothers, unlessRefused_eq_ok_iff]
  exact ⟨hresolve.1, rfl⟩

/-- **One policy for all who have the same assignments.**  If one actor gets a policy, so does
every other with the same roles and groups.  Both policies have the same rules.  Whoever
asks without an identity of its own gets from the first policy, in the name of the other
actor, what the other's policy answers, with the same events. -/
theorem same_policy_of_assignments (hsame : actor.SameAssignments other)
    (hresolve : (authorizer.resolve actor).result = .ok policy) :
    ∃ further, (authorizer.resolve other).result = .ok further ∧
      further.rules = policy.rules ∧
      ∀ query : Query, query.context.actor = none →
        policy.can (query.madeBy (.ofActor other)) = further.can query := by
  refine ⟨_, result_resolve_of_assignments hsame hresolve, rfl, ?_⟩
  intro query hnobody
  exact Policy.can_madeBy_eq rfl rfl hnobody

end Authorizer

/-! ### Two leads -/

namespace Sample

/-- Somebody of another organization who is assigned the same role. -/
def colleague : Actor where
  id := uuid ⟨8, by decide⟩
  email := "b@globex.test"
  domain := "globex"
  department := "sales"
  roleIds := [lead.id]
  groupIds := []

/-- What may be done to a task of the role's organization. -/
def legalTask (action : Action) : Query :=
  ⟨action, .task, .ofAttributes
    (Dict.ofList [("domain", .str lead.domain), ("department", .str lead.department)])⟩

end Sample

/-- The policy of the actor, asked in the name of the colleague, lets the colleague manage a
task of the role's organization, as the colleague's own policy does. -/
theorem colleague_asks_policy_of_actor :
    ∃ policy further,
      (Authorizer.resolve ⟨Sample.directory.store, true⟩ Sample.actor).result = .ok policy ∧
      (Authorizer.resolve ⟨Sample.directory.store, true⟩ Sample.colleague).result = .ok further ∧
      further.rules = policy.rules ∧
      policy.can ((Sample.legalTask .manage).madeBy (.ofActor Sample.colleague)) =
        further.can (Sample.legalTask .manage) ∧
      (further.can (Sample.legalTask .manage)).value = true := by
  have hpermits : ∀ actor ∈ [Sample.actor, Sample.colleague], Authorizer.permits
      ⟨Sample.directory.store, true⟩ actor (Sample.legalTask .manage) = true := by
    decide +kernel
  obtain ⟨policy, hresolve, _⟩ := Authorizer.permits_eq_true_iff.mp
    (hpermits Sample.actor (by simp))
  obtain ⟨own, hown, hcan⟩ := Authorizer.permits_eq_true_iff.mp
    (hpermits Sample.colleague (by simp))
  have hsame : Sample.actor.SameAssignments Sample.colleague := ⟨rfl, rfl⟩
  obtain ⟨further, hother, hrules, hanswers⟩ := Authorizer.same_policy_of_assignments hsame hresolve
  obtain rfl : own = further := Except.ok.inj (hown.symm.trans hother)
  exact ⟨policy, own, hresolve, hother, hrules, hanswers _ rfl, hcan⟩

end Entitlement
