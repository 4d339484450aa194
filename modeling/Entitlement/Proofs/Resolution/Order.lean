import Entitlement.Proofs.Resolution.EffectiveRoles
import Entitlement.Proofs.Resolution.Provenance
import Entitlement.Proofs.Statement.Overlap
import Mathlib.Data.List.Forall2

/-!
# The order in which roles are assigned

An actor names its roles and groups in some order, and a group names its roles.  Most of what
depends on these orders is lost on the way to the answers of the actor's policy.

* **Roles.**  The effective roles are the same (`Directory.Reordered.mem_effectiveRoles`), and so
  are the statements that they make, in whatever order.
* **Merging.**  Each key is held at the same level, though perhaps by another statement
  (`Statement.exists_overlaps_of_mem_merge`), and equal keys are equal rights.  Denials reach
  every field, so they are the same ones (`Statement.not_denies_of_mem_iff`).
* **Fields.**  Of several statements with one key at the highest level the first is kept, and
  these may differ in their fields.  They seldom do: for every right but those on reviews the
  key decides the fields (`Statement.Overlaps.fields_eq`).  A right on reviews can be held on
  every field or on the comments alone.

What remains is `Statement.NarrowedToComments`.  The query is about another field of a review
than the comments, and nothing denies it; one order keeps on every field what the other one keeps
on the comments, and there no other statement allows the query.  This is exact.  Where two
answers differ it holds in one of the two directions (`Policy.narrowedToComments_of_can`), and
where it holds the answers do differ (`Policy.can_of_narrowedToComments`).
`Authorizer.can_eq_iff_of_reordered` puts both together.
-/

namespace Entitlement

/-! ## Records in another order -/

/-- The same actor with its roles and groups in another order. -/
structure Actor.Reordered (actor other : Actor) : Prop where
  id : actor.id = other.id
  email : actor.email = other.email
  domain : actor.domain = other.domain
  department : actor.department = other.department
  roleIds : actor.roleIds.Perm other.roleIds
  groupIds : actor.groupIds.Perm other.groupIds

/-- The same group with its roles in another order. -/
structure Group.Reordered (group other : Group) : Prop where
  id : group.id = other.id
  roleIds : group.roleIds.Perm other.roleIds
  userIds : group.userIds = other.userIds

/-- The same records but for the order of the roles of groups. -/
structure Directory.Reordered (directory other : Directory) : Prop where
  roles : directory.roles = other.roles
  groups : List.Forall₂ Group.Reordered directory.groups other.groups
  actors : directory.actors = other.actors

variable {directory directory' : Directory} {actor actor' : Actor} {role : Role}
  {roles roles' : List Role} {id : Uuid}

theorem Actor.Reordered.symm (hactor : actor.Reordered actor') : actor'.Reordered actor :=
  ⟨hactor.id.symm, hactor.email.symm, hactor.domain.symm, hactor.department.symm,
    hactor.roleIds.symm, hactor.groupIds.symm⟩

theorem Group.Reordered.symm {group group' : Group} (hgroup : group.Reordered group') :
    group'.Reordered group :=
  ⟨hgroup.id.symm, hgroup.roleIds.symm, hgroup.userIds.symm⟩

theorem Directory.Reordered.symm (hdirectory : directory.Reordered directory') :
    directory'.Reordered directory where
  roles := hdirectory.roles.symm
  groups := List.Forall₂.flip (hdirectory.groups.imp fun _ _ => Group.Reordered.symm)
  actors := hdirectory.actors.symm

theorem Actor.Reordered.ofActor_eq (hactor : actor.Reordered actor') :
    Identity.ofActor actor = Identity.ofActor actor' := by
  rw [Identity.ofActor, Identity.ofActor, hactor.id, hactor.email, hactor.domain,
    hactor.department]

/-! ## Effective roles -/

namespace Directory

theorem exists_find?_of_reordered {groups groups' : List Group}
    (hgroups : List.Forall₂ Group.Reordered groups groups') {group : Group}
    (hgroup : groups.find? (·.id == id) = some group) :
    ∃ group', groups'.find? (·.id == id) = some group' ∧ group.Reordered group' := by
  induction hgroups with
  | nil => contradiction
  | @cons first first' rest rest' hfirst _ ih =>
      rw [List.find?_cons] at hgroup ⊢
      rw [← hfirst.id]
      cases hid : first.id == id with
      | true =>
          rw [hid] at hgroup
          obtain rfl := Option.some.inj hgroup
          exact ⟨first', rfl, hfirst⟩
      | false =>
          rw [hid] at hgroup
          exact ih hgroup

theorem Reordered.mem_roleIdsOfGroups (hdirectory : directory.Reordered directory')
    (hactor : actor.Reordered actor') (hid : id ∈ directory.roleIdsOfGroups actor) :
    id ∈ directory'.roleIdsOfGroups actor' := by
  obtain ⟨group, hgroup, hid⟩ := List.mem_flatMap.mp hid
  obtain ⟨groupId, hgroupId, hfound⟩ := List.mem_filterMap.mp hgroup
  obtain ⟨group', hfound', hreordered⟩ := exists_find?_of_reordered hdirectory.groups hfound
  refine List.mem_flatMap.mpr ⟨group', ?_, hreordered.roleIds.mem_iff.mp hid⟩
  exact List.mem_filterMap.mpr ⟨groupId, hactor.groupIds.mem_iff.mp hgroupId, hfound'⟩

theorem Reordered.mem_effectiveRoles (hdirectory : directory.Reordered directory')
    (hactor : actor.Reordered actor')
    (hroles : (directory.store.effectiveRoles actor).result = .ok roles)
    (hroles' : (directory'.store.effectiveRoles actor').result = .ok roles')
    (hrole : role ∈ roles) : role ∈ roles' := by
  rw [mem_effectiveRoles_iff hroles] at hrole
  rw [mem_effectiveRoles_iff hroles']
  obtain ⟨hfound, hassigned⟩ := hrole
  constructor
  · rw [role?, ← hdirectory.roles]
    exact hfound
  · rcases hassigned with hdirect | hgroup
    · exact Or.inl (hactor.roleIds.mem_iff.mp hdirect)
    · exact Or.inr (hdirectory.mem_roleIdsOfGroups hactor hgroup)

end Directory

/-! ## What each order keeps -/

namespace Statement

variable {statements reordered kept other : List Statement} {statement : Statement}
  {identity : Option Identity} {query : Query}

/-- A query about a review is allowed by what one order keeps and not by what another one
keeps.  It names a field that is not the comments, and nothing denies it.  One right that grants
the action is kept on every field in the one order and, with its key and its level, on the
comments in the other; and there every right that grants the action is one on the comments. -/
structure NarrowedToComments (identity : Option Identity) (query : Query)
    (kept other : List Statement) : Prop where
  subject : query.subject = .review
  field : ∃ named, query.context.field = some named ∧ named ≠ "comments"
  undenied : ∀ statement ∈ kept, ¬ statement.Denies identity query
  tied : ∃ statement ∈ kept, ∃ counterpart ∈ other,
    statement.key = counterpart.key ∧ statement.level = counterpart.level ∧
      statement.fields = none ∧ counterpart.fields = some ["comments"] ∧
      statement.Matches identity query ∧ statement.Grants query.action
  confined : ∀ counterpart ∈ other, counterpart.Matches identity query →
    counterpart.Grants query.action → counterpart.fields = some ["comments"]

/-- What is kept in another order has, for each statement, one about the same right with the
same level. -/
theorem exists_overlaps_of_mem_merge (hgranted : ∀ statement ∈ statements, statement.IsGranted)
    (hsame : ∀ statement, statement ∈ statements ↔ statement ∈ reordered)
    (hstatement : statement ∈ (merge statements).value) :
    ∃ counterpart ∈ (merge reordered).value, statement.Overlaps counterpart ∧
      statement.key = counterpart.key ∧ statement.level = counterpart.level := by
  obtain ⟨counterpart, hcounterpart, hkey, hlevel⟩ :=
    exists_mem_merge_of_mem_iff hsame hstatement
  have hgrantedStatement := hgranted statement (mem_of_mem_merge hstatement)
  have hgrantedCounterpart :=
    hgranted counterpart ((hsame counterpart).mpr (mem_of_mem_merge hcounterpart))
  exact ⟨counterpart, hcounterpart,
    hgrantedStatement.overlaps_of_key_eq hgrantedCounterpart hkey.symm, hkey.symm, hlevel.symm⟩

/-- What nothing denies in one order, nothing denies in another. -/
theorem not_denies_of_mem_iff (hgranted : ∀ statement ∈ statements, statement.IsGranted)
    (hsame : ∀ statement, statement ∈ statements ↔ statement ∈ reordered)
    (hfree : ∀ statement ∈ (merge statements).value, ¬ statement.Denies identity query) :
    ∀ counterpart ∈ (merge reordered).value, ¬ counterpart.Denies identity query := by
  intro counterpart hcounterpart hdenies
  have hgranted' : ∀ counterpart ∈ reordered, counterpart.IsGranted := by
    intro counterpart hcounterpart
    exact hgranted counterpart ((hsame counterpart).mpr hcounterpart)
  obtain ⟨statement, hstatement, hoverlaps, -, hlevel⟩ :=
    exists_overlaps_of_mem_merge hgranted' (fun statement => (hsame statement).symm) hcounterpart
  have hsymm : statement.Overlaps counterpart :=
    ⟨hoverlaps.subject.symm, hoverlaps.action.symm, hoverlaps.conditions.symm⟩
  exact hfree statement hstatement (hsymm.denies_of_level_eq hlevel.symm hdenies)

end Statement

/-! ## Policies -/

namespace Policy

open Statement

variable {statements reordered : List Statement} {identity : Option Identity} {query : Query}

/-- A query that what is kept in one order allows and what is kept in another does not is one
about a review whose right was narrowed to the comments. -/
theorem narrowedToComments_of_can
    (hgranted : ∀ statement ∈ statements, statement.IsGranted)
    (hsame : ∀ statement, statement ∈ statements ↔ statement ∈ reordered)
    (hcan : ((compile (merge statements).value identity).value.can query).value = true)
    (hcannot : ((compile (merge reordered).value identity).value.can query).value = false) :
    NarrowedToComments (query.context.actor.or identity) query (merge statements).value
      (merge reordered).value := by
  obtain ⟨⟨allowing, hallowing, hallows⟩, hfree⟩ := can_compile_eq_true_iff.mp hcan
  -- Nothing denies the query in the other order either, so nothing there allows it.
  have hnone : ∀ counterpart ∈ (merge reordered).value,
      ¬ counterpart.Allows (query.context.actor.or identity) query := by
    intro counterpart hcounterpart hallows
    rw [← Bool.not_eq_true, can_compile_eq_true_iff] at hcannot
    exact hcannot ⟨⟨counterpart, hcounterpart, hallows⟩,
      not_denies_of_mem_iff hgranted hsame hfree⟩
  have hgrantedAllowing := hgranted allowing (mem_of_mem_merge hallowing)
  have hsubject := hgrantedAllowing.subject_eq_of_matches hallows.1
  obtain ⟨counterpart, hcounterpart, hoverlaps, hkey, hlevel⟩ :=
    exists_overlaps_of_mem_merge hgranted hsame hallowing
  have hgranted' : ∀ counterpart ∈ (merge reordered).value, counterpart.IsGranted := by
    intro counterpart hcounterpart
    exact hgranted counterpart ((hsame counterpart).mpr (mem_of_mem_merge hcounterpart))
  -- The one that is kept instead grants as much, so it can only fail for its fields.
  have hdiffer := hoverlaps.fields_ne hlevel hallows (hnone counterpart hcounterpart)
  have hreview : allowing.subject = .review := by
    by_contra hother
    exact hdiffer (hoverlaps.fields_eq hgrantedAllowing (hgranted' counterpart hcounterpart) hother)
  -- And so does every other one that grants the action.
  have hshut : ∀ counterpart ∈ (merge reordered).value,
      counterpart.Matches (query.context.actor.or identity) query →
        counterpart.Grants query.action → counterpart.fields = some ["comments"] ∧
          ∃ named, query.context.field = some named ∧ named ≠ "comments" := by
    intro counterpart hcounterpart hmatches hgrants
    have hgrantedCounterpart := hgranted' counterpart hcounterpart
    have hreview : counterpart.subject = .review := by
      rw [hgrantedCounterpart.subject_eq_of_matches hmatches, ← hsubject, hreview]
    exact hgrantedCounterpart.fields_of_not_allows hreview hmatches hgrants
      (hnone counterpart hcounterpart)
  obtain ⟨hcomments, hfield⟩ := hshut counterpart hcounterpart
    (hoverlaps.matches_iff.mp hallows.1) (hoverlaps.grants_of_le (le_of_eq hlevel) hallows.grants)
  have hwhole : allowing.fields = none := by
    refine (hgrantedAllowing.fields_of_review hreview).resolve_right fun hsome => hdiffer ?_
    rw [hsome, hcomments]
  exact ⟨hsubject.symm.trans hreview, hfield, hfree, ⟨allowing, hallowing, counterpart,
    hcounterpart, hkey, hlevel, hwhole, hcomments, hallows.1, hallows.grants⟩,
    fun counterpart hcounterpart hmatches hgrants =>
      (hshut counterpart hcounterpart hmatches hgrants).1⟩

/-- What is narrowed to the comments is allowed before and not after. -/
theorem can_of_narrowedToComments {kept other : List Statement}
    (hother : ∀ counterpart ∈ other, counterpart.IsGranted)
    (hnarrowed : NarrowedToComments (query.context.actor.or identity) query kept other) :
    ((compile kept identity).value.can query).value = true ∧
      ((compile other identity).value.can query).value = false := by
  obtain ⟨hsubject, hfield, hundenied, htied, hconfined⟩ := hnarrowed
  constructor
  · obtain ⟨statement, hstatement, _, _, _, _, hwhole, _, hmatches, hgrants⟩ := htied
    have hopen : statement.OpenTo query.context.field := by
      rw [openTo_iff]
      exact Or.inr (Or.inl hwhole)
    exact can_compile_eq_true_iff.mpr
      ⟨⟨statement, hstatement, hmatches, Or.inl ⟨hgrants, hopen⟩⟩, hundenied⟩
  · rw [← Bool.not_eq_true, can_compile_eq_true_iff]
    rintro ⟨⟨counterpart, hcounterpart, hallows⟩, -⟩
    have hgranted := hother counterpart hcounterpart
    have hreview : counterpart.subject = .review :=
      (hgranted.subject_eq_of_matches hallows.1).trans hsubject
    have hcomments := hconfined counterpart hcounterpart hallows.1 hallows.grants
    rcases hallows.2 with ⟨-, hopen⟩ | ⟨-, hextra⟩
    · exact (hgranted.not_openTo_iff_of_review hreview).mpr ⟨hcomments, hfield⟩ hopen
    · -- Admin access adds no action to those on reviews.
      rw [hreview] at hextra
      exact absurd hextra List.not_mem_nil

/-- The queries that one order allows and another does not are those that are narrowed. -/
theorem narrowedToComments_iff (identity : Option Identity) (query : Query)
    (hgranted : ∀ statement ∈ statements, statement.IsGranted)
    (hsame : ∀ statement, statement ∈ statements ↔ statement ∈ reordered) :
    NarrowedToComments (query.context.actor.or identity) query (merge statements).value
        (merge reordered).value ↔
      ((compile (merge statements).value identity).value.can query).value = true ∧
        ((compile (merge reordered).value identity).value.can query).value = false := by
  constructor
  · refine can_of_narrowedToComments fun counterpart hcounterpart => ?_
    exact hgranted counterpart ((hsame counterpart).mpr (mem_of_mem_merge hcounterpart))
  · rintro ⟨hcan, hcannot⟩
    exact narrowedToComments_of_can hgranted hsame hcan hcannot

end Policy

namespace Authorizer

variable {strict strict' : Bool} {policy policy' : Policy}

/-- **The order of assignments.**  Let an actor's roles and groups, and the roles of the
groups, be given in two orders, and let both resolutions succeed.  Then the two policies
answer a query alike, unless one order keeps on every field of reviews what the other keeps on
the comments, and the query is one that hangs on it; on such a query they do differ. -/
theorem can_eq_iff_of_reordered (hdirectory : directory.Reordered directory')
    (hactor : actor.Reordered actor')
    (hresolve : (resolve ⟨directory.store, strict⟩ actor).result = .ok policy)
    (hresolve' : (resolve ⟨directory'.store, strict'⟩ actor').result = .ok policy') :
    ∃ roles merged roles' merged',
      (mergedStatements ⟨directory.store, strict⟩ actor).result = .ok (roles, merged) ∧
      (mergedStatements ⟨directory'.store, strict'⟩ actor').result = .ok (roles', merged') ∧
      ∀ query, (policy.can query).value = (policy'.can query).value ↔
        ¬ Statement.NarrowedToComments (policy.identity query.context) query merged merged' ∧
        ¬ Statement.NarrowedToComments (policy.identity query.context) query merged' merged := by
  obtain ⟨roles, merged, hmerged, rfl⟩ := result_resolve_eq_ok hresolve
  obtain ⟨roles', merged', hmerged', rfl⟩ := result_resolve_eq_ok hresolve'
  refine ⟨roles, merged, roles', merged', hmerged, hmerged', fun query => ?_⟩
  obtain ⟨hroles, rfl⟩ := result_mergedStatements_eq_ok hmerged
  obtain ⟨hroles', rfl⟩ := result_mergedStatements_eq_ok hmerged'
  have hmem : ∀ role, role ∈ roles ↔ role ∈ roles' := by
    intro role
    constructor
    · exact hdirectory.mem_effectiveRoles hactor hroles hroles'
    · exact hdirectory.symm.mem_effectiveRoles hactor.symm hroles' hroles
  have hmade : ∀ statement,
      statement ∈ (roles.flatMap fun role => role.granted role.tree.flatten) ↔
        statement ∈ roles'.flatMap fun role => role.granted role.tree.flatten := by
    intro statement
    simp only [List.mem_flatMap, hmem]
  have hforth := Policy.narrowedToComments_iff (some (.ofActor actor)) query
    (fun _ => isGranted_of_mem_made) hmade
  have hback := Policy.narrowedToComments_iff (some (.ofActor actor)) query
    (fun _ => isGranted_of_mem_made) fun statement => (hmade statement).symm
  rw [← hactor.ofActor_eq]
  refine Iff.trans ?_ (and_congr (not_congr hforth) (not_congr hback)).symm
  -- Two answers are the same when neither is yes where the other is no.
  generalize ((Policy.compile (Statement.merge
    (roles.flatMap fun role => role.granted role.tree.flatten)).value _).value.can query).value =
      answer
  generalize ((Policy.compile (Statement.merge
    (roles'.flatMap fun role => role.granted role.tree.flatten)).value _).value.can query).value =
      answer'
  cases answer <;> cases answer' <;> simp

end Authorizer

/-! ## An actor with two roles -/

namespace Sample

/-- A role that may look at reviews. -/
def reader : Role where
  id := uuid ⟨3, by decide⟩
  domain := "acme"
  department := "legal"
  roleName := "reader"
  tree := .group [("review", .group [("update", .leaf (.access .viewAccess))])]
  userIds := []
  groupIds := []

/-- A role that may look at the comments of reviews. -/
def commenter : Role where
  id := uuid ⟨4, by decide⟩
  domain := "acme"
  department := "legal"
  roleName := "commenter"
  tree := .group [("reviewWorkflow", .group [("actions", .group
    [("comment", .leaf (.access .viewAccess))])])]
  userIds := []
  groupIds := []

/-- The records of the two roles. -/
def reviewDirectory : Directory := ⟨[reader, commenter], [], []⟩

/-- The actor of the lead with other roles. -/
def actorWith (roleIds : List Uuid) : Actor := { Sample.actor with roleIds }

theorem reordered_reviewDirectory : reviewDirectory.Reordered reviewDirectory :=
  ⟨rfl, List.Forall₂.nil, rfl⟩

theorem reordered_actorWith {first second : List Uuid} (hperm : first.Perm second) :
    (actorWith first).Reordered (actorWith second) :=
  ⟨rfl, rfl, rfl, rfl, hperm, List.Perm.refl _⟩

/-- Looking at a review, or at a field of it. -/
def reviewQuery (field : Option String) : Query := ⟨.read, .review, ⟨none, ∅, field⟩⟩

end Sample

/-- Whoever may look at reviews sees the comments with the two roles in either order. -/
theorem sees_comments_in_either_order :
    ∃ policy policy', (Authorizer.resolve ⟨Sample.reviewDirectory.store, true⟩
        (Sample.actorWith [Sample.reader.id, Sample.commenter.id])).result = .ok policy ∧
      (Authorizer.resolve ⟨Sample.reviewDirectory.store, true⟩
        (Sample.actorWith [Sample.commenter.id, Sample.reader.id])).result = .ok policy' ∧
      (policy.can (Sample.reviewQuery (some "comments"))).value =
        (policy'.can (Sample.reviewQuery (some "comments"))).value := by
  obtain ⟨policy, hresolve, -⟩ := Authorizer.permits_eq_true_iff.mp
    (show Authorizer.permits ⟨Sample.reviewDirectory.store, true⟩
      (Sample.actorWith [Sample.reader.id, Sample.commenter.id])
      (Sample.reviewQuery (some "comments")) = true by decide +kernel)
  obtain ⟨policy', hresolve', -⟩ := Authorizer.permits_eq_true_iff.mp
    (show Authorizer.permits ⟨Sample.reviewDirectory.store, true⟩
      (Sample.actorWith [Sample.commenter.id, Sample.reader.id])
      (Sample.reviewQuery (some "comments")) = true by decide +kernel)
  obtain ⟨_, _, _, _, -, -, hanswers⟩ := Authorizer.can_eq_iff_of_reordered
    Sample.reordered_reviewDirectory (Sample.reordered_actorWith (List.Perm.swap ..))
    hresolve hresolve'
  refine ⟨policy, policy', hresolve, hresolve', (hanswers _).mpr ⟨?_, ?_⟩⟩
  · rintro ⟨-, ⟨named, hnamed, hne⟩, -, -, -⟩
    exact hne (Option.some.inj hnamed).symm
  · rintro ⟨-, ⟨named, hnamed, hne⟩, -, -, -⟩
    exact hne (Option.some.inj hnamed).symm

/-- The order does not count for nothing: who has both roles sees the title of a review
if the role for all fields comes first, and not if the one for the comments does. -/
theorem not_forall_can_eq_of_reordered :
    ¬ ∀ (directory directory' : Directory) (actor actor' : Actor) (strict : Bool)
        (policy policy' : Policy) (query : Query),
      directory.Reordered directory' → actor.Reordered actor' →
      (Authorizer.resolve ⟨directory.store, strict⟩ actor).result = .ok policy →
      (Authorizer.resolve ⟨directory'.store, strict⟩ actor').result = .ok policy' →
      (policy.can query).value = (policy'.can query).value := by
  intro hall
  have hfirst : Authorizer.permits ⟨Sample.reviewDirectory.store, true⟩
      (Sample.actorWith [Sample.reader.id, Sample.commenter.id])
      (Sample.reviewQuery (some "title")) = true := by
    decide +kernel
  have hsecond : Authorizer.permits ⟨Sample.reviewDirectory.store, true⟩
      (Sample.actorWith [Sample.commenter.id, Sample.reader.id])
      (Sample.reviewQuery (some "title")) = false := by
    decide +kernel
  have hresolves : Authorizer.permits ⟨Sample.reviewDirectory.store, true⟩
      (Sample.actorWith [Sample.commenter.id, Sample.reader.id])
      (Sample.reviewQuery (some "comments")) = true := by
    decide +kernel
  obtain ⟨policy, hresolve, hcan⟩ := Authorizer.permits_eq_true_iff.mp hfirst
  obtain ⟨policy', hresolve', -⟩ := Authorizer.permits_eq_true_iff.mp hresolves
  have hsame := hall _ _ _ _ true policy policy' (Sample.reviewQuery (some "title"))
    Sample.reordered_reviewDirectory (Sample.reordered_actorWith (List.Perm.swap ..))
    hresolve hresolve'
  rw [hcan] at hsame
  rw [Authorizer.permits_eq_true_iff.mpr ⟨policy', hresolve', hsame.symm⟩] at hsecond
  contradiction

end Entitlement
