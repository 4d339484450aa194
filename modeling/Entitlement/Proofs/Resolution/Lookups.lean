import Entitlement.Proofs.Resolution.Provenance
import Entitlement.Proofs.Store.Lookup

/-!
# What a resolution looks up in a database

The effective roles of an actor come by three lookups: the roles of its own record, its groups,
and the roles of these (`result_effectiveRoles`).  They deliver one role for each that the actor
reaches and that has a row (`exists_mem_effectiveRoles_iff`).  Each of the lookups can fail, and
then so does the resolution; hence one that succeeds has found every role that is reached
(`exists_roles_of_reaches`) and every group of the actor (`exists_groups_of_leads`).

Of a role a resolution takes the grants and not who else has the role, of a group the roles and
not who else is in it.  So two databases look alike to an actor when these lookups end alike in
both, with roles that make the same grants and groups that have the same roles (`SeesAlike`).
The lookups are compared one after the other, each on what the one before it delivered
(`related_effectiveRoles`), and what is resolved is the same
(`result_resolveById_of_seesAlike`), unless a lookup in the other database fails for a reason
that is excused.
-/

namespace Entitlement

/-! ## The lookups of one resolution -/

namespace Database

variable {database : Database} {id user : Uuid} {actor : Actor} {roles : List Role}

/-! ### Effective roles -/

theorem result_rolesOf (database : Database) (ids : List Uuid) :
    (database.store.rolesOf ids).result = (database.store.roles ids).result := by
  cases ids <;> rfl

theorem result_groupsOf (database : Database) (ids : List Uuid) :
    (database.store.groupsOf ids).result = (database.store.groups ids).result := by
  cases ids <;> rfl

/-- The effective roles come by three lookups, any of which may fail. -/
theorem result_effectiveRoles (database : Database) (actor : Actor) :
    (database.store.effectiveRoles actor).result = (do
      let direct ← (database.store.roles actor.roleIds).result
      let groups ← (database.store.groups actor.groupIds).result
      let viaGroups ← (database.store.roles (groups.flatMap (·.roleIds))).result
      return distinctRoles (direct ++ viaGroups)) := by
  unfold Store.effectiveRoles
  split
  · rename_i hnone
    obtain ⟨hroles, hgroups⟩ : actor.roleIds = [] ∧ actor.groupIds = [] := by
      simpa using hnone
    rw [hroles, hgroups]
    rfl
  · simp only [Outcome.result_bind_eq_bind, result_rolesOf, result_groupsOf]
    rfl

theorem result_effectiveRoles_eq_ok
    (hroles : (database.store.effectiveRoles actor).result = .ok roles) :
    ∃ direct groups viaGroups,
      (database.store.roles actor.roleIds).result = .ok direct ∧
      (database.store.groups actor.groupIds).result = .ok groups ∧
      (database.store.roles (groups.flatMap (·.roleIds))).result = .ok viaGroups ∧
      roles = distinctRoles (direct ++ viaGroups) := by
  rw [result_effectiveRoles] at hroles
  obtain ⟨direct, hdirect, hroles⟩ := bind_eq_ok.mp hroles
  obtain ⟨groups, hgroups, hroles⟩ := bind_eq_ok.mp hroles
  obtain ⟨viaGroups, hviaGroups, hroles⟩ := bind_eq_ok.mp hroles
  exact ⟨direct, groups, viaGroups, hdirect, hgroups, hviaGroups, (Except.ok.inj hroles).symm⟩

/-- The effective roles of an actor are the roles that it reaches, as far as they have rows. -/
theorem exists_mem_effectiveRoles_iff
    (hactor : (database.store.actor user).result = .ok (some actor))
    (hroles : (database.store.effectiveRoles actor).result = .ok roles) :
    (∃ held ∈ roles, held.id = id) ↔
      database.Reaches user id ∧ ∃ row ∈ database.roles, row.cell "id" = .text id.text := by
  obtain ⟨direct, groups, viaGroups, hdirect, hgroups, hviaGroups, rfl⟩ :=
    result_effectiveRoles_eq_ok hroles
  have hkept : (∃ held ∈ distinctRoles (direct ++ viaGroups), held.id = id) ↔
      id ∈ direct.map (·.id) ∨ id ∈ viaGroups.map (·.id) := by
    rw [← List.mem_append, ← List.map_append, List.mem_map]
    constructor
    · rintro ⟨held, hheld, rfl⟩
      exact ⟨held, mem_of_mem_distinctFrom hheld, rfl⟩
    · rintro ⟨held, hheld, rfl⟩
      exact exists_mem_distinctFrom hheld List.not_mem_nil
  have hfound : ∀ {ids roles}, (database.store.roles ids).result = .ok roles →
      (id ∈ roles.map (·.id) ↔
        id ∈ ids ∧ ∃ row ∈ database.roles, row.cell "id" = .text id.text) := by
    intro ids roles hroles
    rw [result_roles] at hroles
    show id ∈ roles.map database.roleLookup.key ↔ _
    rw [Lookup.map_key_of_result hroles, List.mem_filter, mem_distinct_iff, isSome_rowOf?_iff]
    exact Iff.rfl
  rw [hkept, hfound hdirect, hfound hviaGroups, ← or_and_right, ← reaches_iff hactor hgroups]

/-- Who has a row is found, unless the lookup fails. -/
theorem result_actor_ne_none (hknown : ∃ row ∈ database.users, row.cell "id" = .text user.text) :
    (database.store.actor user).result ≠ .ok none := by
  intro hnone
  have hread : database.readActor user = .ok none := hnone
  obtain ⟨row, hrow⟩ := Option.isSome_iff_exists.mp (isSome_rowOf?_iff.mpr hknown)
  rw [readActor_of_rowOf? hrow] at hread
  obtain ⟨email, _, hread⟩ := bind_eq_ok.mp hread
  obtain ⟨domain, _, hread⟩ := bind_eq_ok.mp hread
  obtain ⟨department, _, hread⟩ := bind_eq_ok.mp hread
  obtain ⟨links, _, hread⟩ := bind_eq_ok.mp hread
  obtain ⟨members, _, hread⟩ := bind_eq_ok.mp hread
  exact Option.some_ne_none _ (Except.ok.inj hread)

theorem result_actor_of_none (hnone : ¬ ∃ row ∈ database.users, row.cell "id" = .text user.text) :
    (database.store.actor user).result = .ok none := by
  refine readActor_of_none ?_
  rw [← Option.not_isSome_iff_eq_none, isSome_rowOf?_iff]
  exact hnone

end Database

/-! ### Resolutions that succeed -/

namespace Authorizer

open Database

variable {database : Database} {user role group : Uuid} {actor : Actor} {policy : Policy}
  {strict : Bool}

theorem result_resolve_eq_error {store : Store} {error : Error}
    (hroles : (store.effectiveRoles actor).result = .error error) :
    (resolve ⟨store, strict⟩ actor).result = .error error := by
  rw [resolve, Outcome.result_bind, mergedStatements, Outcome.result_bind, hroles]

section Success

variable (hpolicy : (resolveById ⟨database.store, strict⟩ user).result = .ok policy)
  (hknown : ∃ row ∈ database.users, row.cell "id" = .text user.text)
include hpolicy hknown

/-- A resolution that succeeds has found the actor and its effective roles. -/
theorem exists_effectiveRoles_of_resolveById :
    ∃ actor roles, (database.store.actor user).result = .ok (some actor) ∧
      (database.store.effectiveRoles actor).result = .ok roles ∧
      (resolve ⟨database.store, strict⟩ actor).result = .ok policy := by
  obtain ⟨found, hactor, hresolve⟩ := Outcome.result_bind_eq_ok.mp hpolicy
  cases found with
  | none => exact absurd hactor (result_actor_ne_none hknown)
  | some actor =>
      obtain ⟨roles, _, hmerged, _⟩ := result_resolve_eq_ok hresolve
      exact ⟨actor, roles, hactor, (result_mergedStatements_eq_ok hmerged).1, hresolve⟩

/-- Every role that is reached is among those of a lookup that succeeds. -/
theorem exists_roles_of_reaches (hreaches : database.Reaches user role) :
    ∃ ids roles, role ∈ ids ∧ (database.store.roles ids).result = .ok roles := by
  obtain ⟨actor, roles, hactor, hroles, _⟩ := exists_effectiveRoles_of_resolveById hpolicy hknown
  obtain ⟨direct, groups, viaGroups, hdirect, hgroups, hviaGroups, _⟩ :=
    result_effectiveRoles_eq_ok hroles
  rcases (reaches_iff hactor hgroups).mp hreaches with hown | hshared
  · exact ⟨_, _, hown, hdirect⟩
  · exact ⟨_, _, hshared, hviaGroups⟩

/-- Every group of the actor is among those of a lookup that succeeds. -/
theorem exists_groups_of_leads
    (hmember : Leads database.groupMembers "user_id" "group_id" user group) :
    ∃ ids groups, group ∈ ids ∧ (database.store.groups ids).result = .ok groups := by
  obtain ⟨actor, roles, hactor, hroles, _⟩ := exists_effectiveRoles_of_resolveById hpolicy hknown
  obtain ⟨direct, groups, viaGroups, _, hgroups, _⟩ := result_effectiveRoles_eq_ok hroles
  obtain ⟨_, _, hgroupIds⟩ := of_result_actor hactor
  exact ⟨_, _, (mem_iff_leads hgroupIds).mpr hmember, hgroups⟩

end Success

end Authorizer

/-! ## Databases that look alike to an actor -/

/-! ### Records without those who share them -/

/-- Roles that differ at most in who has them. -/
def Role.SameGrants (role other : Role) : Prop :=
  ∃ userIds groupIds, other = { role with userIds := userIds, groupIds := groupIds }

/-- Groups that differ at most in who is in them. -/
def Group.SameRoles (group other : Group) : Prop :=
  ∃ userIds, other = { group with userIds := userIds }

theorem Role.SameGrants.refl (role : Role) : role.SameGrants role := ⟨_, _, rfl⟩

theorem Group.SameRoles.refl (group : Group) : group.SameRoles group := ⟨_, rfl⟩

theorem Role.SameGrants.id_eq {role other : Role} (hsame : role.SameGrants other) :
    other.id = role.id := by
  obtain ⟨userIds, groupIds, rfl⟩ := hsame
  rfl

theorem Group.SameRoles.id_eq {group other : Group} (hsame : group.SameRoles other) :
    other.id = group.id := by
  obtain ⟨userIds, rfl⟩ := hsame
  rfl

theorem Role.SameGrants.granted_eq {role other : Role} (hsame : role.SameGrants other) :
    other.granted other.tree.flatten = role.granted role.tree.flatten := by
  obtain ⟨userIds, groupIds, rfl⟩ := hsame
  rfl

theorem Role.SameGrants.flatten_eq {role other : Role} (hsame : role.SameGrants other) :
    other.tree.flatten = role.tree.flatten := by
  obtain ⟨userIds, groupIds, rfl⟩ := hsame
  rfl

theorem Group.SameRoles.roleIds_eq {group other : Group} (hsame : group.SameRoles other) :
    other.roleIds = group.roleIds := by
  obtain ⟨userIds, rfl⟩ := hsame
  rfl

/-- What is taken from records one after the other is the same where it is for each of them. -/
theorem flatMap_eq_of_forall₂ {α β : Type} {related : α → α → Prop} {records others : List α}
    {part : α → List β} (hpart : ∀ record other, related record other → part other = part record)
    (hrelated : List.Forall₂ related records others) :
    others.flatMap part = records.flatMap part := by
  induction hrelated with
  | nil => rfl
  | cons hfirst _ ih => rw [List.flatMap_cons, List.flatMap_cons, hpart _ _ hfirst, ih]

/-! ### Lookups that end alike -/

namespace Database

variable {database other : Database} {user : Uuid} {actor : Actor} {excused : Error → Prop}

/-- What an actor looks up is alike in two databases: its record is the same, and the roles and
the groups differ at most in who shares them, unless the failure to find them is excused. -/
structure SeesAlike (excused : Error → Prop) (user : Uuid) (database other : Database) :
    Prop where
  actor : (other.store.actor user).result = (database.store.actor user).result
  roles : ∀ ids, (∀ id ∈ ids, database.Reaches user id) →
    Related excused (List.Forall₂ Role.SameGrants) (database.store.roles ids).result
      (other.store.roles ids).result
  groups : ∀ ids, (∀ id ∈ ids, Leads database.groupMembers "user_id" "group_id" user id) →
    Related excused (List.Forall₂ Group.SameRoles) (database.store.groups ids).result
      (other.store.groups ids).result

/-- The effective roles are found alike, lookup by lookup. -/
theorem related_effectiveRoles (halike : SeesAlike excused user database other)
    (hactor : (database.store.actor user).result = .ok (some actor)) :
    Related excused (List.Forall₂ Role.SameGrants) (database.store.effectiveRoles actor).result
      (other.store.effectiveRoles actor).result := by
  obtain ⟨_, hroleIds, hgroupIds⟩ := of_result_actor hactor
  -- Each lookup asks for what the ones before it delivered, and that is the same.
  rw [result_effectiveRoles, result_effectiveRoles]
  have hdirect : ∀ id ∈ actor.roleIds, database.Reaches user id :=
    fun id hid => .direct ((mem_iff_leads hroleIds).mp hid)
  refine (halike.roles _ hdirect).bind fun direct directOther _ _ hdirectSame => ?_
  have hmember : ∀ id ∈ actor.groupIds,
      Leads database.groupMembers "user_id" "group_id" user id :=
    fun id hid => (mem_iff_leads hgroupIds).mp hid
  refine (halike.groups _ hmember).bind fun groups groupsOther hgroups _ hgroupsSame => ?_
  rw [flatMap_eq_of_forall₂ (fun _ _ hsame => hsame.roleIds_eq) hgroupsSame]
  have hshared : ∀ id ∈ groups.flatMap (·.roleIds), database.Reaches user id :=
    fun id hid => (reaches_iff hactor hgroups).mpr (Or.inr hid)
  refine (halike.roles _ hshared).bind fun viaGroups viaOther _ _ hviaSame => ?_
  have hjoined : List.Forall₂ Role.SameGrants (direct ++ viaGroups) (directOther ++ viaOther) :=
    List.rel_append hdirectSame hviaSame
  exact .ok (forall₂_distinctFrom (fun _ _ hsame => hsame.id_eq) hjoined [])

end Database

/-! ### What is resolved -/

namespace Authorizer

variable {database other : Database} {user : Uuid} {actor : Actor} {strict : Bool}
  {excused : Error → Prop}

/-- A resolution finds the effective roles and then reads what they grant. -/
theorem result_resolve_eq_bind (store : Store) :
    (resolve ⟨store, strict⟩ actor).result = (store.effectiveRoles actor).result >>= fun roles =>
      unlessRefused strict (roles.flatMap fun role => role.tree.flatten)
        (Policy.compile (Statement.merge
          (roles.flatMap fun role => role.granted role.tree.flatten)).value
          (some (.ofActor actor))).value := by
  cases hroles : (store.effectiveRoles actor).result with
  | ok roles => exact @result_resolve ⟨store, strict⟩ actor roles hroles
  | error error => exact result_resolve_eq_error hroles

theorem related_resolve
    (hroles : Related excused (List.Forall₂ Role.SameGrants)
      (database.store.effectiveRoles actor).result (other.store.effectiveRoles actor).result) :
    Related excused Eq (resolve ⟨database.store, strict⟩ actor).result
      (resolve ⟨other.store, strict⟩ actor).result := by
  rw [result_resolve_eq_bind, result_resolve_eq_bind]
  refine hroles.bind fun roles others _ _ hsame => ?_
  rw [flatMap_eq_of_forall₂ (fun _ _ hrole => hrole.flatten_eq) hsame,
    flatMap_eq_of_forall₂ (fun _ _ hrole => hrole.granted_eq) hsame]
  exact .refl (fun _ => rfl) _

/-- **What looks alike is resolved alike**, unless the failure to find it is excused. -/
theorem result_resolveById_of_seesAlike
    (halike : Database.SeesAlike excused user database other) (strict : Bool) :
    (resolveById ⟨other.store, strict⟩ user).result =
        (resolveById ⟨database.store, strict⟩ user).result ∨
      ∃ error, excused error ∧
        (resolveById ⟨other.store, strict⟩ user).result = .error error := by
  refine Related.eq_or_excused ?_
  rw [resolveById, resolveById, Outcome.result_bind_eq_bind, Outcome.result_bind_eq_bind,
    halike.actor]
  have hsame : Related excused Eq (database.store.actor user).result
      (database.store.actor user).result := .refl (fun _ => rfl) _
  refine hsame.bind fun found held hactor _ heq => ?_
  subst heq
  cases found with
  | none => exact .refl (fun _ => rfl) _
  | some actor => exact related_resolve (Database.related_effectiveRoles halike hactor)

end Authorizer

end Entitlement
