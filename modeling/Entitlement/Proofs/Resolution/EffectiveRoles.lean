import Entitlement.Proofs.Distinct
import Entitlement.Proofs.Outcome
import Entitlement.Resolution
import Mathlib.Data.List.Induction

/-!
# The effective roles of an actor

A directory finds at most one role for an identifier.  So although only the first role of each
identifier is kept, none is lost: the effective roles are the roles that the directory holds for
the identifiers which the actor has directly or through a group (`mem_effectiveRoles_iff`),
whatever the order of these identifiers.

A directory comes about by insertions, in any order and with any number of records for one
identifier; the last of them counts.  An actor names roles and groups, and the groups name roles
again, with repetitions, with identifiers of nothing, and with roles in common.  All the same,
the effective roles have one description: the stored roles that are named, each once, in the
order in which they are first named (`effectiveRoles_ofInsertions`).

Two halves are put together for that.  What a directory finds is read off the insertions
(`role?_ofInsertions`, `group?_ofInsertions`), one insertion after the other.  And roles that are
looked up along a list of identifiers, first occurrences only, stand in the order of these
identifiers (`pairwise_idxOf_distinctRoles`).
-/

namespace Entitlement

/-! ## Which roles they are -/

/-! ### Lookups in a directory -/

namespace Directory

variable {directory : Directory} {actor : Actor} {role : Role} {id : Uuid} {ids : List Uuid}

theorem id_of_role? (hrole : directory.role? id = some role) : role.id = id := by
  simpa using List.find?_some hrole

/-- The directory finds a role under its own identifier or not at all. -/
theorem mem_filterMap_role?_iff :
    role ∈ ids.filterMap directory.role? ↔
      directory.role? role.id = some role ∧ role.id ∈ ids := by
  rw [List.mem_filterMap]
  constructor
  · rintro ⟨id, hid, hrole⟩
    rw [id_of_role? hrole]
    exact ⟨hrole, hid⟩
  · rintro ⟨hrole, hid⟩
    exact ⟨role.id, hid, hrole⟩

/-- A record that takes the place of the one with its identifier is found under it, and
nothing else changes. -/
theorem find?_replaced {α : Type} {key : α → Uuid} (record : α) (records : List α) (id : Uuid) :
    (record :: records.filter (key · != key record)).find? (key · == id) =
      if id = key record then some record else records.find? (key · == id) := by
  by_cases hid : id = key record
  · rw [if_pos hid, List.find?_cons_of_pos (by simpa using hid.symm)]
  · -- The records that made way have the other identifier.
    have hkept : (fun held : α =>
        decide ((key held != key record) = true ∧ (key held == id) = true)) =
        fun held => key held == id := by
      funext held
      by_cases hheld : key held = id
      · simp [hheld, hid]
      · simp [hheld]
    rw [if_neg hid, List.find?_cons_of_neg (by simpa using Ne.symm hid), List.find?_filter, hkept]

theorem role?_insertRole (directory : Directory) (role : Role) (id : Uuid) :
    (directory.insertRole role).role? id =
      if id = role.id then some role else directory.role? id :=
  find?_replaced role directory.roles id

theorem group?_insertGroup (directory : Directory) (group : Group) (id : Uuid) :
    (directory.insertGroup group).group? id =
      if id = group.id then some group else directory.group? id :=
  find?_replaced group directory.groups id

theorem result_rolesOf (directory : Directory) (ids : List Uuid) :
    (directory.store.rolesOf ids).result = .ok (ids.filterMap directory.role?) := by
  cases ids <;> rfl

theorem result_groupsOf (directory : Directory) (ids : List Uuid) :
    (directory.store.groupsOf ids).result = .ok (ids.filterMap directory.group?) := by
  cases ids <;> rfl

/-! ### Effective roles -/

/-- The identifiers of the roles that an actor has through groups. -/
def roleIdsOfGroups (directory : Directory) (actor : Actor) : List Uuid :=
  (actor.groupIds.filterMap directory.group?).flatMap (·.roleIds)

theorem result_effectiveRoles (directory : Directory) (actor : Actor) :
    (directory.store.effectiveRoles actor).result =
      .ok (distinctRoles (actor.roleIds.filterMap directory.role? ++
        (directory.roleIdsOfGroups actor).filterMap directory.role?)) := by
  unfold Store.effectiveRoles
  split
  · rename_i hnone
    obtain ⟨hroles, hgroups⟩ : actor.roleIds = [] ∧ actor.groupIds = [] := by
      simpa using hnone
    rw [roleIdsOfGroups, hroles, hgroups]
    rfl
  · rw [Outcome.result_bind, result_rolesOf]
    simp only
    rw [Outcome.result_bind, result_groupsOf]
    simp only
    rw [Outcome.result_bind, result_rolesOf]
    rfl

/-- **Which roles count.**  The effective roles of an actor are the roles that the
directory holds for the identifiers of the actor and of the actor's groups. -/
theorem mem_effectiveRoles_iff {roles : List Role}
    (hroles : (directory.store.effectiveRoles actor).result = .ok roles) :
    role ∈ roles ↔ directory.role? role.id = some role ∧
      (role.id ∈ actor.roleIds ∨ role.id ∈ directory.roleIdsOfGroups actor) := by
  rw [result_effectiveRoles] at hroles
  rw [← Except.ok.inj hroles, distinctRoles, ← List.filterMap_append, mem_distinctBy_iff,
    mem_filterMap_role?_iff, List.mem_append]
  -- Roles with one identifier are what the directory finds for it.
  intro first hfirst second hsecond hsame
  have hfirst := (mem_filterMap_role?_iff.mp hfirst).1
  have hsecond := (mem_filterMap_role?_iff.mp hsecond).1
  rw [hsame, hsecond] at hfirst
  exact (Option.some.inj hfirst).symm

end Directory

/-! ## Their order -/

/-! ### Insertions -/

/-- A record that is put into a directory. -/
inductive Insertion where
  | role (role : Role)
  | group (group : Group)
  | actor (actor : Actor)

namespace Insertion

/-- The role that is put in, if it is one. -/
def role? : Insertion → Option Role
  | .role record => some record
  | _ => none

/-- The group that is put in, if it is one. -/
def group? : Insertion → Option Group
  | .group record => some record
  | _ => none

/-- The last of some records with an identifier. -/
def lastWith? {α : Type} (key : α → Uuid) (records : List α) (id : Uuid) : Option α :=
  records.reverse.find? (key · == id)

theorem lastWith?_concat {α : Type} (key : α → Uuid) (records : List α) (record : α) (id : Uuid) :
    lastWith? key (records ++ [record]) id =
      if id = key record then some record else lastWith? key records id := by
  unfold lastWith?
  rw [List.reverse_append, List.reverse_singleton, List.singleton_append]
  by_cases hid : id = key record
  · rw [if_pos hid, List.find?_cons_of_pos (by simpa using hid.symm)]
  · rw [if_neg hid, List.find?_cons_of_neg (by simpa using Ne.symm hid)]

end Insertion

namespace Directory

/-- The directory with a record put in. -/
def insert (directory : Directory) : Insertion → Directory
  | .role role => directory.insertRole role
  | .group group => directory.insertGroup group
  | .actor actor => directory.insertActor actor

/-- The directory that comes about by insertions. -/
def ofInsertions (insertions : List Insertion) : Directory := insertions.foldl insert empty

/-- The role that was put in last for an identifier. -/
def lastRole? (insertions : List Insertion) : Uuid → Option Role :=
  Insertion.lastWith? Role.id (insertions.filterMap Insertion.role?)

/-- The group that was put in last for an identifier. -/
def lastGroup? (insertions : List Insertion) : Uuid → Option Group :=
  Insertion.lastWith? Group.id (insertions.filterMap Insertion.group?)

theorem ofInsertions_concat (insertions : List Insertion) (insertion : Insertion) :
    ofInsertions (insertions ++ [insertion]) = (ofInsertions insertions).insert insertion := by
  rw [ofInsertions, List.foldl_append]
  rfl

/-- A fixture is put in record by record: its roles, its groups, its actors. -/
theorem ofFixture_eq_ofInsertions (fixture : Fixture) :
    ofFixture fixture = ofInsertions (fixture.roles.map .role ++ fixture.groups.map .group ++
      fixture.actors.map .actor) := by
  simp only [ofFixture, ofInsertions, List.foldl_append, List.foldl_map, insert]

/-- Where each insertion changes only what is found for its own record, the record that was
put in last is found. -/
theorem find_ofInsertions {α : Type} {key : α → Uuid} {pick : Insertion → Option α}
    {find? : Directory → Uuid → Option α} (hempty : ∀ id, find? empty id = none)
    (hinsert : ∀ directory insertion id, find? (directory.insert insertion) id =
      (pick insertion).elim (find? directory id) fun record =>
        if id = key record then some record else find? directory id)
    (insertions : List Insertion) (id : Uuid) :
    find? (ofInsertions insertions) id =
      Insertion.lastWith? key (insertions.filterMap pick) id := by
  induction insertions using List.reverseRecOn with
  | nil => exact hempty id
  | append_singleton earlier insertion ih =>
      rw [ofInsertions_concat, hinsert, List.filterMap_append, ih]
      -- A record of another kind changes nothing, and one of this kind hides older ones.
      cases hpick : pick insertion with
      | none =>
          rw [List.filterMap_cons_none hpick, List.filterMap_nil, List.append_nil]
          rfl
      | some record =>
          rw [List.filterMap_cons_some hpick, List.filterMap_nil, Insertion.lastWith?_concat]
          rfl

theorem role?_insert (directory : Directory) (insertion : Insertion) (id : Uuid) :
    (directory.insert insertion).role? id =
      insertion.role?.elim (directory.role? id) fun role =>
        if id = role.id then some role else directory.role? id := by
  cases insertion with
  | role role => exact role?_insertRole directory role id
  | group group => rfl
  | actor actor => rfl

theorem group?_insert (directory : Directory) (insertion : Insertion) (id : Uuid) :
    (directory.insert insertion).group? id =
      insertion.group?.elim (directory.group? id) fun group =>
        if id = group.id then some group else directory.group? id := by
  cases insertion with
  | role role => rfl
  | group group => exact group?_insertGroup directory group id
  | actor actor => rfl

theorem role?_ofInsertions (insertions : List Insertion) (id : Uuid) :
    (ofInsertions insertions).role? id = lastRole? insertions id :=
  find_ofInsertions (fun _ => rfl) role?_insert insertions id

theorem group?_ofInsertions (insertions : List Insertion) (id : Uuid) :
    (ofInsertions insertions).group? id = lastGroup? insertions id :=
  find_ofInsertions (fun _ => rfl) group?_insert insertions id

/-! ### Effective roles in order -/

/-- Roles that are looked up stand in the order of the identifiers. -/
theorem pairwise_idxOf_distinctRoles (directory : Directory) (ids : List Uuid) :
    (distinctRoles (ids.filterMap directory.role?)).Pairwise fun earlier later =>
      ids.idxOf earlier.id < ids.idxOf later.id := by
  have hkey : ∀ id role, directory.role? id = some role → role.id = id :=
    fun _ _ hrole => id_of_role? hrole
  rw [distinctRoles, distinctBy, distinctFrom_filterMap hkey (fun _ _ _ => Iff.rfl)]
  refine (pairwise_idxOf_distinctFrom [] ids).filterMap _ ?_
  intro earlier later hlt role hrole other hother
  rw [id_of_role? hrole, id_of_role? hother]
  exact hlt

/-- The identifiers of the roles that an actor names: its own, and behind them those of its
groups, group by group. -/
def namedRoleIds (insertions : List Insertion) (actor : Actor) : List Uuid :=
  actor.roleIds ++ (actor.groupIds.filterMap (lastGroup? insertions)).flatMap (·.roleIds)

theorem roleIdsOfGroups_ofInsertions (insertions : List Insertion) (actor : Actor) :
    (ofInsertions insertions).roleIdsOfGroups actor =
      (actor.groupIds.filterMap (lastGroup? insertions)).flatMap (·.roleIds) := by
  rw [roleIdsOfGroups]
  congr 1
  exact List.filterMap_congr fun id _ => group?_ofInsertions insertions id

/-- **The effective roles are the stored roles that are reached, in the order in which they
are.**  However a directory came about and whatever an actor names, exactly those roles are
effective that were put in last for an identifier which the actor names itself or through a
group that was put in last for an identifier it names.  No identifier occurs twice, and the
roles stand in the order in which their identifiers first occur among those named. -/
theorem effectiveRoles_ofInsertions (insertions : List Insertion) (actor : Actor) :
    ∃ roles, ((ofInsertions insertions).store.effectiveRoles actor).result = .ok roles ∧
      (∀ role, role ∈ roles ↔ lastRole? insertions role.id = some role ∧
        (role.id ∈ actor.roleIds ∨ ∃ id ∈ actor.groupIds, ∃ group,
          lastGroup? insertions id = some group ∧ role.id ∈ group.roleIds)) ∧
      (roles.map (·.id)).Nodup ∧
      roles.Pairwise fun earlier later =>
        (namedRoleIds insertions actor).idxOf earlier.id <
          (namedRoleIds insertions actor).idxOf later.id := by
  have hresult := result_effectiveRoles (ofInsertions insertions) actor
  -- Own roles and those of groups are looked up apart; for the order they are one list.
  have hordered := pairwise_idxOf_distinctRoles (ofInsertions insertions)
    (namedRoleIds insertions actor)
  rw [namedRoleIds, ← roleIdsOfGroups_ofInsertions, List.filterMap_append] at hordered
  refine ⟨_, hresult, ?_, ?_, ?_⟩
  · intro role
    rw [mem_effectiveRoles_iff hresult, role?_ofInsertions, roleIdsOfGroups_ofInsertions]
    simp only [List.mem_flatMap, List.mem_filterMap]
    constructor
    · rintro ⟨hrole, hnamed | ⟨group, ⟨id, hid, hgroup⟩, hmem⟩⟩
      · exact ⟨hrole, Or.inl hnamed⟩
      · exact ⟨hrole, Or.inr ⟨id, hid, group, hgroup, hmem⟩⟩
    · rintro ⟨hrole, hnamed | ⟨id, hid, group, hgroup, hmem⟩⟩
      · exact ⟨hrole, Or.inl hnamed⟩
      · exact ⟨hrole, Or.inr ⟨group, ⟨id, hid, hgroup⟩, hmem⟩⟩
  · rw [List.nodup_iff_pairwise_ne, List.pairwise_map]
    -- One identifier does not come before itself.
    refine hordered.imp ?_
    intro earlier later hlt hsame
    rw [hsame] at hlt
    exact Nat.lt_irrefl _ hlt
  · rw [namedRoleIds, ← roleIdsOfGroups_ofInsertions]
    exact hordered

end Directory

end Entitlement
