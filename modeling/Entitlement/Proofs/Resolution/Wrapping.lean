import Entitlement.Proofs.Resolution.EffectiveRoles
import Entitlement.Proofs.Resolution.Provenance
import Entitlement.Proofs.Statement.Overlap
import Entitlement.Proofs.Tree.Wrapping

/-!
# Wrapped trees grant the same

A role whose tree has other subtrees wrapped in lists makes the same statements up to their
paths.  So nobody gains or loses a right when a directory holds it instead: the effective roles
of an actor are the same but for that one tree, their statements are the same but for the paths,
and paths have no part in the answers.

A statement keeps the path that it was made at, so that messages can name it.  The path has no
part in the key of the statement, nor in what the statement allows and denies.
`Statement.anywhere` forgets it, and merging commutes with that (`map_anywhere_merge`), so
statements that differ in their paths only amount to policies that answer alike.

`Role.Alike` is what is known of the two roles, and it is carried from the directory through every
step of the resolution: each lookup finds alike roles, and alike lists of roles make the same
statements up to their paths.
-/

namespace Entitlement

/-! ## Where a statement comes from -/

namespace Statement

variable {statement : Statement} {statements others : List Statement}

/-- A statement without the path that it was made at. -/
def anywhere (statement : Statement) : Statement := { statement with path := "" }

@[simp] theorem key_anywhere (statement : Statement) : statement.anywhere.key = statement.key := rfl

theorem anywhere_overlaps (statement : Statement) : statement.anywhere.Overlaps statement :=
  ⟨rfl, rfl, rfl⟩

/-! ### Merging -/

/-- Merged statements without their paths. -/
def Keyed.anywhere (merged : Keyed) : Keyed :=
  merged.map fun entry => (entry.1, entry.2.anywhere)

theorem value_absorb_anywhere (key : String) (statement : Statement) (merged : Keyed) :
    (absorb key statement.anywhere merged.anywhere).value =
      Keyed.anywhere (absorb key statement merged).value := by
  induction merged with
  | nil => rfl
  | cons first rest ih =>
      obtain ⟨head, held⟩ := first
      have hcons : Keyed.anywhere ((head, held) :: rest) =
          (head, held.anywhere) :: Keyed.anywhere rest := rfl
      rw [hcons, value_absorb_cons, value_absorb_cons, ih]
      dsimp only
      -- The same branch is taken, since it depends on the keys and the levels.
      by_cases hkey : key = head
      · rw [if_pos hkey, if_pos hkey]
        by_cases hhigher : held.level < statement.level
        · have hhigher' : held.anywhere.level < statement.anywhere.level := hhigher
          rw [if_pos hhigher, if_pos hhigher']
          rfl
        · have hhigher' : ¬ held.anywhere.level < statement.anywhere.level := hhigher
          rw [if_neg hhigher, if_neg hhigher']
          rfl
      · rw [if_neg hkey, if_neg hkey]
        rfl

theorem value_absorbAll_anywhere (merged : Keyed) (statements : List Statement) :
    (absorbAll merged.anywhere (statements.map anywhere)).value =
      Keyed.anywhere (absorbAll merged statements).value := by
  induction statements generalizing merged with
  | nil => rfl
  | cons statement rest ih =>
      rw [List.map_cons, absorbAll, absorbAll, Traced.value_bind, Traced.value_bind, key_anywhere,
        value_absorb_anywhere, ih]

/-- Statements are merged in the same way without their paths. -/
theorem value_merge_anywhere (statements : List Statement) :
    (merge (statements.map anywhere)).value = (merge statements).value.map anywhere := by
  have hrun := value_absorbAll_anywhere [] statements
  rw [show Keyed.anywhere [] = [] from rfl] at hrun
  rw [merge, merge, Traced.value_bind, Traced.value_bind, Traced.value_pure, Traced.value_pure,
    hrun, Keyed.anywhere, List.map_map, List.map_map]
  rfl

/-! ### Queries -/

variable {identity : Option Identity} {query : Query}

theorem allows_anywhere_iff :
    statement.anywhere.Allows identity query ↔ statement.Allows identity query := by
  unfold Allows
  rw [(anywhere_overlaps statement).matches_iff]
  rfl

theorem denies_anywhere_iff :
    statement.anywhere.Denies identity query ↔ statement.Denies identity query := by
  unfold Denies
  rw [(anywhere_overlaps statement).matches_iff]
  rfl

theorem can_compile_anywhere (actor : Option Identity) (statements : List Statement)
    (query : Query) :
    ((Policy.compile (statements.map anywhere) actor).value.can query).value =
      ((Policy.compile statements actor).value.can query).value := by
  rw [Bool.eq_iff_iff, Policy.can_compile_eq_true_iff, Policy.can_compile_eq_true_iff]
  simp only [List.mem_map, exists_exists_and_eq_and, forall_exists_index, and_imp,
    forall_apply_eq_imp_iff₂, allows_anywhere_iff, denies_anywhere_iff]

/-- Statements that differ in their paths only amount to policies that answer alike. -/
theorem can_compile_merge_congr {actor : Option Identity}
    (hsame : others.map anywhere = statements.map anywhere) (query : Query) :
    ((Policy.compile (merge others).value actor).value.can query).value =
      ((Policy.compile (merge statements).value actor).value.can query).value := by
  have hmerged : (merge others).value.map anywhere = (merge statements).value.map anywhere := by
    rw [← value_merge_anywhere, hsame, value_merge_anywhere]
  calc ((Policy.compile (merge others).value actor).value.can query).value
      = ((Policy.compile ((merge others).value.map anywhere) actor).value.can query).value :=
        (can_compile_anywhere actor _ query).symm
    _ = ((Policy.compile ((merge statements).value.map anywhere) actor).value.can query).value := by
        rw [hmerged]
    _ = ((Policy.compile (merge statements).value actor).value.can query).value :=
        can_compile_anywhere actor _ query

end Statement

/-! ### Statements of leaves that are read alike -/

/-- The statement that a role makes by a level whose path means something, without the
path. -/
def Role.statementOf? (role : Role) (reading : Meaning × Leaf) : Option Statement :=
  reading.2.level?.map fun level =>
    { subject := reading.1.subject
      action := reading.1.action
      level := level
      conditions := Statement.confined role reading.1.conditions
      fields := reading.1.fields
      path := ""
      roleId := role.id
      roleName := role.roleName }

theorem Role.map_anywhere_granted (role : Role) (grants : List Grant) :
    (role.granted grants).map Statement.anywhere =
      (grants.map Grant.reading).filterMap role.statementOf? := by
  rw [granted, List.map_filterMap, List.filterMap_map]
  refine List.filterMap_congr fun grant _ => ?_
  rw [Option.map_map]
  rfl

theorem refused?_isSome_eq (strict : Bool) (grants : List Grant) :
    (refused? strict grants).isSome =
      (grants.map Grant.reading).any fun reading => strict && reading.2.level?.isNone := by
  rw [refused?, List.any_map, Bool.eq_iff_iff, List.find?_isSome, List.any_eq_true]
  rfl

/-! ## Resolution with the other role -/

/-! ### Roles that are read alike -/

/-- The role with another tree. -/
def Role.withTree (role : Role) (tree : Tree) : Role := { role with tree := tree }

/-- Two roles differ in their trees at most, and these are read alike. -/
structure Role.Alike (role other : Role) : Prop where
  eq_withTree : other = role.withTree other.tree
  readings_eq : other.tree.readings = role.tree.readings

namespace Role

variable {role other : Role}

theorem Alike.refl (role : Role) : role.Alike role := ⟨rfl, rfl⟩

theorem Alike.id_eq (halike : role.Alike other) : other.id = role.id := by
  rw [halike.eq_withTree]
  rfl

/-- Roles that are read alike make the same statements up to their paths. -/
theorem Alike.map_anywhere_granted (halike : role.Alike other) :
    (other.granted other.tree.flatten).map Statement.anywhere =
      (role.granted role.tree.flatten).map Statement.anywhere := by
  have hother : other.granted other.tree.flatten = role.granted other.tree.flatten := by
    rw [halike.eq_withTree]
    rfl
  have hreadings : other.tree.flatten.map Grant.reading = role.tree.flatten.map Grant.reading :=
    halike.readings_eq
  rw [hother, Role.map_anywhere_granted, hreadings, ← Role.map_anywhere_granted]

/-- Wrapping subtrees leaves a role as it was read. -/
theorem alike_of_wraps {tree : Tree} (hkeys : role.tree.NonemptyKeys)
    (hwraps : role.tree.Wraps tree) : role.Alike (role.withTree tree) :=
  ⟨rfl, hwraps.readings_eq hkeys⟩

end Role

section Lists

variable {roles others : List Role}

theorem map_anywhere_of_alike (halike : List.Forall₂ Role.Alike roles others) :
    (others.flatMap fun role => role.granted role.tree.flatten).map Statement.anywhere =
      (roles.flatMap fun role => role.granted role.tree.flatten).map Statement.anywhere := by
  induction halike with
  | nil => rfl
  | cons hfirst _ ih =>
      rw [List.flatMap_cons, List.flatMap_cons, List.map_append, List.map_append,
        hfirst.map_anywhere_granted, ih]

theorem map_reading_of_alike (halike : List.Forall₂ Role.Alike roles others) :
    (others.flatMap fun role => role.tree.flatten).map Grant.reading =
      (roles.flatMap fun role => role.tree.flatten).map Grant.reading := by
  induction halike with
  | nil => rfl
  | cons hfirst _ ih =>
      have hreadings := hfirst.readings_eq
      rw [Tree.readings, Tree.readings] at hreadings
      rw [List.flatMap_cons, List.flatMap_cons, List.map_append, List.map_append, hreadings, ih]

theorem isSome_refused?_of_alike (strict : Bool) (halike : List.Forall₂ Role.Alike roles others) :
    (refused? strict (others.flatMap fun role => role.tree.flatten)).isSome =
      (refused? strict (roles.flatMap fun role => role.tree.flatten)).isSome := by
  rw [refused?_isSome_eq, refused?_isSome_eq, map_reading_of_alike halike]

end Lists

/-! ### Policies that answer alike -/

namespace Authorizer

variable {authorizer other : Authorizer} {actor : Actor} {roles others : List Role}

/-- Either both fail to give an actor a policy, or both give one and the two answer every
query alike. -/
def Agree (authorizer other : Authorizer) (actor : Actor) : Prop :=
  match (authorizer.resolve actor).result, (other.resolve actor).result with
  | .ok policy, .ok further => ∀ query, (further.can query).value = (policy.can query).value
  | .error _, .error _ => True
  | _, _ => False

theorem Agree.permits_eq (hagree : authorizer.Agree other actor) (query : Query) :
    other.permits actor query = authorizer.permits actor query := by
  unfold Agree at hagree
  unfold permits
  cases hfirst : (authorizer.resolve actor).result <;>
    cases hsecond : (other.resolve actor).result <;> simp_all

theorem agree_of_alike (hstrict : other.strict = authorizer.strict)
    (hroles : (authorizer.store.effectiveRoles actor).result = .ok roles)
    (hothers : (other.store.effectiveRoles actor).result = .ok others)
    (halike : List.Forall₂ Role.Alike roles others) : authorizer.Agree other actor := by
  have hrefused := isSome_refused?_of_alike authorizer.strict halike
  rw [Agree, result_resolve hroles, result_resolve hothers, hstrict, unlessRefused, unlessRefused]
  cases hfirst : refused? authorizer.strict (roles.flatMap fun role => role.tree.flatten) with
  -- Which leaf is refused may differ in its path; that one is refused does not.
  | some grant =>
      rw [hfirst] at hrefused
      obtain ⟨refused, hsecond⟩ := Option.isSome_iff_exists.mp hrefused
      rw [hsecond]
      trivial
  | none =>
      rw [hfirst] at hrefused
      have hsecond : refused? authorizer.strict
          (others.flatMap fun role => role.tree.flatten) = none := by simpa using hrefused
      rw [hsecond]
      intro query
      exact Statement.can_compile_merge_congr (map_anywhere_of_alike halike) query

end Authorizer

/-! ### The other role in a directory -/

namespace Directory

variable {directory : Directory} {role : Role}

theorem role?_insertRole_alike {other : Role} (hrole : directory.role? role.id = some role)
    (halike : role.Alike other) (id : Uuid) :
    Option.Rel Role.Alike (directory.role? id) ((directory.insertRole other).role? id) := by
  rw [role?_insertRole, halike.id_eq]
  by_cases hid : id = role.id
  · rw [if_pos hid, hid, hrole]
    exact Option.Rel.some halike
  · rw [if_neg hid]
    cases directory.role? id with
    | none => exact Option.Rel.none
    | some held => exact Option.Rel.some (Role.Alike.refl held)

theorem filterMap_role?_insertRole_alike {other : Role}
    (hrole : directory.role? role.id = some role) (halike : role.Alike other) (ids : List Uuid) :
    List.Forall₂ Role.Alike (ids.filterMap directory.role?)
      (ids.filterMap (directory.insertRole other).role?) := by
  refine List.rel_filterMap (R := Eq) ?_ (List.forall₂_same.mpr fun _ _ => rfl)
  rintro id _ rfl
  exact role?_insertRole_alike hrole halike id

/-- The effective roles of an actor stay but for the role that was put in. -/
theorem exists_effectiveRoles_insertRole_alike {other : Role} (actor : Actor)
    (hrole : directory.role? role.id = some role) (halike : role.Alike other) :
    ∃ roles others, (directory.store.effectiveRoles actor).result = .ok roles ∧
      ((directory.insertRole other).store.effectiveRoles actor).result = .ok others ∧
      List.Forall₂ Role.Alike roles others := by
  refine ⟨_, _, result_effectiveRoles directory actor, result_effectiveRoles _ actor, ?_⟩
  -- Alike roles have the same identifier, so the same first occurrences are kept.
  refine forall₂_distinctFrom (fun _ _ hpair => hpair.id_eq) ?_ []
  exact List.rel_append (filterMap_role?_insertRole_alike hrole halike actor.roleIds)
    (filterMap_role?_insertRole_alike hrole halike (directory.roleIdsOfGroups actor))

end Directory

/-! ### Wrapping -/

/-- **Wrapping subtrees in lists changes no right.**  A role without empty keys makes the
same statements up to their paths when subtrees of its tree are wrapped.  In every directory
that holds the role, it may be given the other tree: an actor has a policy as before, and
the policy answers every query as before. -/
theorem Authorizer.agree_of_wraps {role : Role} {tree : Tree} (hkeys : role.tree.NonemptyKeys)
    (hwraps : role.tree.Wraps tree) :
    (∃ statements others, (role.statements false).result = .ok statements ∧
        ((role.withTree tree).statements false).result = .ok others ∧
        others.map Statement.anywhere = statements.map Statement.anywhere) ∧
      ∀ (directory : Directory) (actor : Actor), directory.role? role.id = some role →
        (∃ policy, (Authorizer.resolve ⟨directory.store, false⟩ actor).result = .ok policy) ∧
          ∀ strict, Authorizer.Agree ⟨directory.store, strict⟩
            ⟨(directory.insertRole (role.withTree tree)).store, strict⟩ actor := by
  have halike : role.Alike (role.withTree tree) := Role.alike_of_wraps hkeys hwraps
  constructor
  · refine ⟨role.granted role.tree.flatten,
      (role.withTree tree).granted (role.withTree tree).tree.flatten, ?_, ?_, ?_⟩
    · rw [Role.result_statements, unlessRefused_false]
    · rw [Role.result_statements, unlessRefused_false]
    · exact halike.map_anywhere_granted
  · intro directory actor hrole
    obtain ⟨roles, others, hroles, hothers, hrelated⟩ :=
      Directory.exists_effectiveRoles_insertRole_alike actor hrole halike
    constructor
    · have hresolve : (Authorizer.resolve ⟨directory.store, false⟩ actor).result = _ :=
        result_resolve hroles
      -- A lenient resolution refuses no leaf, so there is a policy to begin with.
      rw [unlessRefused_false] at hresolve
      exact ⟨_, hresolve⟩
    · intro strict
      exact agree_of_alike rfl hroles hothers hrelated

namespace Sample

/-- The tree of the lead, in a list, where the right on assigned tasks is in a list too. -/
def wrappedTree : Tree :=
  .list [.group [("taskAccess", .group
    [("all", .leaf (.access .adminAccess)),
      ("assigned", .list [.leaf (.access .viewAccess)])])]]

theorem nonemptyKeys_lead : lead.tree.NonemptyKeys := by
  simp [lead, Tree.NonemptyKeys, Tree.NonemptyKeysMembers]

theorem lead_wraps : lead.tree.Wraps wrappedTree := by
  have hassigned : lead.tree.WrapsOnce (.group [("taskAccess", .group
      [("all", .leaf (.access .adminAccess)),
        ("assigned", .list [.leaf (.access .viewAccess)])])]) :=
    ⟨[.member [] "taskAccess" [], .member [("all", .leaf (.access .adminAccess))] "assigned" []],
      .leaf (.access .viewAccess), rfl, rfl⟩
  exact (Relation.ReflTransGen.single hassigned).tail ⟨[], _, rfl, rfl⟩

end Sample

/-- With the wrapped tree the lead manages the tasks that it managed before. -/
theorem lead_manages_with_wrapped_tree :
    Authorizer.permits
        ⟨(Sample.directory.insertRole (Sample.lead.withTree Sample.wrappedTree)).store, false⟩
        Sample.actor (Sample.ownTask .manage) = true := by
  have hlead : Sample.directory.role? Sample.lead.id = some Sample.lead := by
    simp [Directory.role?, Sample.directory]
  have hagree := ((Authorizer.agree_of_wraps Sample.nonemptyKeys_lead Sample.lead_wraps).2
    Sample.directory Sample.actor hlead).2 false
  have hbefore : Authorizer.permits ⟨Sample.directory.store, false⟩ Sample.actor
      (Sample.ownTask .manage) = true := by decide +kernel
  exact (hagree.permits_eq _).trans hbefore

end Entitlement
