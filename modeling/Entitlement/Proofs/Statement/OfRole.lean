import Entitlement.Proofs.Dict
import Entitlement.Proofs.Meaning.Path
import Entitlement.Proofs.Outcome
import Entitlement.Proofs.Statement.Effect
import Entitlement.Resolution

/-!
# The statements that roles make

A role makes the statement of a leaf from the meaning of its path and from its own organization.
The conditions on the organization are always there, and all other conditions are those of the
meaning (`Statement.eq_or_mem_of_mem_confined`).  `Statement.IsGranted` is what later proofs know
of a statement: some role makes it of some level at some path.

`Role.granted` lists what a role makes of some leaves: one statement for each leaf that is a
level, in their order.  Reading a role's tree delivers exactly these statements.  Where levels
are strict it fails instead at the first leaf that is no level, if there is one
(`unlessRefused`).
-/

namespace Entitlement

/-! ## The statement of a leaf -/

namespace Statement

variable {role : Role} {path key : String} {level : Level} {conditions : Conditions}

/-- Conditions together with those of a role on its organization. -/
def confined (role : Role) (conditions : Conditions) : Conditions :=
  (conditions.insert "domain" (.text role.domain)).insert "department" (.text role.department)

theorem conditions_ofGrant :
    (ofGrant role path level).conditions = confined role (Meaning.ofPath path).conditions := rfl

theorem domain_mem_confined : ("domain", .text role.domain) ∈ (confined role conditions).entries :=
  Dict.mem_entries_insert_of_ne (by decide) (Dict.mem_entries_insert_self ..)

theorem department_mem_confined :
    ("department", .text role.department) ∈ (confined role conditions).entries :=
  Dict.mem_entries_insert_self ..

theorem get?_confined_of_ne (hdomain : key ≠ "domain") (hdepartment : key ≠ "department") :
    (confined role conditions).get? key = conditions.get? key := by
  rw [confined, Dict.get?_insert_of_ne _ hdepartment, Dict.get?_insert_of_ne _ hdomain]

/-- A condition of a role's statement is one on the organization or one of the
meaning. -/
theorem eq_or_mem_of_mem_confined {entry : String × Condition}
    (hentry : entry ∈ (confined role conditions).entries) :
    entry = ("department", .text role.department) ∨ entry = ("domain", .text role.domain) ∨
      entry ∈ conditions.entries := by
  rcases Dict.eq_or_mem_of_mem_entries_insert hentry with hdepartment | hentry
  · exact Or.inl hdepartment
  · exact Or.inr (Dict.eq_or_mem_of_mem_entries_insert hentry)

/-- A statement that some role makes by a level at some path. -/
def IsGranted (statement : Statement) : Prop :=
  ∃ role path level, statement = ofGrant role path level

/-- A statement of a leaf is about one subject, so it matches the queries about
that subject only. -/
theorem matches_ofGrant_iff {identity : Option Identity} {query : Query} :
    (ofGrant role path level).Matches identity query ↔
      (ofGrant role path level).subject = query.subject ∧
        ∀ entry ∈ (ofGrant role path level).conditions.entries,
          query.context.Meets identity entry := by
  constructor
  · rintro ⟨hall | hsubject, hconditions⟩
    · exact absurd hall (Meaning.subject_ofPath_ne_all path)
    · exact ⟨hsubject, hconditions⟩
  · rintro ⟨hsubject, hconditions⟩
    exact ⟨Or.inr hsubject, hconditions⟩

theorem IsGranted.subject_eq_of_matches {statement : Statement} {identity : Option Identity}
    {query : Query} (hgranted : statement.IsGranted) (hmatches : statement.Matches identity query) :
    statement.subject = query.subject := by
  obtain ⟨role, path, level, rfl⟩ := hgranted
  exact (matches_ofGrant_iff.mp hmatches).1

/-- The query that meets the conditions of a leaf's statement is about a resource of
the role's organization. -/
theorem lookup?_of_meets_ofGrant {identity : Option Identity} {context : Context}
    (hmeets : ∀ entry ∈ (ofGrant role path level).conditions.entries,
      context.Meets identity entry) :
    context.lookup? "domain" identity = some (.str role.domain) ∧
      context.lookup? "department" identity = some (.str role.department) := by
  constructor
  · exact Context.meets_text_iff.mp (hmeets _ domain_mem_confined)
  · exact Context.meets_text_iff.mp (hmeets _ department_mem_confined)

end Statement

/-! ## All statements of a role -/

/-! ### Leaves that are refused -/

section Refused

variable {α : Type} {strict : Bool} {grants : List Grant} {value result : α}

/-- The leaf at which reading some leaves fails, if it does: where levels are strict, the
first that is none. -/
def refused? (strict : Bool) (grants : List Grant) : Option Grant :=
  grants.find? fun grant => strict && grant.leaf.level?.isNone

/-- What reading some leaves comes to: a value, unless one of the leaves is refused. -/
def unlessRefused (strict : Bool) (grants : List Grant) (value : α) : Except Error α :=
  match refused? strict grants with
  | some grant => .error (.unknownLevel grant.path grant.leaf.text)
  | none => .ok value

theorem refused?_append (strict : Bool) (grants others : List Grant) :
    refused? strict (grants ++ others) = (refused? strict grants).or (refused? strict others) :=
  List.find?_append

theorem unlessRefused_eq_ok_iff :
    unlessRefused strict grants value = .ok result ↔
      refused? strict grants = none ∧ value = result := by
  unfold unlessRefused
  cases refused? strict grants <;> simp

/-- Where levels are not strict, nothing is refused. -/
@[simp] theorem unlessRefused_false (grants : List Grant) (value : α) :
    unlessRefused false grants value = .ok value := by
  have hnone : refused? false grants = none := by simp [refused?]
  rw [unlessRefused, hnone]

end Refused

/-! ### One role -/

namespace Role

/-- The statements that a role makes by the levels among some leaves. -/
def granted (role : Role) (grants : List Grant) : List Statement :=
  grants.filterMap fun grant => grant.leaf.level?.map (Statement.ofGrant role grant.path)

variable {role : Role} {strict : Bool} {grants : List Grant}

theorem mem_granted_iff {statement : Statement} :
    statement ∈ role.granted grants ↔
      ∃ path level, ⟨path, .access level⟩ ∈ grants ∧
        statement = Statement.ofGrant role path level := by
  simp only [granted, List.mem_filterMap, Option.map_eq_some_iff]
  constructor
  · rintro ⟨⟨path, leaf⟩, hgrant, level, hlevel, rfl⟩
    cases leaf with
    | access held =>
        obtain rfl : held = level := Option.some.inj hlevel
        exact ⟨path, held, hgrant, rfl⟩
    | unrecognized value => simp [Leaf.level?] at hlevel
  · rintro ⟨path, level, hgrant, rfl⟩
    exact ⟨_, hgrant, level, rfl, rfl⟩

/-- A leaf that is a level makes its statement whether levels are strict or not. -/
@[simp] theorem result_ofLeaf_access (path : String) (level : Level) :
    (Statement.ofLeaf strict role path (.access level)).result =
      .ok (some (Statement.ofGrant role path level)) := rfl

/-- **What a role makes of leaves.**  It makes its statements of them, unless one of them is
refused. -/
theorem result_statementsOf (strict : Bool) (role : Role) (grants : List Grant) :
    (role.statementsOf strict grants).result =
      unlessRefused strict grants (role.granted grants) := by
  induction grants with
  | nil => rfl
  | cons grant rest ih =>
      obtain ⟨path, leaf⟩ := grant
      rw [statementsOf, Outcome.result_bind]
      cases leaf with
      | access level =>
          have hkept : refused? strict (⟨path, .access level⟩ :: rest) = refused? strict rest :=
            List.find?_cons_of_neg (by simp [Leaf.level?])
          rw [result_ofLeaf_access]
          simp only
          rw [Outcome.result_bind, ih, unlessRefused, unlessRefused, hkept]
          cases refused? strict rest <;> rfl
      | unrecognized value =>
          -- Such a leaf fails where levels are strict and makes nothing elsewhere.
          cases strict with
          | true => rfl
          | false =>
              rw [show (Statement.ofLeaf false role path (.unrecognized value)).result = .ok none
                from rfl]
              simp only
              rw [Outcome.result_bind, ih, unlessRefused_false, unlessRefused_false]
              rfl

theorem result_statements (strict : Bool) (role : Role) :
    (role.statements strict).result =
      unlessRefused strict role.tree.flatten (role.granted role.tree.flatten) := by
  rw [Role.statements, Outcome.result_bind, result_statementsOf]
  cases unlessRefused strict role.tree.flatten (role.granted role.tree.flatten) <;> rfl

end Role

/-! ### Several roles -/

namespace Authorizer

variable {authorizer : Authorizer} {roles : List Role} {statements : List Statement}

theorem result_statementsOf (authorizer : Authorizer) (roles : List Role) :
    (authorizer.statementsOf roles).result =
      unlessRefused authorizer.strict (roles.flatMap fun role => role.tree.flatten)
        (roles.flatMap fun role => role.granted role.tree.flatten) := by
  induction roles with
  | nil => rfl
  | cons role rest ih =>
      rw [statementsOf, Outcome.result_bind, Role.result_statements, List.flatMap_cons,
        List.flatMap_cons]
      unfold unlessRefused
      rw [refused?_append]
      cases refused? authorizer.strict role.tree.flatten with
      | some grant => rfl
      | none =>
          simp only [Option.none_or]
          rw [Outcome.result_bind, ih, unlessRefused]
          cases refused? authorizer.strict (rest.flatMap fun role => role.tree.flatten) <;> rfl

theorem result_statementsOf_eq_ok
    (hresult : (authorizer.statementsOf roles).result = .ok statements) :
    statements = roles.flatMap fun role => role.granted role.tree.flatten := by
  rw [result_statementsOf, unlessRefused_eq_ok_iff] at hresult
  exact hresult.2.symm

end Authorizer

end Entitlement
