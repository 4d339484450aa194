import Entitlement.Meaning
import Entitlement.Traced

/-!
# The statements of roles

Each leaf of a role's permission tree that is an access level makes a statement: the meaning of
its path, confined to the domain and the department of the role.  Any other leaf is dropped with
a warning, or, where levels are strict, fails.

The statements of several roles are then merged, so that there is one for each right.
-/

namespace Entitlement

/-! ## The statement of a leaf -/

namespace Statement

/-- The statement that a role makes by a level at a path.  The role's domain and
department are demanded whatever the path means. -/
def ofGrant (role : Role) (path : String) (level : Level) : Statement :=
  let meaning := Meaning.ofPath path
  { subject := meaning.subject
    action := meaning.action
    level := level
    conditions :=
      -- Put in last, the organization of the role takes the place of any other demand on it.
      (meaning.conditions.insert "domain" (.text role.domain)).insert "department"
        (.text role.department)
    fields := meaning.fields
    path := path
    roleId := role.id
    roleName := role.roleName }

/-- The statement that a role makes by a leaf at a path, if it makes one. -/
def ofLeaf (strict : Bool) (role : Role) (path : String) (leaf : Leaf) :
    Outcome (Option Statement) :=
  match leaf.level? with
  | some level => return some (ofGrant role path level)
  | none =>
      if strict then .fail (.unknownLevel path leaf.text)
      else do
        Traced.report (.droppedGrant role.id role.roleName path leaf.text)
        return none

end Statement

namespace Role

/-- The statements that a role makes by some of its leaves. -/
def statementsOf (strict : Bool) (role : Role) : List Grant → Outcome (List Statement)
  | [] => return []
  | grant :: rest => do
      let statement ← Statement.ofLeaf strict role grant.path grant.leaf
      let statements ← role.statementsOf strict rest
      return statement.toList ++ statements

/-- The statements of a role, in the order of its leaves. -/
def statements (strict : Bool) (role : Role) : Outcome (List Statement) := do
  let statements ← role.statementsOf strict role.tree.flatten
  Traced.report (.mappedRole role.id role.roleName statements.length)
  return statements

end Role

/-! ## Merging

Of statements about the same right the highest level wins, and of equal levels the first.  The
merged statements stand in the order in which their rights first occur. -/

namespace Statement

/-- Statements by their keys. -/
abbrev Keyed := List (String × Statement)

/-- Takes a statement with its key into merged ones: at the end when its key is
new, else in the place of the one with its key when its level is higher. -/
def absorb (key : String) (statement : Statement) : Keyed → Traced Keyed
  | [] => return [(key, statement)]
  | (head, held) :: rest =>
      if key = head then
        -- Of equal levels the one that is held remains.
        if held.level < statement.level then do
          Traced.report (.raisedLevel key held.level statement.level statement.roleName)
          return (key, statement) :: rest
        else return (head, held) :: rest
      else do
        let rest ← absorb key statement rest
        return (head, held) :: rest

/-- Takes statements one by one into merged ones. -/
def absorbAll : Keyed → List Statement → Traced Keyed
  | merged, [] => return merged
  | merged, statement :: rest => do
      let merged ← absorb statement.key statement merged
      absorbAll merged rest

/-- One statement for each right, in the order of their first occurrence. -/
def merge (statements : List Statement) : Traced (List Statement) := do
  let merged ← absorbAll [] statements
  return merged.map (·.2)

end Statement

end Entitlement
