import Entitlement.Database
import Entitlement.Store.Directory

/-!
# The database as a store

Records are found by the text of their identifiers, in the form in which they are
written.  The links of a record come in the order in which they were put in.  A
record that is asked for twice is delivered once, at its first place.

A column that does not hold text, a link that holds no identifier, or a permission
tree that is not JSON fails the whole lookup.

A lookup of roles fetches all links of the roles first, those to users and then those to groups,
and then reads the rows of the roles by ascending identifier.  So of several things that cannot be
read the first in this order is reported, whether or not the caller needs it.  A lookup of groups
goes the same way.
-/

namespace Entitlement

namespace Database

/-! ## Cells -/

/-- The text of a column. -/
def readText (row : Row) (column : String) : Except Error String :=
  match row.cell column with
  | .text text => .ok text
  | _ => .error (.missingColumn column)

/-- The identifier in a column; white space around it is overlooked. -/
def readId (row : Row) (column : String) : Except Error Uuid := do
  let text ← readText row column
  match Uuid.parse? (Text.trim text) with
  | some id => .ok id
  | none => .error (.invalidId text)

/-- The permission tree of a role; blank text is the tree without grants. -/
def readTree (role : Uuid) (text : String) : Except Error Tree :=
  if (Text.trim text).isEmpty then .ok .empty
  else
    match Json.parse? text with
    | some value => .ok (.ofJson value)
    | none => .error (.corruptTree role)

/-! ## Links -/

/-- Each identifier once, in the order of first occurrence. -/
def distinct (ids : List Uuid) : List Uuid := distinctBy id ids

/-- Whether a column holds one of some identifiers in their written form. -/
def holdsOneOf (row : Row) (column : String) (ids : List Uuid) : Bool :=
  -- Texts are compared, so another spelling of the same identifier is not found.
  ids.any fun id => row.cell column == .text id.text

/-- The pairs of identifiers in the rows that link one of some identifiers. -/
def links (rows : List Row) (column other : String) (ids : List Uuid) :
    Except Error (List (Uuid × Uuid)) :=
  (rows.filter (holdsOneOf · column ids)).mapM fun row => do
    let id ← readId row column
    let linked ← readId row other
    return (id, linked)

/-- The identifiers that are linked to one. -/
def linkedTo (id : Uuid) (links : List (Uuid × Uuid)) : List Uuid :=
  (links.filter (·.1 == id)).map (·.2)

/-! ## Records -/

/-- The row of a record. -/
def rowOf? (rows : List Row) (id : Uuid) : Option Row :=
  rows.find? fun row => row.cell "id" == .text id.text

/-- The rows of records by ascending identifier. -/
def rowsOf (rows : List Row) (ids : List Uuid) : List Row :=
  (ids.mergeSort fun a b => decide (a.text ≤ b.text)).filterMap (rowOf? rows)

/-- A role from its row and its links. -/
def readRole (users groups : List (Uuid × Uuid)) (row : Row) : Except Error Role := do
  let id ← readId row "id"
  let domain ← readText row "domain"
  let department ← readText row "department"
  let roleName ← readText row "role_name"
  let text ← readText row "permission_tree"
  let tree ← readTree id text
  return ⟨id, domain, department, roleName, tree, linkedTo id users, linkedTo id groups⟩

/-- A group from its row and its links. -/
def readGroup (roles members : List (Uuid × Uuid)) (row : Row) : Except Error Group := do
  let id ← readId row "id"
  return ⟨id, linkedTo id roles, linkedTo id members⟩

/-- Looks up roles; the identifiers are distinct. -/
def readRoles (database : Database) (ids : List Uuid) : Except Error (List Role) := do
  let users ← links database.userRoles "role_id" "user_id" ids
  let groups ← links database.groupRoles "role_id" "group_id" ids
  -- Every row is read, and one that cannot be read fails the whole lookup.
  (rowsOf database.roles ids).mapM (readRole users groups)

/-- Looks up groups; the identifiers are distinct. -/
def readGroups (database : Database) (ids : List Uuid) : Except Error (List Group) := do
  let roles ← links database.groupRoles "group_id" "role_id" ids
  let members ← links database.groupMembers "group_id" "user_id" ids
  (rowsOf database.userGroups ids).mapM (readGroup roles members)

/-- Looks up an actor. -/
def readActor (database : Database) (id : Uuid) : Except Error (Option Actor) :=
  match rowOf? database.users id with
  | none => .ok none
  | some row => do
      let id ← readId row "id"
      let email ← readText row "email"
      let domain ← readText row "domain"
      let department ← readText row "department"
      let roles ← links database.userRoles "user_id" "role_id" [id]
      let groups ← links database.groupMembers "user_id" "group_id" [id]
      return some ⟨id, email, domain, department, linkedTo id roles, linkedTo id groups⟩

/-! ## The store -/

/-- The database as a store.  It is not queried for no records at all. -/
def store (database : Database) : Store where
  roles ids :=
    let wanted := distinct ids
    if wanted.isEmpty then return []
    else do
      let found ← liftExcept (database.readRoles wanted)
      Traced.report (.fetchedRoles wanted.length found.length)
      return wanted.filterMap fun id => found.find? (·.id == id)
  groups ids :=
    let wanted := distinct ids
    if wanted.isEmpty then return []
    else do
      let found ← liftExcept (database.readGroups wanted)
      return wanted.filterMap fun id => found.find? (·.id == id)
  actor id := liftExcept (database.readActor id)
where
  /-- A result without a trace. -/
  liftExcept {α : Type} (result : Except Error α) : Outcome α := Outcome.of result []

end Database

/-- The store of a database without tables, where every query fails.  It is not
queried for no records at all. -/
def Store.withoutTables : Store where
  roles ids := if ids.isEmpty then return [] else .fail .database
  groups ids := if ids.isEmpty then return [] else .fail .database
  actor _ := .fail .database

end Entitlement
