import Entitlement.Traced

/-!
# Stores of records

A store looks up records by their identifiers.  It delivers the records that exist, in the
order in which they are asked for, and passes over identifiers that belong to nothing; a lookup
that fails is an error.

A directory is the store that holds its records in memory.

The records of a directory are told by their identifiers, and a record that is put in takes the
place of one with the same identifier.  References between records are not checked: an identifier
without a record is passed over, like any other.
-/

namespace Entitlement

/-! ## First occurrences

The elements of a list without those whose key occurred before.  What remains
keeps its order.  In a list in which equal elements stand together they can be told
from their neighbours. -/

section Distinct

universe u v

variable {α : Type u} {κ : Type v} [BEq κ]

/-- The first element for each key that has not been seen. -/
def distinctFrom (key : α → κ) (seen : List κ) : List α → List α
  | [] => []
  | first :: rest =>
      if seen.contains (key first) then distinctFrom key seen rest
      else first :: distinctFrom key (key first :: seen) rest

/-- The first element for each key. -/
def distinctBy (key : α → κ) (elements : List α) : List α := distinctFrom key [] elements

/-- The elements of a list that differ from the one before them. -/
def changes : List κ → List κ
  | first :: second :: rest =>
      if first == second then changes (second :: rest) else first :: changes (second :: rest)
  | elements => elements

end Distinct

/-! ## Stores -/

/-- The lookups of a store. -/
structure Store where
  roles : List Uuid → Outcome (List Role)
  groups : List Uuid → Outcome (List Group)
  actor : Uuid → Outcome (Option Actor)

namespace Store

/-- The store whose trace also has the requests that reach it. -/
def watched (store : Store) : Store where
  roles ids := do
    Traced.note (.roles ids)
    store.roles ids
  groups ids := do
    Traced.note (.groups ids)
    store.groups ids
  actor id := do
    Traced.note (.actor id)
    store.actor id

/-- The store while lookups of some kinds fail. -/
def withOutages (store : Store) (kinds : List RecordKind) : Store where
  roles ids := if kinds.contains .roles then .fail (.outage .roles) else store.roles ids
  groups ids := if kinds.contains .groups then .fail (.outage .groups) else store.groups ids
  actor id := if kinds.contains .actor then .fail (.outage .actor) else store.actor id

/-- How many different identifiers there are among some. -/
def countDistinct (ids : List Uuid) : Nat :=
  (changes ((ids.map Uuid.text).mergeSort fun a b => decide (a ≤ b))).length

/-- The store where a lookup of more than a limit of different records fails. -/
def limited (store : Store) (limit : Nat) : Store where
  roles ids := if limit < countDistinct ids then .fail .database else store.roles ids
  groups ids := if limit < countDistinct ids then .fail .database else store.groups ids
  actor := store.actor

end Store

/-! ## Directories

A directory holds records in memory, at most one of a kind for each identifier: a
record that is put in takes the place of the one with its identifier. -/

/-- Records by their identifiers. -/
structure Directory where
  roles : List Role
  groups : List Group
  actors : List Actor

namespace Directory

/-- The directory without records. -/
def empty : Directory := ⟨[], [], []⟩

/-- The directory with a role put in. -/
def insertRole (directory : Directory) (role : Role) : Directory :=
  { directory with roles := role :: directory.roles.filter (·.id != role.id) }

/-- The directory with a group put in. -/
def insertGroup (directory : Directory) (group : Group) : Directory :=
  { directory with groups := group :: directory.groups.filter (·.id != group.id) }

/-- The directory with an actor put in. -/
def insertActor (directory : Directory) (actor : Actor) : Directory :=
  { directory with actors := actor :: directory.actors.filter (·.id != actor.id) }

/-- The directory of a fixture; later records replace earlier ones. -/
def ofFixture (fixture : Fixture) : Directory :=
  let roles := fixture.roles.foldl insertRole empty
  let groups := fixture.groups.foldl insertGroup roles
  fixture.actors.foldl insertActor groups

/-- The role with an identifier. -/
def role? (directory : Directory) (id : Uuid) : Option Role :=
  directory.roles.find? (·.id == id)

/-- The group with an identifier. -/
def group? (directory : Directory) (id : Uuid) : Option Group :=
  directory.groups.find? (·.id == id)

/-- The actor with an identifier. -/
def actor? (directory : Directory) (id : Uuid) : Option Actor :=
  directory.actors.find? (·.id == id)

/-- The directory as a store.  An identifier that is asked for twice delivers its
record twice. -/
def store (directory : Directory) : Store where
  roles ids := return ids.filterMap directory.role?
  groups ids := return ids.filterMap directory.group?
  actor id := return directory.actor? id

end Directory

end Entitlement
