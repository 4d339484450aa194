import Entitlement.Decode
import Entitlement.Tree

/-!
# Records

The administrative records: roles with their permission trees, groups of users that share
roles, and the users themselves, who act.  Records refer to each other by identifier, and an
identifier may refer to nothing.

A record is read from JSON leniently where something can be absent: the tree of a role, and any
list of identifiers.  It is written with every field.
-/

namespace Entitlement

/-! ## Roles, groups and actors -/

/-- A named bundle of grants within one domain and department. -/
structure Role where
  id : Uuid
  domain : String
  department : String
  roleName : String
  tree : Tree
  userIds : List Uuid
  groupIds : List Uuid

/-- A group, whose members have all its roles. -/
structure Group where
  id : Uuid
  roleIds : List Uuid
  userIds : List Uuid
  deriving DecidableEq

/-- A user on whose behalf queries are made. -/
structure Actor where
  id : Uuid
  email : String
  domain : String
  department : String
  roleIds : List Uuid
  groupIds : List Uuid
  deriving DecidableEq

/-- A collection of records to start from. -/
structure Fixture where
  roles : List Role
  groups : List Group
  actors : List Actor

/-! ## As JSON

How roles, groups, actors and fixtures are read and written.  A permission tree
that is absent is empty, and so are lists that are absent; identifiers are
written in lower case with hyphens. -/

/-- An identifier as a string. -/
def Uuid.toJson (id : Uuid) : Json := .str id.text

/-- Identifiers as an array. -/
def idsJson (ids : List Uuid) : Json := .arr (ids.map Uuid.toJson)

namespace Decode

/-- A list of identifiers. -/
def identifiers : Decoder (List Uuid) := listOf identifier

/-- A permission tree; any value is one. -/
def permissionTree : Decoder Tree := mapped Tree.ofJson anything

end Decode

open Decode

/-- The decoder of roles. -/
def Role.decoder : Decoder Role :=
  record "Role" <|
    Role.mk <$> required "id" identifier <*> required "domain" text <*>
      required "department" text <*> required "roleName" text <*>
      defaulting "permissionTree" permissionTree Tree.empty <*>
      defaulting "userIds" identifiers [] <*>
      defaulting "groupIds" identifiers []

/-- A role as an object. -/
def Role.toJson (role : Role) : Json :=
  .obj [("id", role.id.toJson), ("domain", .str role.domain),
    ("department", .str role.department), ("roleName", .str role.roleName),
    ("permissionTree", role.tree.toJson), ("userIds", idsJson role.userIds),
    ("groupIds", idsJson role.groupIds)]

/-- The decoder of groups. -/
def Group.decoder : Decoder Group :=
  record "Group" <|
    Group.mk <$> required "id" identifier <*> defaulting "roleIds" identifiers [] <*>
      defaulting "userIds" identifiers []

/-- A group as an object. -/
def Group.toJson (group : Group) : Json :=
  .obj [("id", group.id.toJson), ("roleIds", idsJson group.roleIds),
    ("userIds", idsJson group.userIds)]

/-- The decoder of actors. -/
def Actor.decoder : Decoder Actor :=
  record "Actor" <|
    Actor.mk <$> required "id" identifier <*> required "email" text <*>
      required "domain" text <*> required "department" text <*>
      defaulting "roleIds" identifiers [] <*> defaulting "groupIds" identifiers []

/-- An actor as an object. -/
def Actor.toJson (actor : Actor) : Json :=
  .obj [("id", actor.id.toJson), ("email", .str actor.email), ("domain", .str actor.domain),
    ("department", .str actor.department), ("roleIds", idsJson actor.roleIds),
    ("groupIds", idsJson actor.groupIds)]

/-- The decoder of fixtures. -/
def Fixture.decoder : Decoder Fixture :=
  record "Fixture" <|
    Fixture.mk <$> defaulting "roles" (listOf Role.decoder) [] <*>
      defaulting "groups" (listOf Group.decoder) [] <*>
      defaulting "users" (listOf Actor.decoder) []

/-- A fixture as an object. -/
def Fixture.toJson (fixture : Fixture) : Json :=
  .obj [("roles", .arr (fixture.roles.map Role.toJson)),
    ("groups", .arr (fixture.groups.map Group.toJson)),
    ("users", .arr (fixture.actors.map Actor.toJson))]

end Entitlement
