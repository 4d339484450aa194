import Entitlement.Policy
import Entitlement.Statement.OfRoles
import Entitlement.Store.Directory

/-!
# Resolving what an actor may do

The way from an actor to a policy: the roles assigned directly, then those of the actor's
groups, each role once; the statements of these roles; the merged statements; and the rules.
Nothing is kept between resolutions.

The same merged statements can be summarized for display instead.

A store is not asked when there is nothing to ask for.  The first lookup that fails ends the
resolution, and so does the first leaf that is no level, where these may not be passed over.
An actor without a record has a policy without rules, which denies everything, and an empty
summary; this is no failure.
-/

namespace Entitlement

/-! ## Summaries

A flat account of what somebody may do, for display: the merged statements and the
roles that they come from, as plain values.  A summary that is written carries
the time at which it was made. -/

section Summary

/-- A statement as plain values. -/
structure StatementSummary where
  subject : String
  action : String
  level : String
  conditions : Dict Json
  fields : List String
  path : String
  grantedBy : String

/-- A role as plain values, with the number of its leaves. -/
structure RoleSummary where
  id : String
  roleName : String
  domain : String
  department : String
  grantCount : Nat

/-- What somebody may do. -/
structure Summary where
  totalRoles : Nat
  totalPermissions : Nat
  permissions : List StatementSummary
  roles : List RoleSummary

/-- The plain values of a statement. -/
def Statement.summary (statement : Statement) : StatementSummary where
  subject := statement.subject.name
  action := statement.action.name
  level := statement.level.name
  conditions := statement.conditions.map Condition.toJson
  fields := statement.fields.getD []
  path := statement.path
  grantedBy := statement.roleName

/-- The plain values of a role. -/
def Role.summary (role : Role) : RoleSummary where
  id := role.id.text
  roleName := role.roleName
  domain := role.domain
  department := role.department
  grantCount := role.tree.leafCount

namespace Summary

/-- The summary of roles and of the statements merged from them. -/
def build (roles : List Role) (merged : List Statement) : Summary where
  totalRoles := roles.length
  totalPermissions := merged.length
  permissions := merged.map Statement.summary
  roles := roles.map Role.summary

/-- The summary of somebody without roles. -/
def empty : Summary := build [] []

end Summary

/-! ### As JSON -/

open Decode

/-- The decoder of the plain values of a statement. -/
def StatementSummary.decoder : Decoder StatementSummary :=
  record "PermissionSummary" <|
    StatementSummary.mk <$> required "subject" text <*> required "action" text <*>
      required "accessLevel" text <*> required "conditions" (dictOf anything) <*>
      required "fields" texts <*> required "path" text <*> required "grantedBy" text

/-- The plain values of a statement as an object. -/
def StatementSummary.toJson (summary : StatementSummary) : Json :=
  .obj [("subject", .str summary.subject), ("action", .str summary.action),
    ("accessLevel", .str summary.level), ("conditions", .ofDict summary.conditions),
    ("fields", textsJson summary.fields), ("path", .str summary.path),
    ("grantedBy", .str summary.grantedBy)]

/-- The decoder of the plain values of a role. -/
def RoleSummary.decoder : Decoder RoleSummary :=
  record "RoleSummary" <|
    RoleSummary.mk <$> required "id" text <*> required "roleName" text <*>
      required "domain" text <*> required "department" text <*> required "grantCount" count

/-- The plain values of a role as an object. -/
def RoleSummary.toJson (summary : RoleSummary) : Json :=
  .obj [("id", .str summary.id), ("roleName", .str summary.roleName),
    ("domain", .str summary.domain), ("department", .str summary.department),
    ("grantCount", .nat summary.grantCount)]

/-- The decoder of written summaries: the summary and the time at which it was
made. -/
def Summary.decoder : Decoder (Summary × String) :=
  record "AccessSummary" <|
    (fun totalRoles totalPermissions permissions roles time =>
      (⟨totalRoles, totalPermissions, permissions, roles⟩, time)) <$>
      required "totalRoles" count <*> required "totalPermissions" count <*>
      required "permissions" (listOf StatementSummary.decoder) <*>
      required "roles" (listOf RoleSummary.decoder) <*> required "generatedAt" time

/-- The members of a summary, apart from the time. -/
def Summary.members (summary : Summary) : List (String × Json) :=
  [("totalRoles", .nat summary.totalRoles), ("totalPermissions", .nat summary.totalPermissions),
    ("permissions", .arr (summary.permissions.map StatementSummary.toJson)),
    ("roles", .arr (summary.roles.map RoleSummary.toJson))]

/-- A summary as an object, with the time at which it was made. -/
def Summary.toJson (summary : Summary) (time : String) : Json :=
  .obj (summary.members ++ [("generatedAt", .str time)])

end Summary

/-! ## From an actor to a policy -/

/-! ### Effective roles -/

/-- The first role for each identifier. -/
def distinctRoles (roles : List Role) : List Role := distinctBy (·.id) roles

/-- Looks up roles; a store is not asked for none. -/
def Store.rolesOf (store : Store) (ids : List Uuid) : Outcome (List Role) :=
  if ids.isEmpty then return [] else store.roles ids

/-- Looks up groups; a store is not asked for none. -/
def Store.groupsOf (store : Store) (ids : List Uuid) : Outcome (List Group) :=
  if ids.isEmpty then return [] else store.groups ids

/-- The roles that count for an actor. -/
def Store.effectiveRoles (store : Store) (actor : Actor) : Outcome (List Role) :=
  if actor.roleIds.isEmpty && actor.groupIds.isEmpty then return []
  else do
    let direct ← store.rolesOf actor.roleIds
    let groups ← store.groupsOf actor.groupIds
    let viaGroups ← store.rolesOf (groups.flatMap (·.roleIds))
    Traced.report (.fetchedActorRoles actor.id direct.length viaGroups.length)
    return distinctRoles (direct ++ viaGroups)

/-! ### Policies and summaries -/

/-- A store together with the decision whether leaves that are no levels fail. -/
structure Authorizer where
  store : Store
  strict : Bool

namespace Authorizer

/-- The statements of roles, one role after the other. -/
def statementsOf (authorizer : Authorizer) : List Role → Outcome (List Statement)
  | [] => return []
  | role :: rest => do
      let statements ← role.statements authorizer.strict
      let later ← authorizer.statementsOf rest
      return statements ++ later

/-- The roles that count for an actor, and their statements merged. -/
def mergedStatements (authorizer : Authorizer) (actor : Actor) :
    Outcome (List Role × List Statement) := do
  let roles ← authorizer.store.effectiveRoles actor
  let statements ← authorizer.statementsOf roles
  let merged ← Statement.merge statements
  Traced.report (.mergedStatements actor.id roles.length statements.length merged.length)
  return (roles, merged)

/-- The policy of an actor. -/
def resolve (authorizer : Authorizer) (actor : Actor) : Outcome Policy := do
  let (_, merged) ← authorizer.mergedStatements actor
  Policy.compile merged (some (.ofActor actor))

/-- The policy of the actor with an identifier; without a record it denies
everything. -/
def resolveById (authorizer : Authorizer) (id : Uuid) : Outcome Policy := do
  match ← authorizer.store.actor id with
  | some actor => authorizer.resolve actor
  | none =>
      Traced.report (.unknownActor id)
      -- Without an actor, so that nothing is known of who asks.
      return .empty

/-- The summary of what an actor may do. -/
def summarize (authorizer : Authorizer) (actor : Actor) : Outcome Summary := do
  let (roles, merged) ← authorizer.mergedStatements actor
  return .build roles merged

/-- The summary for the actor with an identifier; without a record it is empty. -/
def summarizeById (authorizer : Authorizer) (id : Uuid) : Outcome Summary := do
  match ← authorizer.store.actor id with
  | some actor => authorizer.summarize actor
  | none => return .empty

end Authorizer

end Entitlement
