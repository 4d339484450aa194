import Entitlement.Traced

/-!
# Policies

A policy is a list of rules, together with the identity of the actor for whom it was made.  A
rule allows or denies actions on a subject, under conditions and possibly on some fields only.
The rules keep their placeholders, so that one policy serves queries by others as well.

A query is made by somebody about some resource.  The policy itself is compiled from
statements, each of which amounts to one or two rules.
-/

namespace Entitlement

/-! ## The context of a query

A query is made by somebody about some resource.  The identity of the one who
asks fills in placeholders and stands in for the resource's domain and
department; everything else that conditions speak of has to be an attribute of
the resource. -/

/-- What is known about somebody who acts. -/
structure Identity where
  id : Option Uuid
  email : Option String
  domain : Option String
  department : Option String
  deriving DecidableEq

namespace Identity

/-- Nobody in particular. -/
def unknown : Identity := ⟨none, none, none, none⟩

/-- Everything that the record of an actor tells. -/
def ofActor (actor : Actor) : Identity :=
  ⟨some actor.id, some actor.email, some actor.domain, some actor.department⟩

/-- The value of a placeholder, if it is known. -/
def resolve? (identity : Identity) : Placeholder → Option Json
  | .id => identity.id.map fun id => .str id.text
  | .email => identity.email.map .str
  | .domain => identity.domain.map .str
  | .department => identity.department.map .str

/-- The attribute that an identity lends to a resource: its domain and its
department, and never its id or its email. -/
def attribute? (identity : Identity) (key : String) : Option Json :=
  if key = "domain" then identity.resolve? .domain
  else if key = "department" then identity.resolve? .department
  else none

end Identity

/-- The resource that a query is about, the field of it, and the one who asks when
that is not the actor of the policy. -/
structure Context where
  actor : Option Identity
  attributes : Dict Json
  field : Option String

namespace Context

/-- The context without any information. -/
def empty : Context := ⟨none, ∅, none⟩

/-- The context of a resource with attributes. -/
def ofAttributes (attributes : Dict Json) : Context := ⟨none, attributes, none⟩

/-- The value of an attribute: the resource's own, or else the one that the
identity lends. -/
def lookup? (context : Context) (key : String) (identity : Option Identity) : Option Json :=
  match context.attributes.get? key with
  | some value => some value
  | none => identity.bind (·.attribute? key)

end Context

/-- A request to do something with a kind of resource. -/
structure Query where
  action : Action
  subject : Subject
  context : Context

/-! ## Rules and policies -/

/-- What a rule does to the requests that it applies to. -/
inductive Decision where
  | allow
  | deny
  deriving DecidableEq, Repr

/-- The name of a decision. -/
def Decision.name : Decision → String
  | .allow => "allow"
  | .deny => "deny"

/-- A rule. -/
structure Rule where
  decision : Decision
  actions : List Action
  subject : Subject
  conditions : Conditions
  /-- The fields to which the rule is confined; absent when it is not. -/
  fields : Option (List String)
  /-- The path of the statement that the rule comes from. -/
  origin : String

/-- The rules for an actor. -/
structure Policy where
  actor : Option Identity
  rules : List Rule

namespace Policy

/-- The policy without rules, which denies everything. -/
def empty : Policy := ⟨none, []⟩

/-- Whether there are no rules. -/
def isEmpty (policy : Policy) : Bool := policy.rules.isEmpty

end Policy

/-! ## From statements to rules

What each level of access amounts to.  Every level but the highest also denies
what lies above it, so that a restriction holds against other grants:

- no access denies the statement's own action;
- view access allows reading and denies the actions that change;
- write access allows reading, creating and updating, uploading of documents, and
  the statement's own action when it belongs to a workflow; it denies deletion;
- admin access allows everything.

Only allowing rules are confined to the statement's fields. -/

namespace Statement

/-- A rule that allows actions within the fields of a statement. -/
def allowing (statement : Statement) (actions : List Action) : Rule :=
  ⟨.allow, actions, statement.subject, statement.conditions, statement.fields, statement.path⟩

/-- A rule that allows actions on every field. -/
def allowingEverywhere (statement : Statement) (actions : List Action) : Rule :=
  ⟨.allow, actions, statement.subject, statement.conditions, none, statement.path⟩

/-- A rule that denies actions on every field. -/
def denying (statement : Statement) (actions : List Action) : Rule :=
  ⟨.deny, actions, statement.subject, statement.conditions, none, statement.path⟩

/-- The actions of write access. -/
def writeActions (statement : Statement) : List Action :=
  let common : List Action :=
    [.read, .create, .update] ++ if statement.subject = .document then [.upload] else []
  if statement.action.isBasic || common.contains statement.action then common
  else common ++ [statement.action]

/-- The actions that go with admin access beyond the fields of a statement. -/
def adminExtras : Subject → List Action
  | .task => [.assign, .escalate]
  | .notification => [.notify]
  | _ => []

/-- The rules that a statement amounts to. -/
def rules (statement : Statement) : List Rule :=
  match statement.level with
  | .noAccess => [statement.denying [statement.action]]
  | .viewAccess => [statement.allowing [.read], statement.denying [.create, .update, .delete]]
  | .writeAccess => [statement.allowing statement.writeActions, statement.denying [.delete]]
  | .adminAccess =>
      match adminExtras statement.subject with
      | [] => [statement.allowing [.manage]]
      -- What is added has no fields, so the fields of the statement do not confine it.
      | extras => [statement.allowing [.manage], statement.allowingEverywhere extras]

end Statement

/-- The policy that statements amount to, rule by rule in their order. -/
def Policy.compile (statements : List Statement) (actor : Option Identity) : Traced Policy := do
  let rules := statements.flatMap Statement.rules
  Traced.report (.compiledPolicy statements.length rules.length)
  return ⟨actor, rules⟩

end Entitlement
