import Entitlement.Record

/-!
# Statements

A statement is one grant of one role: the level of access to a right, the conditions under which
the right holds, and where it comes from.  Two statements concern the same right when they agree
in subject, action and conditions; their keys say so.

A condition demands that an attribute of the resource has a value, which is fixed or is taken
from whoever asks.

A condition in its written form is a value.  The four tokens of placeholders are written as
texts, so a text that is spelled like a token reads as the placeholder; inside the library the
two are told apart, and the organization of a role is always a text.
-/

namespace Entitlement

/-! ## Conditions

A condition demands that an attribute of the resource has a value.  The value is
either fixed, or a placeholder for an attribute of the actor that is filled in
when the query is answered. -/

/-- An attribute of the actor that a condition may refer to. -/
inductive Placeholder where
  | id
  | email
  | domain
  | department
  deriving DecidableEq, Repr

namespace Placeholder

/-- Every placeholder. -/
def all : List Placeholder := [.id, .email, .domain, .department]

/-- The written form of a placeholder. -/
def token : Placeholder → String
  | .id => "$\x7buser.id\x7d"
  | .email => "$\x7buser.email\x7d"
  | .domain => "$\x7buser.domain\x7d"
  | .department => "$\x7buser.department\x7d"

/-- The placeholder with a written form. -/
def ofToken? (text : String) : Option Placeholder := all.find? (·.token == text)

theorem ofToken?_token (placeholder : Placeholder) :
    ofToken? placeholder.token = some placeholder := by
  cases placeholder <;> rfl

end Placeholder

/-- The value that a condition demands. -/
inductive Condition where
  | literal (value : Json)
  | placeholder (which : Placeholder)

namespace Condition

/-- The value in its written form. -/
def toJson : Condition → Json
  | .literal value => value
  | .placeholder which => .str which.token

/-- Reads a written form; a string that is a token becomes the placeholder. -/
def ofJson : Json → Condition
  | .str text =>
      match Placeholder.ofToken? text with
      | some which => .placeholder which
      | none => .literal (.str text)
  | value => .literal value

/-- The literal text `text`, also when it looks like a placeholder. -/
def text (text : String) : Condition := .literal (.str text)

end Condition

/-- The demanded values by attribute. -/
abbrev Conditions := Dict Condition

/-- The conditions as an object. -/
def Conditions.toJson (conditions : Conditions) : Json :=
  Json.ofDict (conditions.map Condition.toJson)

/-! ## One grant -/

/-- A grant at one path of one role's tree. -/
structure Statement where
  subject : Subject
  action : Action
  level : Level
  conditions : Conditions
  /-- The fields to which the grant is confined; absent when it is not. -/
  fields : Option (List String)
  path : String
  roleId : Uuid
  roleName : String

namespace Statement

/-- The text by which statements about the same right are recognised: subject,
action, and the conditions as compact JSON. -/
def key (statement : Statement) : String :=
  statement.subject.name ++ "|" ++ statement.action.name ++ "|" ++
    statement.conditions.toJson.text

end Statement

/-! ## As JSON

How statements and their parts are read and written.  Conditions without entries
and absent fields are left out; a list of fields without entries is not. -/

open Decode

/-- The decoder of levels. -/
def Level.decoder : Decoder Level := variant (Level.all.map fun level => (level.name, level))

/-- A level by its name. -/
def Level.toJson (level : Level) : Json := .str level.name

/-- The decoder of subjects. -/
def Subject.decoder : Decoder Subject := mapped Subject.ofName text

/-- A subject by its name. -/
def Subject.toJson (subject : Subject) : Json := .str subject.name

/-- The decoder of actions. -/
def Action.decoder : Decoder Action := mapped Action.ofName text

/-- An action by its name. -/
def Action.toJson (action : Action) : Json := .str action.name

/-- The decoder of conditions. -/
def Condition.decoder : Decoder Condition := mapped Condition.ofJson anything

namespace Decode

/-- A list of texts. -/
def texts : Decoder (List String) := listOf text

/-- The field with the conditions, which may be left out. -/
def conditionsField : Fields Conditions := defaulting "conditions" (dictOf Condition.decoder) ∅

/-- The field with the names of fields, which may be null or left out. -/
def fieldsField : Fields (Option (List String)) := defaulting "fields" (nullable texts) none

end Decode

/-- Texts as an array. -/
def textsJson (texts : List String) : Json := .arr (texts.map .str)

/-- Conditions as a member, unless there are none. -/
def conditionsMember (conditions : Conditions) : List (String × Json) :=
  if conditions.isEmpty then [] else [("conditions", conditions.toJson)]

/-- Names of fields as a member, unless they are absent. -/
def fieldsMember (fields : Option (List String)) : List (String × Json) :=
  match fields with
  | none => []
  | some fields => [("fields", textsJson fields)]

/-- The decoder of statements. -/
def Statement.decoder : Decoder Statement :=
  record "PolicyStatement" <|
    Statement.mk <$> required "subject" Subject.decoder <*> required "action" Action.decoder <*>
      required "accessLevel" Level.decoder <*> conditionsField <*> fieldsField <*>
      required "path" Decode.text <*> required "roleId" identifier <*>
      required "roleName" Decode.text

/-- A statement as an object. -/
def Statement.toJson (statement : Statement) : Json :=
  .obj ([("subject", statement.subject.toJson), ("action", statement.action.toJson),
    ("accessLevel", statement.level.toJson)] ++ conditionsMember statement.conditions ++
    fieldsMember statement.fields ++
    [("path", .str statement.path), ("roleId", statement.roleId.toJson),
      ("roleName", .str statement.roleName)])

end Entitlement
