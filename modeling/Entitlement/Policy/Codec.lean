import Entitlement.Policy

/-!
# Policies as JSON

How identities, rules and policies are read and written.  A stored policy carries
the time at which it was made.
-/

namespace Entitlement

open Decode

/-- The decoder of identities. -/
def Identity.decoder : Decoder Identity :=
  record "ActorContext" <|
    Identity.mk <$> optional "id" identifier <*> optional "email" text <*>
      optional "domain" text <*> optional "department" text

/-- A value, or null when it is absent. -/
def Json.ofOption {α : Type} (toJson : α → Json) (value : Option α) : Json :=
  (value.map toJson).getD .null

/-- An identity as an object with all its members. -/
def Identity.toJson (identity : Identity) : Json :=
  .obj [("id", .ofOption Uuid.toJson identity.id), ("email", .ofOption .str identity.email),
    ("domain", .ofOption .str identity.domain),
    ("department", .ofOption .str identity.department)]

/-- The decoder of decisions. -/
def Decision.decoder : Decoder Decision :=
  variant [(Decision.allow.name, .allow), (Decision.deny.name, .deny)]

/-- The decoder of rules. -/
def Rule.decoder : Decoder Rule :=
  record "CompiledRule" <|
    Rule.mk <$> required "decision" Decision.decoder <*>
      required "actions" (listOf Action.decoder) <*> required "subject" Subject.decoder <*>
      conditionsField <*> fieldsField <*> required "origin" text

/-- A rule as an object. -/
def Rule.toJson (rule : Rule) : Json :=
  .obj ([("decision", .str rule.decision.name), ("actions", .arr (rule.actions.map Action.toJson)),
    ("subject", rule.subject.toJson)] ++ conditionsMember rule.conditions ++
    fieldsMember rule.fields ++ [("origin", .str rule.origin)])

/-- The decoder of stored policies: the policy and the time at which it was made. -/
def Policy.decoder : Decoder (Policy × String) :=
  record "CompiledPolicy" <|
    (fun actor rules time => (⟨actor, rules⟩, time)) <$> optional "actor" Identity.decoder <*>
      required "rules" (listOf Rule.decoder) <*> required "compiled_at" time

/-- A policy as an object, with the time at which it was made. -/
def Policy.toJson (policy : Policy) (time : String) : Json :=
  .obj [("actor", .ofOption Identity.toJson policy.actor),
    ("rules", .arr (policy.rules.map Rule.toJson)), ("compiled_at", .str time)]

end Entitlement
