import Entitlement.Policy

/-!
# Answering queries

A rule applies to a request when its subject, its actions, its fields and its conditions all
admit the request.  One denying rule that applies denies it; else one allowing rule that applies
allows it; else it is denied.

A condition whose placeholder is not known can be neither met nor missed: the rule is passed
over with a warning.  What a guard does with the answer depends on the mode of enforcement.

A query about a resource as a whole names no field.  A rule that allows on some fields applies to
it, a rule that denies on some fields does not.  The first denial that applies ends the search;
until then all rules are gone through, since a denial may stand behind any number of permissions.
-/

namespace Entitlement

/-! ## When a rule applies -/

/-! ### Conditions -/

/-- How conditions compare with a context. -/
inductive Fit where
  | met
  | missed
  | unresolved (placeholder : Placeholder)
  deriving DecidableEq

/-- The value that a condition demands of an identity, or the placeholder that is
not known. -/
def Condition.demanded (identity : Option Identity) : Condition → Except Placeholder Json
  | .literal value => .ok value
  | .placeholder which =>
      match identity.bind (·.resolve? which) with
      | some value => .ok value
      | none => .error which

/-- Compares conditions one by one, up to the first that is not met. -/
def Context.fit (context : Context) (identity : Option Identity) :
    List (String × Condition) → Fit
  | [] => .met
  | (key, condition) :: rest =>
      match condition.demanded identity with
      | .error placeholder => .unresolved placeholder
      | .ok value =>
          if (context.lookup? key identity).any (·.same value) then context.fit identity rest
          else .missed

/-! ### Rules -/

namespace Rule

/-- Whether the actions of a rule include an action; `manage` includes all. -/
def covers (rule : Rule) (action : Action) : Bool :=
  rule.actions.any fun ruled => ruled == .manage || ruled == action

/-- Whether the fields of a rule admit a query.  A query that names no field is
about the resource as a whole: a right on some fields suffices for it, and a
denial of some fields does not block it. -/
def admits (rule : Rule) (field : Option String) : Bool :=
  match rule.fields, field with
  | none, _ => true
  | some _, none => rule.decision == .allow
  | some fields, some field => fields.contains field

/-- Whether a rule is about a request, whatever its conditions. -/
def concerns (rule : Rule) (query : Query) : Bool :=
  rule.subject.covers query.subject && rule.covers query.action && rule.admits query.context.field

end Rule

/-! ### Policies -/

namespace Policy

/-- The identity that a query is answered for: the one it brings, or else the
actor of the policy. -/
def identity (policy : Policy) (context : Context) : Option Identity :=
  context.actor.or policy.actor

/-- Goes on through rules, after `allowed` has been found so far. -/
def answerFrom (identity : Option Identity) (query : Query) (allowed : Bool) :
    List Rule → Traced Bool
  | [] => do
      Traced.report
        (.evaluated (identity.bind (·.id)) query.action query.subject allowed)
      return allowed
  | rule :: rest =>
      if rule.concerns query then
        match query.context.fit identity rule.conditions.entries with
        | .missed => answerFrom identity query allowed rest
        -- A rule that cannot be decided is passed over, whether it allows or denies.
        | .unresolved placeholder => do
            Traced.report
              (.unresolvedPlaceholder (identity.bind (·.id)) rule.origin placeholder)
            answerFrom identity query allowed rest
        | .met =>
            match rule.decision with
            -- A later rule may still deny, so the search goes on.
            | .allow => answerFrom identity query true rest
            | .deny => do
                Traced.report
                  (.explicitDeny (identity.bind (·.id)) query.action query.subject rule.origin)
                return false
      else answerFrom identity query allowed rest

/-- Whether a policy allows a request. -/
def can (policy : Policy) (query : Query) : Traced Bool :=
  answerFrom (policy.identity query.context) query false policy.rules

/-- Whether a policy allows an action on a resource, which is known by its subject
and its attributes. -/
def canOn (policy : Policy) (action : Action) (subject : Subject) (attributes : Dict Json) :
    Traced Bool :=
  policy.can ⟨action, subject, .ofAttributes attributes⟩

end Policy

/-! ## Enforcing policies

How a guard acts on the answer of a policy.  In the mode `off` it asks nothing
and lets everything pass; in the mode `advisory` it lets everything pass but warns
of what it would turn away; in the mode `strict` it turns away what the policy
does not allow. -/

/-- A mode of enforcement. -/
inductive Mode where
  | off
  | advisory
  | strict
  deriving DecidableEq, Repr

namespace Mode

/-- The settings that name modes. -/
def settings : List (String × Mode) :=
  [("", .off), ("off", .off), ("advisory", .advisory), ("strict", .strict)]

/-- The mode of a setting, which may be written in either case and amid white
space. -/
def ofSetting? (setting : String) : Option Mode :=
  settings.lookup (Text.toLower (Text.trim setting))

end Mode

/-- Lets a request pass or turns it away. -/
def Policy.enforce (policy : Policy) (mode : Mode) (query : Query) : Outcome Unit :=
  if mode = .off then return ()
  else do
    if ← policy.can query then return ()
    else if mode = .advisory then
      Traced.report
        -- The actor of the policy is named, also when the query is answered for another one.
        (.wouldDeny (policy.actor.bind (·.id)) query.action query.subject)
    else .fail (.forbidden query.action query.subject)

end Entitlement
