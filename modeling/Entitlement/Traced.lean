import Entitlement.Statement

/-!
# Computations that fail and report

Whatever resolves a policy or answers a query may look up records, may report what happens on
the way, and may fail.  A traced value comes with the events and the lookups on the way to it,
in order.  An outcome may also fail; its trace then goes as far as the failure.

Errors and events are causes.  Their wording is a function of the cause, and an event is a
warning when a grant or a rule is passed over, or when a request would be denied.

The failure is inside the trace and not the other way round: what has been reported before a
failure stays reported.  So the result of an outcome and its trace can be studied apart, and
results compose without any look at the traces.
-/

namespace Entitlement

/-! ## Errors

Why a decision could not be made, or why a request was turned away.  Each error
is a cause; its wording is a function of the cause. -/

/-- The kinds of records that are looked up. -/
inductive RecordKind where
  | roles
  | groups
  | actor
  deriving DecidableEq, Repr

/-- The name of a kind of records. -/
def RecordKind.name : RecordKind → String
  | .roles => "roles"
  | .groups => "groups"
  | .actor => "actor"

/-- The causes of failure. -/
inductive Error where
  /-- A leaf holds no access level, and none may be passed over. -/
  | unknownLevel (path text : String)
  /-- The policy does not allow the request. -/
  | forbidden (action : Action) (subject : Subject)
  /-- A lookup of records failed. -/
  | outage (kind : RecordKind)
  /-- The stored permission tree of a role is not JSON. -/
  | corruptTree (role : Uuid)
  /-- The setting for the mode of enforcement is not a mode. -/
  | badMode (setting : String)
  /-- The setting for strict levels is neither true nor false. -/
  | badStrictness (setting : String)
  /-- The text of a fixture does not fit. -/
  | badFixture (fault : Decode.Fault)
  /-- The file of a fixture cannot be read, for a reason. -/
  | unreadableFixture (path reason : String)
  /-- The database refused a statement or cannot be opened. -/
  | database
  /-- The database refused to have its tables created. -/
  | migration
  /-- A value does not decode. -/
  | undecodable (misfit : Decode.Misfit)
  /-- A column that is read does not hold text. -/
  | missingColumn (column : String)
  /-- A column that is read does not hold an identifier. -/
  | invalidId (text : String)

namespace Error

open Decode (ticked)

/-- The message of an error. -/
def message : Error → String
  | .unknownLevel path text => "unknown access level " ++ ticked text ++ " at " ++ ticked path
  | .forbidden action subject => "forbidden: " ++ action.name ++ " on " ++ subject.name
  | .outage kind => "store error: " ++ kind.name ++ " failed"
  | .corruptTree role =>
      "invalid record " ++ role.text ++ ": permission_tree is not valid JSON"
  | .badMode setting =>
      "configuration error: AUTHZ_MODE must be off, advisory or strict, got " ++ ticked setting
  | .badStrictness setting =>
      "configuration error: AUTHZ_STRICT_LEVELS must be a boolean, got " ++ ticked setting
  | .badFixture fault => "fixture error: " ++ fault.textMessage
  | .unreadableFixture path reason =>
      "fixture error: failed to read " ++ path ++ ": " ++ reason
  | .database => "database error"
  | .migration => "migration error"
  | .undecodable _ => "serialization error"
  | .missingColumn column => "internal error: missing " ++ column
  | .invalidId text => "internal error: invalid uuid " ++ ticked text

/-- Whether the error is a denial, which is an expected outcome; every other error
is a defect or an outage. -/
def isDenial : Error → Bool
  | .forbidden _ _ => true
  | _ => false

end Error

/-- The level of a name, which has to be the name of one. -/
def Level.ofName (name : String) : Except Error Level :=
  match Level.ofName? name with
  | some level => .ok level
  | none => .error (.unknownLevel "" name)

/-! ## Events

What is worth reporting while policies are built and queries answered.  An event
is a warning when a grant or a rule is passed over, or when a request would be
denied; all other events only help to follow what happens. -/

/-- How much attention an event deserves. -/
inductive Severity where
  | debug
  | warning
  deriving DecidableEq, Repr

/-- The name of a severity. -/
def Severity.name : Severity → String
  | .debug => "DEBUG"
  | .warning => "WARN"

/-- The events. -/
inductive Event where
  /-- A leaf that is no access level grants nothing. -/
  | droppedGrant (role : Uuid) (roleName path value : String)
  | mappedRole (role : Uuid) (roleName : String) (statements : Nat)
  /-- A statement gave way to one about the same right with a higher level. -/
  | raisedLevel (key : String) (lower higher : Level) (roleName : String)
  | compiledPolicy (statements rules : Nat)
  /-- A rule was passed over for want of an attribute of the actor. -/
  | unresolvedPlaceholder (actor : Option Uuid) (origin : String) (placeholder : Placeholder)
  | explicitDeny (actor : Option Uuid) (action : Action) (subject : Subject) (origin : String)
  | evaluated (actor : Option Uuid) (action : Action) (subject : Subject) (allowed : Bool)
  /-- A request was let through that strict enforcement would turn away. -/
  | wouldDeny (actor : Option Uuid) (action : Action) (subject : Subject)
  | fetchedRoles (requested found : Nat)
  | fetchedActorRoles (actor : Uuid) (direct viaGroups : Nat)
  | mergedStatements (actor : Uuid) (roles flattened merged : Nat)
  | unknownActor (actor : Uuid)

namespace Event

/-- The severity of an event. -/
def severity : Event → Severity
  | .droppedGrant .. => .warning
  | .unresolvedPlaceholder .. => .warning
  | .wouldDeny .. => .warning
  | _ => .debug

/-- The message of an event. -/
def message : Event → String
  | .droppedGrant .. => "dropping grant with unrecognized access level"
  | .mappedRole .. => "mapped role permission tree"
  | .raisedLevel .. => "statement overridden by higher access level"
  | .compiledPolicy .. => "compiled policy"
  | .unresolvedPlaceholder .. => "unresolved condition placeholder; rule skipped"
  | .explicitDeny .. => "explicit deny"
  | .evaluated .. => "permission evaluated"
  | .wouldDeny .. => "advisory mode: request would be denied"
  | .fetchedRoles .. => "fetched roles"
  | .fetchedActorRoles .. => "fetched actor roles"
  | .mergedStatements .. => "merged actor statements"
  | .unknownActor .. => "no actor record; resolving to deny-all"

/-- An actor who may be unknown. -/
def someActor : Option Uuid → Json
  | none => .str "None"
  | some id => .str ("Some(" ++ id.text ++ ")")

/-- The particulars of an event by name. -/
def fields : Event → List (String × Json)
  | .droppedGrant role roleName path value =>
      [("role_id", .str role.text), ("role", .str roleName), ("path", .str path),
        ("value", .str value)]
  | .mappedRole role roleName statements =>
      [("role_id", .str role.text), ("role", .str roleName), ("statements", .nat statements)]
  | .raisedLevel key lower higher roleName =>
      [("key", .str key), ("from", .str lower.name), ("to", .str higher.name),
        ("role", .str roleName)]
  | .compiledPolicy statements rules =>
      [("statements", .nat statements), ("rules", .nat rules)]
  | .unresolvedPlaceholder actor origin placeholder =>
      [("actor_id", someActor actor), ("origin", .str origin),
        ("placeholder", .str placeholder.token)]
  | .explicitDeny actor action subject origin =>
      [("actor_id", someActor actor), ("action", .str action.name),
        ("subject", .str subject.name), ("origin", .str origin)]
  | .evaluated actor action subject allowed =>
      [("actor_id", someActor actor), ("action", .str action.name),
        ("subject", .str subject.name), ("allowed", .bool allowed)]
  | .wouldDeny actor action subject =>
      [("actor_id", someActor actor), ("action", .str action.name),
        ("subject", .str subject.name)]
  | .fetchedRoles requested found => [("requested", .nat requested), ("found", .nat found)]
  | .fetchedActorRoles actor direct viaGroups =>
      [("actor_id", .str actor.text), ("direct", .nat direct), ("via_groups", .nat viaGroups)]
  | .mergedStatements actor roles flattened merged =>
      [("actor_id", .str actor.text), ("roles", .nat roles), ("flattened", .nat flattened),
        ("merged", .nat merged)]
  | .unknownActor actor => [("actor_id", .str actor.text)]

end Event

/-! ## Traces

A traced value comes with what happened on the way to it: the events and the
lookups of records, in order.  An outcome may also fail; its trace then goes as
far as the failure. -/

universe u

/-- A lookup of records. -/
inductive Request where
  | roles (ids : List Uuid)
  | groups (ids : List Uuid)
  | actor (id : Uuid)
  deriving DecidableEq

/-- The kind of records that a request asks for. -/
def Request.kind : Request → RecordKind
  | .roles _ => .roles
  | .groups _ => .groups
  | .actor _ => .actor

/-- Something that happened. -/
inductive TraceEntry where
  | event (event : Event)
  | request (request : Request)

/-- A value and what happened on the way to it. -/
structure Traced (α : Type u) where
  value : α
  trace : List TraceEntry

namespace Traced

/-- Runs the second computation after the first one; their traces follow each
other. -/
protected def bind {α β : Type u} (first : Traced α) (next : α → Traced β) : Traced β :=
  ⟨(next first.value).value, first.trace ++ (next first.value).trace⟩

instance : Monad Traced where
  pure value := ⟨value, []⟩
  bind := Traced.bind

/-- Reports an event. -/
def report (event : Event) : Traced PUnit := ⟨⟨⟩, [.event event]⟩

/-- Notes that records are asked for. -/
def note (request : Request) : Traced PUnit := ⟨⟨⟩, [.request request]⟩

/-- The events in a trace. -/
def events {α : Type u} (traced : Traced α) : List Event :=
  traced.trace.filterMap fun
    | .event event => some event
    | .request _ => none

/-- The requests in a trace. -/
def requests {α : Type u} (traced : Traced α) : List Request :=
  traced.trace.filterMap fun
    | .event _ => none
    | .request request => some request

@[simp] theorem value_pure {α : Type u} (value : α) : (pure value : Traced α).value = value :=
  rfl

@[simp] theorem trace_pure {α : Type u} (value : α) : (pure value : Traced α).trace = [] := rfl

@[simp] theorem value_bind {α β : Type u} (first : Traced α) (next : α → Traced β) :
    (first >>= next).value = (next first.value).value := rfl

@[simp] theorem value_map {α β : Type u} (f : α → β) (traced : Traced α) :
    (f <$> traced).value = f traced.value := rfl

@[simp] theorem trace_bind {α β : Type u} (first : Traced α) (next : α → Traced β) :
    (first >>= next).trace = first.trace ++ (next first.value).trace := rfl

instance : LawfulMonad Traced :=
  LawfulMonad.mk' Traced
    (fun x => by
      show Traced.mk x.value (x.trace ++ []) = x
      simp)
    (fun _ _ => rfl)
    (fun x _ _ => by
      show Traced.mk _ ((x.trace ++ _) ++ _) = Traced.mk _ (x.trace ++ (_ ++ _))
      simp)

end Traced

/-- A computation with a trace that may fail. -/
abbrev Outcome (α : Type) := ExceptT Error Traced α

namespace Outcome

/-- The result of an outcome. -/
def result {α : Type} (outcome : Outcome α) : Except Error α := outcome.run.value

/-- What happened on the way to the result. -/
def trace {α : Type} (outcome : Outcome α) : List TraceEntry := outcome.run.trace

/-- The outcome with a result and a trace. -/
def of {α : Type} (result : Except Error α) (trace : List TraceEntry) : Outcome α :=
  ExceptT.mk ⟨result, trace⟩

/-- A failure. -/
def fail {α : Type} (error : Error) : Outcome α := throw error

end Outcome

end Entitlement
