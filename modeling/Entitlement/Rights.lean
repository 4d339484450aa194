/-!
# Levels, subjects and actions

A right is a level of access to what is done with some kind of resource.  Levels are ordered,
and where two grants concern the same right the higher one counts.

Subjects and actions are open, so that a tree may name kinds and verbs that nobody foresaw.
Two members are wildcards: the subject `all`, which a rule may name to cover every subject,
and the action `manage`, which covers every action.

Levels are ordered by rank.  Subjects and actions are ordered too, the known ones by their place
and the others behind them by name; the order has no meaning beyond that it is one.
-/

namespace Entitlement

/-! ## Access levels

The strength of a grant.  The levels are ordered, and where two grants concern
the same right the higher level counts. -/

/-- How much access a grant gives. -/
inductive Level where
  | noAccess
  | viewAccess
  | writeAccess
  | adminAccess
  deriving DecidableEq, Repr

namespace Level

/-- Every level, from the weakest to the strongest. -/
def all : List Level := [.noAccess, .viewAccess, .writeAccess, .adminAccess]

/-- The place of a level in that order. -/
def rank : Level → Nat
  | .noAccess => 0
  | .viewAccess => 1
  | .writeAccess => 2
  | .adminAccess => 3

instance : LT Level := ⟨fun a b => a.rank < b.rank⟩

instance : LE Level := ⟨fun a b => a.rank ≤ b.rank⟩

instance (a b : Level) : Decidable (a < b) := inferInstanceAs (Decidable (a.rank < b.rank))

instance (a b : Level) : Decidable (a ≤ b) := inferInstanceAs (Decidable (a.rank ≤ b.rank))

/-- The name by which a level is stored. -/
def name : Level → String
  | .noAccess => "no_access"
  | .viewAccess => "view_access"
  | .writeAccess => "write_access"
  | .adminAccess => "admin_access"

/-- The level of a name.  Names are exact: neither case nor white space is
overlooked. -/
def ofName? (text : String) : Option Level := all.find? (·.name == text)

theorem ofName?_name (level : Level) : ofName? level.name = some level := by
  cases level <;> rfl

theorem name_of_ofName? {text : String} {level : Level} (hlevel : ofName? text = some level) :
    level.name = text := by
  simpa using List.find?_some hlevel

end Level

/-! ## Kinds of resources and what is done with them -/

/-! ### Subjects -/

/-- A kind of resource. -/
inductive Subject where
  | all
  | document
  | task
  | user
  | notification
  | role
  | group
  | review
  | auditLog
  | other (name : String)
  deriving DecidableEq, Repr

namespace Subject

/-- The subjects with a name of their own. -/
def known : List Subject :=
  [.all, .document, .task, .user, .notification, .role, .group, .review, .auditLog]

/-- The name of a subject. -/
def name : Subject → String
  | .all => "all"
  | .document => "Document"
  | .task => "Task"
  | .user => "User"
  | .notification => "Notification"
  | .role => "Role"
  | .group => "Group"
  | .review => "Review"
  | .auditLog => "AuditLog"
  | .other name => name

/-- The subject of a name. -/
def ofName (text : String) : Subject := (known.find? (·.name == text)).getD (.other text)

/-- Whether a rule about this subject concerns a request about another. -/
def covers (ruled requested : Subject) : Bool := ruled == .all || ruled == requested

/-- The place of a subject before names are compared. -/
def rank : Subject → Nat
  | .all => 0
  | .document => 1
  | .task => 2
  | .user => 3
  | .notification => 4
  | .role => 5
  | .group => 6
  | .review => 7
  | .auditLog => 8
  | .other _ => 9

/-- Subjects in the order of their declaration, unforeseen ones by name. -/
instance : Ord Subject where
  compare a b := (compare a.rank b.rank).then (compare a.name b.name)

instance : ToString Subject := ⟨name⟩

theorem name_ofName (text : String) : (ofName text).name = text := by
  unfold ofName
  cases hfound : known.find? (·.name == text) with
  | none => rfl
  | some subject => simpa using List.find?_some hfound

end Subject

/-! ### Actions -/

/-- What is done with a resource. -/
inductive Action where
  | manage
  | read
  | create
  | update
  | delete
  | upload
  | notify
  | approve
  | reject
  | assign
  | escalate
  | other (name : String)
  deriving DecidableEq, Repr

namespace Action

/-- The actions with a name of their own. -/
def known : List Action :=
  [.manage, .read, .create, .update, .delete, .upload, .notify, .approve, .reject, .assign,
    .escalate]

/-- The name of an action. -/
def name : Action → String
  | .manage => "manage"
  | .read => "read"
  | .create => "create"
  | .update => "update"
  | .delete => "delete"
  | .upload => "upload"
  | .notify => "notify"
  | .approve => "approve"
  | .reject => "reject"
  | .assign => "assign"
  | .escalate => "escalate"
  | .other name => name

/-- The action of a name. -/
def ofName (text : String) : Action := (known.find? (·.name == text)).getD (.other text)

/-- Whether the action is one of the basic four or `manage`; every other action
belongs to a workflow. -/
def isBasic : Action → Bool
  | .manage => true
  | .read => true
  | .create => true
  | .update => true
  | .delete => true
  | _ => false

/-- The place of an action before names are compared. -/
def rank : Action → Nat
  | .manage => 0
  | .read => 1
  | .create => 2
  | .update => 3
  | .delete => 4
  | .upload => 5
  | .notify => 6
  | .approve => 7
  | .reject => 8
  | .assign => 9
  | .escalate => 10
  | .other _ => 11

/-- Actions in the order of their declaration, unforeseen ones by name. -/
instance : Ord Action where
  compare a b := (compare a.rank b.rank).then (compare a.name b.name)

instance : ToString Action := ⟨name⟩

theorem name_ofName (text : String) : (ofName text).name = text := by
  unfold ofName
  cases hfound : known.find? (·.name == text) with
  | none => rfl
  | some action => simpa using List.find?_some hfound

end Action

end Entitlement
