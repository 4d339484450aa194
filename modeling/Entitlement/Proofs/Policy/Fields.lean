import Entitlement.Proofs.Meaning.Right
import Entitlement.Proofs.Resolution.Provenance

/-!
# How far field lists reach

A statement that is confined to fields grants nothing on the others, with one exception:
the actions that go with admin access on its subject are allowed on every field.  These are
the assignment and the escalation of tasks and the sending of notifications.

`allowed_within_fields_iff` says exactly when a query about a field gets past all lists
that leave the field out: an extra of admin access allows it, and nothing denies it
(`exists_extra_of_not_open`).  The two sides of the equivalence are each other's negation, so the
exception is no larger than it has to be.

No role brings this about, because no path means a right on tasks or notifications that is
confined to fields (`IsGranted.fields_eq_none_of_mem_adminExtras`).  The statements of the
example at the end are therefore not made by a role.
-/

namespace Entitlement

namespace Statement

variable {statement : Statement}

/-- A statement that a role makes on tasks or on notifications has no list of fields. -/
theorem IsGranted.fields_eq_none_of_mem_adminExtras {action : Action}
    (hgranted : statement.IsGranted) (hextra : action ∈ adminExtras statement.subject) :
    statement.fields = none := by
  obtain ⟨role, path, level, rfl⟩ := hgranted
  apply Meaning.fields_ofPath_of_task_or_notification
  rcases mem_adminExtras_iff.mp hextra with ⟨htask, _⟩ | ⟨hnotification, _⟩
  · exact Or.inl htask
  · exact Or.inr hnotification

end Statement

namespace Policy

open Statement

variable {statements : List Statement} {actor : Option Identity} {query : Query} {named : String}

/-- What is allowed although no matching statement is open to the field goes with admin
access on its subject. -/
theorem exists_extra_of_not_open (hnamed : query.context.field = some named)
    (hcan : ((compile statements actor).value.can query).value = true)
    (hclosed : ∀ statement ∈ statements, statement.Matches (query.context.actor.or actor) query →
      ¬ statement.OpenTo (some named)) :
    ∃ statement ∈ statements, statement.level = .adminAccess ∧
      statement.Matches (query.context.actor.or actor) query ∧
      query.action ∈ adminExtras statement.subject := by
  obtain ⟨⟨statement, hstatement, hmatches, hreach⟩, _⟩ := can_compile_eq_true_iff.mp hcan
  rcases hreach with ⟨_, hopen⟩ | ⟨hadmin, hextra⟩
  · rw [hnamed] at hopen
    exact absurd hopen (hclosed statement hstatement hmatches)
  · exact ⟨statement, hstatement, hadmin, hmatches, hextra⟩

/-- That a query about a field is allowed by a statement open to the field fails exactly
when only an action that goes with admin access is left to allow it. -/
theorem exists_open_of_can_iff (hnamed : query.context.field = some named) :
    (((compile statements actor).value.can query).value = true →
      ∃ statement ∈ statements, statement.Matches (query.context.actor.or actor) query ∧
        statement.OpenTo (some named)) ↔
    ¬ ((∀ statement ∈ statements, statement.Matches (query.context.actor.or actor) query →
          ¬ statement.OpenTo (some named)) ∧
        (∃ statement ∈ statements, statement.level = .adminAccess ∧
          statement.Matches (query.context.actor.or actor) query ∧
          query.action ∈ adminExtras statement.subject) ∧
        ∀ statement ∈ statements, ¬ statement.Denies (query.context.actor.or actor) query) := by
  constructor
  · rintro hconfined ⟨hclosed, ⟨statement, hstatement, hadmin, hmatches, hextra⟩, hfree⟩
    have hcan : ((compile statements actor).value.can query).value = true :=
      can_compile_eq_true_iff.mpr
        ⟨⟨statement, hstatement, hmatches, Or.inr ⟨hadmin, hextra⟩⟩, hfree⟩
    obtain ⟨opening, hopening, hmatches, hopen⟩ := hconfined hcan
    exact hclosed opening hopening hmatches hopen
  · intro hrare hcan
    by_contra hnone
    have hclosed : ∀ statement ∈ statements,
        statement.Matches (query.context.actor.or actor) query →
          ¬ statement.OpenTo (some named) := by
      intro statement hstatement hmatches hopen
      exact hnone ⟨statement, hstatement, hmatches, hopen⟩
    have hfree := (can_compile_eq_true_iff.mp hcan).2
    exact hrare ⟨hclosed, exists_extra_of_not_open hnamed hcan hclosed, hfree⟩

/-- **Field lists confine what is allowed, but for the extras of admin access.**  Let a query
name a field.  That it is allowed only if some matching statement has no list of fields, or
one with this field, is true unless all matching statements leave the field out, one of them
gives admin access and the action goes with it on the subject, and no statement denies the
query.  It is always true of statements that roles make. -/
theorem allowed_within_fields_iff (hnamed : query.context.field = some named) :
    ((((compile statements actor).value.can query).value = true →
        ∃ statement ∈ statements, statement.Matches (query.context.actor.or actor) query ∧
          (statement.fields = none ∨
            ∃ fields, statement.fields = some fields ∧ named ∈ fields)) ↔
      ¬ ((∀ statement ∈ statements, statement.Matches (query.context.actor.or actor) query →
            ∃ fields, statement.fields = some fields ∧ named ∉ fields) ∧
          (∃ statement ∈ statements, statement.level = .adminAccess ∧
            statement.Matches (query.context.actor.or actor) query ∧
            ((statement.subject = .task ∧ (query.action = .assign ∨ query.action = .escalate)) ∨
              (statement.subject = .notification ∧ query.action = .notify))) ∧
          ∀ statement ∈ statements, ¬ statement.Denies (query.context.actor.or actor) query)) ∧
    ((∀ statement ∈ statements, statement.IsGranted) →
      ((compile statements actor).value.can query).value = true →
        ∃ statement ∈ statements, statement.Matches (query.context.actor.or actor) query ∧
          (statement.fields = none ∨
            ∃ fields, statement.fields = some fields ∧ named ∈ fields)) := by
  simp only [← openTo_some_iff, ← not_openTo_some_iff, ← mem_adminExtras_iff]
  constructor
  · exact exists_open_of_can_iff hnamed
  · intro hgranted
    apply (exists_open_of_can_iff hnamed).mpr
    rintro ⟨hclosed, ⟨statement, hstatement, _, hmatches, hextra⟩, _⟩
    have hfields := (hgranted statement hstatement).fields_eq_none_of_mem_adminExtras hextra
    exact hclosed statement hstatement hmatches (openTo_some_iff.mpr (Or.inl hfields))

end Policy

/-! ## The titles of tasks -/

namespace Sample

/-- Every right on the titles of tasks. -/
def taskTitles : Statement :=
  ⟨.task, .read, .adminAccess, ∅, some ["title"], "taskAccess.titles", lead.id, lead.roleName⟩

/-- Doing something with a field of a task. -/
def withTaskField (action : Action) (field : String) : Query :=
  ⟨action, .task, ⟨none, ∅, some field⟩⟩

end Sample

/-- Whoever has every right on the titles of tasks changes the title of a task, and the
statement that allows it lists the title. -/
theorem title_is_changed_within_fields :
    ((Policy.compile [Sample.taskTitles] none).value.can
        (Sample.withTaskField .update "title")).value = true ∧
      ∃ statement ∈ [Sample.taskTitles],
        statement.Matches none (Sample.withTaskField .update "title") ∧
          (statement.fields = none ∨
            ∃ fields, statement.fields = some fields ∧ "title" ∈ fields) := by
  have hcan : ((Policy.compile [Sample.taskTitles] none).value.can
      (Sample.withTaskField .update "title")).value = true := by
    decide
  refine ⟨hcan, (Policy.allowed_within_fields_iff rfl).1.mpr ?_ hcan⟩
  rintro ⟨_, ⟨statement, _, _, _, ⟨_, haction⟩ | ⟨_, haction⟩⟩, _⟩
  · rcases haction with haction | haction <;> contradiction
  · contradiction

/-- Field lists do not confine everything: whoever has every right on the titles of tasks
assigns a task by its assignee, a field that no statement lists. -/
theorem not_forall_allowed_within_fields :
    ¬ ∀ (statements : List Statement) (actor : Option Identity) (query : Query) (named : String),
      query.context.field = some named →
      ((Policy.compile statements actor).value.can query).value = true →
      ∃ statement ∈ statements, statement.Matches (query.context.actor.or actor) query ∧
        (statement.fields = none ∨
          ∃ fields, statement.fields = some fields ∧ named ∈ fields) := by
  intro hall
  have hcan : ((Policy.compile [Sample.taskTitles] none).value.can
      (Sample.withTaskField .assign "assignee")).value = true := by
    decide
  obtain ⟨statement, hstatement, _, hfields⟩ := hall _ _ _ "assignee" rfl hcan
  obtain rfl : statement = Sample.taskTitles := List.mem_singleton.mp hstatement
  rcases hfields with hnone | ⟨fields, hfields, hlisted⟩
  · contradiction
  · obtain rfl : ["title"] = fields := Option.some.inj hfields
    simp at hlisted

end Entitlement
