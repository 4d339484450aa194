import Entitlement.Proofs.Resolution.Identity

/-!
# Advisory enforcement rehearses strict enforcement

Advisory enforcement is strict enforcement that lets everything pass.  Both ask the policy
once and report what the policy reports; where the strict mode then turns a request away, the
advisory mode warns of the same action on the same subject (`advisory_rehearses_strict`).

The two accounts of one request differ in whom they name.  Everything that the policy reports
names the identity for which the query is answered (`asker?_of_mem_events_can`), and a query may
bring an identity of its own.  The warning names the actor of the policy all the same, so it
names the one who asks only if the two have the same identifier.

What the policy reports is told by `Event.TellsOf`: rules that are passed over, a denial, and the
answer, in whatever number.  The induction over the rules keeps it
(`tellsOf_of_mem_events_answerFrom`) and shows as well that the answer is always reported
(`events_answerFrom_ne_nil`), so the statement about names is never empty.  No event of this
kind is the warning of the advisory mode, and so the warning is traced to the one place that
makes it (`wouldDeny_mem_warnings_iff`).
-/

namespace Entitlement

variable {identity : Option Identity} {query : Query} {event : Event}

/-! ## What is reported of an answer -/

/-- Whom an event about an answer names as the one who asks, if it is about an answer. -/
def Event.asker? : Event → Option (Option Uuid)
  | .unresolvedPlaceholder actor .. => some actor
  | .explicitDeny actor .. => some actor
  | .evaluated actor .. => some actor
  | .wouldDeny actor .. => some actor
  | _ => none

/-- The events that answering a query may report: rules that are passed over, and the answer. -/
inductive Event.TellsOf (asker : Option Uuid) (query : Query) : Event → Prop
  | skipped (origin : String) (placeholder : Placeholder) :
      TellsOf asker query (.unresolvedPlaceholder asker origin placeholder)
  | denied (origin : String) :
      TellsOf asker query (.explicitDeny asker query.action query.subject origin)
  | answered (allowed : Bool) :
      TellsOf asker query (.evaluated asker query.action query.subject allowed)

theorem Event.TellsOf.asker?_eq {asker : Option Uuid} (htells : event.TellsOf asker query) :
    event.asker? = some asker := by
  cases htells <;> rfl

namespace Policy

variable {allowed : Bool} {rules : List Rule} {policy : Policy}

/-- The identifier of the one for whom a query is answered, if it is known. -/
def askerOf (policy : Policy) (context : Context) : Option Uuid :=
  (policy.identity context).bind (·.id)

theorem tellsOf_of_mem_events_answerFrom
    (hevent : event ∈ (answerFrom identity query allowed rules).events) :
    event.TellsOf (identity.bind (·.id)) query := by
  induction rules generalizing allowed with
  | nil =>
      obtain rfl := List.mem_singleton.mp hevent
      exact .answered allowed
  | cons rule rest ih =>
      rw [answerFrom] at hevent
      -- A rule reports at most one event, and only if it is about the query.
      by_cases hconcerns : rule.concerns query = true
      · rw [if_pos hconcerns] at hevent
        cases hfit : query.context.fit identity rule.conditions.entries with
        | missed =>
            rw [hfit] at hevent
            exact ih hevent
        | unresolved placeholder =>
            simp only [hfit, Traced.events_bind, Traced.events_report, List.mem_append,
              List.mem_singleton] at hevent
            rcases hevent with rfl | hlater
            · exact .skipped rule.origin placeholder
            · exact ih hlater
        | met =>
            rw [hfit] at hevent
            -- Only a denial ends the run; after anything else the rest is asked.
            cases hdecision : rule.decision with
            | allow =>
                simp only [hdecision] at hevent
                exact ih hevent
            | deny =>
                simp only [hdecision, Traced.events_bind, Traced.events_report,
                  Traced.events_pure, List.append_nil, List.mem_singleton] at hevent
                subst hevent
                exact .denied rule.origin
      · rw [if_neg hconcerns] at hevent
        exact ih hevent

/-- The answer is reported, whatever it is. -/
theorem events_answerFrom_ne_nil : (answerFrom identity query allowed rules).events ≠ [] := by
  induction rules generalizing allowed with
  | nil => exact List.cons_ne_nil _ _
  | cons rule rest ih =>
      rw [answerFrom]
      split
      · split
        · exact ih
        · simp
        · split
          · exact ih
          · exact List.cons_ne_nil _ _
      · exact ih

theorem tellsOf_of_mem_events_can (hevent : event ∈ (policy.can query).events) :
    event.TellsOf (policy.askerOf query.context) query :=
  tellsOf_of_mem_events_answerFrom hevent

/-- Whatever a policy reports of an answer names the one who asks. -/
theorem asker?_of_mem_events_can (hevent : event ∈ (policy.can query).events) :
    event.asker? = some (policy.askerOf query.context) :=
  (tellsOf_of_mem_events_can hevent).asker?_eq

/-! ## What is made of an answer -/

theorem result_enforce_strict (policy : Policy) (query : Query) :
    (policy.enforce .strict query).result =
      if (policy.can query).value then .ok ()
      else .error (.forbidden query.action query.subject) := by
  simp only [enforce, reduceCtorEq, if_false, Outcome.result_liftM_bind]
  split <;> rfl

theorem result_enforce_advisory (policy : Policy) (query : Query) :
    (policy.enforce .advisory query).result = .ok () := by
  simp only [enforce, reduceCtorEq, if_false, if_true, Outcome.result_liftM_bind]
  split <;> rfl

/-- The advisory mode reports one thing more if the request is not allowed. -/
theorem events_enforce_advisory (policy : Policy) (query : Query) :
    (policy.enforce .advisory query).events = (policy.can query).events ++
      if (policy.can query).value then []
      else [.wouldDeny (policy.actor.bind (·.id)) query.action query.subject] := by
  simp only [enforce, reduceCtorEq, if_false, if_true, Outcome.events_liftM_bind]
  split <;> rfl

theorem wouldDeny_mem_warnings_iff {asker : Option Uuid} {action : Action} {subject : Subject} :
    .wouldDeny asker action subject ∈ (policy.enforce .advisory query).warnings ↔
      (policy.can query).value = false ∧ asker = policy.actor.bind (·.id) ∧
        action = query.action ∧ subject = query.subject := by
  -- The policy itself never reports such an event, so it comes from the mode.
  have hnone : .wouldDeny asker action subject ∉ (policy.can query).events := by
    intro hevent
    cases tellsOf_of_mem_events_can hevent
  rw [Outcome.warnings_eq_filter, events_enforce_advisory]
  cases (policy.can query).value <;> simp [hnone, Event.severity]

/-- **Advisory enforcement rehearses strict enforcement, but for the name of the one who asks.**
It never fails, and it warns of a denial exactly when strict enforcement turns the request away,
with the same action and the same subject.  What the policy reports on the way names the one for
whom the query is answered.  The warning names that one too exactly if it is the actor of the
policy, or somebody with the same identifier. -/
theorem advisory_rehearses_strict (policy : Policy) (query : Query) :
    (policy.enforce .advisory query).result = .ok () ∧
    (∀ action subject,
      (∃ asker, .wouldDeny asker action subject ∈ (policy.enforce .advisory query).warnings) ↔
        (policy.enforce .strict query).result = .error (.forbidden action subject)) ∧
    ((policy.can query).value = true ↔ (policy.enforce .strict query).result = .ok ()) ∧
    ((policy.can query).value = true ↔ ∀ asker action subject,
      .wouldDeny asker action subject ∉ (policy.enforce .advisory query).warnings) ∧
    (policy.can query).events ≠ [] ∧
    (∀ event ∈ (policy.can query).events,
      event.asker? = some (policy.askerOf query.context)) ∧
    ((∀ event ∈ (policy.enforce .advisory query).events,
        event.asker? = some (policy.askerOf query.context)) ↔
      (policy.can query).value = true ∨
        policy.actor.bind (·.id) = policy.askerOf query.context) := by
  refine ⟨result_enforce_advisory policy query, ?_, ?_, ?_, events_answerFrom_ne_nil,
    fun event hevent => asker?_of_mem_events_can hevent, ?_⟩
  · intro action subject
    simp only [wouldDeny_mem_warnings_iff, result_enforce_strict]
    cases (policy.can query).value
    · simp [eq_comm]
    · simp
  · rw [result_enforce_strict]
    cases (policy.can query).value <;> simp
  · simp only [wouldDeny_mem_warnings_iff]
    cases (policy.can query).value <;> simp
  · rw [events_enforce_advisory]
    -- What the policy reports names the right one in any case; the warning is what may not.
    have hcan : ∀ event ∈ (policy.can query).events,
        event.asker? = some (policy.askerOf query.context) :=
      fun event hevent => asker?_of_mem_events_can hevent
    cases (policy.can query).value with
    | true => simpa using hcan
    | false =>
        simp only [Bool.false_eq_true, if_false, List.forall_mem_append, List.forall_mem_singleton,
          false_or, and_iff_right hcan]
        -- One event is left, and it names the actor of the policy.
        exact Option.some_inj

end Policy

/-! ## A request in the name of somebody else -/

namespace Sample

/-- Nothing at all is allowed to the actor. -/
def forbidding : Policy := ⟨some (.ofActor actor), []⟩

/-- Deleting a task in the name of somebody. -/
def deletionBy (asker : Option Identity) : Query := ⟨.delete, .task, ⟨asker, ∅, none⟩⟩

end Sample

/-- The actor who would delete a task is named by the warning, and so is the actor when it is
given once more with the query. -/
theorem actor_is_named_by_warning :
    ∀ asker ∈ [none, some (Identity.ofActor Sample.actor)],
      (Sample.forbidding.enforce .strict (Sample.deletionBy asker)).result =
          .error (.forbidden .delete .task) ∧
        .wouldDeny (some Sample.actor.id) .delete .task ∈
          (Sample.forbidding.enforce .advisory (Sample.deletionBy asker)).warnings ∧
        ∀ event ∈ (Sample.forbidding.enforce .advisory (Sample.deletionBy asker)).events,
          event.asker? = some (some Sample.actor.id) := by
  intro asker hasker
  obtain ⟨_, hdenied, _, _, _, _, hnamed⟩ :=
    Policy.advisory_rehearses_strict Sample.forbidding (Sample.deletionBy asker)
  have hwarns : .wouldDeny (some Sample.actor.id) .delete .task ∈
      (Sample.forbidding.enforce .advisory (Sample.deletionBy asker)).warnings :=
    Policy.wouldDeny_mem_warnings_iff.mpr ⟨rfl, rfl, rfl, rfl⟩
  have hasks : Sample.forbidding.askerOf (Sample.deletionBy asker).context =
      some Sample.actor.id := by
    simp only [List.mem_cons, List.not_mem_nil, or_false] at hasker
    rcases hasker with rfl | rfl <;> rfl
  refine ⟨(hdenied .delete .task).mp ⟨_, hwarns⟩, hwarns, ?_⟩
  rw [← hasks]
  exact hnamed.mpr (Or.inr hasks.symm)

/-- The warning does not always name the one who asks: a deletion in the name of the colleague
is reported as one by the actor. -/
theorem not_forall_asker_named_by_warning :
    ¬ ∀ (policy : Policy) (query : Query) (asker : Option Uuid) (action : Action)
        (subject : Subject),
      .wouldDeny asker action subject ∈ (policy.enforce .advisory query).warnings →
        asker = policy.askerOf query.context := by
  intro hall
  have hwarns : .wouldDeny (some Sample.actor.id) .delete .task ∈
      (Sample.forbidding.enforce .advisory
        (Sample.deletionBy (some (.ofActor Sample.colleague)))).warnings :=
    Policy.wouldDeny_mem_warnings_iff.mpr ⟨rfl, rfl, rfl, rfl⟩
  have hsame : some Sample.actor.id = some Sample.colleague.id := hall _ _ _ _ _ hwarns
  revert hsame
  decide

end Entitlement
