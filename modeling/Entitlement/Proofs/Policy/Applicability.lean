import Entitlement.Policy.Evaluation

/-!
# Which rules apply, and what they amount to

`Policy.can` goes through the rules one by one, skips them for four different reasons, and stops
at the first denial.  Here the outcome is stated without the order: `Rule.AppliesTo` says when a
rule applies to a query, and `can_eq_true_iff` that a query is allowed exactly when some allowing
rule applies and no denying one does.

The invariant of the loop is `value_answerFrom_eq_true_iff`: what the loop answers after it has
found `allowed` so far is decided by `allowed` and by the rules that are still to come.

Two consequences follow at once.  Only which rules a policy has counts, not their order and not
how often each of them occurs; more rules that allow never take an answer back, and more rules
that deny never give one (`can_denial_overrides`).  And what is allowed for a field is allowed
for the whole resource (`can_whole_of_can_field`).
-/

namespace Entitlement

/-! ## Denial overrides -/

section Applicability

variable {identity : Option Identity} {query : Query}

/-! ### Conditions -/

/-- The attribute that a condition is about has the value that the condition
demands of an identity.  A placeholder that the identity does not fill demands
nothing that could be met. -/
def Context.Meets (context : Context) (identity : Option Identity)
    (entry : String × Condition) : Prop :=
  ∃ demanded actual, entry.2.demanded identity = .ok demanded ∧
    context.lookup? entry.1 identity = some actual ∧ actual.same demanded = true

/-- Comparing conditions one by one finds them met when each of them is. -/
theorem Context.fit_eq_met_iff (context : Context) (entries : List (String × Condition)) :
    context.fit identity entries = .met ↔ ∀ entry ∈ entries, context.Meets identity entry := by
  induction entries with
  | nil => simp [fit]
  | cons entry rest ih =>
      obtain ⟨key, condition⟩ := entry
      rw [List.forall_mem_cons, ← ih, fit]
      cases hdemanded : condition.demanded identity with
      | error placeholder => simp [Meets, hdemanded]
      | ok demanded =>
          cases hlookup : context.lookup? key identity with
          | none => simp [Meets, hdemanded, hlookup]
          | some actual => by_cases hsame : actual.same demanded <;>
              simp [Meets, hdemanded, hlookup, hsame]

/-- The attribute that a condition on a text is about is that very text. -/
theorem Context.meets_text_iff {context : Context} {key text : String} :
    context.Meets identity (key, .text text) ↔
      context.lookup? key identity = some (.str text) := by
  constructor
  · rintro ⟨demanded, actual, hdemanded, hlookup, hsame⟩
    obtain rfl : .str text = demanded := Except.ok.inj hdemanded
    rw [hlookup]
    cases actual <;> simp_all [Json.same]
  · intro hlookup
    exact ⟨.str text, .str text, rfl, hlookup, by simp [Json.same]⟩

/-! ### Rules -/

/-- A rule applies to a query that is answered for an identity. -/
structure Rule.AppliesTo (rule : Rule) (identity : Option Identity) (query : Query) : Prop where
  subject : rule.subject = .all ∨ rule.subject = query.subject
  action : .manage ∈ rule.actions ∨ query.action ∈ rule.actions
  /-- A rule without a list of fields is open to every query, one with a list to
  the queries that name a field of it and, if it allows, to those that name none. -/
  field : rule.fields = none ∨ (query.context.field = none ∧ rule.decision = .allow) ∨
    ∃ fields named, rule.fields = some fields ∧ query.context.field = some named ∧ named ∈ fields
  conditions : ∀ entry ∈ rule.conditions.entries, query.context.Meets identity entry

namespace Rule

variable {rule : Rule}

theorem covers_eq_true_iff {action : Action} :
    rule.covers action = true ↔ .manage ∈ rule.actions ∨ action ∈ rule.actions := by
  simp only [covers, List.any_eq_true, Bool.or_eq_true, beq_iff_eq]
  constructor
  · rintro ⟨ruled, hruled, rfl | rfl⟩
    · exact Or.inl hruled
    · exact Or.inr hruled
  · rintro (hmanage | haction)
    · exact ⟨.manage, hmanage, Or.inl rfl⟩
    · exact ⟨action, haction, Or.inr rfl⟩

theorem admits_eq_true_iff {field : Option String} :
    rule.admits field = true ↔ rule.fields = none ∨ (field = none ∧ rule.decision = .allow) ∨
      ∃ fields named, rule.fields = some fields ∧ field = some named ∧ named ∈ fields := by
  cases hfields : rule.fields <;> cases field <;> simp [admits, hfields]

/-- The two tests of the loop together are the applicability of the rule. -/
theorem appliesTo_iff :
    rule.AppliesTo identity query ↔
      rule.concerns query = true ∧
        query.context.fit identity rule.conditions.entries = .met := by
  have hsubject : rule.subject.covers query.subject = true ↔
      rule.subject = .all ∨ rule.subject = query.subject := by
    simp [Subject.covers]
  simp only [concerns, Bool.and_eq_true, hsubject, covers_eq_true_iff, admits_eq_true_iff,
    Context.fit_eq_met_iff]
  constructor
  · rintro ⟨hsubject, haction, hfield, hconditions⟩
    exact ⟨⟨⟨hsubject, haction⟩, hfield⟩, hconditions⟩
  · rintro ⟨⟨⟨hsubject, haction⟩, hfield⟩, hconditions⟩
    exact ⟨hsubject, haction, hfield, hconditions⟩

end Rule

/-! ### The loop -/

namespace Policy

variable {rule : Rule} {rest : List Rule} {allowed : Bool}

theorem value_answerFrom_cons_of_not_appliesTo (hskip : ¬ rule.AppliesTo identity query) :
    (answerFrom identity query allowed (rule :: rest)).value =
      (answerFrom identity query allowed rest).value := by
  rw [Rule.appliesTo_iff] at hskip
  rw [answerFrom]
  by_cases hconcerns : rule.concerns query = true
  · rw [if_pos hconcerns]
    cases hfit : query.context.fit identity rule.conditions.entries with
    | met => exact absurd ⟨hconcerns, hfit⟩ hskip
    | missed => rfl
    | unresolved placeholder => rfl
  · rw [if_neg hconcerns]

theorem value_answerFrom_cons_of_allow (happlies : rule.AppliesTo identity query)
    (hallow : rule.decision = .allow) :
    (answerFrom identity query allowed (rule :: rest)).value =
      (answerFrom identity query true rest).value := by
  obtain ⟨hconcerns, hfit⟩ := Rule.appliesTo_iff.mp happlies
  rw [answerFrom, if_pos hconcerns]
  simp only [hfit, hallow]

theorem value_answerFrom_cons_of_deny (happlies : rule.AppliesTo identity query)
    (hdeny : rule.decision = .deny) :
    (answerFrom identity query allowed (rule :: rest)).value = false := by
  obtain ⟨hconcerns, hfit⟩ := Rule.appliesTo_iff.mp happlies
  rw [answerFrom, if_pos hconcerns]
  simp only [hfit, hdeny, Traced.value_bind, Traced.value_pure]

theorem value_answerFrom_eq_true_iff {rules : List Rule} :
    (answerFrom identity query allowed rules).value = true ↔
      (allowed = true ∨ ∃ rule ∈ rules, rule.decision = .allow ∧ rule.AppliesTo identity query) ∧
        ∀ rule ∈ rules, rule.decision = .deny → ¬ rule.AppliesTo identity query := by
  induction rules generalizing allowed with
  | nil => simp [answerFrom]
  | cons rule rest ih =>
      by_cases happlies : rule.AppliesTo identity query
      · cases hdecision : rule.decision with
        | allow =>
            rw [value_answerFrom_cons_of_allow happlies hdecision, ih]
            simp [hdecision, happlies]
        | deny =>
            rw [value_answerFrom_cons_of_deny happlies hdecision]
            simp [hdecision, happlies]
      · rw [value_answerFrom_cons_of_not_appliesTo happlies, ih]
        simp [happlies]

/-- **Denial overrides.**  A query is allowed exactly when some allowing rule
applies to it and no denying one does. -/
theorem can_eq_true_iff {policy : Policy} :
    (policy.can query).value = true ↔
      (∃ rule ∈ policy.rules,
        rule.decision = .allow ∧ rule.AppliesTo (policy.identity query.context) query) ∧
      ∀ rule ∈ policy.rules,
        rule.decision = .deny → ¬ rule.AppliesTo (policy.identity query.context) query := by
  rw [can, value_answerFrom_eq_true_iff]
  simp

/-! ### Policies with other rules

Only which rules a policy has counts, not their order and not how often each of
them occurs. -/

variable (policy other : Policy)

theorem identity_congr (hactor : other.actor = policy.actor) (context : Context) :
    other.identity context = policy.identity context := by
  rw [identity, identity, hactor]

/-- More rules that allow, and fewer that deny, keep what is allowed. -/
theorem can_mono (hactor : other.actor = policy.actor)
    (hallow : ∀ rule ∈ policy.rules, rule.decision = .allow → rule ∈ other.rules)
    (hdeny : ∀ rule ∈ other.rules, rule.decision = .deny → rule ∈ policy.rules)
    (hcan : (policy.can query).value = true) : (other.can query).value = true := by
  rw [can_eq_true_iff] at hcan ⊢
  rw [identity_congr policy other hactor]
  obtain ⟨⟨rule, hrule, hdecision, happlies⟩, hfree⟩ := hcan
  refine ⟨⟨rule, hallow rule hrule hdecision, hdecision, happlies⟩, ?_⟩
  intro denying hdenying hdecision
  exact hfree denying (hdeny denying hdenying hdecision) hdecision

/-- Policies with the same rules answer alike. -/
theorem can_congr (hactor : other.actor = policy.actor)
    (hrules : ∀ rule, rule ∈ other.rules ↔ rule ∈ policy.rules) :
    (other.can query).value = (policy.can query).value := by
  rw [Bool.eq_iff_iff]
  constructor
  · exact can_mono other policy hactor.symm (fun rule hrule _ => (hrules rule).mp hrule)
      fun rule hrule _ => (hrules rule).mpr hrule
  · exact can_mono policy other hactor (fun rule hrule _ => (hrules rule).mpr hrule)
      fun rule hrule _ => (hrules rule).mp hrule

/-- **What a policy allows.**  A query is allowed exactly when some allowing rule
applies and no denying one does.  Hence the same rules in any order and any
number give the same answer, more rules that allow never take an answer back,
more rules that deny never give one, and without rules everything is denied. -/
theorem can_denial_overrides (policy : Policy) (query : Query) :
    ((policy.can query).value = true ↔
      (∃ rule ∈ policy.rules,
        rule.decision = .allow ∧ rule.AppliesTo (policy.identity query.context) query) ∧
      ¬ ∃ rule ∈ policy.rules,
        rule.decision = .deny ∧ rule.AppliesTo (policy.identity query.context) query) ∧
    (∀ rules, (∀ rule, rule ∈ rules ↔ rule ∈ policy.rules) →
      (can ⟨policy.actor, rules⟩ query).value = (policy.can query).value) ∧
    (∀ rules, (∀ rule ∈ policy.rules, rule ∈ rules) →
      (∀ rule ∈ rules, rule ∈ policy.rules ∨ rule.decision = .allow) →
      (policy.can query).value = true → (can ⟨policy.actor, rules⟩ query).value = true) ∧
    (∀ rules, (∀ rule ∈ policy.rules, rule ∈ rules) →
      (∀ rule ∈ rules, rule ∈ policy.rules ∨ rule.decision = .deny) →
      (policy.can query).value = false → (can ⟨policy.actor, rules⟩ query).value = false) ∧
    (can ⟨policy.actor, []⟩ query).value = false := by
  refine ⟨?_, ?_, ?_, ?_, ?_⟩
  · rw [can_eq_true_iff]
    simp only [not_exists, not_and]
  · intro rules hrules
    exact can_congr policy ⟨policy.actor, rules⟩ rfl hrules
  · intro rules hsubset hadded hcan
    refine can_mono policy ⟨policy.actor, rules⟩ rfl ?_ ?_ hcan
    · intro rule hrule _
      exact hsubset rule hrule
    · intro rule hrule hdeny
      rcases hadded rule hrule with hmem | hallow
      · exact hmem
      · rw [hallow] at hdeny
        contradiction
  · intro rules hsubset hadded hcan
    rw [← Bool.not_eq_true] at hcan ⊢
    intro hnow
    -- What is allowed now was allowed before the denials came in.
    refine hcan (can_mono ⟨policy.actor, rules⟩ policy rfl ?_ ?_ hnow)
    · intro rule hrule hallow
      rcases hadded rule hrule with hmem | hdeny
      · exact hmem
      · rw [hallow] at hdeny
        contradiction
    · intro rule hrule _
      exact hsubset rule hrule
  · rfl

end Policy

end Applicability

/-! ## From a field to the whole resource

A query that names no field is about the resource as a whole.  When the field of a query is
left out, some rules begin to apply to it and others cease to: an allowing rule is then open
even if its list lacks the field, and a denying rule is closed even if its list has it.

Both changes work in favour of the query.  An allowing rule that applies to a field applies to
the whole (`Rule.AppliesTo.whole`), and a denying rule that applies to the whole has no list of
fields, so that it applies to every field (`Rule.AppliesTo.field_of_whole`). -/

namespace Rule

variable {rule : Rule} {identity : Option Identity} {action : Action} {subject : Subject}
  {actor : Option Identity} {attributes : Dict Json} {field : String}

/-- A rule that allows something on a field allows it on the whole. -/
theorem AppliesTo.whole
    (happlies : rule.AppliesTo identity ⟨action, subject, ⟨actor, attributes, some field⟩⟩)
    (hallow : rule.decision = .allow) :
    rule.AppliesTo identity ⟨action, subject, ⟨actor, attributes, none⟩⟩ where
  subject := happlies.subject
  action := happlies.action
  field := Or.inr (Or.inl ⟨rfl, hallow⟩)
  conditions := happlies.conditions

/-- A rule that denies something on the whole denies it on every field. -/
theorem AppliesTo.field_of_whole
    (happlies : rule.AppliesTo identity ⟨action, subject, ⟨actor, attributes, none⟩⟩)
    (hdeny : rule.decision = .deny) :
    rule.AppliesTo identity ⟨action, subject, ⟨actor, attributes, some field⟩⟩ := by
  have hunconfined : rule.fields = none := by
    rcases happlies.field with hnone | ⟨_, hallow⟩ | ⟨_, _, _, hnamed, _⟩
    · exact hnone
    · rw [hdeny] at hallow
      contradiction
    · contradiction
  exact ⟨happlies.subject, happlies.action, Or.inl hunconfined, happlies.conditions⟩

end Rule

namespace Policy

/-- **A right on a field is a right on the whole.**  What a policy allows on one field of a
resource it also allows when no field is named. -/
theorem can_whole_of_can_field {policy : Policy} {action : Action} {subject : Subject}
    {actor : Option Identity} {attributes : Dict Json} {field : String}
    (hcan : (policy.can ⟨action, subject, ⟨actor, attributes, some field⟩⟩).value = true) :
    (policy.can ⟨action, subject, ⟨actor, attributes, none⟩⟩).value = true := by
  rw [can_eq_true_iff] at hcan ⊢
  obtain ⟨⟨rule, hrule, hallow, happlies⟩, hfree⟩ := hcan
  constructor
  · exact ⟨rule, hrule, hallow, happlies.whole hallow⟩
  · intro denying hdenying hdeny hwhole
    exact hfree denying hdenying hdeny (hwhole.field_of_whole hdeny)

end Policy

/-! ### The names of users -/

namespace Sample

/-- The right to read the names of users, but nobody's salary. -/
def namesOnly : Policy :=
  ⟨none, [⟨.allow, [.read], .user, ∅, some ["name"], "userAccess.names"⟩,
    ⟨.deny, [.read], .user, ∅, some ["salary"], "userAccess.salaries"⟩]⟩

end Sample

/-- Whoever reads the names of users reads users, although no salary is read. -/
theorem users_are_read_by_name :
    (Sample.namesOnly.can ⟨.read, .user, ⟨none, ∅, some "name"⟩⟩).value = true ∧
      (Sample.namesOnly.can ⟨.read, .user, ⟨none, ∅, none⟩⟩).value = true ∧
      (Sample.namesOnly.can ⟨.read, .user, ⟨none, ∅, some "salary"⟩⟩).value = false := by
  have hname : (Sample.namesOnly.can ⟨.read, .user, ⟨none, ∅, some "name"⟩⟩).value = true := by
    decide
  exact ⟨hname, Policy.can_whole_of_can_field hname, by decide⟩

end Entitlement
