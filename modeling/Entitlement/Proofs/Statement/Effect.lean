import Entitlement.Proofs.Policy.Applicability

/-!
# What a statement does to a query

A statement is compiled to one or two rules.  Here their joint effect is said in
the words of the statement.

* `Statement.Matches` is the part of a query that the subject and the conditions decide.
* `Statement.Grants` and `Statement.Forbids` are the actions that the level of access allows and
  denies, whatever the query is.
* `Statement.OpenTo` is the part that the fields decide.  Denials have no part in it: they hold on
  every field, and so do the actions that admin access adds.

`can_compile_eq_true_iff` carries this over to a compiled policy: a query is
allowed exactly when one statement allows it and none denies it.  Later proofs
speak of statements only and meet neither the rules nor the order of them.

On the way from the rules, allowing and denying ones are kept apart.  Any of them applies
when the statement matches and the action is among the rule's own (`appliesTo_onEveryField_iff`),
and the first allowing one asks for the field besides (`appliesTo_allowing_iff`).  The actions
that the rules of one kind cover are then compared with what the level grants or forbids, level
by level (`exists_allowing_rule_iff`, `exists_denying_rule_iff`).
-/

namespace Entitlement

namespace Statement

/-- The query is about the subject of a statement and meets its conditions. -/
structure Matches (statement : Statement) (identity : Option Identity) (query : Query) :
    Prop where
  subject : statement.subject = .all ∨ statement.subject = query.subject
  conditions : ∀ entry ∈ statement.conditions.entries, query.context.Meets identity entry

/-- The actions that a statement grants within its fields. -/
def Grants (statement : Statement) (action : Action) : Prop :=
  match statement.level with
  | .noAccess => False
  | .viewAccess => action = .read
  | .writeAccess => action = .read ∨ action = .create ∨ action = .update ∨
      (action = .upload ∧ statement.subject = .document) ∨
      (action = statement.action ∧ statement.action.isBasic = false)
  | .adminAccess => True

/-- The actions that a statement forbids, on every field. -/
def Forbids (statement : Statement) (action : Action) : Prop :=
  match statement.level with
  | .noAccess => statement.action = .manage ∨ action = statement.action
  | .viewAccess => action = .create ∨ action = .update ∨ action = .delete
  | .writeAccess => action = .delete
  | .adminAccess => False

/-- A statement confined to fields is open to the queries that name one of them
or none. -/
def OpenTo (statement : Statement) (field : Option String) : Prop :=
  ∀ fields named, statement.fields = some fields → field = some named → named ∈ fields

/-- A statement allows a query: it grants the action within its fields, or the
action goes with admin access on the subject whatever the fields are. -/
def Allows (statement : Statement) (identity : Option Identity) (query : Query) : Prop :=
  statement.Matches identity query ∧
    ((statement.Grants query.action ∧ statement.OpenTo query.context.field) ∨
      (statement.level = .adminAccess ∧ query.action ∈ adminExtras statement.subject))

/-- A statement denies a query. -/
def Denies (statement : Statement) (identity : Option Identity) (query : Query) : Prop :=
  statement.Matches identity query ∧ statement.Forbids query.action

variable {statement : Statement} {identity : Option Identity} {query : Query}

theorem openTo_iff {field : Option String} :
    statement.OpenTo field ↔ field = none ∨ statement.fields = none ∨
      ∃ fields named, statement.fields = some fields ∧ field = some named ∧ named ∈ fields := by
  unfold OpenTo
  cases statement.fields <;> cases field <;> simp

theorem openTo_some_iff {named : String} :
    statement.OpenTo (some named) ↔
      statement.fields = none ∨ ∃ fields, statement.fields = some fields ∧ named ∈ fields := by
  simp [openTo_iff]

theorem not_openTo_some_iff {named : String} :
    ¬ statement.OpenTo (some named) ↔
      ∃ fields, statement.fields = some fields ∧ named ∉ fields := by
  rw [openTo_some_iff]
  cases statement.fields <;> simp

theorem Allows.grants (hallows : statement.Allows identity query) :
    statement.Grants query.action := by
  rcases hallows.2 with ⟨hgrants, _⟩ | ⟨hlevel, _⟩
  · exact hgrants
  · rw [Grants, hlevel]
    trivial

theorem viewAccess_le_of_grants {action : Action} (hgrants : statement.Grants action) :
    .viewAccess ≤ statement.level := by
  cases hlevel : statement.level with
  | noAccess =>
      rw [Grants, hlevel] at hgrants
      exact hgrants.elim
  | viewAccess => decide
  | writeAccess => decide
  | adminAccess => decide

/-- Managing and deleting are granted by admin access only. -/
theorem grants_iff_of_manage_or_delete {action : Action}
    (haction : action = .manage ∨ action = .delete) :
    statement.Grants action ↔ statement.level = .adminAccess := by
  unfold Grants
  cases hlevel : statement.level with
  | noAccess => simp
  | viewAccess => rcases haction with rfl | rfl <;> simp
  | writeAccess =>
      -- The own action that write access grants belongs to a workflow, as neither of them does.
      have hown : ¬ (action = statement.action ∧ statement.action.isBasic = false) := by
        rintro ⟨rfl, hworkflow⟩
        rcases haction with haction | haction <;> rw [haction] at hworkflow <;> contradiction
      rcases haction with rfl | rfl <;> simpa using hown
  | adminAccess => simp

/-! ## The rules of a statement -/

/-- The actions of write access on a subject, whatever the statement's own. -/
def commonActions (subject : Subject) : List Action :=
  [.read, .create, .update] ++ if subject = .document then [.upload] else []

theorem mem_commonActions_iff {subject : Subject} {action : Action} :
    action ∈ commonActions subject ↔
      action = .read ∨ action = .create ∨ action = .update ∨
        (action = .upload ∧ subject = .document) := by
  unfold commonActions
  by_cases hdocument : subject = .document
  · simp [hdocument]
  · simp [hdocument]

theorem writeActions_eq (statement : Statement) :
    statement.writeActions =
      if statement.action.isBasic ||
          (commonActions statement.subject).contains statement.action then
        commonActions statement.subject
      else commonActions statement.subject ++ [statement.action] := rfl

theorem mem_writeActions_iff {action : Action} :
    action ∈ statement.writeActions ↔
      action ∈ commonActions statement.subject ∨
        (action = statement.action ∧ statement.action.isBasic = false) := by
  rw [writeActions_eq]
  split
  · rename_i hknown
    constructor
    · exact Or.inl
    · rintro (hcommon | ⟨rfl, hworkflow⟩)
      · exact hcommon
      · -- The own action of a workflow is left out only when it is there already.
        simpa [hworkflow] using hknown
  · rename_i hnew
    have hworkflow : statement.action.isBasic = false := by
      simp only [Bool.or_eq_true, not_or, Bool.not_eq_true] at hnew
      exact hnew.1
    rw [List.mem_append, List.mem_singleton, and_iff_left hworkflow]

theorem grants_iff_mem_writeActions (hlevel : statement.level = .writeAccess) {action : Action} :
    statement.Grants action ↔ action ∈ statement.writeActions := by
  rw [mem_writeActions_iff, mem_commonActions_iff, Grants, hlevel]
  simp only [or_assoc]

theorem manage_not_mem_writeActions : .manage ∉ statement.writeActions := by
  intro hmanage
  obtain ⟨hown, hbasic⟩ : .manage = statement.action ∧ statement.action.isBasic = false := by
    simpa [mem_commonActions_iff] using mem_writeActions_iff.mp hmanage
  rw [← hown] at hbasic
  contradiction

theorem appliesTo_allowing_iff {actions : List Action} :
    (statement.allowing actions).AppliesTo identity query ↔
      statement.Matches identity query ∧ (.manage ∈ actions ∨ query.action ∈ actions) ∧
        statement.OpenTo query.context.field := by
  have hfield : (statement.fields = none ∨ (query.context.field = none ∧ Decision.allow = .allow) ∨
      ∃ fields named, statement.fields = some fields ∧ query.context.field = some named ∧
        named ∈ fields) ↔ statement.OpenTo query.context.field := by
    unfold OpenTo
    cases statement.fields <;> cases query.context.field <;> simp
  constructor
  · rintro ⟨hsubject, haction, hopen, hconditions⟩
    exact ⟨⟨hsubject, hconditions⟩, haction, hfield.mp hopen⟩
  · rintro ⟨⟨hsubject, hconditions⟩, haction, hopen⟩
    exact ⟨hsubject, haction, hfield.mpr hopen, hconditions⟩

/-- A rule on every field applies when the statement matches and the action is among
its own. -/
theorem appliesTo_onEveryField_iff {decision : Decision} {actions : List Action} :
    Rule.AppliesTo
        ⟨decision, actions, statement.subject, statement.conditions, none, statement.path⟩
        identity query ↔
      statement.Matches identity query ∧ (.manage ∈ actions ∨ query.action ∈ actions) := by
  constructor
  · rintro ⟨hsubject, haction, _, hconditions⟩
    exact ⟨⟨hsubject, hconditions⟩, haction⟩
  · rintro ⟨⟨hsubject, hconditions⟩, haction⟩
    exact ⟨hsubject, haction, Or.inl rfl, hconditions⟩

theorem appliesTo_allowingEverywhere_iff {actions : List Action} :
    (statement.allowingEverywhere actions).AppliesTo identity query ↔
      statement.Matches identity query ∧ (.manage ∈ actions ∨ query.action ∈ actions) :=
  appliesTo_onEveryField_iff

theorem appliesTo_denying_iff {actions : List Action} :
    (statement.denying actions).AppliesTo identity query ↔
      statement.Matches identity query ∧ (.manage ∈ actions ∨ query.action ∈ actions) :=
  appliesTo_onEveryField_iff

@[simp] theorem decision_allowing (actions : List Action) :
    (statement.allowing actions).decision = .allow := rfl

@[simp] theorem decision_allowingEverywhere (actions : List Action) :
    (statement.allowingEverywhere actions).decision = .allow := rfl

@[simp] theorem decision_denying (actions : List Action) :
    (statement.denying actions).decision = .deny := rfl

/-- The rules of admin access; without extras the second one is left out. -/
theorem mem_rules_of_adminAccess (hlevel : statement.level = .adminAccess) {rule : Rule} :
    rule ∈ statement.rules ↔ rule = statement.allowing [.manage] ∨
      (adminExtras statement.subject ≠ [] ∧
        rule = statement.allowingEverywhere (adminExtras statement.subject)) := by
  unfold rules
  simp only [hlevel]
  cases adminExtras statement.subject with
  | nil => simp
  | cons extra more => simp

theorem manage_not_mem_adminExtras (subject : Subject) : .manage ∉ adminExtras subject := by
  unfold adminExtras
  split <;> decide

/-- The actions that admin access adds, subject by subject. -/
theorem mem_adminExtras_iff {subject : Subject} {action : Action} :
    action ∈ adminExtras subject ↔
      (subject = .task ∧ (action = .assign ∨ action = .escalate)) ∨
      (subject = .notification ∧ action = .notify) := by
  cases subject <;> simp [adminExtras]

theorem rules_ne_nil (statement : Statement) : statement.rules ≠ [] := by
  unfold rules
  split
  · simp
  · simp
  · simp
  · split <;> simp

/-- A rule has the subject and the conditions of its statement, and actions that are known
or the statement's own. -/
theorem of_mem_rules {rule : Rule} (hrule : rule ∈ statement.rules) :
    rule.subject = statement.subject ∧ rule.conditions = statement.conditions ∧
      ∀ action ∈ rule.actions, action = statement.action ∨ action ∈ Action.known := by
  have hknown : ∀ actions : List Action, actions ⊆ Action.known →
      ∀ action ∈ actions, action = statement.action ∨ action ∈ Action.known :=
    fun actions hsubset action haction => Or.inr (hsubset haction)
  cases hlevel : statement.level with
  | noAccess =>
      obtain rfl : rule = statement.denying [statement.action] := by
        simpa [rules, hlevel] using hrule
      exact ⟨rfl, rfl, fun action haction => Or.inl (List.mem_singleton.mp haction)⟩
  | viewAccess =>
      simp only [rules, hlevel, List.mem_cons, List.not_mem_nil, or_false] at hrule
      rcases hrule with rfl | rfl
      · exact ⟨rfl, rfl, hknown [.read] (by decide)⟩
      · exact ⟨rfl, rfl, hknown [.create, .update, .delete] (by decide)⟩
  | writeAccess =>
      simp only [rules, hlevel, List.mem_cons, List.not_mem_nil, or_false] at hrule
      rcases hrule with rfl | rfl
      · refine ⟨rfl, rfl, fun action haction => ?_⟩
        -- Write access lists the common actions and, on some subjects, the own one besides.
        rcases mem_writeActions_iff.mp haction with hcommon | ⟨hown, _⟩
        · rcases mem_commonActions_iff.mp hcommon with rfl | rfl | rfl | ⟨rfl, _⟩ <;>
            exact Or.inr (by decide)
        · exact Or.inl hown
      · exact ⟨rfl, rfl, hknown [.delete] (by decide)⟩
  | adminAccess =>
      -- The second rule is there only on subjects with actions beyond management.
      rcases (mem_rules_of_adminAccess hlevel).mp hrule with rfl | ⟨_, rfl⟩
      · exact ⟨rfl, rfl, hknown [.manage] (by decide)⟩
      · refine ⟨rfl, rfl, hknown (adminExtras statement.subject) ?_⟩
        unfold adminExtras
        split <;> decide

/-- The actions that some allowing rule of a statement covers are those that the statement
grants. -/
theorem exists_allowing_rule_covers_iff {action : Action} :
    (∃ rule ∈ statement.rules, rule.decision = .allow ∧ rule.covers action = true) ↔
      statement.Grants action := by
  cases hlevel : statement.level with
  | noAccess => simp [rules, Grants, hlevel]
  | viewAccess => simp [rules, Grants, hlevel, Rule.covers_eq_true_iff, allowing]
  | writeAccess =>
      simp [rules, hlevel, Rule.covers_eq_true_iff, allowing, manage_not_mem_writeActions,
        grants_iff_mem_writeActions hlevel]
  | adminAccess =>
      simp only [mem_rules_of_adminAccess hlevel, Grants, hlevel, iff_true]
      refine ⟨_, Or.inl rfl, rfl, ?_⟩
      exact Rule.covers_eq_true_iff.mpr (Or.inl (List.mem_singleton_self _))

theorem exists_allowing_rule_iff :
    (∃ rule ∈ statement.rules, rule.decision = .allow ∧ rule.AppliesTo identity query) ↔
      statement.Allows identity query := by
  unfold Allows
  cases hlevel : statement.level with
  | noAccess => simp [rules, Grants, hlevel]
  | viewAccess =>
      simp [rules, Grants, hlevel, appliesTo_allowing_iff]
  | writeAccess =>
      simp [rules, hlevel, appliesTo_allowing_iff, manage_not_mem_writeActions,
        grants_iff_mem_writeActions hlevel]
  | adminAccess =>
      -- Two rules allow, and only the first of them is bound to the fields.
      simp only [mem_rules_of_adminAccess hlevel, Grants, hlevel]
      constructor
      · rintro ⟨rule, rfl | ⟨_, rfl⟩, _, happlies⟩
        · obtain ⟨hmatches, _, hopen⟩ := appliesTo_allowing_iff.mp happlies
          exact ⟨hmatches, Or.inl ⟨trivial, hopen⟩⟩
        · obtain ⟨hmatches, hmanage | hextra⟩ := appliesTo_allowingEverywhere_iff.mp happlies
          · exact absurd hmanage (manage_not_mem_adminExtras _)
          · exact ⟨hmatches, Or.inr ⟨trivial, hextra⟩⟩
      · rintro ⟨hmatches, ⟨_, hopen⟩ | ⟨_, hextra⟩⟩
        · exact ⟨_, Or.inl rfl, rfl,
            appliesTo_allowing_iff.mpr ⟨hmatches, Or.inl (by simp), hopen⟩⟩
        · exact ⟨_, Or.inr ⟨List.ne_nil_of_mem hextra, rfl⟩, rfl,
            appliesTo_allowingEverywhere_iff.mpr ⟨hmatches, Or.inr hextra⟩⟩

theorem exists_denying_rule_iff :
    (∃ rule ∈ statement.rules, rule.decision = .deny ∧ rule.AppliesTo identity query) ↔
      statement.Denies identity query := by
  unfold Denies
  cases hlevel : statement.level with
  | noAccess => simp [rules, Forbids, hlevel, appliesTo_denying_iff, eq_comm]
  | viewAccess => simp [rules, Forbids, hlevel, appliesTo_denying_iff]
  | writeAccess => simp [rules, Forbids, hlevel, appliesTo_denying_iff]
  | adminAccess =>
      -- Neither rule of admin access denies.
      simp only [mem_rules_of_adminAccess hlevel, Forbids, hlevel]
      constructor
      · rintro ⟨rule, rfl | ⟨_, rfl⟩, hdeny, _⟩ <;> contradiction
      · rintro ⟨_, hfalse⟩
        exact hfalse.elim

end Statement

/-! ## Compiled policies -/

namespace Policy

variable {statements : List Statement} {actor : Option Identity} {query : Query}

@[simp] theorem rules_compile :
    (compile statements actor).value.rules = statements.flatMap Statement.rules := rfl

@[simp] theorem actor_compile : (compile statements actor).value.actor = actor := rfl

theorem rules_compile_eq_nil_iff :
    (compile statements actor).value.rules = [] ↔ statements = [] := by
  rw [rules_compile, List.flatMap_eq_nil_iff, List.eq_nil_iff_forall_not_mem]
  exact forall₂_congr fun statement _ => iff_of_false statement.rules_ne_nil not_false

/-- A compiled policy allows a query exactly when one of its statements does and
none denies it. -/
theorem can_compile_eq_true_iff :
    ((compile statements actor).value.can query).value = true ↔
      (∃ statement ∈ statements, statement.Allows (query.context.actor.or actor) query) ∧
        ∀ statement ∈ statements, ¬ statement.Denies (query.context.actor.or actor) query := by
  rw [can_eq_true_iff, identity, actor_compile, rules_compile]
  simp only [← Statement.exists_allowing_rule_iff, ← Statement.exists_denying_rule_iff,
    List.mem_flatMap]
  -- A rule of the policy is one of the rules of one of the statements.
  constructor
  · rintro ⟨⟨rule, ⟨statement, hstatement, hrule⟩, hallow, happlies⟩, hfree⟩
    refine ⟨⟨statement, hstatement, rule, hrule, hallow, happlies⟩, ?_⟩
    rintro denying hdenying ⟨rule, hrule, hdeny, happlies⟩
    exact hfree rule ⟨denying, hdenying, hrule⟩ hdeny happlies
  · rintro ⟨⟨statement, hstatement, rule, hrule, hallow, happlies⟩, hfree⟩
    refine ⟨⟨rule, ⟨statement, hstatement, hrule⟩, hallow, happlies⟩, ?_⟩
    rintro rule ⟨denying, hdenying, hrule⟩ hdeny happlies
    exact hfree denying hdenying ⟨rule, hrule, hdeny, happlies⟩

end Policy

end Entitlement
