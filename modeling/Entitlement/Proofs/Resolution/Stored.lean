import Entitlement.Proofs.Policy.Stored
import Entitlement.Proofs.Resolution.Provenance
import Entitlement.Proofs.Statement.Key

/-!
# Policies that are stored and read back

The rules of a resolved policy name actions and subjects that are the ones of their names,
so only the conditions of a stored policy can read back as others.  Those of a meaning are
plain; those on the organization are the texts in the record of a role, whatever these are.
A role of an organization that is spelled like a placeholder is bound to that organization
before its policy is stored, and to the organization of whoever asks afterwards.

So a restored policy is compiled from the merged statements as they read back
(`Statement.IsGranted.map_reread_rules`), and it can answer a query otherwise only by a statement
of such a role that the query matches under one reading and not under the other.

* `Statement.reread_ofGrant_eq_self_iff`: the statement of a role is misread exactly when an
  organization of the role is spelled like a placeholder.
* `Authorizer.reread_merged_iff`: whether a merged statement is misread can be told from the
  effective roles.  A statement may have been replaced by one of another role, but then that
  one has the same key, hence the same conditions, and is misread as well.
* `Policy.can_compile_map_reread`: where every statement matches a query under both readings or
  under neither, the answer is one.
* `Authorizer.stored_policy_decides_alike` is assembled from these.
-/

namespace Entitlement

/-- The domain or the department of a role is spelled like a placeholder. -/
def Role.SpelledAsPlaceholder (role : Role) : Prop :=
  ∃ which : Placeholder, role.domain = which.token ∨ role.department = which.token

/-! ## Statements -/

namespace Statement

variable {statement : Statement} {rule : Rule} {identity : Option Identity} {query : Query}

/-- The statement with the conditions that their written forms say. -/
def reread (statement : Statement) : Statement :=
  { statement with conditions := statement.conditions.map Condition.reread }

/-- A rule of a role reads back but for its conditions. -/
theorem IsGranted.reread_of_mem_rules (hgranted : statement.IsGranted)
    (hrule : rule ∈ statement.rules) :
    rule.reread = { rule with conditions := rule.conditions.map Condition.reread } := by
  obtain ⟨hsubject, _, hactions⟩ := of_mem_rules hrule
  have hname : Subject.ofName rule.subject.name = rule.subject := by
    rw [hsubject]
    obtain ⟨role, path, level, rfl⟩ := hgranted
    exact Meaning.ofName_name_subject_ofPath path
  have hnames : (rule.actions.map fun action => Action.ofName action.name) = rule.actions := by
    conv_rhs => rw [← List.map_id rule.actions]
    refine List.map_congr_left fun action haction => ofName_name_of_mem_known ?_
    rcases hactions action haction with rfl | hknown
    · exact hgranted.action_mem_known
    · exact hknown
  rw [Rule.reread, hname, hnames]

/-- The rules of a statement read back as those of the statement that reads back. -/
theorem IsGranted.map_reread_rules (hgranted : statement.IsGranted) :
    statement.rules.map Rule.reread = statement.reread.rules := by
  rw [List.map_congr_left fun rule hrule => hgranted.reread_of_mem_rules hrule]
  obtain ⟨subject, action, level, conditions, fields, path, roleId, roleName⟩ := statement
  cases level with
  | noAccess => rfl
  | viewAccess => rfl
  | writeAccess => rfl
  | adminAccess =>
      unfold rules
      simp only [reread]
      cases adminExtras subject <;> rfl

/-- Conditions are written as texts and truth values, so they are ordered and without
numbers. -/
theorem IsGranted.ordered_and_numberFree_of_mem_rules (hgranted : statement.IsGranted)
    (hrule : rule ∈ statement.rules) : rule.Ordered ∧ rule.NumberFree 0 := by
  have hboth : ∀ entry ∈ rule.conditions.entries,
      entry.2.toJson.Ordered ∧ Json.NumberFree 0 entry.2.toJson := by
    intro entry hentry
    rw [(of_mem_rules hrule).2.1] at hentry
    have hlabel := hgranted.isLabel_toJson hentry
    cases hvalue : entry.2.toJson with
    | str | bool => exact ⟨trivial, trivial⟩
    | null | num | arr | obj =>
        rw [hvalue] at hlabel
        contradiction
  exact ⟨fun entry hentry => (hboth entry hentry).1, fun entry hentry => (hboth entry hentry).2⟩

/-! ### What is misread -/

theorem map_reread_eq_self_iff {conditions : Conditions} :
    conditions.map Condition.reread = conditions ↔
      ∀ entry ∈ conditions.entries, entry.2.reread = entry.2 := by
  constructor
  · intro hself entry hentry
    have hmapped : (entry.1, entry.2.reread) ∈ conditions.entries := by
      rw [← hself]
      exact List.mem_map.mpr ⟨entry, hentry, rfl⟩
    rw [← Dict.get?_eq_some_iff] at hmapped
    rw [show entry = (entry.1, entry.2) from rfl, ← Dict.get?_eq_some_iff, hmapped] at hentry
    exact Option.some.inj hentry
  · intro hself
    refine Dict.eq_of_entries_eq ?_
    show conditions.entries.map _ = conditions.entries
    conv_rhs => rw [← List.map_id conditions.entries]
    refine List.map_congr_left fun entry hentry => ?_
    rw [hself entry hentry, id]

theorem reread_eq_self_iff :
    statement.reread = statement ↔
      statement.conditions.map Condition.reread = statement.conditions := by
  constructor
  · exact congrArg Statement.conditions
  · intro hsame
    rw [reread, hsame]

/-- The statement of a role reads back if no organization of the role is spelled like a
placeholder, and only then. -/
theorem reread_ofGrant_eq_self_iff {role : Role} {path : String} {level : Level} :
    (ofGrant role path level).reread = ofGrant role path level ↔ ¬ role.SpelledAsPlaceholder := by
  rw [reread_eq_self_iff, map_reread_eq_self_iff]
  constructor
  · rintro hself ⟨which, hdomain | hdepartment⟩
    · have hentry : ("domain", .text role.domain) ∈ (ofGrant role path level).conditions.entries :=
        domain_mem_confined
      exact Condition.reread_eq_self_iff.mp (hself _ hentry) which (congrArg Condition.text hdomain)
    · have hentry : ("department", .text role.department) ∈
          (ofGrant role path level).conditions.entries := department_mem_confined
      exact Condition.reread_eq_self_iff.mp (hself _ hentry) which
        (congrArg Condition.text hdepartment)
  · -- A condition of the statement is on the department, on the domain or from the table.
    intro hspelled entry hentry
    rcases eq_or_mem_of_mem_confined hentry with rfl | rfl | hmeaning
    · refine Condition.reread_eq_self_iff.mpr fun which htext => hspelled ⟨which, Or.inr ?_⟩
      exact Json.str.inj (Condition.literal.inj htext)
    · refine Condition.reread_eq_self_iff.mpr fun which htext => hspelled ⟨which, Or.inl ?_⟩
      exact Json.str.inj (Condition.literal.inj htext)
    · rcases Meaning.exists_mem_table_or_eq_inferred path with ⟨known, hknown, heq⟩ | heq
      · rw [heq] at hmeaning
        exact Condition.ofJson_toJson_of_isPlain
          (Meaning.isPlain_of_mem_table hknown entry hmeaning)
      · rw [heq] at hmeaning
        exact absurd hmeaning List.not_mem_nil

end Statement

/-! ## Resolved policies -/

namespace Policy

variable {statements : List Statement} {actor : Option Identity} {query : Query}

theorem reread_compile (hgranted : ∀ statement ∈ statements, statement.IsGranted) :
    (compile statements actor).value.reread =
      (compile (statements.map Statement.reread) actor).value := by
  have hrules : (statements.flatMap Statement.rules).map Rule.reread =
      (statements.map Statement.reread).flatMap Statement.rules := by
    rw [List.map_flatMap, List.flatMap_map]
    exact List.flatMap_congr fun statement hstatement =>
      (hgranted statement hstatement).map_reread_rules
  exact congrArg (Policy.mk actor) hrules

theorem reread_compile_eq_self_iff (hgranted : ∀ statement ∈ statements, statement.IsGranted) :
    (compile statements actor).value.reread = (compile statements actor).value ↔
      ∀ statement ∈ statements, statement.reread = statement := by
  constructor
  · intro hself statement hstatement
    have hrules : (statements.flatMap Statement.rules).map Rule.reread =
        (statements.flatMap Statement.rules).map id := by
      rw [List.map_id]
      exact congrArg Policy.rules hself
    -- Every statement has a rule, and its conditions are those of the statement.
    obtain ⟨rule, hrule⟩ := List.exists_mem_of_ne_nil _ statement.rules_ne_nil
    have hread := List.map_inj_left.mp hrules rule
      (List.mem_flatMap.mpr ⟨statement, hstatement, hrule⟩)
    have hconditions := congrArg Rule.conditions hread
    rw [Statement.reread_eq_self_iff, ← (Statement.of_mem_rules hrule).2.1]
    exact hconditions
  · intro hself
    rw [reread_compile hgranted, List.map_congr_left hself, List.map_id']

/-- Where every statement matches a query as it is and as it reads back, or neither way,
the query has one answer. -/
theorem can_compile_map_reread
    (hmatches : ∀ statement ∈ statements,
      statement.reread.Matches (query.context.actor.or actor) query ↔
        statement.Matches (query.context.actor.or actor) query) :
    ((compile (statements.map Statement.reread) actor).value.can query).value =
      ((compile statements actor).value.can query).value := by
  rw [Bool.eq_iff_iff, can_compile_eq_true_iff, can_compile_eq_true_iff]
  simp only [List.mem_map, exists_exists_and_eq_and, forall_exists_index, and_imp,
    forall_apply_eq_imp_iff₂]
  refine and_congr (exists_congr fun statement => and_congr_right fun hstatement => ?_)
    (forall_congr' fun statement => imp_congr_right fun hstatement => not_congr ?_)
  · exact and_congr_left fun _ => hmatches statement hstatement
  · exact and_congr_left fun _ => hmatches statement hstatement

end Policy

namespace Authorizer

variable {authorizer : Authorizer} {actor : Actor} {policy : Policy} {roles : List Role}
  {merged : List Statement}

/-- A policy that is compiled from merged statements reads back from a value and from a text. -/
theorem reads_of_mergedStatements
    (hmerged : (authorizer.mergedStatements actor).result = .ok (roles, merged))
    (identity : Option Identity) (time : String) :
    Policy.decoder.ofJson ((Policy.compile merged identity).value.toJson time) =
        .ok ((Policy.compile merged identity).value.reread, time) ∧
      Policy.decoder.ofText ((Policy.compile merged identity).value.toJson time).text =
        .ok ((Policy.compile merged identity).value.reread, time) := by
  have hrules : ∀ rule ∈ (Policy.compile merged identity).value.rules,
      rule.Ordered ∧ rule.NumberFree 0 := by
    intro rule hrule
    obtain ⟨statement, hstatement, hmade⟩ := List.mem_flatMap.mp hrule
    exact (isGranted_of_mem_merged hmerged hstatement).ordered_and_numberFree_of_mem_rules hmade
  have hreads := Policy.reads_toJson (fun rule hrule => (hrules rule hrule).1) time
  have hfree := Policy.numberFree_toJson (fun rule hrule => (hrules rule hrule).2) time
  exact ⟨hreads.ofJson, hreads.ofText hfree (by decide)⟩

/-- What is left of a role after merging reads back unless the role is spelled like a
placeholder, and every right of a role is left, though perhaps by another role's level. -/
theorem reread_merged_iff
    (hmerged : (authorizer.mergedStatements actor).result = .ok (roles, merged)) :
    (∀ statement ∈ merged, statement.reread = statement) ↔
      ∀ role ∈ roles, role.SpelledAsPlaceholder → role.granted role.tree.flatten = [] := by
  constructor
  · intro hself role hrole hspelled
    refine List.eq_nil_iff_forall_not_mem.mpr fun statement hmade => ?_
    have hstatement : statement ∈ roles.flatMap fun role => role.granted role.tree.flatten :=
      List.mem_flatMap.mpr ⟨role, hrole, hmade⟩
    obtain ⟨path, level, _, rfl⟩ := Role.mem_granted_iff.mp hmade
    -- The statement that is held for the key has the same conditions, of whichever role it is.
    obtain ⟨held, hheld, hkey, _⟩ := Statement.exists_mem_merge hstatement
    rw [← (result_mergedStatements_eq_ok hmerged).2] at hheld
    have hgranted := isGranted_of_mem_merged hmerged hheld
    have hoverlaps := hgranted.overlaps_of_key_eq ⟨role, path, level, rfl⟩ hkey
    have hread := Statement.reread_eq_self_iff.mp (hself held hheld)
    rw [hoverlaps.conditions, ← Statement.reread_eq_self_iff] at hread
    exact Statement.reread_ofGrant_eq_self_iff.mp hread hspelled
  · intro hnone statement hstatement
    obtain ⟨role, hrole, path, level, hgrant, rfl⟩ := exists_grant_of_mem_merged hmerged hstatement
    refine Statement.reread_ofGrant_eq_self_iff.mpr fun hspelled => ?_
    have hmade : Statement.ofGrant role path level ∈ role.granted role.tree.flatten :=
      Role.mem_granted_iff.mpr ⟨path, level, hgrant, rfl⟩
    rw [hnone role hrole hspelled] at hmade
    exact absurd hmade List.not_mem_nil

/-- **What a stored policy decides.**  A resolved policy that is stored, as a value or as a
text, reads back, and it reads back as itself exactly when no effective role that grants
anything has a domain or a department that is spelled like a placeholder.  A query that it
answers otherwise is about the subject of a leaf of such a role, and matches the statement of
this leaf either as it is or as it reads back, but not both ways. -/
theorem stored_policy_decides_alike
    (hresolve : (authorizer.resolve actor).result = .ok policy) (time : String) :
    ∃ roles restored, (authorizer.store.effectiveRoles actor).result = .ok roles ∧
      Policy.decoder.ofJson (policy.toJson time) = .ok (restored, time) ∧
      Policy.decoder.ofText (policy.toJson time).text = .ok (restored, time) ∧
      (restored = policy ↔
        ∀ role ∈ roles, role.SpelledAsPlaceholder → role.granted role.tree.flatten = []) ∧
      ∀ query, (restored.can query).value = (policy.can query).value ∨
        ∃ role ∈ roles, role.SpelledAsPlaceholder ∧
          ∃ path level, ⟨path, .access level⟩ ∈ role.tree.flatten ∧
            (Meaning.ofPath path).subject = query.subject ∧
            ¬ ((Statement.ofGrant role path level).reread.Matches
                (policy.identity query.context) query ↔
              (Statement.ofGrant role path level).Matches
                (policy.identity query.context) query) := by
  obtain ⟨roles, merged, hmerged, rfl⟩ := result_resolve_eq_ok hresolve
  have hgranted : ∀ statement ∈ merged, statement.IsGranted :=
    fun statement hstatement => isGranted_of_mem_merged hmerged hstatement
  obtain ⟨hvalue, htext⟩ := reads_of_mergedStatements hmerged (some (.ofActor actor)) time
  refine ⟨roles, _, (result_mergedStatements_eq_ok hmerged).1, hvalue, htext, ?_, ?_⟩
  · rw [Policy.reread_compile_eq_self_iff hgranted, reread_merged_iff hmerged]
  · intro query
    rw [Policy.reread_compile hgranted, or_iff_not_imp_left]
    intro hanswer
    by_contra hnone
    refine hanswer (Policy.can_compile_map_reread fun statement hstatement => ?_)
    by_contra hdiffers
    obtain ⟨role, hrole, path, level, hgrant, rfl⟩ := exists_grant_of_mem_merged hmerged hstatement
    refine hnone ⟨role, hrole, ?_, path, level, hgrant, ?_, hdiffers⟩
    · by_contra hspelled
      rw [Statement.reread_ofGrant_eq_self_iff.mpr hspelled] at hdiffers
      exact hdiffers Iff.rfl
    · by_contra hsubject
      -- Neither reading changes the subject, so neither would match.
      refine hdiffers (iff_of_false ?_ ?_) <;> rintro ⟨hall | hsame, _⟩
      · exact Meaning.subject_ofPath_ne_all path hall
      · exact hsubject hsame
      · exact Meaning.subject_ofPath_ne_all path hall
      · exact hsubject hsame

/-- Whether an actor gets a policy, and one that allows a query after it was stored. -/
def permitsRestored (authorizer : Authorizer) (actor : Actor) (time : String) (query : Query) :
    Bool :=
  match (authorizer.resolve actor).result with
  | .ok policy =>
      match Policy.decoder.ofJson (policy.toJson time) with
      | .ok (restored, _) => (restored.can query).value
      | .error _ => false
  | .error _ => false

theorem permitsRestored_eq_true {time : String} {query : Query}
    (hpermits : authorizer.permitsRestored actor time query = true) :
    ∃ policy restored later, (authorizer.resolve actor).result = .ok policy ∧
      Policy.decoder.ofJson (policy.toJson time) = .ok (restored, later) ∧
      (restored.can query).value = true := by
  unfold permitsRestored at hpermits
  cases hresolve : (authorizer.resolve actor).result with
  | error error => simp [hresolve] at hpermits
  | ok policy =>
      cases hrestored : Policy.decoder.ofJson (policy.toJson time) with
      | error fault => simp [hresolve, hrestored] at hpermits
      | ok stored =>
          obtain ⟨restored, later⟩ := stored
          refine ⟨policy, restored, later, rfl, hrestored, ?_⟩
          simpa [hresolve, hrestored] using hpermits

end Authorizer

/-! ## An organization that is spelled like a placeholder -/

namespace Sample

/-- A task of the actor's organization. -/
def homeTask (action : Action) : Query :=
  ⟨action, .task,
    .ofAttributes (Dict.ofList [("domain", .str "acme"), ("department", .str "legal")])⟩

/-- The records of the actor and its role, which is one in an organization that is spelled
like the placeholder of the actor's own. -/
def tokenDirectory : Directory :=
  ⟨[{ lead with domain := Placeholder.domain.token }], [], [actor]⟩

end Sample

/-- The policy of the lead of an ordinary organization reads back as it was. -/
theorem stored_policy_of_lead :
    ∃ policy, (Authorizer.resolve ⟨Sample.directory.store, true⟩ Sample.actor).result = .ok policy ∧
      Policy.decoder.ofText (policy.toJson "2026-10-17T00:00:00Z").text =
        .ok (policy, "2026-10-17T00:00:00Z") := by
  obtain ⟨policy, hresolve, _⟩ := Authorizer.permits_eq_true_iff.mp
    (show Authorizer.permits ⟨Sample.directory.store, true⟩ Sample.actor (Sample.ownTask .manage) =
      true by decide +kernel)
  obtain ⟨roles, restored, hroles, _, hrestored, hsame, _⟩ :=
    Authorizer.stored_policy_decides_alike hresolve "2026-10-17T00:00:00Z"
  obtain rfl : [Sample.lead] = roles := Except.ok.inj hroles
  have hspelled : ¬ Sample.lead.SpelledAsPlaceholder := by
    rintro ⟨which, hdomain | hdepartment⟩ <;> cases which <;> contradiction
  obtain rfl : restored = policy := hsame.mpr fun role hrole hrole' =>
    absurd (List.mem_singleton.mp hrole ▸ hrole') hspelled
  exact ⟨restored, hresolve, hrestored⟩

/-- A right in the organization that is spelled like a placeholder becomes, by storing it,
one in the organization of whoever asks. -/
theorem stored_policy_answers_otherwise :
    ¬ ∀ (directory : Directory) (strict : Bool) (actor : Actor) (policy restored : Policy)
      (time later : String),
      (Authorizer.resolve ⟨directory.store, strict⟩ actor).result = .ok policy →
      Policy.decoder.ofJson (policy.toJson time) = .ok (restored, later) →
      ∀ query, (restored.can query).value = (policy.can query).value := by
  intro halike
  have hafter : Authorizer.permitsRestored ⟨Sample.tokenDirectory.store, true⟩ Sample.actor
      "2026-10-17T00:00:00Z" (Sample.homeTask .update) = true := by
    decide +kernel
  have hbefore : Authorizer.permits ⟨Sample.tokenDirectory.store, true⟩ Sample.actor
      (Sample.homeTask .update) = false := by
    decide +kernel
  obtain ⟨policy, restored, later, hresolve, hrestored, hcan⟩ :=
    Authorizer.permitsRestored_eq_true hafter
  rw [halike _ _ _ _ _ _ _ hresolve hrestored] at hcan
  have hpermits := Authorizer.permits_eq_true_iff.mpr ⟨policy, hresolve, hcan⟩
  rw [hbefore] at hpermits
  contradiction

end Entitlement
