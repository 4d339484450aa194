import Entitlement.Proofs.Resolution.Provenance
import Entitlement.Proofs.Statement.Overlap

/-!
# What levels add and what they hold back

A statement answers for its level in two ways.

* It restricts.  A statement without admin access forbids its own action without access, changes
  with view access, and deletion with write access.  The restriction keeps the conditions of the
  statement and drops its fields, and no other statement lifts it, wherever the two stand and
  however much the other one grants (`can_compile_eq_false_of_restriction`).
* It grants.  What a level grants grows with the level, and the fields to which a statement is
  confined stay the same.  Hence a query that is allowed by a statement at one level is allowed by
  it at every higher one (`levels_contain_each_other`).

The second holds of a statement that stands alone, for it never forbids what it grants
(`Statement.not_forbids_of_grants`).  The denials that come with a level matter only beside other
statements.
-/

namespace Entitlement

/-! ## Restrictions hold against every other statement -/

section Restriction

variable {statement restricting : Statement} {statements : List Statement} {action : Action}
  {actor : Option Identity} {query : Query}

theorem Statement.forbids_iff :
    statement.Forbids action ↔
      (statement.level = .noAccess ∧ (action = statement.action ∨ statement.action = .manage)) ∨
      (statement.level = .viewAccess ∧
        (action = .create ∨ action = .update ∨ action = .delete)) ∨
      (statement.level = .writeAccess ∧ action = .delete) := by
  unfold Forbids
  cases statement.level with
  | noAccess => simp [or_comm]
  | viewAccess => simp
  | writeAccess => simp
  | adminAccess => simp

namespace Policy

/-- **No way around a restriction.**  A query is denied when one of the compiled
statements is about its subject, has its conditions met and forbids its action, whatever
the other statements are. -/
theorem can_compile_eq_false_of_restriction (hmem : restricting ∈ statements)
    (hsubject : restricting.subject = .all ∨ restricting.subject = query.subject)
    (hconditions : ∀ entry ∈ restricting.conditions.entries,
      query.context.Meets (query.context.actor.or actor) entry)
    (hrestricts :
      (restricting.level = .noAccess ∧
        (query.action = restricting.action ∨ restricting.action = .manage)) ∨
      (restricting.level = .viewAccess ∧
        (query.action = .create ∨ query.action = .update ∨ query.action = .delete)) ∨
      (restricting.level = .writeAccess ∧ query.action = .delete)) :
    ((compile statements actor).value.can query).value = false := by
  have hdenies : restricting.Denies (query.context.actor.or actor) query :=
    ⟨⟨hsubject, hconditions⟩, Statement.forbids_iff.mpr hrestricts⟩
  rw [← Bool.not_eq_true, can_compile_eq_true_iff]
  rintro ⟨_, hfree⟩
  exact hfree restricting hmem hdenies

end Policy

/-! ### An approved document -/

namespace Sample

/-- Every right on everything. -/
def everything : Statement :=
  ⟨.all, .manage, .adminAccess, ∅, none, "everything", lead.id, lead.roleName⟩

/-- The right to write the titles of approved documents. -/
def approvedTitles : Statement :=
  ⟨.document, .read, .writeAccess, Dict.ofList [("status", .text "approved")], some ["title"],
    "documentRepoAccess.approved", lead.id, lead.roleName⟩

/-- Deleting an approved document. -/
def deleteApproved : Query :=
  ⟨.delete, .document, ⟨none, Dict.ofList [("status", .str "approved")], none⟩⟩

end Sample

/-- Whoever has every right on everything, and may write the titles of approved documents,
does not delete these documents. -/
theorem approved_document_is_kept :
    ((Policy.compile [Sample.everything, Sample.approvedTitles] none).value.can
      Sample.deleteApproved).value = false := by
  have hconditions : ∀ entry ∈ Sample.approvedTitles.conditions.entries,
      Sample.deleteApproved.context.Meets none entry := by
    intro entry hentry
    obtain rfl : entry = ("status", .text "approved") := List.mem_singleton.mp hentry
    exact Context.meets_text_iff.mpr rfl
  have hmem : Sample.approvedTitles ∈ [Sample.everything, Sample.approvedTitles] :=
    List.mem_cons_of_mem _ (List.mem_singleton_self _)
  exact Policy.can_compile_eq_false_of_restriction hmem (Or.inr rfl) hconditions
    (Or.inr (Or.inr ⟨rfl, rfl⟩))

end Restriction

/-! ## Higher levels contain lower ones -/

namespace Statement

variable {statement : Statement} {low high level : Level} {actor identity : Option Identity}
  {query : Query} {action : Action}

/-! ### A statement does not contradict itself -/

theorem isBasic_eq_false_iff :
    action.isBasic = false ↔
      action ∉ ([.read, .create, .update, .delete, .manage] : List Action) := by
  cases action <;> simp [Action.isBasic]

/-- What a statement grants it does not forbid. -/
theorem not_forbids_of_grants (hgrants : statement.Grants action) : ¬ statement.Forbids action := by
  unfold Grants at hgrants
  unfold Forbids
  intro hforbids
  cases hlevel : statement.level with
  | noAccess => simp [hlevel] at hgrants
  | viewAccess =>
      simp only [hlevel] at hgrants hforbids
      subst hgrants
      simp at hforbids
  | writeAccess =>
      simp only [hlevel] at hgrants hforbids
      subst hforbids
      -- Deletion could only be the statement's own action, and that is none of a workflow.
      obtain ⟨hown, hworkflow⟩ : .delete = statement.action ∧ statement.action.isBasic = false := by
        simpa using hgrants
      rw [← hown] at hworkflow
      contradiction
  | adminAccess => simp [hlevel] at hforbids

theorem Allows.not_denies (hallows : statement.Allows identity query) :
    ¬ statement.Denies identity query := by
  intro hdenies
  exact not_forbids_of_grants hallows.grants hdenies.2

/-! ### One statement at several levels -/

/-- The same statement at a level. -/
def atLevel (statement : Statement) (level : Level) : Statement := { statement with level := level }

/-- Whether a statement allows a query at a level when no other statement is there. -/
def permitsAt (statement : Statement) (level : Level) (actor : Option Identity) (query : Query) :
    Bool :=
  ((Policy.compile [statement.atLevel level] actor).value.can query).value

theorem overlaps_atLevel (statement : Statement) (low high : Level) :
    (statement.atLevel low).Overlaps (statement.atLevel high) := ⟨rfl, rfl, rfl⟩

theorem matches_atLevel_iff :
    (statement.atLevel level).Matches identity query ↔ statement.Matches identity query := by
  constructor
  · intro hmatches
    exact ⟨hmatches.subject, hmatches.conditions⟩
  · intro hmatches
    exact ⟨hmatches.subject, hmatches.conditions⟩

theorem openTo_atLevel_iff {field : Option String} :
    (statement.atLevel level).OpenTo field ↔ statement.OpenTo field := Iff.rfl

theorem permitsAt_iff :
    statement.permitsAt level actor query = true ↔
      (statement.atLevel level).Allows (query.context.actor.or actor) query := by
  rw [permitsAt, Policy.can_compile_eq_true_iff]
  simp only [List.mem_singleton, exists_eq_left, forall_eq]
  constructor
  · intro ⟨hallows, _⟩
    exact hallows
  · intro hallows
    exact ⟨hallows, hallows.not_denies⟩

theorem Allows.of_level_le (hle : low ≤ high)
    (hallows : (statement.atLevel low).Allows identity query) :
    (statement.atLevel high).Allows identity query := by
  have hoverlaps := overlaps_atLevel statement low high
  rcases hallows.2 with ⟨_, hopen⟩ | ⟨hadmin, _⟩
  · exact hoverlaps.allows_of_le hle hopen hallows
  · -- Only admin access reaches beyond the fields, and no level is higher.
    obtain rfl : low = .adminAccess := hadmin
    obtain rfl : .adminAccess = high := le_antisymm hle (Level.le_adminAccess high)
    exact hallows

/-- **Higher levels contain lower ones.**  Let one statement stand alone.  What it allows at
one level it allows at every higher level.  It allows nothing without access, reading with
view access, and with write access also creating, updating, the uploading of documents and
its own action if that is none of the basic ones.  With admin access it allows every action.
All this holds where the subject and the conditions match, and within the fields of the
statement but for the actions that admin access adds on its subject. -/
theorem levels_contain_each_other (statement : Statement) (actor : Option Identity)
    (query : Query) :
    (∀ low high, low ≤ high → statement.permitsAt low actor query = true →
      statement.permitsAt high actor query = true) ∧
    statement.permitsAt .noAccess actor query = false ∧
    (statement.permitsAt .viewAccess actor query = true ↔
      statement.Matches (query.context.actor.or actor) query ∧
        query.action = .read ∧ statement.OpenTo query.context.field) ∧
    (statement.permitsAt .writeAccess actor query = true ↔
      statement.Matches (query.context.actor.or actor) query ∧
        (query.action = .read ∨ query.action = .create ∨ query.action = .update ∨
          (query.action = .upload ∧ statement.subject = .document) ∨
          (query.action = statement.action ∧
            statement.action ∉ ([.read, .create, .update, .delete, .manage] : List Action))) ∧
        statement.OpenTo query.context.field) ∧
    (statement.permitsAt .adminAccess actor query = true ↔
      statement.Matches (query.context.actor.or actor) query ∧
        (query.context.field = none ∨ statement.fields = none ∨
          (∃ fields named, statement.fields = some fields ∧ query.context.field = some named ∧
            named ∈ fields) ∨
          query.action ∈ adminExtras statement.subject)) := by
  refine ⟨?_, ?_, ?_, ?_, ?_⟩
  · intro low high hle hlow
    exact permitsAt_iff.mpr ((permitsAt_iff.mp hlow).of_level_le hle)
  · rw [← Bool.not_eq_true, permitsAt_iff]
    intro hallows
    exact hallows.grants
  · rw [permitsAt_iff, Allows, matches_atLevel_iff, openTo_atLevel_iff]
    simp only [Grants, atLevel, reduceCtorEq, false_and, or_false]
  · rw [permitsAt_iff, Allows, matches_atLevel_iff, openTo_atLevel_iff, ← isBasic_eq_false_iff]
    simp only [Grants, atLevel, reduceCtorEq, false_and, or_false]
  · rw [permitsAt_iff, Allows, matches_atLevel_iff, openTo_atLevel_iff, openTo_iff]
    simp only [Grants, atLevel, true_and, or_assoc]

end Statement

/-! ### The title of an approved document -/

namespace Sample

/-- Reading the title of an approved document. -/
def readApprovedTitle : Query :=
  ⟨.read, .document, ⟨none, Dict.ofList [("status", .str "approved")], some "title"⟩⟩

end Sample

/-- The title of an approved document is read with view access, hence with write access,
and not without access. -/
theorem approved_title_is_read_from_view_access_on :
    Level.viewAccess ≤ Level.writeAccess ∧
      Sample.approvedTitles.permitsAt .viewAccess none Sample.readApprovedTitle = true ∧
      Sample.approvedTitles.permitsAt .writeAccess none Sample.readApprovedTitle = true ∧
      Sample.approvedTitles.permitsAt .noAccess none Sample.readApprovedTitle = false := by
  obtain ⟨hcontain, hnone, _⟩ :=
    Sample.approvedTitles.levels_contain_each_other none Sample.readApprovedTitle
  have hle : Level.viewAccess ≤ Level.writeAccess := by decide
  have hview :
      Sample.approvedTitles.permitsAt .viewAccess none Sample.readApprovedTitle = true := by
    decide
  exact ⟨hle, hview, hcontain _ _ hle hview, hnone⟩

end Entitlement
