import Entitlement.Proofs.Statement.Key
import Entitlement.Proofs.Statement.Merge

/-!
# Statements about the same right

Statements with the same key differ in their levels and their fields only.  They
match the same queries (`Overlaps.matches_iff`), and the one with the higher level grants
whatever the other grants (`Overlaps.grants_of_le`), as far as its own fields reach.

Denials go the other way with one exception.  View access forbids more than write
access and this more than admin access (`Forbids.of_le`), but no access forbids a single action:
a statement that takes the place of one without access can forbid actions that were
not forbidden before.

The fields are nearly a part of the right.  A right on the actor's own record is always one on
the fields of a profile, which its conditions tell, and other rights are not confined to fields
unless they are on reviews (`Overlaps.fields_eq`).  On reviews a right is one on every field or on
the comments (`IsGranted.fields_of_review`), and no condition tells which.

So a statement that takes the place of another one with its key, and is as high, takes rights
away in two ways only: where the other one was without access, and where it is itself on the
comments of reviews.
-/

namespace Entitlement.Statement

variable {statement other : Statement} {identity : Option Identity} {query : Query}
  {action : Action}

theorem Overlaps.matches_iff (hoverlaps : statement.Overlaps other) :
    statement.Matches identity query ↔ other.Matches identity query := by
  constructor
  · rintro ⟨hsubject, hconditions⟩
    rw [hoverlaps.subject] at hsubject
    rw [hoverlaps.conditions] at hconditions
    exact ⟨hsubject, hconditions⟩
  · rintro ⟨hsubject, hconditions⟩
    rw [← hoverlaps.subject] at hsubject
    rw [← hoverlaps.conditions] at hconditions
    exact ⟨hsubject, hconditions⟩

/-! ## Levels -/

theorem Overlaps.grants_of_le (hoverlaps : statement.Overlaps other)
    (hle : statement.level ≤ other.level) (hgrants : statement.Grants action) :
    other.Grants action := by
  unfold Grants at hgrants ⊢
  rw [← hoverlaps.subject, ← hoverlaps.action]
  -- What a level grants is contained in what each higher one grants.
  cases hlevel : statement.level with
  | noAccess => simp [hlevel] at hgrants
  | viewAccess =>
      rw [hlevel] at hle hgrants
      cases hother : other.level with
      | noAccess => rw [hother] at hle; contradiction
      | viewAccess => exact hgrants
      | writeAccess => exact Or.inl hgrants
      | adminAccess => trivial
  | writeAccess =>
      rw [hlevel] at hle hgrants
      cases hother : other.level with
      | noAccess | viewAccess => rw [hother] at hle; contradiction
      | writeAccess => exact hgrants
      | adminAccess => trivial
  | adminAccess =>
      rw [hlevel] at hle
      cases hother : other.level with
      | noAccess | viewAccess | writeAccess => rw [hother] at hle; contradiction
      | adminAccess => trivial

/-- Among the levels that give access, the higher one forbids less. -/
theorem Forbids.of_le (hforbids : other.Forbids action) (hle : statement.level ≤ other.level)
    (hnone : statement.level ≠ .noAccess) : statement.Forbids action := by
  unfold Forbids at hforbids ⊢
  -- No access is left out: it forbids the one action of the statement, and others none.
  cases hlevel : statement.level with
  | noAccess => exact absurd hlevel hnone
  | viewAccess =>
      rw [hlevel] at hle
      cases hother : other.level with
      | noAccess => rw [hother] at hle; contradiction
      | viewAccess => rw [hother] at hforbids; exact hforbids
      | writeAccess => rw [hother] at hforbids; exact Or.inr (Or.inr hforbids)
      | adminAccess => rw [hother] at hforbids; exact hforbids.elim
  | writeAccess =>
      rw [hlevel] at hle
      cases hother : other.level with
      | noAccess | viewAccess => rw [hother] at hle; contradiction
      | writeAccess => rw [hother] at hforbids; exact hforbids
      | adminAccess => rw [hother] at hforbids; exact hforbids.elim
  | adminAccess =>
      rw [hlevel] at hle
      cases hother : other.level with
      | noAccess | viewAccess | writeAccess => rw [hother] at hle; contradiction
      | adminAccess => rw [hother] at hforbids; exact hforbids

/-! ## Queries -/

/-- A statement that is as high and open to the field allows what the other does. -/
theorem Overlaps.allows_of_le (hoverlaps : statement.Overlaps other)
    (hle : statement.level ≤ other.level) (hopen : other.OpenTo query.context.field)
    (hallows : statement.Allows identity query) : other.Allows identity query := by
  have hgrants := hoverlaps.grants_of_le hle hallows.grants
  exact ⟨hoverlaps.matches_iff.mp hallows.1, Or.inl ⟨hgrants, hopen⟩⟩

/-- A statement that has the same level and is as open allows what the other does. -/
theorem Overlaps.allows_of_level_eq (hoverlaps : statement.Overlaps other)
    (hlevel : statement.level = other.level)
    (hopen : statement.OpenTo query.context.field → other.OpenTo query.context.field)
    (hallows : statement.Allows identity query) : other.Allows identity query := by
  refine ⟨hoverlaps.matches_iff.mp hallows.1, ?_⟩
  -- What admin access adds holds on every field, so the fields need not be compared there.
  rcases hallows.2 with ⟨hgrants, hfield⟩ | ⟨hadmin, hextra⟩
  · exact Or.inl ⟨hoverlaps.grants_of_le (le_of_eq hlevel) hgrants, hopen hfield⟩
  · rw [hlevel] at hadmin
    rw [hoverlaps.subject] at hextra
    exact Or.inr ⟨hadmin, hextra⟩

/-- Where one of two statements with the same level allows a query and the other does not, they
differ in their fields. -/
theorem Overlaps.fields_ne (hoverlaps : statement.Overlaps other)
    (hlevel : statement.level = other.level) (hallows : statement.Allows identity query)
    (hnot : ¬ other.Allows identity query) : statement.fields ≠ other.fields := by
  intro hfields
  refine hnot (hoverlaps.allows_of_level_eq hlevel ?_ hallows)
  intro hopen
  unfold OpenTo at hopen ⊢
  rw [← hfields]
  exact hopen

theorem Overlaps.denies_of_le (hoverlaps : statement.Overlaps other)
    (hle : statement.level ≤ other.level) (hnone : statement.level ≠ .noAccess)
    (hdenies : other.Denies identity query) : statement.Denies identity query :=
  ⟨hoverlaps.matches_iff.mpr hdenies.1, hdenies.2.of_le hle hnone⟩

/-- Statements about the same right with the same level deny the same queries. -/
theorem Overlaps.denies_of_level_eq (hoverlaps : statement.Overlaps other)
    (hlevel : statement.level = other.level) (hdenies : other.Denies identity query) :
    statement.Denies identity query := by
  refine ⟨hoverlaps.matches_iff.mpr hdenies.1, ?_⟩
  have hforbids := hdenies.2
  rw [Forbids] at hforbids ⊢
  rw [hlevel, hoverlaps.action]
  exact hforbids

/-! ## Fields

Only rights on reviews can be held once on every field and once on some. -/

theorem get?_id_conditions_ofGrant (role : Role) (path : String) (level : Level) :
    (ofGrant role path level).conditions.get? "id" =
      (Meaning.ofPath path).conditions.get? "id" := by
  rw [conditions_ofGrant]
  exact get?_confined_of_ne (by decide) (by decide)

/-- Statements about the same right, unless it is one on reviews, have the same fields. -/
theorem Overlaps.fields_eq (hoverlaps : statement.Overlaps other)
    (hgranted : statement.IsGranted) (hother : other.IsGranted)
    (hsubject : statement.subject ≠ .review) : statement.fields = other.fields := by
  have hsame := hoverlaps.subject
  obtain ⟨role, path, level, rfl⟩ := hgranted
  obtain ⟨role', path', level', rfl⟩ := hother
  have hid : (Meaning.ofPath path).conditions.get? "id" =
      (Meaning.ofPath path').conditions.get? "id" := by
    rw [← get?_id_conditions_ofGrant role path level, hoverlaps.conditions,
      get?_id_conditions_ofGrant]
  have hreview : (Meaning.ofPath path).subject ≠ .review := hsubject
  have hreview' : (Meaning.ofPath path').subject ≠ .review := by
    rw [← show (Meaning.ofPath path).subject = (Meaning.ofPath path').subject from hsame]
    exact hsubject
  show (Meaning.ofPath path).fields = (Meaning.ofPath path').fields
  -- Whether a right is one on the own record is seen in its conditions, which are the same.
  cases hown : ((Meaning.ofPath path).conditions.get? "id").isSome with
  | true =>
      have hown' := hown
      rw [hid] at hown'
      rw [Meaning.fields_ofPath_of_id hown, Meaning.fields_ofPath_of_id hown']
  | false =>
      have hown' := hown
      rw [hid] at hown'
      have hnone : (Meaning.ofPath path).fields = none :=
        (Meaning.fields_ofPath_of_not_id hown).resolve_right fun h => hreview h.1
      have hnone' : (Meaning.ofPath path').fields = none :=
        (Meaning.fields_ofPath_of_not_id hown').resolve_right fun h => hreview' h.1
      rw [hnone, hnone']

theorem IsGranted.fields_of_review (hgranted : statement.IsGranted)
    (hreview : statement.subject = .review) :
    statement.fields = none ∨ statement.fields = some ["comments"] := by
  obtain ⟨role, path, level, rfl⟩ := hgranted
  exact Meaning.fields_ofPath_of_review hreview

/-- A right on reviews shuts a query out when it is one on the comments and the query names
another field. -/
theorem IsGranted.not_openTo_iff_of_review (hgranted : statement.IsGranted)
    (hreview : statement.subject = .review) {field : Option String} :
    ¬ statement.OpenTo field ↔
      statement.fields = some ["comments"] ∧ ∃ named, field = some named ∧ named ≠ "comments" := by
  rw [openTo_iff]
  rcases hgranted.fields_of_review hreview with hnone | hcomments
  · simp [hnone]
  · cases field with
    | none => simp [hcomments]
    | some named => simp [hcomments]

/-- A right on reviews that covers a query and does not allow it is one on the comments, and the
query names another field. -/
theorem IsGranted.fields_of_not_allows (hgranted : statement.IsGranted)
    (hreview : statement.subject = .review) (hmatches : statement.Matches identity query)
    (hgrants : statement.Grants query.action) (hnot : ¬ statement.Allows identity query) :
    statement.fields = some ["comments"] ∧
      ∃ named, query.context.field = some named ∧ named ≠ "comments" := by
  rw [← hgranted.not_openTo_iff_of_review hreview]
  intro hopen
  exact hnot ⟨hmatches, Or.inl ⟨hgrants, hopen⟩⟩

end Entitlement.Statement
