import Entitlement.Proofs.Resolution.Provenance
import Entitlement.Proofs.Statement.Overlap

/-!
# A further grant of a right that is held

When a grant comes in whose right is held already, the higher level counts.  A grant
that is not higher changes nothing (`can_compile_merge_append_of_le`).  A higher one takes the
place of what was held, with its own fields and its own denials
(`can_compile_merge_append_iff_of_lt`), and so it can take away two things.

* **Fields.**  What was held on every field may now be held on some.  The hypothesis on the field
  of the query excludes this, and only this: the further statement is open to the field, or
  counts for nothing, or the query does not hang on it.
* **Actions.**  Among the levels that give access the higher one forbids less, so a statement
  that replaces one of these denies nothing new.  But no access forbids a single action, and a
  statement that takes the place of one without access may deny others that were allowed.

It takes away nothing else (`can_compile_merge_append_iff`).
-/

namespace Entitlement

namespace Policy

open Statement

variable {statements : List Statement} {held further : Statement} {actor : Option Identity}
  {query : Query}

/-- A grant that is not higher than what is held changes no answer. -/
theorem can_compile_merge_append_of_le (hheld : held ∈ (merge statements).value)
    (hkey : held.key = further.key) (hle : further.level ≤ held.level) :
    ((compile (merge (statements ++ [further])).value actor).value.can query).value =
      ((compile (merge statements).value actor).value.can query).value := by
  rw [Bool.eq_iff_iff, can_compile_eq_true_iff, can_compile_eq_true_iff]
  simp only [mem_merge_append_iff_of_le hheld hkey hle]

/-- A grant that is higher than what is held answers in its place, together with the
statements of all other keys. -/
theorem can_compile_merge_append_iff_of_lt (hheld : held ∈ (merge statements).value)
    (hkey : held.key = further.key) (hlt : held.level < further.level) :
    ((compile (merge (statements ++ [further])).value actor).value.can query).value = true ↔
      (further.Allows (query.context.actor.or actor) query ∨
        ∃ other ∈ (merge statements).value,
          other.key ≠ further.key ∧ other.Allows (query.context.actor.or actor) query) ∧
      ¬ further.Denies (query.context.actor.or actor) query ∧
      ∀ other ∈ (merge statements).value,
        other.key ≠ further.key → ¬ other.Denies (query.context.actor.or actor) query := by
  rw [can_compile_eq_true_iff]
  simp only [mem_merge_append_iff_of_lt hheld hkey hlt]
  constructor
  · rintro ⟨⟨allowing, ⟨hallowing, hne⟩ | rfl, hallows⟩, hfree⟩
    · refine ⟨Or.inr ⟨allowing, hallowing, hne, hallows⟩, hfree further (Or.inr rfl), ?_⟩
      exact fun other hother hne => hfree other (Or.inl ⟨hother, hne⟩)
    · refine ⟨Or.inl hallows, hfree allowing (Or.inr rfl), ?_⟩
      exact fun other hother hne => hfree other (Or.inl ⟨hother, hne⟩)
  · rintro ⟨hallowing, hnow, hfree⟩
    constructor
    · rcases hallowing with hallows | ⟨allowing, hallowing, hne, hallows⟩
      · exact ⟨further, Or.inr rfl, hallows⟩
      · exact ⟨allowing, Or.inl ⟨hallowing, hne⟩, hallows⟩
    · rintro other (⟨hother, hne⟩ | rfl)
      · exact hfree other hother hne
      · exact hnow

/-- **What a further grant takes away.**  Let roles make some statements and one more
whose key is among theirs, let the merged statements allow a query, and let the further
statement not shut out the field of the query.  Then the query stays allowed unless the
key was held without access and the further statement denies the query. -/
theorem can_compile_merge_append_iff
    (hstatements : ∀ statement ∈ statements, statement.IsGranted)
    (hfurther : further.IsGranted)
    (hkey : ∃ statement ∈ statements, statement.key = further.key)
    (hcan : ((compile (merge statements).value actor).value.can query).value = true)
    (hfield : further.OpenTo query.context.field ∨
      (∃ held ∈ (merge statements).value,
        held.key = further.key ∧ further.level ≤ held.level) ∨
      ∃ other ∈ (merge statements).value,
        other.key ≠ further.key ∧ other.Allows (query.context.actor.or actor) query) :
    ((compile (merge (statements ++ [further])).value actor).value.can query).value = true ↔
      ¬ ∃ held ∈ (merge statements).value, held.key = further.key ∧ held.level = .noAccess ∧
        further.Denies (query.context.actor.or actor) query := by
  obtain ⟨statement, hstatement, hsame⟩ := hkey
  -- Of the key one statement is held, and it is about the same right as the further one.
  obtain ⟨held, hheld, hheldKey, -⟩ := exists_mem_merge hstatement
  have hkey : held.key = further.key := hheldKey.trans hsame
  have hoverlaps : held.Overlaps further :=
    (hstatements held (mem_of_mem_merge hheld)).overlaps_of_key_eq hfurther hkey
  have honly : ∀ other ∈ (merge statements).value, other.key = further.key → other = held := by
    intro other hother hsame
    exact eq_of_mem_merge hother hheld (hsame.trans hkey.symm)
  obtain ⟨⟨allowing, hallowing, hallows⟩, hfree⟩ := can_compile_eq_true_iff.mp hcan
  rcases le_or_gt further.level held.level with hle | hlt
  · -- What is held would deny what the further statement denies.
    rw [can_compile_merge_append_of_le hheld hkey hle]
    refine iff_of_true hcan ?_
    rintro ⟨other, hother, hotherKey, hnone, hdenies⟩
    obtain rfl := honly other hother hotherKey
    have hlevel : other.level = further.level := by
      refine le_antisymm ?_ hle
      rw [hnone]
      exact Level.noAccess_le _
    exact hfree other hother (hoverlaps.denies_of_level_eq hlevel hdenies)
  · rw [can_compile_merge_append_iff_of_lt hheld hkey hlt]
    -- From here on the further statement stands in the place of the held one.
    constructor
    · rintro ⟨_, hnow, _⟩ ⟨_, _, _, _, hdenies⟩
      exact hnow hdenies
    · intro hnew
      -- What another key allows or does not deny is as before.
      refine ⟨?_, ?_, fun other hother _ => hfree other hother⟩
      · by_cases hother : allowing.key = further.key
        · obtain rfl := honly allowing hallowing hother
          rcases hfield with hopen | ⟨high, hhigh, hhighKey, hle⟩ | hother
          · exact Or.inl (hoverlaps.allows_of_le (le_of_lt hlt) hopen hallows)
          · rw [honly high hhigh hhighKey] at hle
            exact absurd hlt (not_lt.mpr hle)
          · exact Or.inr hother
        · exact Or.inr ⟨allowing, hallowing, hother, hallows⟩
      · intro hdenies
        -- The held statement denies whatever a higher one does, unless it gives no access at all.
        by_cases hnone : held.level = .noAccess
        · exact hnew ⟨held, hheld, hkey, hnone, hdenies⟩
        · exact hfree held hheld (hoverlaps.denies_of_le (le_of_lt hlt) hnone hdenies)

end Policy

/-! ## Grants of the lead -/

namespace Sample

/-- The statement of the lead by a level at a path. -/
def grant (path : String) (level : Level) : Statement := .ofGrant lead path level

theorem isGranted_grant (path : String) (level : Level) : (grant path level).IsGranted :=
  ⟨lead, path, level, rfl⟩

/-- The grants of the lead on tasks. -/
def taskGrants : List Statement :=
  [grant "taskAccess.all" .adminAccess, grant "taskAccess.assigned" .viewAccess]

theorem isGranted_of_mem_taskGrants : ∀ statement ∈ taskGrants, statement.IsGranted := by
  simp [taskGrants, isGranted_grant]

end Sample

open Statement in
/-- The lead goes on reading the actor's own tasks when it may also write them. -/
theorem lead_reads_after_further_grant :
    ((Policy.compile (merge (Sample.taskGrants ++
        [Sample.grant "taskAccess.assigned" .writeAccess])).value
      (some (.ofActor Sample.actor))).value.can (Sample.ownTask .read)).value = true := by
  have hkey : ∃ statement ∈ Sample.taskGrants,
      statement.key = (Sample.grant "taskAccess.assigned" .writeAccess).key :=
    ⟨Sample.grant "taskAccess.assigned" .viewAccess, by simp [Sample.taskGrants], rfl⟩
  have hcan : ((Policy.compile (merge Sample.taskGrants).value
      (some (.ofActor Sample.actor))).value.can (Sample.ownTask .read)).value = true := by
    decide +kernel
  have hopen : (Sample.grant "taskAccess.assigned" .writeAccess).OpenTo
      (Sample.ownTask .read).context.field := by
    intro fields named _ hnamed
    exact absurd hnamed (by simp [Sample.ownTask, Context.ofAttributes])
  refine (Policy.can_compile_merge_append_iff Sample.isGranted_of_mem_taskGrants
    (Sample.isGranted_grant _ _) hkey hcan (Or.inl hopen)).mpr ?_
  rintro ⟨held, hheld, -, hnone, -⟩
  have hmem := mem_of_mem_merge hheld
  simp only [Sample.taskGrants, List.mem_cons, List.not_mem_nil, or_false] at hmem
  rcases hmem with rfl | rfl
  · contradiction
  · contradiction

open Statement in
/-- A further grant can take away what it does not itself grant.  In a query that names
no field this is what its level forbids: the lead, whose own tasks stand without access,
deletes them until it may look at them.  Where no right stands without access it is the
other fields: whoever may look at reviews sees no title once comments may be written. -/
theorem not_forall_can_compile_merge_append :
    (¬ ∀ (statements : List Statement) (further : Statement) (actor : Option Identity)
        (query : Query), (∀ statement ∈ statements, statement.IsGranted) → further.IsGranted →
      (∃ statement ∈ statements, statement.key = further.key) → query.context.field = none →
      ((Policy.compile (merge statements).value actor).value.can query).value = true →
      ((Policy.compile (merge (statements ++ [further])).value actor).value.can query).value =
        true) ∧
    ¬ ∀ (statements : List Statement) (further : Statement) (actor : Option Identity)
        (query : Query), (∀ statement ∈ statements, statement.IsGranted) → further.IsGranted →
      (∃ statement ∈ statements, statement.key = further.key) →
      (∀ statement ∈ statements, statement.level ≠ .noAccess) →
      ((Policy.compile (merge statements).value actor).value.can query).value = true →
      ((Policy.compile (merge (statements ++ [further])).value actor).value.can query).value =
        true := by
  constructor
  · intro hall
    have hafter := hall [Sample.grant "taskAccess.all" .adminAccess,
        Sample.grant "taskAccess.assigned" .noAccess]
      (Sample.grant "taskAccess.assigned" .viewAccess) (some (.ofActor Sample.actor))
      (Sample.ownTask .delete) (by simp [Sample.isGranted_grant]) (Sample.isGranted_grant _ _)
      ⟨Sample.grant "taskAccess.assigned" .noAccess, by simp, rfl⟩ rfl (by decide +kernel)
    exact absurd hafter (by decide +kernel)
  · intro hall
    have hafter := hall [Sample.grant "review.update" .viewAccess]
      (Sample.grant "reviewWorkflow.actions.comment" .writeAccess) (some (.ofActor Sample.actor))
      ⟨.read, .review, ⟨none, ∅, some "title"⟩⟩ (by simp [Sample.isGranted_grant])
      (Sample.isGranted_grant _ _)
      ⟨Sample.grant "review.update" .viewAccess, by simp, by decide +kernel⟩
      (by simp [Sample.grant, ofGrant]) (by decide +kernel)
    exact absurd hafter (by decide +kernel)

end Entitlement
