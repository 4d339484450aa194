import Entitlement.Proofs.Outcome
import Entitlement.Proofs.Statement.Merge
import Entitlement.Resolution
import Mathlib.Data.List.Induction

/-!
# The first of the highest

What merging delivers is determined by the statements alone: for every key that occurs, in the
order in which the keys first occur, the first statement among the highest with that key
(`value_merge_eq`).

The run keeps one entry for each key that it has met.  Its invariant, `Keyed.Reads`, ties the
entries to the statements read so far: their keys are the keys of these statements without
repetitions, and each entry holds the first of the highest for its key.  A step keeps it
(`Keyed.Reads.absorb`), since the statement that comes in stands behind all others and so wins
against them only by a strictly higher level.

Statements may therefore be merged in pieces and the results merged again: the outcome is the
same list as that of merging everything at once, its order included.  Merging a piece leaves both
data as they are (`map_key_merge`, `firstHighest?_merge`), and both can be read off two pieces
one after the other: the keys of the second that are new come behind those of the first, and of
two leading statements the first counts unless the second is higher (`firstHighest?_append`).
-/

namespace Entitlement

/-! ## What a run has read -/

namespace Statement

variable {merged : Keyed} {statements further : List Statement} {statement held : Statement}
  {key : String}

/-! ### The highest statements of a key -/

/-- The first statement with a key among those of the highest level for the key. -/
def firstHighest? (statements : List Statement) (key : String) : Option Statement :=
  statements.find? fun statement =>
    statement.key = key ∧ ∀ other ∈ statements, other.key = key → other.level ≤ statement.level

/-- Before the first of the highest stand lower statements only, and behind it none that
are higher. -/
theorem firstHighest?_eq_some_iff :
    firstHighest? statements key = some held ↔
      held.key = key ∧ ∃ before after, statements = before ++ held :: after ∧
        (∀ other ∈ before, other.key = key → other.level < held.level) ∧
        ∀ other ∈ after, other.key = key → other.level ≤ held.level := by
  rw [firstHighest?, List.find?_eq_some_iff_append]
  simp only [decide_eq_true_eq, Bool.not_eq_true', decide_eq_false_iff_not]
  constructor
  · rintro ⟨⟨hkey, hhighest⟩, before, after, rfl, hbefore⟩
    refine ⟨hkey, before, after, rfl, ?_, ?_⟩
    · intro other hother hsame
      have hle : other.level ≤ held.level := hhighest other (by simp [hother]) hsame
      -- As high as the first of the highest, the statement would be that one itself.
      refine lt_of_le_of_ne hle fun hlevel => hbefore other hother ⟨hsame, ?_⟩
      rw [hlevel]
      exact hhighest
    · intro other hother hsame
      exact hhighest other (by simp [hother]) hsame
  · rintro ⟨hkey, before, after, rfl, hbefore, hafter⟩
    refine ⟨⟨hkey, ?_⟩, before, after, rfl, ?_⟩
    · intro other hother hsame
      rcases List.mem_append.mp hother with hmem | hmem
      · exact le_of_lt (hbefore other hmem hsame)
      · rcases List.mem_cons.mp hmem with rfl | hmem
        · exact le_rfl
        · exact hafter other hmem hsame
    · rintro other hother ⟨hsame, hhighest⟩
      have hle : held.level ≤ other.level := hhighest held (by simp) hkey
      exact absurd (hbefore other hother hsame) (not_lt.mpr hle)

theorem level_le_of_firstHighest? (hheld : firstHighest? statements key = some held)
    (hstatement : statement ∈ statements) (hkey : statement.key = key) :
    statement.level ≤ held.level := by
  have hhighest := List.find?_some hheld
  simp only [decide_eq_true_eq] at hhighest
  exact hhighest.2 statement hstatement hkey

/-! ### Joined lists -/

/-- Statements behind it that are not higher leave the first of the highest as it was. -/
theorem firstHighest?_append_of_le (hheld : firstHighest? statements key = some held)
    (hle : ∀ other ∈ further, other.key = key → other.level ≤ held.level) :
    firstHighest? (statements ++ further) key = some held := by
  rw [firstHighest?_eq_some_iff] at hheld ⊢
  obtain ⟨hkey, before, after, rfl, hbefore, hafter⟩ := hheld
  refine ⟨hkey, before, after ++ further, by simp, hbefore, ?_⟩
  intro other hother hsame
  rcases List.mem_append.mp hother with hmem | hmem
  · exact hafter other hmem hsame
  · exact hle other hmem hsame

/-- Lower statements in front of it leave the first of the highest as it was. -/
theorem firstHighest?_append_of_lt (hheld : firstHighest? further key = some held)
    (hlower : ∀ other ∈ statements, other.key = key → other.level < held.level) :
    firstHighest? (statements ++ further) key = some held := by
  rw [firstHighest?_eq_some_iff] at hheld ⊢
  obtain ⟨hkey, before, after, rfl, hbefore, hafter⟩ := hheld
  refine ⟨hkey, statements ++ before, after, by simp, ?_, hafter⟩
  intro other hother hsame
  rcases List.mem_append.mp hother with hmem | hmem
  · exact hlower other hmem hsame
  · exact hbefore other hmem hsame

theorem eraseDups_concat {keys : List String} :
    (keys ++ [key]).eraseDups = if key ∈ keys then keys.eraseDups else keys.eraseDups ++ [key] := by
  rw [List.eraseDups_append]
  by_cases hmem : key ∈ keys
  · simp [hmem, List.removeAll]
  · simp [hmem, List.removeAll, List.eraseDups_cons]

/-! ### The run -/

/-- Merged statements as they stand after some statements have been read. -/
structure Keyed.Reads (merged : Keyed) (statements : List Statement) : Prop where
  sound : merged.Sound
  keys : merged.map (·.1) = (statements.map Statement.key).eraseDups
  leads : ∀ entry ∈ merged, firstHighest? statements entry.1 = some entry.2

theorem Keyed.Reads.exists_mem (hreads : merged.Reads statements)
    (hstatement : statement ∈ statements) : ∃ held, (statement.key, held) ∈ merged := by
  have hkey : statement.key ∈ merged.map (·.1) := by
    rw [hreads.keys, List.mem_eraseDups]
    exact List.mem_map_of_mem hstatement
  obtain ⟨⟨key, held⟩, hentry, hsame⟩ := List.mem_map.mp hkey
  exact ⟨held, hsame ▸ hentry⟩

theorem Keyed.Reads.absorb (hreads : merged.Reads statements) :
    Keyed.Reads (absorb statement.key statement merged).value (statements ++ [statement]) where
  sound := hreads.sound.absorb
  keys := by
    rw [map_fst_absorb, List.map_append, List.map_singleton, eraseDups_concat, hreads.keys]
    exact if_congr List.mem_eraseDups rfl rfl
  leads := by
    intro entry hentry
    rcases (mem_absorb_iff hreads.sound.nodup).mp hentry with ⟨hold, hle⟩ | ⟨rfl, hlower⟩
    · refine firstHighest?_append_of_le (hreads.leads entry hold) fun other hother hsame => ?_
      obtain rfl := List.mem_singleton.mp hother
      exact hle hsame.symm
    · have halone : firstHighest? [statement] statement.key = some statement := by
        simp [firstHighest?]
      refine firstHighest?_append_of_lt halone fun other hother hsame => ?_
      -- What is held for the key is as high as all that has been read for it.
      obtain ⟨held, hheld⟩ := hreads.exists_mem hother
      rw [hsame] at hheld
      calc other.level
          ≤ held.level := level_le_of_firstHighest? (hreads.leads _ hheld) hother hsame
        _ < statement.level := hlower held hheld

theorem Keyed.Reads.absorbAll (hreads : merged.Reads statements) :
    Keyed.Reads (absorbAll merged further).value (statements ++ further) := by
  induction further generalizing merged statements with
  | nil => simpa [Statement.absorbAll] using hreads
  | cons statement rest ih =>
      rw [Statement.absorbAll, Traced.value_bind, List.append_cons]
      exact ih hreads.absorb

theorem Keyed.reads_nil : Keyed.Reads [] [] := ⟨Keyed.sound_nil, rfl, by simp⟩

/-! ### Merged statements -/

theorem reads_absorbAll_nil (statements : List Statement) :
    Keyed.Reads (absorbAll [] statements).value statements :=
  Keyed.reads_nil.absorbAll

/-- The keys of merged statements are those that occur, in the order of their first
occurrence. -/
theorem map_key_merge (statements : List Statement) :
    (merge statements).value.map Statement.key = (statements.map Statement.key).eraseDups := by
  have hreads := reads_absorbAll_nil statements
  rw [merge, Traced.value_bind, Traced.value_pure, List.map_map, ← hreads.keys]
  refine List.map_congr_left fun entry hentry => ?_
  exact (hreads.sound.own entry hentry).symm

theorem nodup_map_key_merge (statements : List Statement) :
    ((merge statements).value.map Statement.key).Nodup := by
  have hreads := reads_absorbAll_nil statements
  rw [map_key_merge, ← hreads.keys]
  exact hreads.sound.nodup

theorem firstHighest?_of_mem_merge (hheld : held ∈ (merge statements).value) :
    firstHighest? statements held.key = some held := by
  rw [mem_merge_iff_mem_absorbAll] at hheld
  exact (reads_absorbAll_nil statements).leads _ hheld

/-- **Merging keeps the first of the highest.**  The merged statements are, unchanged, the
first of the highest for every key that occurs, in the order in which the keys first
occur.  So each key occurs once, none is lost, no level is lowered, and the keys and
levels that remain do not depend on the order of the statements. -/
theorem merge_selects_first_highest (statements : List Statement) :
    (merge statements).value.map some =
        (statements.map Statement.key).eraseDups.map (firstHighest? statements) ∧
      ((merge statements).value.map Statement.key).Nodup ∧
      (∀ statement ∈ statements, ∃ held ∈ (merge statements).value,
        held.key = statement.key ∧ statement.level ≤ held.level) ∧
      ∀ reordered, statements.Perm reordered → ∀ key level,
        (∃ held ∈ (merge statements).value, held.key = key ∧ held.level = level) ↔
          ∃ held ∈ (merge reordered).value, held.key = key ∧ held.level = level := by
  refine ⟨?_, ?_, fun statement hstatement => exists_mem_merge hstatement, ?_⟩
  · rw [← map_key_merge, List.map_map]
    refine List.map_congr_left fun held hheld => ?_
    exact (firstHighest?_of_mem_merge hheld).symm
  · have hreads := reads_absorbAll_nil statements
    rw [map_key_merge, ← hreads.keys]
    exact hreads.sound.nodup
  · intro reordered hperm key level
    constructor
    · rintro ⟨held, hheld, rfl, rfl⟩
      exact exists_mem_merge_of_mem_iff (fun _ => hperm.mem_iff) hheld
    · rintro ⟨held, hheld, rfl, rfl⟩
      exact exists_mem_merge_of_mem_iff (fun _ => hperm.mem_iff.symm) hheld

end Statement

/-! ## Merging in pieces -/

namespace Statement

variable {statements first second : List Statement} {held : Statement} {key : String}

/-! ### Keys of joined lists -/

theorem eraseDups_append_eraseDups (keys others : List String) :
    (keys ++ others.eraseDups).eraseDups = (keys ++ others).eraseDups := by
  induction others using List.reverseRecOn with
  | nil => simp
  | append_singleton rest key ih =>
      rw [eraseDups_concat, ← List.append_assoc, eraseDups_concat]
      by_cases hrest : key ∈ rest
      · rw [if_pos hrest, ih, if_pos (List.mem_append_right _ hrest)]
      · rw [if_neg hrest, ← List.append_assoc, eraseDups_concat, ih]
        exact if_congr (by simp) rfl rfl

theorem eraseDups_eraseDups_append (keys others : List String) :
    (keys.eraseDups ++ others).eraseDups = (keys ++ others).eraseDups := by
  induction others using List.reverseRecOn with
  | nil => simpa using eraseDups_append_eraseDups [] keys
  | append_singleton rest key ih =>
      rw [← List.append_assoc, ← List.append_assoc, eraseDups_concat, eraseDups_concat, ih]
      exact if_congr (by simp) rfl rfl

/-! ### The first of the highest in joined lists -/

/-- The first of two statements, unless the second is higher. -/
def prefer (statement other : Statement) : Statement :=
  if statement.level < other.level then other else statement

theorem mem_and_key_of_firstHighest? (hheld : firstHighest? statements key = some held) :
    held ∈ statements ∧ held.key = key :=
  ⟨List.mem_of_find?_eq_some hheld, (firstHighest?_eq_some_iff.mp hheld).1⟩

/-- Every key that occurs has a first of the highest. -/
theorem firstHighest?_eq_none_iff :
    firstHighest? statements key = none ↔ ∀ statement ∈ statements, statement.key ≠ key := by
  constructor
  · rintro hnone statement hstatement rfl
    obtain ⟨held, hheld⟩ := (reads_absorbAll_nil statements).exists_mem hstatement
    have hleads := (reads_absorbAll_nil statements).leads _ hheld
    rw [hnone] at hleads
    contradiction
  · intro hother
    apply List.find?_eq_none.mpr
    intro statement hstatement
    simp [hother statement hstatement]

theorem firstHighest?_append (first second : List Statement) (key : String) :
    firstHighest? (first ++ second) key =
      (firstHighest? first key).merge prefer (firstHighest? second key) := by
  cases hfirst : firstHighest? first key with
  | none =>
      -- Where the first list says nothing about the key, the second decides.
      have hno := firstHighest?_eq_none_iff.mp hfirst
      cases hsecond : firstHighest? second key with
      | none =>
          apply firstHighest?_eq_none_iff.mpr
          intro statement hstatement
          rcases List.mem_append.mp hstatement with hmem | hmem
          · exact hno statement hmem
          · exact firstHighest?_eq_none_iff.mp hsecond statement hmem
      | some other =>
          apply firstHighest?_append_of_lt hsecond
          intro statement hmem hkey
          exact absurd hkey (hno statement hmem)
  | some held =>
      cases hsecond : firstHighest? second key with
      | none =>
          apply firstHighest?_append_of_le hfirst
          intro statement hmem hkey
          exact absurd hkey (firstHighest?_eq_none_iff.mp hsecond statement hmem)
      | some other =>
          -- Where both say something, the first one counts unless the second is strictly higher.
          show firstHighest? (first ++ second) key = some (prefer held other)
          unfold prefer
          split
          · rename_i hhigher
            apply firstHighest?_append_of_lt hsecond
            intro statement hmem hkey
            exact lt_of_le_of_lt (level_le_of_firstHighest? hfirst hmem hkey) hhigher
          · rename_i hnot
            apply firstHighest?_append_of_le hfirst
            intro statement hmem hkey
            exact le_trans (level_le_of_firstHighest? hsecond hmem hkey) (not_lt.mp hnot)

/-! ### Merged pieces -/

/-- Merging leaves the first of the highest as it was. -/
theorem firstHighest?_merge (statements : List Statement) (key : String) :
    firstHighest? (merge statements).value key = firstHighest? statements key := by
  cases hkept : firstHighest? (merge statements).value key with
  | none =>
      symm
      rw [firstHighest?_eq_none_iff] at hkept ⊢
      intro statement hstatement hkey
      -- A key that occurs keeps a merged statement.
      obtain ⟨higher, hhigher, hsame, _⟩ := exists_mem_merge hstatement
      exact hkept higher hhigher (hsame.trans hkey)
  | some kept =>
      obtain ⟨hmem, hkey⟩ := mem_and_key_of_firstHighest? hkept
      rw [← hkey, firstHighest?_of_mem_merge hmem]

/-- The merged statements are given by the keys and by the first of the highest. -/
theorem value_merge_eq (statements : List Statement) :
    (merge statements).value =
      (statements.map Statement.key).eraseDups.filterMap (firstHighest? statements) := by
  rw [← map_key_merge, List.filterMap_map]
  calc (merge statements).value
      = (merge statements).value.filterMap some := List.filterMap_some.symm
    _ = (merge statements).value.filterMap (firstHighest? statements ∘ Statement.key) := by
        apply List.filterMap_congr
        intro held hheld
        exact (firstHighest?_of_mem_merge hheld).symm

theorem value_merge_congr
    (hkeys : (first.map Statement.key).eraseDups = (second.map Statement.key).eraseDups)
    (hheld : ∀ key, firstHighest? first key = firstHighest? second key) :
    (merge first).value = (merge second).value := by
  rw [value_merge_eq, value_merge_eq, hkeys]
  apply List.filterMap_congr
  intro key _
  exact hheld key

theorem value_merge_append_left (first second : List Statement) :
    (merge ((merge first).value ++ second)).value = (merge (first ++ second)).value := by
  apply value_merge_congr
  · rw [List.map_append, List.map_append, map_key_merge, eraseDups_eraseDups_append]
  · intro key
    rw [firstHighest?_append, firstHighest?_append, firstHighest?_merge]

theorem value_merge_append_right (first second : List Statement) :
    (merge (first ++ (merge second).value)).value = (merge (first ++ second)).value := by
  apply value_merge_congr
  · rw [List.map_append, List.map_append, map_key_merge, eraseDups_append_eraseDups]
  · intro key
    rw [firstHighest?_append, firstHighest?_append, firstHighest?_merge]

theorem value_merge_merge (statements : List Statement) :
    (merge (merge statements).value).value = (merge statements).value :=
  value_merge_append_right [] statements

end Statement

/-! ### Role by role -/

namespace Authorizer

/-- The statements of roles, those of each role merged before they are joined. -/
def statementsMergedByRole (authorizer : Authorizer) : List Role → Outcome (List Statement)
  | [] => return []
  | role :: rest => do
      let statements ← role.statements authorizer.strict
      let merged ← Statement.merge statements
      let later ← authorizer.statementsMergedByRole rest
      return merged ++ later

/-- Reading roles fails in the same way, or delivers statements with the same merged form. -/
theorem map_merge_statementsMergedByRole (authorizer : Authorizer) (roles : List Role) :
    ((authorizer.statementsMergedByRole roles).result.map fun read =>
        (Statement.merge read).value) =
      (authorizer.statementsOf roles).result.map fun read => (Statement.merge read).value := by
  induction roles with
  | nil => rfl
  | cons role rest ih =>
      rw [statementsMergedByRole, statementsOf, Outcome.result_bind, Outcome.result_bind]
      cases (role.statements authorizer.strict).result with
      | error error => rfl
      | ok statements =>
          simp only [Outcome.result_bind]
          -- Of what the other roles make, only the merged form counts.
          calc _ = ((authorizer.statementsMergedByRole rest).result.map fun later =>
                  (Statement.merge later).value).map fun later =>
                    (Statement.merge (statements ++ later)).value := by
                cases (authorizer.statementsMergedByRole rest).result with
                | error error => rfl
                | ok later =>
                    apply congrArg Except.ok
                    exact (Statement.value_merge_append_left statements later).trans
                      (Statement.value_merge_append_right statements later).symm
            _ = ((authorizer.statementsOf rest).result.map fun later =>
                  (Statement.merge later).value).map fun later =>
                    (Statement.merge (statements ++ later)).value := by rw [ih]
            _ = _ := by
                cases (authorizer.statementsOf rest).result with
                | error error => rfl
                | ok later =>
                    apply congrArg Except.ok
                    exact Statement.value_merge_append_right statements later

end Authorizer

/-- **Merging in pieces.**  Two lists of statements may be merged each by itself before they
are merged together, statements that are merged already stay as they are, and an actor's
statements may be merged role by role first: everything comes out the same, statement for
statement and in the same order. -/
theorem Statement.merge_in_pieces :
    (∀ first second : List Statement,
      (merge (first ++ second)).value =
        (merge ((merge first).value ++ (merge second).value)).value) ∧
    (∀ statements : List Statement,
      (merge (merge statements).value).value = (merge statements).value) ∧
    ∀ (authorizer : Authorizer) (actor : Actor),
      (authorizer.mergedStatements actor).result =
        Outcome.result do
          let roles ← authorizer.store.effectiveRoles actor
          let statements ← authorizer.statementsMergedByRole roles
          let merged ← merge statements
          return (roles, merged) := by
  refine ⟨?_, value_merge_merge, ?_⟩
  · intro first second
    rw [value_merge_append_left, value_merge_append_right]
  · intro authorizer actor
    -- Both runs look up the same roles and differ only in how they read them.
    have hsame := authorizer.map_merge_statementsMergedByRole
    rw [Authorizer.mergedStatements, Outcome.result_bind, Outcome.result_bind]
    cases (authorizer.store.effectiveRoles actor).result with
    | error error => rfl
    | ok roles =>
        simp only [Outcome.result_bind]
        calc _ = ((authorizer.statementsOf roles).result.map fun read => (merge read).value).map
                fun merged => (roles, merged) := by
              cases (authorizer.statementsOf roles).result <;> rfl
          _ = ((authorizer.statementsMergedByRole roles).result.map fun read =>
                (merge read).value).map fun merged => (roles, merged) := by rw [hsame]
          _ = _ := by cases (authorizer.statementsMergedByRole roles).result <;> rfl

end Entitlement
