import Entitlement.Statement.OfRoles
import Mathlib.Data.List.Nodup
import Mathlib.Order.Defs.LinearOrder

/-!
# Merging makes up no statement and forgets none

A merged statement is, unchanged, one of the statements that were merged: the conditions, the
fields and the level of different statements are never mixed (`mem_of_mem_merge`).  For every key
there is exactly one of them (`eq_of_mem_merge`), and no statement with the key has a higher level
(`level_le_of_mem_merge`).

The run keeps a list of entries, each under its key.  Its invariant is `Keyed.Sound`: every
statement stands under its own key, and no key occurs twice.  Under it `mem_absorb_iff` says what
one step does to which entries are there: the statement comes in unless one with its key is as
high, and an entry stays unless its key is that of a higher statement.  What is said about a
whole run follows from that by induction on the statements.
-/

namespace Entitlement

/-! ## Levels are linearly ordered -/

namespace Level

theorem eq_of_rank_eq {level other : Level} (hrank : level.rank = other.rank) : level = other := by
  cases level <;> cases other <;> first | rfl | contradiction

instance : LinearOrder Level where
  le_refl level := Nat.le_refl level.rank
  le_trans _ _ _ := Nat.le_trans
  le_antisymm _ _ hle hge := eq_of_rank_eq (Nat.le_antisymm hle hge)
  le_total level other := Nat.le_total level.rank other.rank
  lt_iff_le_not_ge _ _ := Nat.lt_iff_le_and_not_ge
  toDecidableLE := inferInstance

theorem noAccess_le (level : Level) : .noAccess ≤ level := Nat.zero_le level.rank

theorem le_adminAccess (level : Level) : level ≤ .adminAccess := by
  cases level <;> decide

end Level

/-! ## Entries under their keys -/

namespace Statement

/-- After a step, an entry is the one that came in or one that was there. -/
theorem mem_of_mem_absorb {key : String} {statement : Statement} {merged : Keyed}
    {entry : String × Statement} (hentry : entry ∈ (absorb key statement merged).value) :
    entry = (key, statement) ∨ entry ∈ merged := by
  induction merged with
  | nil =>
      rw [absorb, Traced.value_pure] at hentry
      exact Or.inl (List.mem_singleton.mp hentry)
  | cons first rest ih =>
      obtain ⟨head, held⟩ := first
      rw [absorb] at hentry
      split at hentry
      -- The key is there: the entry is replaced or kept, and the rest stays.
      · split at hentry
        · rcases List.mem_cons.mp hentry with rfl | hrest
          · exact Or.inl rfl
          · exact Or.inr (List.mem_cons_of_mem _ hrest)
        · exact Or.inr hentry
      -- The key is another: the statement goes on to the rest.
      · rcases List.mem_cons.mp hentry with rfl | hrest
        · exact Or.inr (List.mem_cons_self ..)
        · rcases ih hrest with hnew | hold
          · exact Or.inl hnew
          · exact Or.inr (List.mem_cons_of_mem _ hold)

theorem mem_of_mem_absorbAll {statements : List Statement} {merged : Keyed}
    {entry : String × Statement} (hentry : entry ∈ (absorbAll merged statements).value) :
    entry ∈ merged ∨ entry.2 ∈ statements := by
  induction statements generalizing merged with
  | nil => exact Or.inl hentry
  | cons statement rest ih =>
      rw [absorbAll, Traced.value_bind] at hentry
      rcases ih hentry with hmerged | hrest
      · rcases mem_of_mem_absorb hmerged with rfl | hold
        · exact Or.inr (List.mem_cons_self ..)
        · exact Or.inl hold
      · exact Or.inr (List.mem_cons_of_mem _ hrest)

/-- A merged statement is one of those that were merged. -/
theorem mem_of_mem_merge {statements : List Statement} {statement : Statement}
    (hstatement : statement ∈ (merge statements).value) : statement ∈ statements := by
  rw [merge, Traced.value_bind, Traced.value_pure] at hstatement
  obtain ⟨entry, hentry, rfl⟩ := List.mem_map.mp hstatement
  rcases mem_of_mem_absorbAll hentry with hnone | hmem
  · exact absurd hnone List.not_mem_nil
  · exact hmem

/-! ### One statement for each key -/

/-- Merged statements stand under their own keys, and each key occurs once. -/
structure Keyed.Sound (merged : Keyed) : Prop where
  own : ∀ entry ∈ merged, entry.1 = entry.2.key
  nodup : (merged.map (·.1)).Nodup

variable {merged : Keyed} {statement held further : Statement} {statements : List Statement}
  {key : String}

theorem value_absorb_cons (key : String) (statement : Statement) (first : String × Statement)
    (rest : Keyed) :
    (absorb key statement (first :: rest)).value =
      if key = first.1 then
        if first.2.level < statement.level then (key, statement) :: rest else first :: rest
      else first :: (absorb key statement rest).value := by
  rw [absorb]
  by_cases hkey : key = first.1
  · rw [if_pos hkey, if_pos hkey]
    split <;> rfl
  · rw [if_neg hkey, if_neg hkey]
    rfl

/-- A step adds its key at the end if it is new. -/
theorem map_fst_absorb :
    (absorb key statement merged).value.map (·.1) =
      if key ∈ merged.map (·.1) then merged.map (·.1) else merged.map (·.1) ++ [key] := by
  induction merged with
  | nil => rfl
  | cons first rest ih =>
      rw [value_absorb_cons]
      by_cases hkey : key = first.1
      · have hmem : key ∈ (first :: rest).map (·.1) := List.mem_map.mpr
          ⟨first, List.mem_cons_self .., hkey.symm⟩
        rw [if_pos hkey, if_pos hmem]
        split
        · rw [List.map_cons, List.map_cons, hkey]
        · rfl
      · have hmem : key ∈ (first :: rest).map (·.1) ↔ key ∈ rest.map (·.1) := by simp [hkey]
        rw [if_neg hkey, List.map_cons, ih, if_congr hmem rfl rfl]
        split <;> rfl

theorem Keyed.Sound.absorb (hsound : merged.Sound) :
    Keyed.Sound (absorb statement.key statement merged).value where
  own entry hentry := by
    rcases mem_of_mem_absorb hentry with rfl | hold
    · rfl
    · exact hsound.own entry hold
  nodup := by
    rw [map_fst_absorb]
    split
    · exact hsound.nodup
    · rename_i hnew
      exact List.nodup_append.mpr ⟨hsound.nodup, List.nodup_singleton _, by grind⟩

theorem Keyed.Sound.absorbAll (hsound : merged.Sound) :
    Keyed.Sound (absorbAll merged statements).value := by
  induction statements generalizing merged with
  | nil => exact hsound
  | cons statement rest ih =>
      rw [Statement.absorbAll, Traced.value_bind]
      exact ih hsound.absorb

theorem Keyed.sound_nil : Keyed.Sound [] := ⟨by simp, List.nodup_nil⟩

theorem Keyed.Sound.eq_of_mem (hsound : merged.Sound) (hstatement : (key, statement) ∈ merged)
    (hheld : (key, held) ∈ merged) : statement = held :=
  congrArg Prod.snd (List.inj_on_of_nodup_map hsound.nodup hstatement hheld rfl)

/-- Where the first entry has the key, and hence no later one, the higher of the two
statements stands there. -/
theorem mem_higher_iff {first entry : String × Statement} {rest : Keyed}
    (hlater : ∀ other ∈ rest, other.1 ≠ first.1) :
    entry ∈ (if first.2.level < statement.level then (first.1, statement) :: rest
        else first :: rest) ↔
      (entry ∈ first :: rest ∧ (entry.1 = first.1 → statement.level ≤ entry.2.level)) ∨
        (entry = (first.1, statement) ∧
          ∀ held, (first.1, held) ∈ first :: rest → held.level < statement.level) := by
  -- The key stands nowhere else, so what is said about all statements with it is about one.
  have honly : ∀ held, (first.1, held) ∈ first :: rest ↔ held = first.2 := by
    intro held
    have hrest : (first.1, held) ∉ rest := fun hmem => hlater _ hmem rfl
    rw [List.mem_cons, or_iff_left hrest, Prod.ext_iff]
    simp only [true_and]
  simp only [honly, forall_eq]
  by_cases hlower : first.2.level < statement.level
  · rw [if_pos hlower, List.mem_cons]
    constructor
    · rintro (rfl | hrest)
      · exact Or.inr ⟨rfl, hlower⟩
      · exact Or.inl ⟨List.mem_cons_of_mem _ hrest, fun hsame => absurd hsame (hlater _ hrest)⟩
    · rintro (⟨hmem, hhigh⟩ | ⟨rfl, _⟩)
      · rcases List.mem_cons.mp hmem with rfl | hrest
        · exact absurd hlower (not_lt.mpr (hhigh rfl))
        · exact Or.inr hrest
      · exact Or.inl rfl
  · rw [if_neg hlower, and_iff_left_of_imp, or_iff_left fun hnew => hlower hnew.2]
    intro hmem hsame
    rcases List.mem_cons.mp hmem with rfl | hrest
    · exact not_lt.mp hlower
    · exact absurd hsame (hlater _ hrest)

/-- What one step does to the entries: the statement comes in unless one with its key is
as high, and an entry stays unless its key is that of a higher statement. -/
theorem mem_absorb_iff (hnodup : (merged.map (·.1)).Nodup) {entry : String × Statement} :
    entry ∈ (absorb key statement merged).value ↔
      (entry ∈ merged ∧ (entry.1 = key → statement.level ≤ entry.2.level)) ∨
        (entry = (key, statement) ∧
          ∀ held, (key, held) ∈ merged → held.level < statement.level) := by
  induction merged with
  | nil => simp [absorb]
  | cons first rest ih =>
      obtain ⟨hfirst, hrest⟩ := List.nodup_cons.mp hnodup
      rw [value_absorb_cons]
      by_cases hkey : key = first.1
      · -- Here the run ends: the two statements with the key are compared.
        subst hkey
        rw [if_pos rfl]
        refine mem_higher_iff fun other hother hsame => hfirst ?_
        exact List.mem_map.mpr ⟨other, hother, hsame⟩
      · rw [if_neg hkey, List.mem_cons, ih hrest]
        -- Here it goes on, and the first entry neither wins nor loses against the statement.
        have hother : entry = first → entry.1 ≠ key := by
          rintro rfl hsame
          exact hkey hsame.symm
        have hskip : ∀ held, (key, held) ∈ first :: rest ↔ (key, held) ∈ rest := by
          intro held
          rw [List.mem_cons, or_iff_right]
          rintro rfl
          exact hkey rfl
        simp only [hskip, List.mem_cons]
        constructor
        · rintro (heq | ⟨hmem, hhigh⟩ | hnew)
          · exact Or.inl ⟨Or.inl heq, fun hsame => absurd hsame (hother heq)⟩
          · exact Or.inl ⟨Or.inr hmem, hhigh⟩
          · exact Or.inr hnew
        · rintro (⟨heq | hmem, hhigh⟩ | hnew)
          · exact Or.inl heq
          · exact Or.inr (Or.inl ⟨hmem, hhigh⟩)
          · exact Or.inr (Or.inr hnew)

/-! ### The highest level of each key -/

theorem Keyed.Sound.exists_mem_absorb (hsound : merged.Sound)
    (hheld : held = statement ∨ (held.key, held) ∈ merged) :
    ∃ higher, (held.key, higher) ∈ (Statement.absorb statement.key statement merged).value ∧
      held.level ≤ higher.level := by
  have hstep : ∀ entry, entry ∈ (Statement.absorb statement.key statement merged).value ↔ _ :=
    fun entry => mem_absorb_iff hsound.nodup
  -- Either what is held for the key is as high, and it stays, or the statement comes in.
  by_cases hkept : ∃ other, (statement.key, other) ∈ merged ∧ statement.level ≤ other.level
  · obtain ⟨other, hother, hhigh⟩ := hkept
    have hstays := (hstep _).mpr (Or.inl ⟨hother, fun _ => hhigh⟩)
    rcases hheld with rfl | hheld
    · exact ⟨other, hstays, hhigh⟩
    · refine ⟨held, (hstep _).mpr (Or.inl ⟨hheld, fun hsame => ?_⟩), le_rfl⟩
      change held.key = statement.key at hsame
      rw [hsame] at hheld
      rw [hsound.eq_of_mem hheld hother]
      exact hhigh
  · have hlower : ∀ other, (statement.key, other) ∈ merged → other.level < statement.level := by
      intro other hother
      exact not_le.mp fun hhigh => hkept ⟨other, hother, hhigh⟩
    have hcomes := (hstep _).mpr (Or.inr ⟨rfl, hlower⟩)
    rcases hheld with rfl | hheld
    · exact ⟨held, hcomes, le_rfl⟩
    · -- An entry with the key gives way to the higher statement, any other one stays.
      by_cases hsame : held.key = statement.key
      · rw [hsame] at hheld ⊢
        exact ⟨statement, hcomes, le_of_lt (hlower held hheld)⟩
      · exact ⟨held, (hstep _).mpr (Or.inl ⟨hheld, fun h => absurd h hsame⟩), le_rfl⟩

theorem Keyed.Sound.exists_mem_absorbAll (hsound : merged.Sound)
    (hheld : held ∈ statements ∨ (held.key, held) ∈ merged) :
    ∃ higher, (held.key, higher) ∈ (Statement.absorbAll merged statements).value ∧
      held.level ≤ higher.level := by
  induction statements generalizing merged held with
  | nil => exact ⟨held, hheld.resolve_left List.not_mem_nil, le_rfl⟩
  | cons statement rest ih =>
      rw [Statement.absorbAll, Traced.value_bind]
      by_cases hrest : held ∈ rest
      · exact ih hsound.absorb (Or.inl hrest)
      · have hnow : held = statement ∨ (held.key, held) ∈ merged := by
          simpa [hrest] using hheld
        -- What stands for the statement after this step is stood for after the others.
        obtain ⟨middle, hmiddle, hle⟩ := hsound.exists_mem_absorb hnow
        have hkey : held.key = middle.key := hsound.absorb.own _ hmiddle
        rw [hkey] at hmiddle ⊢
        obtain ⟨higher, hhigher, hle'⟩ := ih hsound.absorb (Or.inr hmiddle)
        exact ⟨higher, hhigher, le_trans hle hle'⟩

theorem absorbAll_append (merged : Keyed) (first second : List Statement) :
    (absorbAll merged (first ++ second)).value =
      (absorbAll (absorbAll merged first).value second).value := by
  induction first generalizing merged with
  | nil => rfl
  | cons statement rest ih =>
      rw [List.cons_append, absorbAll, absorbAll, Traced.value_bind, Traced.value_bind, ih]

/-! ### Merged statements -/

theorem sound_absorbAll_nil (statements : List Statement) :
    Keyed.Sound (absorbAll [] statements).value :=
  Keyed.sound_nil.absorbAll

theorem mem_merge_iff_mem_absorbAll :
    statement ∈ (merge statements).value ↔
      (statement.key, statement) ∈ (absorbAll [] statements).value := by
  rw [merge, Traced.value_bind, Traced.value_pure, List.mem_map]
  constructor
  · rintro ⟨entry, hentry, rfl⟩
    rw [← (sound_absorbAll_nil statements).own entry hentry]
    exact hentry
  · intro hentry
    exact ⟨_, hentry, rfl⟩

/-- No two merged statements have the same key. -/
theorem eq_of_mem_merge (hstatement : statement ∈ (merge statements).value)
    (hheld : held ∈ (merge statements).value) (hkey : statement.key = held.key) :
    statement = held := by
  rw [mem_merge_iff_mem_absorbAll] at hstatement hheld
  rw [← hkey] at hheld
  exact (sound_absorbAll_nil statements).eq_of_mem hstatement hheld

/-- For every statement there is a merged one with its key that is as high. -/
theorem exists_mem_merge (hstatement : statement ∈ statements) :
    ∃ higher ∈ (merge statements).value,
      higher.key = statement.key ∧ statement.level ≤ higher.level := by
  obtain ⟨higher, hhigher, hle⟩ :=
    Keyed.sound_nil.exists_mem_absorbAll (Or.inl hstatement)
  have hkey : statement.key = higher.key := (sound_absorbAll_nil statements).own _ hhigher
  rw [hkey] at hhigher
  exact ⟨higher, mem_merge_iff_mem_absorbAll.mpr hhigher, hkey.symm, hle⟩

/-- A merged statement is the highest of its key. -/
theorem level_le_of_mem_merge (hheld : held ∈ (merge statements).value)
    (hstatement : statement ∈ statements) (hkey : statement.key = held.key) :
    statement.level ≤ held.level := by
  obtain ⟨higher, hhigher, hsame, hle⟩ := exists_mem_merge hstatement
  rw [eq_of_mem_merge hhigher hheld (hsame.trans hkey)] at hle
  exact hle

/-- The keys and levels that remain depend on which statements are merged, not on their
order. -/
theorem exists_mem_merge_of_mem_iff {reordered : List Statement}
    (hsame : ∀ statement, statement ∈ statements ↔ statement ∈ reordered)
    (hheld : held ∈ (merge statements).value) :
    ∃ counterpart ∈ (merge reordered).value,
      counterpart.key = held.key ∧ counterpart.level = held.level := by
  have hmem := (hsame held).mp (mem_of_mem_merge hheld)
  obtain ⟨counterpart, hcounterpart, hkey, hle⟩ := exists_mem_merge hmem
  have hback := (hsame counterpart).mpr (mem_of_mem_merge hcounterpart)
  exact ⟨counterpart, hcounterpart, hkey,
    le_antisymm (level_le_of_mem_merge hheld hback hkey) hle⟩

/-- One more statement comes in if it is higher than what is held for its key, and takes
the place of that; otherwise it changes nothing. -/
theorem mem_merge_append_iff :
    statement ∈ (merge (statements ++ [further])).value ↔
      (statement ∈ (merge statements).value ∧
        (statement.key = further.key → further.level ≤ statement.level)) ∨
      (statement = further ∧
        ∀ held ∈ (merge statements).value,
          held.key = further.key → held.level < further.level) := by
  have hsound := sound_absorbAll_nil statements
  -- What the run holds for the key is what has been merged with this key.
  have hheld : ∀ held, (further.key, held) ∈ (absorbAll [] statements).value ↔
      held ∈ (merge statements).value ∧ held.key = further.key := by
    intro held
    rw [mem_merge_iff_mem_absorbAll]
    constructor
    · intro hmem
      have hkey : further.key = held.key := hsound.own _ hmem
      exact ⟨hkey ▸ hmem, hkey.symm⟩
    · rintro ⟨hmem, hkey⟩
      exact hkey ▸ hmem
  rw [mem_merge_iff_mem_absorbAll, absorbAll_append]
  -- The last statement is one more step of the run.
  show (statement.key, statement) ∈ (absorb further.key further _).value ↔ _
  rw [mem_absorb_iff hsound.nodup, mem_merge_iff_mem_absorbAll]
  simp only [hheld, Prod.mk.injEq, and_imp]
  refine or_congr_right (and_congr_left fun _ => ?_)
  constructor
  · exact fun hboth => hboth.2
  · rintro rfl
    exact ⟨rfl, rfl⟩

theorem mem_merge_append_iff_of_le (hheld : held ∈ (merge statements).value)
    (hkey : held.key = further.key) (hle : further.level ≤ held.level) :
    statement ∈ (merge (statements ++ [further])).value ↔ statement ∈ (merge statements).value := by
  rw [mem_merge_append_iff]
  constructor
  · rintro (⟨hmem, _⟩ | ⟨_, hhigher⟩)
    · exact hmem
    · exact absurd hle (not_le.mpr (hhigher held hheld hkey))
  · intro hmem
    refine Or.inl ⟨hmem, fun hsame => ?_⟩
    rw [eq_of_mem_merge hmem hheld (hsame.trans hkey.symm)]
    exact hle

theorem mem_merge_append_iff_of_lt (hheld : held ∈ (merge statements).value)
    (hkey : held.key = further.key) (hlt : held.level < further.level) :
    statement ∈ (merge (statements ++ [further])).value ↔
      (statement ∈ (merge statements).value ∧ statement.key ≠ further.key) ∨
        statement = further := by
  -- The only statement that gives way is the one that was held.
  have honly : ∀ other ∈ (merge statements).value, other.key = further.key → other = held := by
    intro other hother hsame
    exact eq_of_mem_merge hother hheld (hsame.trans hkey.symm)
  rw [mem_merge_append_iff]
  constructor
  · rintro (⟨hmem, hhigh⟩ | ⟨rfl, _⟩)
    · refine Or.inl ⟨hmem, fun hsame => ?_⟩
      have hle := hhigh hsame
      rw [honly statement hmem hsame] at hle
      exact absurd hlt (not_lt.mpr hle)
    · exact Or.inr rfl
  · rintro (⟨hmem, hother⟩ | rfl)
    · exact Or.inl ⟨hmem, fun hsame => absurd hsame hother⟩
    · refine Or.inr ⟨rfl, fun other hother hsame => ?_⟩
      rw [honly other hother hsame]
      exact hlt

end Statement

end Entitlement
