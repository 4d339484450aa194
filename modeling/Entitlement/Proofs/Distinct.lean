import Entitlement.Store.Directory
import Mathlib.Data.List.Forall2

/-!
# First occurrences

Effective roles and the identifiers that are asked for are rid of repetitions by keeping the
first occurrence of each key.  The loop remembers which keys it has seen (`distinctFrom`).

Which elements are first occurrences depends on the keys before them, and only on which
keys these are (`distinctFrom_congr`).  So repetitions may be dropped anywhere: before lists are
joined (`distinctFrom_append`), before every element is replaced by others
(`distinctFrom_flatMap`), or before keys are looked up (`distinctFrom_filterMap`).  A second pass
finds nothing more to drop (`distinctFrom_distinctFrom`).

What remains has each key once (`nodup_map_distinctFrom`), and stands in the order in which the
keys first occur (`pairwise_idxOf_distinctFrom`).

All inductions are on the elements, for any keys that have been seen before.
-/

namespace Entitlement

universe u v w

variable {α : Type u} {κ : Type v} [BEq κ] {key : α → κ} {seen passed : List κ}
  {elements others : List α} {element : α}

theorem mem_of_mem_distinctFrom (hkept : element ∈ distinctFrom key seen elements) :
    element ∈ elements := by
  induction elements generalizing seen with
  | nil => exact hkept
  | cons first rest ih =>
      rw [distinctFrom] at hkept
      split at hkept
      · exact List.mem_cons_of_mem _ (ih hkept)
      · rcases List.mem_cons.mp hkept with rfl | hrest
        · exact List.mem_cons_self ..
        · exact List.mem_cons_of_mem _ (ih hrest)

/-- First occurrences correspond where the elements and their keys do. -/
theorem forall₂_distinctFrom {related : α → α → Prop}
    (hkey : ∀ first second, related first second → key second = key first)
    (hrelated : List.Forall₂ related elements others) (seen : List κ) :
    List.Forall₂ related (distinctFrom key seen elements) (distinctFrom key seen others) := by
  induction hrelated generalizing seen with
  | nil => exact List.Forall₂.nil
  | cons hfirst _ ih =>
      rw [distinctFrom, distinctFrom, hkey _ _ hfirst]
      split
      · exact ih seen
      · exact List.Forall₂.cons hfirst (ih _)

variable [LawfulBEq κ]

/-- A key that has not been seen keeps an element. -/
theorem exists_mem_distinctFrom (helement : element ∈ elements) (hnew : key element ∉ seen) :
    ∃ kept ∈ distinctFrom key seen elements, key kept = key element := by
  induction elements generalizing seen with
  | nil => exact absurd helement List.not_mem_nil
  | cons first rest ih =>
      rw [distinctFrom]
      -- The first element keeps its key itself, or it has another key and is in nobody's way.
      by_cases hfirst : key first = key element
      · have hseen : ¬ seen.contains (key first) = true := by simpa [hfirst] using hnew
        rw [if_neg hseen]
        exact ⟨first, List.mem_cons_self .., hfirst⟩
      · have hrest : element ∈ rest := by
          refine (List.mem_cons.mp helement).resolve_left ?_
          rintro rfl
          exact hfirst rfl
        split
        · exact ih hrest hnew
        · have hnew' : key element ∉ key first :: seen := by
            simpa [hnew] using Ne.symm hfirst
          obtain ⟨kept, hkept, hkey⟩ := ih hrest hnew'
          exact ⟨kept, List.mem_cons_of_mem _ hkept, hkey⟩

theorem mem_distinctBy_iff (hkey : ∀ first ∈ elements, ∀ second ∈ elements,
    key first = key second → first = second) :
    element ∈ distinctBy key elements ↔ element ∈ elements := by
  constructor
  · exact mem_of_mem_distinctFrom
  · intro helement
    obtain ⟨kept, hkept, hsame⟩ : ∃ kept ∈ distinctFrom key [] elements, key kept = key element :=
      exists_mem_distinctFrom helement List.not_mem_nil
    rw [← hkey kept (mem_of_mem_distinctFrom hkept) element helement hsame]
    exact hkept

/-! ## The order of first occurrences -/

theorem key_not_mem_of_mem_distinctFrom (hkept : element ∈ distinctFrom key seen elements) :
    key element ∉ seen := by
  induction elements generalizing seen with
  | nil => exact absurd hkept List.not_mem_nil
  | cons first rest ih =>
      rw [distinctFrom] at hkept
      split at hkept
      · exact ih hkept
      · rename_i hnew
        rcases List.mem_cons.mp hkept with rfl | hrest
        · simpa using hnew
        · exact List.not_mem_of_not_mem_cons (ih hrest)

/-- No key occurs twice among what remains. -/
theorem nodup_map_distinctFrom (key : α → κ) (seen : List κ) (elements : List α) :
    ((distinctFrom key seen elements).map key).Nodup := by
  induction elements generalizing seen with
  | nil => exact List.nodup_nil
  | cons first rest ih =>
      rw [distinctFrom]
      split
      · exact ih seen
      · refine List.nodup_cons.mpr ⟨?_, ih _⟩
        intro hmem
        obtain ⟨later, hlater, hsame⟩ := List.mem_map.mp hmem
        apply key_not_mem_of_mem_distinctFrom hlater
        rw [hsame]
        exact List.mem_cons_self ..

/-- What remains stands in the order in which it first occurs. -/
theorem pairwise_idxOf_distinctFrom (seen keys : List κ) :
    (distinctFrom id seen keys).Pairwise fun earlier later =>
      keys.idxOf earlier < keys.idxOf later := by
  induction keys generalizing seen with
  | nil => exact List.Pairwise.nil
  | cons k rest ih =>
      -- Behind a key that has been seen, all places are one further on.
      have hlater : ∀ known, k ∈ known → ∀ kept ∈ distinctFrom id known rest,
          (k :: rest).idxOf kept = rest.idxOf kept + 1 := by
        intro known hknown kept hkept
        have hne : k ≠ kept := by
          rintro rfl
          exact key_not_mem_of_mem_distinctFrom hkept hknown
        exact List.idxOf_cons_ne rest hne
      have hshifted : ∀ known, k ∈ known → (distinctFrom id known rest).Pairwise
          fun earlier later => (k :: rest).idxOf earlier < (k :: rest).idxOf later := by
        intro known hknown
        refine (ih known).imp_of_mem ?_
        intro earlier later hearlier hlast hlt
        rw [hlater known hknown earlier hearlier, hlater known hknown later hlast]
        omega
      rw [distinctFrom]
      split
      · rename_i hseen
        exact hshifted seen (List.contains_iff_mem.mp hseen)
      · refine List.pairwise_cons.mpr ⟨?_, hshifted _ (List.mem_cons_self ..)⟩
        intro later hlast
        rw [hlater _ (List.mem_cons_self ..) later hlast, List.idxOf_cons_self]
        omega

/-! ## Repetitions that are dropped before -/

theorem distinctFrom_congr (hseen : ∀ k, k ∈ seen ↔ k ∈ passed) (elements : List α) :
    distinctFrom key seen elements = distinctFrom key passed elements := by
  induction elements generalizing seen passed with
  | nil => rfl
  | cons first rest ih =>
      have hfirst : seen.contains (key first) = passed.contains (key first) := by
        rw [Bool.eq_iff_iff, List.contains_iff_mem, List.contains_iff_mem, hseen]
      have hlater : ∀ k, k ∈ key first :: seen ↔ k ∈ key first :: passed := by
        intro k
        rw [List.mem_cons, List.mem_cons, hseen]
      rw [distinctFrom, distinctFrom, hfirst, ih hseen, ih hlater]

/-- What comes later is compared with the keys of all that came before. -/
theorem distinctFrom_append (seen : List κ) (elements others : List α) :
    distinctFrom key seen (elements ++ others) =
      distinctFrom key seen elements ++ distinctFrom key (elements.map key ++ seen) others := by
  induction elements generalizing seen with
  | nil => rfl
  | cons first rest ih =>
      rw [List.cons_append, distinctFrom, distinctFrom]
      split
      · rename_i hseen
        have hfirst : key first ∈ seen := List.contains_iff_mem.mp hseen
        rw [ih]
        congr 1
        -- A key that was seen before counts no more for being seen again.
        refine distinctFrom_congr (fun k => ?_) others
        simp only [List.map_cons, List.cons_append, List.mem_cons, List.mem_append]
        constructor
        · exact Or.inr
        · rintro (rfl | hmem)
          · exact Or.inr hfirst
          · exact hmem
      · rw [ih, List.cons_append]
        congr 2
        refine distinctFrom_congr (fun k => ?_) others
        simp only [List.map_cons, List.cons_append, List.mem_cons, List.mem_append]
        exact or_left_comm

theorem distinctFrom_eq_nil (hseen : ∀ element ∈ elements, key element ∈ seen) :
    distinctFrom key seen elements = [] := by
  induction elements with
  | nil => rfl
  | cons first rest ih =>
      obtain ⟨hfirst, hrest⟩ := List.forall_mem_cons.mp hseen
      rw [distinctFrom, if_pos (List.contains_iff_mem.mpr hfirst), ih hrest]

/-- Keys that are looked up may be looked up once each. -/
theorem distinctFrom_filterMap {look : κ → Option α}
    (hkey : ∀ k found, look k = some found → key found = k)
    (hseen : ∀ k found, look k = some found → (k ∈ seen ↔ k ∈ passed)) (keys : List κ) :
    distinctFrom key seen (keys.filterMap look) = (distinctFrom id passed keys).filterMap look := by
  induction keys generalizing seen passed with
  | nil => rfl
  | cons k rest ih =>
      rw [distinctFrom, id]
      cases hlook : look k with
      | none =>
          rw [List.filterMap_cons_none hlook]
          split
          · exact ih hseen
          · -- The key is passed now, but no element that is found has it.
            rw [List.filterMap_cons_none hlook]
            refine ih fun other found hfound => ?_
            rw [hseen other found hfound, List.mem_cons]
            refine (or_iff_right ?_).symm
            rintro rfl
            rw [hlook] at hfound
            contradiction
      | some found =>
          -- A key that is found has been seen just when the element has.
          have hmem : seen.contains (key found) = passed.contains k := by
            rw [Bool.eq_iff_iff, List.contains_iff_mem, List.contains_iff_mem, hkey k found hlook,
              hseen k found hlook]
          rw [List.filterMap_cons_some hlook, distinctFrom, hmem]
          split
          · exact ih hseen
          · rw [List.filterMap_cons_some hlook, hkey k found hlook]
            congr 1
            refine ih fun other found hfound => ?_
            rw [List.mem_cons, List.mem_cons, hseen other found hfound]

/-- Elements that are replaced by others may be replaced once each. -/
theorem distinctFrom_flatMap {β : Type w} [BEq β] [LawfulBEq β] {replace : κ → List β}
    {known : List β} (hknown : ∀ k ∈ passed, ∀ element ∈ replace k, element ∈ known)
    (keys : List κ) :
    distinctFrom id known ((distinctFrom id passed keys).flatMap replace) =
      distinctFrom id known (keys.flatMap replace) := by
  induction keys generalizing passed known with
  | nil => rfl
  | cons k rest ih =>
      rw [distinctFrom, List.flatMap_cons, distinctFrom_append]
      split
      · rename_i hpassed
        have hmem : k ∈ passed := List.contains_iff_mem.mp hpassed
        -- The replacements of a key that was passed are known.
        have hold : ∀ element ∈ replace k, id element ∈ known := hknown k hmem
        rw [distinctFrom_eq_nil hold, List.nil_append, ih hknown]
        refine distinctFrom_congr (fun element => ?_) _
        rw [List.map_id, List.mem_append]
        exact (or_iff_right_of_imp (hold element)).symm
      · rw [List.flatMap_cons, distinctFrom_append]
        congr 1
        refine ih fun other hother element helement => ?_
        rw [List.map_id, List.mem_append]
        rcases List.mem_cons.mp hother with rfl | hmem
        · exact Or.inl helement
        · exact Or.inr (hknown other hmem element helement)

theorem distinctFrom_distinctFrom (hknown : ∀ k ∈ passed, k ∈ seen) (keys : List κ) :
    distinctFrom id seen (distinctFrom id passed keys) = distinctFrom id seen keys := by
  have hsingle : ∀ keys : List κ, keys.flatMap (fun k => [k]) = keys := List.flatMap_singleton'
  have hreplace : distinctFrom id seen ((distinctFrom id passed keys).flatMap fun k => [k]) =
      distinctFrom id seen (keys.flatMap fun k => [k]) :=
    distinctFrom_flatMap (by simpa using hknown) keys
  rwa [hsingle, hsingle] at hreplace

end Entitlement
