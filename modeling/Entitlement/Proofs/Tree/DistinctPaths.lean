import Entitlement.Proofs.Tree.Scalars
import Entitlement.Proofs.Tree.Wrapping
import Mathlib.Data.List.Nodup

/-!
# Paths identify leaves

A path is a plain text, so two places in a value may have the same path: a key with a dot in
it looks like two keys, and an empty key at the root leaves no trace.  There is no other way.
Where no key has a dot and none at the root is empty, a path can be taken apart again at its
dots (`Separable.placeOf_joinPaths`), and the leaf that the walk reports at a path is the scalar
at the place which the path names (`nodup_paths_flatten_ofJson`).

Two facts about the value carry this.

* The steps to a scalar are keys and indices (`key_or_index_of_mem_scalars`), and indices are
  free of dots and never empty.  So the steps can still be told apart once they are joined.
* No two scalars stand behind the same steps (`nodup_map_fst_scalars`), for the keys of an object
  differ and so do the indices of an array.  The induction needs that the ways through different
  members begin differently (`nodup_map_fst_behind_append`).

An empty key below the root does no harm, since something stands before it.  The segments
`permission` and `actions`, which the walk puts in by itself, need no separate treatment: they
are keys of the value again (`perm_flatten_ofJson`).
-/

namespace Entitlement

universe u

/-! ## Taking a path apart -/

section Steps

variable {path step : String} {steps : List String}

/-- The steps that a path is joined from. -/
def placeOf (path : String) : List String :=
  if path.isEmpty then [] else Text.split '.' path

/-- Steps that can still be told apart once they are joined: none has a dot in it, and the
first is not empty. -/
structure Separable (steps : List String) : Prop where
  dotless : ∀ step ∈ steps, '.' ∉ step.toList
  visible : steps.head? ≠ some ""

theorem joinPath_ne_empty (hne : path ≠ "") : joinPath path step ≠ "" := by
  rw [joinPath, if_neg (by simpa using hne)]
  simp

theorem joinPaths_ne_empty (hne : path ≠ "") : joinPaths path steps ≠ "" := by
  induction steps generalizing path with
  | nil => exact hne
  | cons step rest ih => exact ih (joinPath_ne_empty hne)

theorem segments_joinPaths (hne : path ≠ "") :
    Meaning.segments (joinPaths path steps) =
      Meaning.segments path ++ steps.flatMap Meaning.segments := by
  induction steps generalizing path with
  | nil => simp [joinPaths]
  | cons step rest ih =>
      rw [joinPaths_cons, ih (joinPath_ne_empty hne), Meaning.segments_joinPath hne,
        List.flatMap_cons, List.append_assoc]

theorem flatMap_segments (hdotless : ∀ step ∈ steps, '.' ∉ step.toList) :
    steps.flatMap Meaning.segments = steps.map String.toList := by
  induction steps with
  | nil => rfl
  | cons step rest ih =>
      obtain ⟨hstep, hrest⟩ := List.forall_mem_cons.mp hdotless
      rw [List.flatMap_cons, ih hrest, Meaning.segments, Text.pieces_of_not_mem hstep]
      rfl

/-- **Joining can be undone.** -/
theorem Separable.placeOf_joinPaths (hsteps : Separable steps) :
    placeOf (joinPaths "" steps) = steps := by
  cases steps with
  | nil => rfl
  | cons step rest =>
      have hstep : step ≠ "" := by simpa using hsteps.visible
      -- Behind a first step that is not empty every step is one piece between dots.
      have hsegments :
          Meaning.segments (joinPaths step rest) = (step :: rest).map String.toList := by
        rw [segments_joinPaths hstep, ← flatMap_segments hsteps.dotless]
        rfl
      have hjoined : joinPaths step rest ≠ "" := joinPaths_ne_empty hstep
      show placeOf (joinPaths step rest) = step :: rest
      rw [placeOf, if_neg (by simpa using hjoined)]
      calc Text.split '.' (joinPaths step rest)
          = (Meaning.segments (joinPaths step rest)).map String.ofList := rfl
        _ = ((step :: rest).map String.toList).map String.ofList := by rw [hsegments]
        _ = step :: rest := by simp [Function.comp_def]

/-- A dot in a key, or an empty key at the root, cannot be seen in a path. -/
example : joinPaths "" ["a.b"] = joinPaths "" ["a", "b"] ∧
    joinPaths "" ["", "a"] = joinPaths "" ["a"] := by decide

end Steps

/-! ## The steps to a scalar -/

namespace Json

variable {index : Nat} {items : List Json} {members : List (String × Json)}
  {place : List String × Json} {step : String}

mutual
/-- The keys of all objects in a value. -/
def keys : Json → List String
  | .arr items => keysOfItems items
  | .obj members => keysOfMembers members
  | _ => []
/-- The keys of all objects in items. -/
def keysOfItems : List Json → List String
  | [] => []
  | item :: rest => item.keys ++ keysOfItems rest
/-- The keys of members, and of all objects in them. -/
def keysOfMembers : List (String × Json) → List String
  | [] => []
  | (key, value) :: rest => key :: (value.keys ++ keysOfMembers rest)
end

theorem mem_behind_iff {α : Type u} {places : List (List String × α)} {place : List String × α} :
    place ∈ behind step places ↔ ∃ inner ∈ places, (step :: inner.1, inner.2) = place := by
  rw [behind, List.mem_map]

mutual
/-- A step on the way to a scalar is the key of an object or the index of an item. -/
theorem key_or_index_of_mem_scalars {place : List String × Json} {step : String} (value : Json)
    (hplace : place ∈ value.scalars) (hstep : step ∈ place.1) :
    step ∈ value.keys ∨ ∃ index : Nat, step = toString index := by
  cases value with
  | null | bool | num | str =>
      obtain rfl := List.mem_singleton.mp hplace
      contradiction
  | arr items => exact key_or_index_of_mem_scalarsOfItems 0 items hplace hstep
  | obj members => exact key_or_index_of_mem_scalarsOfMembers members hplace hstep
theorem key_or_index_of_mem_scalarsOfItems {place : List String × Json} {step : String}
    (index : Nat) (items : List Json) (hplace : place ∈ scalarsOfItems index items)
    (hstep : step ∈ place.1) :
    step ∈ keysOfItems items ∨ ∃ index : Nat, step = toString index := by
  cases items with
  | nil => contradiction
  | cons item rest =>
      rw [keysOfItems, List.mem_append]
      rcases List.mem_append.mp hplace with hitem | hrest
      · obtain ⟨inner, hinner, rfl⟩ := mem_behind_iff.mp hitem
        rcases List.mem_cons.mp hstep with rfl | hstep
        · exact Or.inr ⟨index, rfl⟩
        · exact (key_or_index_of_mem_scalars item hinner hstep).imp_left Or.inl
      · exact (key_or_index_of_mem_scalarsOfItems (index + 1) rest hrest hstep).imp_left Or.inr
theorem key_or_index_of_mem_scalarsOfMembers {place : List String × Json} {step : String}
    (members : List (String × Json)) (hplace : place ∈ scalarsOfMembers members)
    (hstep : step ∈ place.1) :
    step ∈ keysOfMembers members ∨ ∃ index : Nat, step = toString index := by
  cases members with
  | nil => contradiction
  | cons entry rest =>
      obtain ⟨key, value⟩ := entry
      rw [keysOfMembers, List.mem_cons, List.mem_append]
      rcases List.mem_append.mp hplace with hvalue | hrest
      · obtain ⟨inner, hinner, rfl⟩ := mem_behind_iff.mp hvalue
        rcases List.mem_cons.mp hstep with rfl | hstep
        · exact Or.inl (Or.inl rfl)
        · exact (key_or_index_of_mem_scalars value hinner hstep).imp_left (Or.inr ∘ Or.inl)
      · exact (key_or_index_of_mem_scalarsOfMembers rest hrest hstep).imp_left (Or.inr ∘ Or.inr)
end

/-- The way to a scalar in items begins with an index. -/
theorem head?_of_mem_scalarsOfItems (hplace : place ∈ scalarsOfItems index items) :
    ∃ position, index ≤ position ∧ place.1.head? = some (toString position) := by
  induction items generalizing index with
  | nil => contradiction
  | cons item rest ih =>
      rcases List.mem_append.mp hplace with hitem | hrest
      · obtain ⟨inner, _, rfl⟩ := mem_behind_iff.mp hitem
        exact ⟨index, Nat.le_refl _, rfl⟩
      · obtain ⟨position, hle, hhead⟩ := ih hrest
        exact ⟨position, by omega, hhead⟩

/-- The way to a scalar in members begins with a key. -/
theorem head?_of_mem_scalarsOfMembers (hplace : place ∈ scalarsOfMembers members) :
    ∃ entry ∈ members, place.1.head? = some entry.1 := by
  rw [scalarsOfMembers_eq_flatMap] at hplace
  obtain ⟨entry, hentry, hplace⟩ := List.mem_flatMap.mp hplace
  obtain ⟨inner, _, rfl⟩ := mem_behind_iff.mp hplace
  exact ⟨entry, hentry, rfl⟩

theorem dot_not_mem_toString (index : Nat) : '.' ∉ (toString index).toList := by
  intro hdot
  have hdigit : '.' ∈ Nat.toDigits 10 index := by simpa using hdot
  have hdigits := Nat.isDigit_of_mem_toDigits (by decide) (by decide) hdigit
  contradiction

theorem eq_of_toString_eq {position : Nat} (hsame : toString position = toString index) :
    position = index := by
  have hdigits : Nat.toDigits 10 position = Nat.toDigits 10 index := by
    simpa using congrArg String.toList hsame
  calc position
      = Nat.ofDigitChars 10 (Nat.toDigits 10 position) 0 := Nat.ofDigitChars_ten_toDigits.symm
    _ = Nat.ofDigitChars 10 (Nat.toDigits 10 index) 0 := by rw [hdigits]
    _ = index := Nat.ofDigitChars_ten_toDigits

/-- The way to a scalar can be told from its path. -/
theorem separable_of_mem_scalars {value : Json} (hdotless : ∀ key ∈ value.keys, '.' ∉ key.toList)
    (hroot : value.member? "" = none) (hplace : place ∈ value.scalars) : Separable place.1 where
  dotless step hstep := by
    rcases key_or_index_of_mem_scalars value hplace hstep with hkey | ⟨index, rfl⟩
    · exact hdotless step hkey
    · exact dot_not_mem_toString index
  visible := by
    intro hhead
    cases value with
    | null | bool | num | str =>
        obtain rfl := List.mem_singleton.mp hplace
        contradiction
    | arr items =>
        -- An index is never the empty text.
        obtain ⟨position, _, hposition⟩ := head?_of_mem_scalarsOfItems hplace
        rw [hhead] at hposition
        exact Tree.toString_ne_empty position (Option.some.inj hposition).symm
    | obj members =>
        -- Only an empty key of the value itself could come first, and there is none.
        obtain ⟨entry, hentry, hkey⟩ := head?_of_mem_scalarsOfMembers hplace
        rw [hhead] at hkey
        have habsent := List.lookup_eq_none_iff.mp hroot entry hentry
        simp [← Option.some.inj hkey] at habsent

/-! ## No two scalars at one place -/

/-- What stands behind a step has a place of its own, beside what does not. -/
theorem nodup_map_fst_behind_append {α : Type u} {places others : List (List String × α)}
    (hplaces : (places.map (·.1)).Nodup) (hothers : (others.map (·.1)).Nodup)
    (hother : ∀ place ∈ others, place.1.head? ≠ some step) :
    ((behind step places ++ others).map (·.1)).Nodup := by
  have hbehind : (behind step places).map (·.1) = (places.map (·.1)).map (step :: ·) := by
    simp only [behind, List.map_map, Function.comp_def]
  rw [List.map_append, hbehind, List.nodup_append]
  refine ⟨hplaces.map List.cons_injective, hothers, ?_⟩
  -- What stands behind the step begins with it, and nothing else does.
  intro first hfirst second hsecond hsame
  obtain ⟨inner, _, rfl⟩ := List.mem_map.mp hfirst
  obtain ⟨place, hplace, rfl⟩ := List.mem_map.mp hsecond
  apply hother place hplace
  rw [← hsame]
  rfl

mutual
theorem nodup_map_fst_scalars (value : Json) (hordered : value.Ordered) :
    (value.scalars.map (·.1)).Nodup := by
  cases value with
  | null | bool | num | str => exact List.nodup_singleton _
  | arr items => exact nodup_map_fst_scalarsOfItems 0 items hordered
  | obj members => exact nodup_map_fst_scalarsOfMembers members hordered.1 hordered.2
theorem nodup_map_fst_scalarsOfItems (index : Nat) (items : List Json)
    (hordered : OrderedItems items) : ((scalarsOfItems index items).map (·.1)).Nodup := by
  cases items with
  | nil => exact List.nodup_nil
  | cons item rest =>
      refine nodup_map_fst_behind_append (nodup_map_fst_scalars item hordered.1)
        (nodup_map_fst_scalarsOfItems (index + 1) rest hordered.2) ?_
      -- The items that follow have higher indices.
      intro place hplace hhead
      obtain ⟨position, hle, hposition⟩ := head?_of_mem_scalarsOfItems hplace
      have hsame : position = index :=
        eq_of_toString_eq (Option.some.inj (hposition.symm.trans hhead))
      omega
theorem nodup_map_fst_scalarsOfMembers (members : List (String × Json))
    (hascending : Ascending members) (hordered : OrderedMembers members) :
    ((scalarsOfMembers members).map (·.1)).Nodup := by
  cases members with
  | nil => exact List.nodup_nil
  | cons entry rest =>
      obtain ⟨key, value⟩ := entry
      refine nodup_map_fst_behind_append (nodup_map_fst_scalars value hordered.1)
        (nodup_map_fst_scalarsOfMembers rest (List.pairwise_cons.mp hascending).2 hordered.2) ?_
      -- The members that follow have higher keys.
      intro place hplace hhead
      obtain ⟨other, hother, hkey⟩ := head?_of_mem_scalarsOfMembers hplace
      exact hascending.ne_of_mem hother (Option.some.inj (hkey.symm.trans hhead))
end

end Json

/-! ## Leaves and their paths -/

namespace Tree

/-- The walk of a value reports each of its scalars as a leaf, at the join of the steps to it. -/
theorem perm_flatten_ofJson (value : Json) (hordered : value.Ordered) :
    (ofJson value).flatten.Perm
      (value.scalars.map fun place => Grant.ofPlace "" (readPlace place)) := by
  have hleaves := (perm_leaves_ofJson value hordered).map (Grant.ofPlace "")
  rw [List.map_map] at hleaves
  rw [flatten_eq_map_leaves]
  exact hleaves

/-- **Paths identify leaves.**  In a value without dots in its keys and without an empty key
at the root, no two leaves have the same path.  Taken apart at its dots, the path of a leaf
names the place of the scalar that the leaf was read from, and every scalar is found so once. -/
theorem nodup_paths_flatten_ofJson (value : Json) (hordered : value.Ordered)
    (hdotless : ∀ key ∈ value.keys, '.' ∉ key.toList) (hroot : value.member? "" = none) :
    ((ofJson value).flatten.map (·.path)).Nodup ∧
      ((ofJson value).flatten.map fun grant => (placeOf grant.path, grant.leaf.toJson)).Perm
        value.scalars := by
  have hperm : ((ofJson value).flatten.map fun grant =>
      (placeOf grant.path, grant.leaf.toJson)).Perm value.scalars := by
    -- The path of a leaf is joined from the steps to its scalar, and here joining can be undone.
    have hread := (perm_flatten_ofJson value hordered).map fun grant =>
      (placeOf grant.path, grant.leaf.toJson)
    rw [List.map_map] at hread
    refine hread.trans (List.Perm.of_eq ?_)
    calc value.scalars.map _
        = value.scalars.map id := by
          apply List.map_congr_left
          intro place hplace
          have hseparable := Json.separable_of_mem_scalars hdotless hroot hplace
          simp only [Function.comp_apply, Grant.ofPlace, readPlace, Leaf.toJson_ofJson, id,
            hseparable.placeOf_joinPaths]
      _ = value.scalars := List.map_id _
  refine ⟨?_, hperm⟩
  -- Equal paths would name equal places.
  have hplaces := (hperm.map (·.1)).nodup_iff.mpr (Json.nodup_map_fst_scalars value hordered)
  rw [List.map_map] at hplaces
  apply List.Nodup.of_map placeOf
  rw [List.map_map]
  exact hplaces

end Tree

namespace Sample

/-- A value with empty keys below the root, and with `permission` and `actions` both as parts
of a node and as plain keys. -/
def hollowValue : Json :=
  .obj [("actions", .obj [("", .str "write_access"), ("actions", .null),
      ("permission", .str "no_access")]),
    ("items", .arr [.obj [("", .obj [("", .bool true)])], .str "view_access"]),
    ("permission", .str "admin_access")]

theorem ordered_hollowValue : hollowValue.Ordered := by
  simp only [hollowValue, Json.Ordered, Json.OrderedMembers, Json.OrderedItems, Ascending]
  decide

end Sample

/-- Its six leaves stand at `permission`, `actions.`, `actions.actions`,
`actions.permission`, `items.0..` and `items.1`. -/
theorem nodup_paths_hollowValue :
    (∀ key ∈ Sample.hollowValue.keys, '.' ∉ key.toList) ∧
      Sample.hollowValue.member? "" = none ∧
      ((Tree.ofJson Sample.hollowValue).flatten.map (·.path)).Nodup :=
  have hdotless : ∀ key ∈ Sample.hollowValue.keys, '.' ∉ key.toList := by decide
  ⟨hdotless, rfl,
    (Tree.nodup_paths_flatten_ofJson _ Sample.ordered_hollowValue hdotless rfl).1⟩

end Entitlement
