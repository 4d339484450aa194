import Entitlement.Proofs.Dict
import Entitlement.Proofs.Tree.Grants

/-!
# Every scalar is a leaf

Reading a value as a tree moves its members about: a scalar under `permission` becomes the
leaf of a node, an object under `actions` its actions, and everything else its children.
The walk puts each of these back where it came from.  So the leaves of the tree are the
scalars of the value, each once and each at its own place, in another order
(`flatten_ofJson_perm_scalars`).

The recursion follows the functions that read a value.  Objects are the only case where
the order changes, and they are taken apart in two steps.

* `perm_scalarsOfMembers`: the member that makes an object a node stands beside the others, and
  may as well come first.
* `perm_leavesBelow`: the actions and the children of a node have the scalars of all members
  but that one.  This is an induction on the members, with one case for each of the slots that a
  member can go into.

A place is a list of keys and indices here, and both sides are compared as lists of places
(`readPlace`).  Only the last step joins the places to paths, which may coincide.
-/

namespace Entitlement

namespace Json

/-! ## Scalars -/

mutual
/-- The scalars in a value, each with the keys and indices that lead to it. -/
def scalars : Json → List (List String × Json)
  | .arr items => scalarsOfItems 0 items
  | .obj members => scalarsOfMembers members
  | scalar => [([], scalar)]
/-- The scalars in items, the first of them at an index. -/
def scalarsOfItems (index : Nat) : List Json → List (List String × Json)
  | [] => []
  | item :: rest => behind (toString index) item.scalars ++ scalarsOfItems (index + 1) rest
/-- The scalars in members. -/
def scalarsOfMembers : List (String × Json) → List (List String × Json)
  | [] => []
  | (key, value) :: rest => behind key value.scalars ++ scalarsOfMembers rest
end

theorem scalars_of_isScalar {value : Json} (hscalar : value.isScalar = true) :
    value.scalars = [([], value)] := by
  cases value with
  | arr | obj => contradiction
  | null | bool | num | str => rfl

theorem scalarsOfMembers_eq_flatMap (members : List (String × Json)) :
    scalarsOfMembers members = members.flatMap fun entry => behind entry.1 entry.2.scalars := by
  induction members with
  | nil => rfl
  | cons entry rest ih =>
      obtain ⟨key, value⟩ := entry
      rw [scalarsOfMembers, List.flatMap_cons, ih]

end Json

namespace Tree

open Json

/-- A scalar at its place, read as a leaf. -/
def readPlace (place : List String × Json) : List String × Leaf := (place.1, Leaf.ofJson place.2)

theorem behind_map_readPlace (step : String) (places : List (List String × Json)) :
    behind step (places.map readPlace) = (behind step places).map readPlace := by
  simp only [behind, List.map_map, Function.comp_def, readPlace]

/-! ## The members of a node -/

/-- The members of an object except for the one that makes it a node. -/
def besidePermission (members : List (String × Json)) : List (String × Json) :=
  members.filter fun entry => entry.1 != permissionKey

/-- The leaves of the actions and the children of the node that an object is read as. -/
def leavesBelow (members : List (String × Json)) : List (List String × Leaf) :=
  behind actionsKey (leavesOfMembers ((actionsOf members).getD [])) ++
    leavesOfMembers (childrenOf members)

variable {key : String} {value permission : Json} {members rest : List (String × Json)}

theorem leaves_ofJson_obj (hpermission : permissionOf? members = some permission) :
    (ofJson (.obj members)).leaves =
      ([permissionKey], Leaf.ofJson permission) :: leavesBelow members := by
  rw [ofJson, hpermission]
  exact leaves_node ..

theorem actionsOf_cons_of_ne (hne : key ≠ actionsKey) :
    actionsOf ((key, value) :: rest) = actionsOf rest := by
  cases value with
  | obj actions => rw [actionsOf, if_neg hne]
  | null | bool | num | str | arr => rfl

theorem actionsOf_eq_none (hfree : ∀ entry ∈ members, entry.1 ≠ actionsKey) :
    actionsOf members = none := by
  induction members with
  | nil => rfl
  | cons entry rest ih =>
      obtain ⟨hentry, hrest⟩ := List.forall_mem_cons.mp hfree
      rw [actionsOf_cons_of_ne hentry, ih hrest]

theorem leavesBelow_cons_permission :
    leavesBelow ((permissionKey, value) :: rest) = leavesBelow rest := by
  have hchildren : childrenOf ((permissionKey, value) :: rest) = childrenOf rest := by
    cases value with
    | obj members => rw [childrenOf, if_pos (Or.inl rfl)]
    | null | bool | num | str | arr => rfl
  rw [leavesBelow, actionsOf_cons_of_ne (by decide), hchildren, leavesBelow]

/-- An object under the key of the actions is walked as their entries. -/
theorem leavesBelow_cons_actions (hfree : ∀ entry ∈ rest, entry.1 ≠ actionsKey) :
    leavesBelow ((actionsKey, .obj members) :: rest) =
      behind actionsKey (leavesOfMembers (ofMembers members)) ++ leavesBelow rest := by
  rw [leavesBelow, leavesBelow, actionsOf, if_pos rfl, childrenOf, if_pos (Or.inr rfl),
    actionsOf_eq_none hfree]
  rfl

/-- Any other member is a child, whose leaves come behind those of the actions. -/
theorem perm_leavesBelow_cons_child (hpermission : key ≠ permissionKey)
    (hactions : ∀ members, value = .obj members → key ≠ actionsKey) :
    (leavesBelow ((key, value) :: rest)).Perm
      (behind key (ofJson value).leaves ++ leavesBelow rest) := by
  -- An object would be the actions; any other value is a child even under their key.
  have hsame : actionsOf ((key, value) :: rest) = actionsOf rest ∧
      childrenOf ((key, value) :: rest) = (key, ofJson value) :: childrenOf rest := by
    cases value with
    | obj members =>
        have hne := hactions members rfl
        exact ⟨actionsOf_cons_of_ne hne, by rw [childrenOf, if_neg (by simp [hpermission, hne])]⟩
    | null | bool | num | str | arr =>
        refine ⟨rfl, ?_⟩
        rw [childrenOf, if_neg hpermission]
        simp
  rw [leavesBelow, leavesBelow, hsame.1, hsame.2, leavesOfMembers]
  exact List.perm_append_comm_assoc ..

/-- What makes an object a node is one of its members, beside the others. -/
theorem perm_scalarsOfMembers (hascending : Ascending members)
    (hpermission : permissionOf? members = some permission) :
    (scalarsOfMembers members).Perm
      (([permissionKey], permission) :: scalarsOfMembers (besidePermission members)) := by
  obtain ⟨hlookup, hscalar⟩ := Option.filter_eq_some_iff.mp hpermission
  -- Keys do not repeat, so the members with this key are the one that was found.
  have hsplit := List.filter_append_perm (fun entry : String × Json => entry.1 == permissionKey)
    members
  rw [hascending.filter_eq_singleton hlookup] at hsplit
  have hplaces := (hsplit.flatMap_right fun entry => behind entry.1 entry.2.scalars).symm
  rw [List.flatMap_append, List.flatMap_singleton, scalars_of_isScalar hscalar,
    ← scalarsOfMembers_eq_flatMap, ← scalarsOfMembers_eq_flatMap] at hplaces
  exact hplaces

/-! ## Leaves and scalars -/

mutual
/-- The leaves of a value that is read as a tree are its scalars. -/
theorem perm_leaves_ofJson (value : Json) (hordered : value.Ordered) :
    (ofJson value).leaves.Perm (value.scalars.map readPlace) := by
  cases value with
  | null | bool | num | str => exact List.Perm.refl _
  | arr items => exact perm_leavesOfItems 0 items hordered
  | obj members =>
      obtain ⟨hascending, hmembers⟩ := hordered
      -- An object without a scalar under `permission` is read member by member, in its order.
      cases hpermission : permissionOf? members with
      | none =>
          rw [ofJson, hpermission]
          exact perm_leavesOfMembers members hmembers
      | some permission =>
          have hbelow := perm_leavesBelow members hascending hmembers
          have hscalars := (perm_scalarsOfMembers hascending hpermission).map readPlace
          -- Its own leaf comes first, wherever `permission` stands among the members.
          rw [leaves_ofJson_obj hpermission]
          exact (hbelow.cons _).trans hscalars.symm
theorem perm_leavesOfItems (index : Nat) (items : List Json)
    (hordered : Json.OrderedItems items) :
    (leavesOfItems index (ofItems items)).Perm ((scalarsOfItems index items).map readPlace) := by
  cases items with
  | nil => exact List.Perm.refl _
  | cons item rest =>
      obtain ⟨hitem, hrest⟩ := hordered
      have hfirst := behind_perm (toString index) (perm_leaves_ofJson item hitem)
      rw [ofItems, leavesOfItems, scalarsOfItems, List.map_append, ← behind_map_readPlace]
      exact hfirst.append (perm_leavesOfItems (index + 1) rest hrest)
theorem perm_leavesOfMembers (members : List (String × Json))
    (hordered : Json.OrderedMembers members) :
    (leavesOfMembers (ofMembers members)).Perm ((scalarsOfMembers members).map readPlace) := by
  cases members with
  | nil => exact List.Perm.refl _
  | cons entry rest =>
      obtain ⟨key, value⟩ := entry
      obtain ⟨hvalue, hrest⟩ := hordered
      have hfirst := behind_perm key (perm_leaves_ofJson value hvalue)
      rw [ofMembers, leavesOfMembers, scalarsOfMembers, List.map_append, ← behind_map_readPlace]
      exact hfirst.append (perm_leavesOfMembers rest hrest)
/-- The actions and the children of a node have the scalars of the members beside its own
leaf. -/
theorem perm_leavesBelow (members : List (String × Json)) (hascending : Ascending members)
    (hordered : Json.OrderedMembers members) :
    (leavesBelow members).Perm ((scalarsOfMembers (besidePermission members)).map readPlace) := by
  cases members with
  | nil => exact List.Perm.refl _
  | cons entry rest =>
      obtain ⟨key, value⟩ := entry
      obtain ⟨hvalue, hrest⟩ := hordered
      have hbelow := perm_leavesBelow rest (List.pairwise_cons.mp hascending).2 hrest
      by_cases hpermission : key = permissionKey
      · -- The node has taken this member for its own leaf.
        subst hpermission
        rw [leavesBelow_cons_permission]
        exact hbelow
      · have hfree : ∀ entry ∈ rest, entry.1 ≠ key := fun _ hentry => hascending.ne_of_mem hentry
        have hbeside : besidePermission ((key, value) :: rest) =
            (key, value) :: besidePermission rest :=
          List.filter_cons_of_pos (by simpa using hpermission)
        have hchild := behind_perm key (perm_leaves_ofJson value hvalue)
        rw [hbeside, scalarsOfMembers, List.map_append, ← behind_map_readPlace]
        -- The actions stay in front of the children, so a child may have to pass behind them.
        cases value with
        | obj inner =>
            by_cases hactions : key = actionsKey
            · subst hactions
              have hinner := behind_perm actionsKey (perm_leavesOfMembers inner hvalue.2)
              rw [leavesBelow_cons_actions hfree]
              exact hinner.append hbelow
            · refine (perm_leavesBelow_cons_child hpermission fun _ _ => hactions).trans ?_
              exact hchild.append hbelow
        | null | bool | num | str | arr =>
            refine (perm_leavesBelow_cons_child hpermission (by simp)).trans ?_
            exact hchild.append hbelow
end

/-! ## Grants and scalars -/

/-- **Flattening loses and invents nothing.**  The walk of the tree of a value reports every
scalar of the value once, whatever its shape: at the join of the keys and indices that lead
to it, and with the scalar itself.  The join puts dots between them, except that empty keys
leave no trace at the beginning. -/
theorem flatten_ofJson_perm_scalars (value : Json) (hordered : value.Ordered) :
    ((ofJson value).flatten.map fun grant => (grant.path, grant.leaf.toJson)).Perm
        (value.scalars.map fun place => (joinPaths "" place.1, place.2)) ∧
      (ofJson value).flatten.length = (ofJson value).leafCount ∧
      ∀ steps, joinPaths "" steps = ".".intercalate (steps.dropWhile String.isEmpty) := by
  refine ⟨?_, ?_, joinPaths_empty⟩
  · -- The walk reports the leaves, and these are the scalars in another order.
    have hleaves := (perm_leaves_ofJson value hordered).map fun place =>
      (joinPaths "" place.1, place.2.toJson)
    rw [List.map_map] at hleaves
    rw [flatten_eq_map_leaves, List.map_map]
    -- What was read as a leaf is the scalar that it was read from.
    have hread : ((fun place : List String × Leaf => (joinPaths "" place.1, place.2.toJson)) ∘
        readPlace) = fun place : List String × Json => (joinPaths "" place.1, place.2) := by
      funext place
      simp only [Function.comp_apply, readPlace, Leaf.toJson_ofJson]
    rw [hread] at hleaves
    exact hleaves
  · rw [flatten_eq_map_leaves, List.length_map, length_leaves]

end Tree

namespace Sample

/-- A value in which `permission` and `actions` stand for each thing that they can. -/
def mixedValue : Json :=
  .obj [("actions", .obj [("approve", .str "write_access")]),
    ("items", .arr [.null, .obj [("permission", .obj [("kept", .int 1)])]]),
    ("permission", .str "admin_access"),
    ("plain", .obj [("actions", .str "all"), ("permission", .bool true)])]

theorem ordered_mixedValue : mixedValue.Ordered := by
  simp only [mixedValue, Json.Ordered, Json.OrderedMembers, Json.OrderedItems, Ascending, Json.int]
  decide

end Sample

/-- Each of the six scalars is reported once, at its own path. -/
theorem flatten_mixedValue :
    ((Tree.ofJson Sample.mixedValue).flatten.map fun grant =>
        (grant.path, grant.leaf.toJson)).Perm
      [("actions.approve", .str "write_access"), ("items.0", .null),
        ("items.1.permission.kept", .int 1), ("permission", .str "admin_access"),
        ("plain.actions", .str "all"), ("plain.permission", .bool true)] :=
  (Tree.flatten_ofJson_perm_scalars Sample.mixedValue Sample.ordered_mixedValue).1

end Entitlement
