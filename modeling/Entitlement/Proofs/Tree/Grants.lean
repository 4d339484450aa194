import Entitlement.Tree

/-!
# The leaves of a tree by recursion

The walk of a tree keeps a stack, so that a deep tree needs no deep recursion.  Here the leaves
are listed by recursion on the tree instead, and `flattenAt_eq_grantsAt` proves the two lists
equal, so that later proofs follow the constructors of trees.  The invariant of the walk is
`toList_eq_flatMap`: the leaves that it still visits are those of its pending positions, one
position after the other.

The path to a leaf is a text, in which the keys and indices on the way can no longer be told
apart.  So each leaf also comes with the list of these keys and indices, relative to the tree,
and `grantsAt_eq_map_leaves` proves that the walk reports it at their join.  What a leaf is and
how one gets there can then be studied without any path, and what a path says is read off the
list.
-/

namespace Entitlement

/-! ## The walk and the recursion -/

namespace Tree

/-! ### The recursion -/

mutual
/-- The leaves of a tree that stands at a path. -/
def grantsAt (path : String) : Tree → List Grant
  | .leaf value => [⟨path, value⟩]
  | .node permission none children =>
      ⟨joinPath path permissionKey, permission⟩ :: grantsOfMembers path children
  | .node permission (some actions) children =>
      ⟨joinPath path permissionKey, permission⟩ ::
        (grantsOfMembers (joinPath path actionsKey) actions ++ grantsOfMembers path children)
  | .group members => grantsOfMembers path members
  | .list items => grantsOfItems path 0 items
/-- The leaves of items under a path, the first of them at an index. -/
def grantsOfItems (path : String) (index : Nat) : List Tree → List Grant
  | [] => []
  | item :: rest =>
      item.grantsAt (joinPath path (toString index)) ++ grantsOfItems path (index + 1) rest
/-- The leaves of entries under a path. -/
def grantsOfMembers (path : String) : List (String × Tree) → List Grant
  | [] => []
  | (key, tree) :: rest => tree.grantsAt (joinPath path key) ++ grantsOfMembers path rest
end

/-- The leaves of the tree at a pending position. -/
def visit (position : String × Tree) : List Grant := position.2.grantsAt position.1

theorem flatMap_visit_under (path : String) (entries : List (String × Tree)) :
    (under path entries).flatMap visit = grantsOfMembers path entries := by
  induction entries with
  | nil => rfl
  | cons entry rest ih =>
      rw [under, List.map_cons, List.flatMap_cons, grantsOfMembers, ← ih]
      rfl

theorem flatMap_visit_indexed (path : String) (index : Nat) (items : List Tree) :
    (indexed path index items).flatMap visit = grantsOfItems path index items := by
  induction items generalizing index with
  | nil => rfl
  | cons item rest ih =>
      rw [indexed, List.flatMap_cons, ih, grantsOfItems]
      rfl

/-- A node delivers its own leaf, and then what lies below it. -/
theorem grantsAt_node (path : String) (permission : Leaf)
    (actions : Option (List (String × Tree))) (children : List (String × Tree)) :
    (node permission actions children).grantsAt path =
      ⟨joinPath path permissionKey, permission⟩ ::
        (belowNode path actions children).flatMap visit := by
  cases actions with
  | none => rw [grantsAt, belowNode, flatMap_visit_under]
  | some actions =>
      rw [grantsAt, belowNode, List.flatMap_append, flatMap_visit_under, flatMap_visit_under]

end Tree

/-! ### The walk -/

namespace Walk

/-- One step of the walk delivers the first of the leaves that are still to be
visited. -/
theorem flatMap_visit_eq_nextOf? (pending : List (String × Tree)) :
    pending.flatMap Tree.visit =
      match nextOf? pending with
      | none => []
      | some (grant, later) => grant :: later.pending.flatMap Tree.visit := by
  fun_induction nextOf? pending with
  | case1 => rfl
  | case2 path value rest =>
      rw [List.flatMap_cons, Tree.visit, Tree.grantsAt, List.singleton_append]
  | case3 path permission actions children rest =>
      rw [List.flatMap_cons, Tree.visit, Tree.grantsAt_node, List.cons_append,
        ← List.flatMap_append]
  -- Groups and lists deliver nothing themselves; what they hold takes their place.
  | case4 path members rest ih =>
      rw [← ih, List.flatMap_cons, List.flatMap_append, Tree.flatMap_visit_under, Tree.visit,
        Tree.grantsAt]
  | case5 path items rest ih =>
      rw [← ih, List.flatMap_cons, List.flatMap_append, Tree.flatMap_visit_indexed, Tree.visit,
        Tree.grantsAt]

/-- A walk visits the leaves of its pending positions. -/
theorem toList_eq_flatMap (walk : Walk) : walk.toList = walk.pending.flatMap Tree.visit := by
  fun_induction toList walk with
  | case1 walk hnext =>
      rw [flatMap_visit_eq_nextOf?, show nextOf? walk.pending = none from hnext]
  | case2 walk grant later hnext ih =>
      rw [flatMap_visit_eq_nextOf?, show nextOf? walk.pending = some (grant, later) from hnext, ih]

end Walk

namespace Tree

/-- **The walk lists the leaves as the recursion does.** -/
theorem flattenAt_eq_grantsAt (path : String) (tree : Tree) :
    tree.flattenAt path = tree.grantsAt path := by
  rw [flattenAt, Walk.toList_eq_flatMap, Walk.start, List.flatMap_singleton, visit]

/-! ### Positions -/

/-- One step from a tree into it: into an action or a child of a node, a member of
a group, or an item of a list, with all that stands beside it. -/
inductive Frame where
  | action (permission : Leaf) (before : List (String × Tree)) (key : String)
      (after children : List (String × Tree))
  | child (permission : Leaf) (actions : Option (List (String × Tree)))
      (before : List (String × Tree)) (key : String) (after : List (String × Tree))
  | member (before : List (String × Tree)) (key : String) (after : List (String × Tree))
  | item (before after : List Tree)

namespace Frame

/-- The tree around a step, with a subtree where the step leads. -/
def fill (tree : Tree) : Frame → Tree
  | .action permission before key after children =>
      .node permission (some (before ++ (key, tree) :: after)) children
  | .child permission actions before key after =>
      .node permission actions (before ++ (key, tree) :: after)
  | .member before key after => .group (before ++ (key, tree) :: after)
  | .item before after => .list (before ++ tree :: after)

/-- The path to where a step from a path leads. -/
def pathFrom (path : String) : Frame → String
  | .action _ _ key _ _ => joinPath (joinPath path actionsKey) key
  | .child _ _ _ key _ => joinPath path key
  | .member _ key _ => joinPath path key
  | .item before _ => joinPath path (toString before.length)

end Frame

/-- A position in a tree: the steps to it, the first of them from the root. -/
abbrev Position := List Frame

namespace Position

/-- The tree around a position, with a subtree at it. -/
def fill (tree : Tree) : Position → Tree
  | [] => tree
  | frame :: inner => frame.fill (fill tree inner)

/-- The path to a position in a tree that stands at a path. -/
def pathFrom (path : String) : Position → String
  | [] => path
  | frame :: inner => pathFrom (frame.pathFrom path) inner

end Position

theorem grantsOfMembers_append (path : String) (entries others : List (String × Tree)) :
    grantsOfMembers path (entries ++ others) =
      grantsOfMembers path entries ++ grantsOfMembers path others := by
  induction entries with
  | nil => rfl
  | cons entry rest ih =>
      rw [List.cons_append, grantsOfMembers, grantsOfMembers, ih, List.append_assoc]

theorem grantsOfItems_append (path : String) (index : Nat) (items others : List Tree) :
    grantsOfItems path index (items ++ others) =
      grantsOfItems path index items ++ grantsOfItems path (index + items.length) others := by
  induction items generalizing index with
  | nil => rfl
  | cons item rest ih =>
      rw [List.cons_append, grantsOfItems, grantsOfItems, ih, List.append_assoc,
        List.length_cons, Nat.add_assoc, Nat.add_comm 1]

/-- One step into a tree leaves the leaves beside it as they are. -/
theorem Frame.exists_grantsAt_fill (frame : Frame) (path : String) :
    ∃ before after, ∀ tree : Tree,
      (frame.fill tree).grantsAt path =
        before ++ tree.grantsAt (frame.pathFrom path) ++ after := by
  cases frame with
  | action permission before key after children =>
      refine ⟨⟨joinPath path permissionKey, permission⟩ ::
          grantsOfMembers (joinPath path actionsKey) before,
        grantsOfMembers (joinPath path actionsKey) after ++ grantsOfMembers path children, ?_⟩
      intro tree
      simp only [fill, pathFrom, grantsAt, grantsOfMembers_append, grantsOfMembers,
        List.cons_append, List.append_assoc]
  -- The actions of a node, if there are any, are walked before its children.
  | child permission actions before key after =>
      cases actions with
      | none =>
          refine ⟨⟨joinPath path permissionKey, permission⟩ :: grantsOfMembers path before,
            grantsOfMembers path after, ?_⟩
          intro tree
          simp only [fill, pathFrom, grantsAt, grantsOfMembers_append, grantsOfMembers,
            List.cons_append, List.append_assoc]
      | some actions =>
          refine ⟨⟨joinPath path permissionKey, permission⟩ ::
              (grantsOfMembers (joinPath path actionsKey) actions ++ grantsOfMembers path before),
            grantsOfMembers path after, ?_⟩
          intro tree
          simp only [fill, pathFrom, grantsAt, grantsOfMembers_append, grantsOfMembers,
            List.cons_append, List.append_assoc]
  | member before key after =>
      refine ⟨grantsOfMembers path before, grantsOfMembers path after, ?_⟩
      intro tree
      simp only [fill, pathFrom, grantsAt, grantsOfMembers_append, grantsOfMembers,
        List.append_assoc]
  | item before after =>
      refine ⟨grantsOfItems path 0 before, grantsOfItems path (before.length + 1) after, ?_⟩
      intro tree
      simp only [fill, pathFrom, grantsAt, grantsOfItems_append, grantsOfItems, Nat.zero_add,
        List.append_assoc]

/-- **A subtree is walked where it stands.**  Whatever subtree stands at a position,
its leaves come between the same other leaves. -/
theorem Position.exists_grantsAt_fill (position : Position) (path : String) :
    ∃ before after, ∀ tree : Tree,
      (position.fill tree).grantsAt path =
        before ++ tree.grantsAt (position.pathFrom path) ++ after := by
  induction position generalizing path with
  | nil =>
      refine ⟨[], [], fun tree => ?_⟩
      rw [List.nil_append, List.append_nil]
      rfl
  | cons frame inner ih =>
      obtain ⟨outerBefore, outerAfter, houter⟩ := frame.exists_grantsAt_fill path
      obtain ⟨innerBefore, innerAfter, hinner⟩ := ih (frame.pathFrom path)
      refine ⟨outerBefore ++ innerBefore, innerAfter ++ outerAfter, fun tree => ?_⟩
      rw [fill, pathFrom, houter, hinner]
      simp only [List.append_assoc]

end Tree

/-! ## Leaves by the steps to them -/

universe u

/-! ### Steps -/

/-- The path that leads on from a path by several keys and indices. -/
def joinPaths (path : String) (steps : List String) : String := steps.foldl joinPath path

/-- Whatever stands at the end of some steps, seen from one step before. -/
def behind {α : Type u} (step : String) (places : List (List String × α)) :
    List (List String × α) :=
  places.map fun place => (step :: place.1, place.2)

/-- The leaf at the end of some steps, as the walk from a path reports it. -/
def Grant.ofPlace (path : String) (place : List String × Leaf) : Grant :=
  ⟨joinPaths path place.1, place.2⟩

theorem behind_perm {α : Type u} (step : String) {places others : List (List String × α)}
    (hperm : places.Perm others) : (behind step places).Perm (behind step others) :=
  hperm.map _

theorem joinPaths_cons (path step : String) (steps : List String) :
    joinPaths path (step :: steps) = joinPaths (joinPath path step) steps := rfl

theorem map_ofPlace_behind (path step : String) (places : List (List String × Leaf)) :
    (behind step places).map (Grant.ofPlace path) =
      places.map (Grant.ofPlace (joinPath path step)) := by
  rw [behind, List.map_map]
  rfl

theorem joinPaths_of_ne_empty {path : String} (hne : path ≠ "") (steps : List String) :
    joinPaths path steps = ".".intercalate (path :: steps) := by
  induction steps generalizing path with
  | nil => rw [String.intercalate_singleton]; rfl
  | cons step rest ih =>
      -- Behind a path that is not empty every step is set off by a dot, even an empty one.
      have hjoined : joinPath path step = path ++ "." ++ step := by
        rw [joinPath, if_neg (by simpa using hne)]
      have hne' : path ++ "." ++ step ≠ "" := by simp
      rw [joinPaths_cons, hjoined, ih hne', String.intercalate_cons_cons]
      cases rest with
      | nil => rw [String.intercalate_singleton, String.intercalate_singleton]
      | cons next more =>
          rw [String.intercalate_cons_cons, String.intercalate_cons_cons]
          simp only [String.append_assoc]

/-- Steps are joined by dots, where empty ones leave no trace at the beginning. -/
theorem joinPaths_empty (steps : List String) :
    joinPaths "" steps = ".".intercalate (steps.dropWhile String.isEmpty) := by
  induction steps with
  | nil => rfl
  | cons step rest ih =>
      rw [joinPaths_cons, show joinPath "" step = step from rfl]
      -- An empty step at the beginning leads nowhere; from the first other one on, all are joined.
      by_cases hempty : step = ""
      · subst hempty
        exact ih
      · rw [joinPaths_of_ne_empty hempty, List.dropWhile_cons, if_neg (by simpa using hempty)]

namespace Tree

/-! ### Leaves -/

mutual
/-- The leaves of a tree, each with the keys and indices that lead to it. -/
def leaves : Tree → List (List String × Leaf)
  | .leaf value => [([], value)]
  | .node permission none children => ([permissionKey], permission) :: leavesOfMembers children
  | .node permission (some actions) children =>
      ([permissionKey], permission) ::
        (behind actionsKey (leavesOfMembers actions) ++ leavesOfMembers children)
  | .group members => leavesOfMembers members
  | .list items => leavesOfItems 0 items
/-- The leaves of items, the first of them at an index. -/
def leavesOfItems (index : Nat) : List Tree → List (List String × Leaf)
  | [] => []
  | item :: rest => behind (toString index) item.leaves ++ leavesOfItems (index + 1) rest
/-- The leaves of entries. -/
def leavesOfMembers : List (String × Tree) → List (List String × Leaf)
  | [] => []
  | (key, tree) :: rest => behind key tree.leaves ++ leavesOfMembers rest
end

theorem leaves_node (permission : Leaf) (actions : Option (List (String × Tree)))
    (children : List (String × Tree)) :
    (node permission actions children).leaves =
      ([permissionKey], permission) ::
        (behind actionsKey (leavesOfMembers (actions.getD [])) ++ leavesOfMembers children) := by
  cases actions with
  | none => rfl
  | some actions => rw [leaves, Option.getD_some]

mutual
/-- **The walk reports a leaf at the join of the steps to it.** -/
theorem grantsAt_eq_map_leaves (path : String) (tree : Tree) :
    tree.grantsAt path = tree.leaves.map (Grant.ofPlace path) := by
  cases tree with
  | leaf value => rfl
  | node permission actions children =>
      cases actions with
      | none =>
          rw [grantsAt, leaves, List.map_cons, grantsOfMembers_eq_map_leaves path children]
          rfl
      | some actions =>
          rw [grantsAt, leaves, List.map_cons, List.map_append, map_ofPlace_behind,
            grantsOfMembers_eq_map_leaves path children,
            grantsOfMembers_eq_map_leaves (joinPath path actionsKey) actions]
          rfl
  | group members => rw [grantsAt, leaves, grantsOfMembers_eq_map_leaves path members]
  | list items => rw [grantsAt, leaves, grantsOfItems_eq_map_leaves path 0 items]
theorem grantsOfItems_eq_map_leaves (path : String) (index : Nat) (items : List Tree) :
    grantsOfItems path index items = (leavesOfItems index items).map (Grant.ofPlace path) := by
  cases items with
  | nil => rfl
  | cons item rest =>
      rw [grantsOfItems, leavesOfItems, List.map_append, map_ofPlace_behind,
        grantsAt_eq_map_leaves _ item, grantsOfItems_eq_map_leaves path (index + 1) rest]
theorem grantsOfMembers_eq_map_leaves (path : String) (entries : List (String × Tree)) :
    grantsOfMembers path entries = (leavesOfMembers entries).map (Grant.ofPlace path) := by
  cases entries with
  | nil => rfl
  | cons entry rest =>
      obtain ⟨key, tree⟩ := entry
      rw [grantsOfMembers, leavesOfMembers, List.map_append, map_ofPlace_behind,
        grantsAt_eq_map_leaves _ tree, grantsOfMembers_eq_map_leaves path rest]
end

theorem flatten_eq_map_leaves (tree : Tree) :
    tree.flatten = tree.leaves.map (Grant.ofPlace "") := by
  rw [flatten, flattenAt_eq_grantsAt, grantsAt_eq_map_leaves]

/-! ### Their number -/

mutual
theorem length_leaves (tree : Tree) : tree.leaves.length = tree.leafCount := by
  cases tree with
  | leaf value => rfl
  | node permission actions children =>
      cases actions with
      | none =>
          rw [leaves, leafCount, List.length_cons, length_leavesOfMembers children, Nat.add_comm]
      | some actions =>
          rw [leaves, leafCount, List.length_cons, List.length_append, behind, List.length_map,
            length_leavesOfMembers actions, length_leavesOfMembers children, Nat.add_comm]
  | group members => rw [leaves, leafCount, length_leavesOfMembers members]
  | list items => rw [leaves, leafCount, length_leavesOfItems 0 items]
theorem length_leavesOfItems (index : Nat) (items : List Tree) :
    (leavesOfItems index items).length = leafCountOfItems items := by
  cases items with
  | nil => rfl
  | cons item rest =>
      rw [leavesOfItems, leafCountOfItems, List.length_append, behind, List.length_map,
        length_leaves item, length_leavesOfItems (index + 1) rest]
theorem length_leavesOfMembers (entries : List (String × Tree)) :
    (leavesOfMembers entries).length = leafCountOfMembers entries := by
  cases entries with
  | nil => rfl
  | cons entry rest =>
      obtain ⟨key, tree⟩ := entry
      rw [leavesOfMembers, leafCountOfMembers, List.length_append, behind, List.length_map,
        length_leaves tree, length_leavesOfMembers rest]
end

/-- The walk reports as many leaves as are counted. -/
theorem length_flatten (tree : Tree) : tree.flatten.length = tree.leafCount := by
  rw [flatten_eq_map_leaves, List.length_map, length_leaves]

end Tree

end Entitlement
