import Entitlement.Proofs.Tree.Grants
import Mathlib.Logic.Function.Iterate

/-!
# The walk call by call and turn by turn

A walk stands for the leaves of its pending positions, and each call of `next?` takes off
the first of them (`Walk.map_fst_next?`).  So after any number of calls the walk still delivers
the rest, whoever goes on with it, and the calls after the last leaf deliver nothing
(`Walk.toList_after`).

The number of calls does not bound the work, because a group or a list delivers nothing and
may bring in any number of positions.  The loop inside the calls does one thing only: what
lies inside the first pending position takes its place (`Walk.turn`).  A turn takes exactly
one position out of the pending subtrees (`Walk.size_turn`), so a walk takes as many turns as
there are positions in its tree (`Walk.iterate_turn_eq_nothing_iff`).

The two counts are tied together by `Walk.exists_turns_of_nextOf?`: a call that delivers a leaf
makes some turns of the loop.  How many is not said, but all calls together make no more than
there are positions (`Walk.exists_turns_after`), since each of them takes one away.

`walk_follows_recursion` collects both: the list of leaves is that of the recursion on the tree,
calls take off its front, and the loop has an end.
-/

namespace Entitlement

/-! ## Calls -/

namespace Walk

variable {walk later : Walk} {grant : Grant}

/-- The walk after some calls of `next?`.  A call that finds no leaf leaves nothing
pending. -/
def after : Nat → Walk → Walk
  | 0, walk => walk
  | calls + 1, walk =>
      match walk.next? with
      | none => ⟨[]⟩
      | some (_, later) => later.after calls

theorem toList_of_next?_eq_none (hnext : walk.next? = none) : walk.toList = [] := by
  rw [toList]
  split
  · rfl
  · simp_all

theorem toList_of_next?_eq_some (hnext : walk.next? = some (grant, later)) :
    walk.toList = grant :: later.toList := by
  rw [toList]
  split
  · simp_all
  · simp_all

theorem toList_nothing : (⟨[]⟩ : Walk).toList = [] := by
  rw [toList_eq_flatMap, List.flatMap_nil]

/-- After some calls a walk delivers what is left of its leaves. -/
theorem toList_after (calls : Nat) (walk : Walk) :
    (walk.after calls).toList = walk.toList.drop calls := by
  induction calls generalizing walk with
  | zero => rfl
  | succ calls ih =>
      cases hnext : walk.next? with
      | none =>
          simp only [after, hnext, toList_nothing, toList_of_next?_eq_none hnext, List.drop_nil]
      | some found =>
          obtain ⟨grant, later⟩ := found
          simp only [after, hnext, toList_of_next?_eq_some hnext, List.drop_succ_cons, ih]

/-- A call delivers the first of the leaves. -/
theorem map_fst_next? (walk : Walk) : walk.next?.map (·.1) = walk.toList.head? := by
  cases hnext : walk.next? with
  | none =>
      rw [toList_of_next?_eq_none hnext]
      rfl
  | some found =>
      obtain ⟨grant, later⟩ := found
      rw [toList_of_next?_eq_some hnext]
      rfl

theorem map_fst_next?_after (calls : Nat) (walk : Walk) :
    (walk.after calls).next?.map (·.1) = walk.toList[calls]? := by
  rw [map_fst_next?, toList_after, List.head?_drop]

end Walk

/-! ## Turns -/

namespace Tree

/-- What lies right inside a position. -/
def inside : String × Tree → List (String × Tree)
  | (_, .leaf _) => []
  | (path, .node _ actions children) => belowNode path actions children
  | (path, .group members) => under path members
  | (path, .list items) => indexed path 0 items

theorem size_eq_sizeOfMembers_inside (position : String × Tree) :
    position.2.size = sizeOfMembers (inside position) + 1 := by
  obtain ⟨path, tree⟩ := position
  cases tree with
  | leaf value => rfl
  | node permission actions children => exact size_node permission path actions children
  | group members => rw [inside, sizeOfMembers_under, size]
  | list items => rw [inside, sizeOfMembers_indexed, size]

end Tree

namespace Walk

variable {walk later : Walk} {grant : Grant} {turns : Nat}

/-- One turn of the loop: what lies right inside the first pending position takes its
place. -/
def turn (walk : Walk) : Walk :=
  match walk.pending with
  | [] => walk
  | position :: rest => ⟨Tree.inside position ++ rest⟩

theorem size_cons (position : String × Tree) (rest : List (String × Tree)) :
    size ⟨position :: rest⟩ = (turn ⟨position :: rest⟩).size + 1 := by
  -- The position itself is gone, and all that was inside it is still there.
  have hsize := Tree.size_eq_sizeOfMembers_inside position
  simp only [turn, size, Tree.sizeOfMembers, Tree.sizeOfMembers_append]
  omega

theorem size_turn (walk : Walk) : walk.turn.size = walk.size - 1 := by
  obtain ⟨pending⟩ := walk
  cases pending with
  | nil => rfl
  | cons position rest => rw [size_cons, Nat.add_sub_cancel]

theorem size_iterate_turn (turns : Nat) (walk : Walk) :
    (turn^[turns] walk).size = walk.size - turns := by
  induction turns with
  | zero => rfl
  | succ turns ih =>
      rw [Function.iterate_succ_apply', size_turn, ih]
      omega

theorem size_eq_zero_iff : walk.size = 0 ↔ walk = ⟨[]⟩ := by
  obtain ⟨pending⟩ := walk
  cases pending with
  | nil => simp [size, Tree.sizeOfMembers]
  | cons position rest =>
      rw [size_cons]
      simp

/-- A walk takes one turn for each position in its pending subtrees. -/
theorem iterate_turn_eq_nothing_iff : turn^[turns] walk = ⟨[]⟩ ↔ walk.size ≤ turns := by
  rw [← size_eq_zero_iff, size_iterate_turn]
  omega

/-- A call that delivers a leaf makes some turns. -/
theorem exists_turns_of_nextOf? {pending : List (String × Tree)}
    (hnext : nextOf? pending = some (grant, later)) :
    ∃ turns ≤ size ⟨pending⟩, later = turn^[turns] ⟨pending⟩ := by
  fun_induction nextOf? pending with
  | case1 => simp at hnext
  | case2 path value rest =>
      obtain ⟨rfl, rfl⟩ := Prod.mk.inj (Option.some.inj hnext)
      rw [size_cons]
      exact ⟨1, by omega, rfl⟩
  | case3 path permission actions children rest =>
      obtain ⟨rfl, rfl⟩ := Prod.mk.inj (Option.some.inj hnext)
      rw [size_cons]
      exact ⟨1, by omega, rfl⟩
  -- A group or a list takes a turn and delivers nothing, so the call goes on.
  | case4 path members rest ih =>
      obtain ⟨turns, hturns, rfl⟩ := ih hnext
      rw [size_cons]
      exact ⟨turns + 1, Nat.succ_le_succ hturns, rfl⟩
  | case5 path items rest ih =>
      obtain ⟨turns, hturns, rfl⟩ := ih hnext
      rw [size_cons]
      exact ⟨turns + 1, Nat.succ_le_succ hturns, rfl⟩

/-- All calls together make no more turns than there are positions. -/
theorem exists_turns_after (calls : Nat) (walk : Walk) :
    ∃ turns ≤ walk.size, walk.after calls = turn^[turns] walk := by
  induction calls generalizing walk with
  | zero => exact ⟨0, Nat.zero_le _, rfl⟩
  | succ calls ih =>
      cases hnext : walk.next? with
      | none =>
          -- The call that finds nothing has made all turns that were left.
          refine ⟨walk.size, Nat.le_refl _, ?_⟩
          simp only [after, hnext]
          exact (iterate_turn_eq_nothing_iff.mpr (Nat.le_refl _)).symm
      | some found =>
          obtain ⟨grant, later⟩ := found
          -- One call and the later ones share the turns that there are.
          obtain ⟨first, hfirst, rfl⟩ := exists_turns_of_nextOf? hnext
          have hfirst : first ≤ walk.size := hfirst
          obtain ⟨more, hmore, hafter⟩ := ih (turn^[first] walk)
          rw [size_iterate_turn] at hmore
          refine ⟨more + first, by omega, ?_⟩
          simp only [after, hnext]
          rw [hafter, Function.iterate_add_apply]

end Walk

namespace Tree

theorem size_start (path : String) (tree : Tree) : (Walk.start path tree).size = tree.size := by
  simp [Walk.start, Walk.size, sizeOfMembers]

/-- **The walk is the recursion, leaf by leaf.**  From any path, the walk of a tree lists the
leaves as the recursion on the tree does, entries in their order and so by ascending key in an
ordered tree, one leaf for each that the tree counts.  Each call delivers the next of them, the
calls after the last one deliver nothing, and a walk that is taken over after some calls
delivers exactly the rest.  All these calls make turns of one loop, which has nothing left to
do after as many turns as the tree has positions. -/
theorem walk_follows_recursion (path : String) (tree : Tree) :
    tree.flattenAt path = tree.grantsAt path ∧
    (tree.flattenAt path).length = tree.leafCount ∧
    (∀ calls, ((Walk.start path tree).after calls).next?.map (·.1) =
      (tree.grantsAt path)[calls]?) ∧
    (∀ calls, ((Walk.start path tree).after calls).next? = none ↔ tree.leafCount ≤ calls) ∧
    (∀ calls, ((Walk.start path tree).after calls).toList = (tree.grantsAt path).drop calls) ∧
    (∀ calls, ∃ turns ≤ tree.size,
      (Walk.start path tree).after calls = Walk.turn^[turns] (Walk.start path tree)) ∧
    ∀ turns, Walk.turn^[turns] (Walk.start path tree) = ⟨[]⟩ ↔ tree.size ≤ turns := by
  -- Every statement is about this one list, of which calls and turns take off the front.
  have hlist : (Walk.start path tree).toList = tree.grantsAt path := flattenAt_eq_grantsAt path tree
  have hlength : (tree.grantsAt path).length = tree.leafCount := by
    rw [grantsAt_eq_map_leaves, List.length_map, length_leaves]
  refine ⟨hlist, ?_, ?_, ?_, ?_, ?_, ?_⟩
  · rw [flattenAt_eq_grantsAt, hlength]
  · intro calls
    rw [Walk.map_fst_next?_after, hlist]
  · intro calls
    rw [← Option.map_eq_none_iff, Walk.map_fst_next?_after, hlist, List.getElem?_eq_none_iff,
      hlength]
  · intro calls
    rw [Walk.toList_after, hlist]
  · intro calls
    rw [← size_start path tree]
    exact Walk.exists_turns_after calls _
  · intro turns
    rw [Walk.iterate_turn_eq_nothing_iff, size_start]

end Tree

end Entitlement
