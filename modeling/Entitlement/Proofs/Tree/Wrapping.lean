import Entitlement.Proofs.Meaning.Path
import Entitlement.Proofs.Tree.Grants
import Mathlib.Logic.Relation
import Mathlib.Tactic.Tauto

/-!
# Wrapping subtrees in lists

An array of one item may stand wherever the item itself may.  All that the walk reports
differently is an index in the paths, and indices do not count for what a path means.  So
the leaves come in the same order and grant the same rights, however many subtrees are
wrapped and however often (`Wraps.readings_eq`).

An empty key at the root is the exception: it leaves no trace in a path, but behind an
index it is an empty segment, which the table does see.  Hence the trees here have no
empty keys.

* One wrap puts one index into the paths below it.  The invariant of the recursion is that two
  paths have the same keys on the way (`map_reading_grantsAt_congr`); it holds as long as no key
  is empty.
* A wrap happens at a position deep inside.  What stands around the position does not depend on
  the subtree that is put there, neither for the walk nor for the keys
  (`Position.exists_nonemptyKeys_fill`), so the wrapped tree has no empty keys either.
* Several wraps are one after the other, in any order and inside each other.
-/

namespace Entitlement

/-- What a leaf grants: the meaning of its path, and the leaf itself. -/
def Grant.reading (grant : Grant) : Meaning × Leaf := (Meaning.ofPath grant.path, grant.leaf)

namespace Tree

/-! ## Trees without empty keys -/

mutual
/-- No entry in the tree has the empty key. -/
def NonemptyKeys : Tree → Prop
  | .leaf _ => True
  | .node _ none children => NonemptyKeysMembers children
  | .node _ (some actions) children => NonemptyKeysMembers actions ∧ NonemptyKeysMembers children
  | .group members => NonemptyKeysMembers members
  | .list items => NonemptyKeysItems items
/-- No item has an empty key in it. -/
def NonemptyKeysItems : List Tree → Prop
  | [] => True
  | item :: rest => item.NonemptyKeys ∧ NonemptyKeysItems rest
/-- No entry has the empty key, or one in its tree. -/
def NonemptyKeysMembers : List (String × Tree) → Prop
  | [] => True
  | (key, tree) :: rest => key ≠ "" ∧ tree.NonemptyKeys ∧ NonemptyKeysMembers rest
end

theorem nonemptyKeysMembers_append (entries others : List (String × Tree)) :
    NonemptyKeysMembers (entries ++ others) ↔
      NonemptyKeysMembers entries ∧ NonemptyKeysMembers others := by
  induction entries with
  | nil => simp [NonemptyKeysMembers]
  | cons entry rest ih => simp [NonemptyKeysMembers, ih, and_assoc]

theorem nonemptyKeysItems_append (items others : List Tree) :
    NonemptyKeysItems (items ++ others) ↔ NonemptyKeysItems items ∧ NonemptyKeysItems others := by
  induction items with
  | nil => simp [NonemptyKeysItems]
  | cons item rest ih => simp [NonemptyKeysItems, ih, and_assoc]

/-- The keys around a step do not depend on the subtree where the step leads. -/
theorem Frame.exists_nonemptyKeys_fill (frame : Frame) :
    ∃ around : Prop, ∀ tree : Tree,
      (frame.fill tree).NonemptyKeys ↔ around ∧ tree.NonemptyKeys := by
  -- In each case what stands around is the entries or items on both sides, and the key itself.
  cases frame with
  | action permission before key after children =>
      refine ⟨NonemptyKeysMembers before ∧ key ≠ "" ∧ NonemptyKeysMembers after ∧
        NonemptyKeysMembers children, fun tree => ?_⟩
      simp only [fill, NonemptyKeys, nonemptyKeysMembers_append, NonemptyKeysMembers]
      tauto
  | child permission actions before key after =>
      cases actions with
      | none =>
          refine ⟨NonemptyKeysMembers before ∧ key ≠ "" ∧ NonemptyKeysMembers after,
            fun tree => ?_⟩
          simp only [fill, NonemptyKeys, nonemptyKeysMembers_append, NonemptyKeysMembers]
          tauto
      | some actions =>
          refine ⟨NonemptyKeysMembers actions ∧ NonemptyKeysMembers before ∧ key ≠ "" ∧
            NonemptyKeysMembers after, fun tree => ?_⟩
          simp only [fill, NonemptyKeys, nonemptyKeysMembers_append, NonemptyKeysMembers]
          tauto
  | member before key after =>
      refine ⟨NonemptyKeysMembers before ∧ key ≠ "" ∧ NonemptyKeysMembers after, fun tree => ?_⟩
      simp only [fill, NonemptyKeys, nonemptyKeysMembers_append, NonemptyKeysMembers]
      tauto
  | item before after =>
      refine ⟨NonemptyKeysItems before ∧ NonemptyKeysItems after, fun tree => ?_⟩
      simp only [fill, NonemptyKeys, nonemptyKeysItems_append, NonemptyKeysItems]
      tauto

theorem Position.exists_nonemptyKeys_fill (position : Position) :
    ∃ around : Prop, ∀ tree : Tree,
      (position.fill tree).NonemptyKeys ↔ around ∧ tree.NonemptyKeys := by
  induction position with
  | nil => exact ⟨True, fun tree => by rw [true_and, fill]⟩
  | cons frame inner ih =>
      obtain ⟨outer, houter⟩ := frame.exists_nonemptyKeys_fill
      obtain ⟨nested, hnested⟩ := ih
      refine ⟨outer ∧ nested, fun tree => ?_⟩
      rw [fill, houter, hnested, and_assoc]

/-! ## Paths with the same keys -/

theorem keysOf_joinPath_congr {path other step : String} (hstep : step ≠ "")
    (hpath : Meaning.keysOf other = Meaning.keysOf path) :
    Meaning.keysOf (joinPath other step) = Meaning.keysOf (joinPath path step) := by
  rw [Meaning.keysOf_joinPath hstep, hpath, Meaning.keysOf_joinPath hstep]

theorem toString_ne_empty (index : Nat) : toString index ≠ "" := by
  intro hempty
  have hdigits : Nat.toDigits 10 index = [] := by
    simpa using congrArg String.toList hempty
  exact Nat.toDigits_ne_nil hdigits

mutual
/-- Trees are read alike at paths with the same keys on the way. -/
theorem map_reading_grantsAt_congr {path other : String} (tree : Tree)
    (hkeys : tree.NonemptyKeys) (hpath : Meaning.keysOf other = Meaning.keysOf path) :
    (tree.grantsAt other).map Grant.reading = (tree.grantsAt path).map Grant.reading := by
  cases tree with
  | leaf value =>
      rw [grantsAt, grantsAt, List.map_singleton, List.map_singleton, Grant.reading,
        Grant.reading, Meaning.ofPath_congr hpath]
  | node permission actions children =>
      -- The two keys of a node are not empty, so below them the paths still have the same keys.
      have hown : Meaning.ofPath (joinPath other permissionKey) =
          Meaning.ofPath (joinPath path permissionKey) :=
        Meaning.ofPath_congr (keysOf_joinPath_congr (by decide) hpath)
      cases actions with
      | none =>
          rw [grantsAt, grantsAt, List.map_cons, List.map_cons, Grant.reading, Grant.reading,
            hown, map_reading_grantsOfMembers_congr children hkeys hpath]
      | some actions =>
          obtain ⟨hactions, hchildren⟩ := hkeys
          have hbelow : Meaning.keysOf (joinPath other actionsKey) =
              Meaning.keysOf (joinPath path actionsKey) :=
            keysOf_joinPath_congr (by decide) hpath
          rw [grantsAt, grantsAt, List.map_cons, List.map_cons, List.map_append, List.map_append,
            Grant.reading, Grant.reading, hown,
            map_reading_grantsOfMembers_congr actions hactions hbelow,
            map_reading_grantsOfMembers_congr children hchildren hpath]
  | group members => exact map_reading_grantsOfMembers_congr members hkeys hpath
  | list items => exact map_reading_grantsOfItems_congr 0 items hkeys hpath
theorem map_reading_grantsOfItems_congr {path other : String} (index : Nat) (items : List Tree)
    (hkeys : NonemptyKeysItems items) (hpath : Meaning.keysOf other = Meaning.keysOf path) :
    (grantsOfItems other index items).map Grant.reading =
      (grantsOfItems path index items).map Grant.reading := by
  cases items with
  | nil => rfl
  | cons item rest =>
      obtain ⟨hitem, hrest⟩ := hkeys
      rw [grantsOfItems, grantsOfItems, List.map_append, List.map_append,
        map_reading_grantsAt_congr item hitem
          (keysOf_joinPath_congr (toString_ne_empty index) hpath),
        map_reading_grantsOfItems_congr (index + 1) rest hrest hpath]
theorem map_reading_grantsOfMembers_congr {path other : String} (entries : List (String × Tree))
    (hkeys : NonemptyKeysMembers entries) (hpath : Meaning.keysOf other = Meaning.keysOf path) :
    (grantsOfMembers other entries).map Grant.reading =
      (grantsOfMembers path entries).map Grant.reading := by
  cases entries with
  | nil => rfl
  | cons entry rest =>
      obtain ⟨key, tree⟩ := entry
      obtain ⟨hkey, htree, hrest⟩ := hkeys
      rw [grantsOfMembers, grantsOfMembers, List.map_append, List.map_append,
        map_reading_grantsAt_congr tree htree (keysOf_joinPath_congr hkey hpath),
        map_reading_grantsOfMembers_congr rest hrest hpath]
end

/-! ## Wrapping -/

/-- Some subtree is wrapped: the list of it alone takes its place. -/
def WrapsOnce (tree other : Tree) : Prop :=
  ∃ (position : Position) (inner : Tree),
    tree = position.fill inner ∧ other = position.fill (.list [inner])

/-- Subtrees are wrapped one after the other, in any number and at any depth. -/
def Wraps : Tree → Tree → Prop := Relation.ReflTransGen WrapsOnce

/-- What the leaves of a tree grant, in the order of the walk. -/
def readings (tree : Tree) : List (Meaning × Leaf) := tree.flatten.map Grant.reading

variable {tree other : Tree}

/-- The list of a tree alone is read as the tree itself. -/
theorem map_reading_grantsAt_singleton (hkeys : tree.NonemptyKeys) (path : String) :
    ((list [tree]).grantsAt path).map Grant.reading = (tree.grantsAt path).map Grant.reading := by
  -- An index is a step of its own in the path, but it is no key.
  have hindex : Meaning.keysOf (joinPath path "0") = Meaning.keysOf path := by
    rw [Meaning.keysOf_joinPath (by decide), show Meaning.keySegments "0" = [] from rfl,
      List.append_nil]
  have hitem : (list [tree]).grantsAt path = tree.grantsAt (joinPath path "0") := by
    rw [grantsAt, grantsOfItems, grantsOfItems, List.append_nil]
    rfl
  rw [hitem, map_reading_grantsAt_congr tree hkeys hindex]

theorem WrapsOnce.nonemptyKeys (hwraps : WrapsOnce tree other) (hkeys : tree.NonemptyKeys) :
    other.NonemptyKeys := by
  obtain ⟨position, inner, rfl, rfl⟩ := hwraps
  obtain ⟨around, haround⟩ := position.exists_nonemptyKeys_fill
  obtain ⟨hothers, hinner⟩ := (haround inner).mp hkeys
  exact (haround _).mpr ⟨hothers, hinner, trivial⟩

theorem WrapsOnce.readings_eq (hwraps : WrapsOnce tree other) (hkeys : tree.NonemptyKeys) :
    other.readings = tree.readings := by
  obtain ⟨position, inner, rfl, rfl⟩ := hwraps
  obtain ⟨around, haround⟩ := position.exists_nonemptyKeys_fill
  obtain ⟨_, hinner⟩ := (haround inner).mp hkeys
  obtain ⟨before, after, hfill⟩ := position.exists_grantsAt_fill ""
  -- The leaves around the position are the same, and those at it are read alike.
  rw [readings, readings, flatten, flatten, flattenAt_eq_grantsAt, flattenAt_eq_grantsAt,
    hfill, hfill]
  simp only [List.map_append, map_reading_grantsAt_singleton hinner]

theorem Wraps.nonemptyKeys (hwraps : Wraps tree other) (hkeys : tree.NonemptyKeys) :
    other.NonemptyKeys := by
  induction hwraps with
  | refl => exact hkeys
  | tail _ honce ih => exact honce.nonemptyKeys ih

/-- **Wrapping does not change what is read.**  Wrapped subtrees have the leaves that they
had, in the same order, and the paths to them mean the same. -/
theorem Wraps.readings_eq (hwraps : Wraps tree other) (hkeys : tree.NonemptyKeys) :
    other.readings = tree.readings := by
  induction hwraps with
  | refl => rfl
  | tail hbefore honce ih =>
      have hmiddle := Wraps.nonemptyKeys hbefore hkeys
      rw [honce.readings_eq hmiddle, ih]

end Tree

end Entitlement
