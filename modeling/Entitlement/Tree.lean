import Entitlement.Json.Basic
import Entitlement.Rights

/-!
# Permission trees and their leaves

The grants of a role as a tree.  Its stored form is any JSON value; the tree is the closed
reading of it:

- a scalar is a leaf, which holds an access level or, when it is anything else,
  the scalar itself;
- an object whose `permission` is a scalar is a node: that scalar, an object
  under `actions` as its actions, and every other member as a child;
- any other object is a group;
- an array is a list.

Entries of nodes and groups are listed by ascending key; `Tree.Ordered` says so.  The leaves of
a tree are reported by a walk, each with the path that leads to it (`Tree.flatten`).
-/

namespace Entitlement

/-! ## The tree of a value -/

/-! ### Leaves -/

/-- What stands at the end of a path: an access level, or a value that is none
and is kept as it is. -/
inductive Leaf where
  | access (level : Level)
  | unrecognized (value : Json)
  deriving Inhabited

namespace Leaf

/-- Reads a value; only the names of levels are levels. -/
def ofJson : Json → Leaf
  | .str text =>
      match Level.ofName? text with
      | some level => .access level
      | none => .unrecognized (.str text)
  | value => .unrecognized value

/-- The value that a leaf was read from. -/
def toJson : Leaf → Json
  | .access level => .str level.name
  | .unrecognized value => value

/-- The access level of a leaf, if it is one. -/
def level? : Leaf → Option Level
  | .access level => some level
  | .unrecognized _ => none

/-- A leaf as messages show it: a string by itself, any other value as JSON. -/
def text : Leaf → String
  | .access level => level.name
  | .unrecognized (.str text) => text
  | .unrecognized value => value.text

theorem toJson_ofJson (value : Json) : (ofJson value).toJson = value := by
  cases value with
  | str text =>
      simp only [ofJson]
      cases hlevel : Level.ofName? text with
      | none => rfl
      | some level => simp [toJson, Level.name_of_ofName? hlevel]
  | _ => rfl

end Leaf

/-! ### Trees -/

/-- A permission tree. -/
inductive Tree where
  | leaf (value : Leaf)
  | node (permission : Leaf) (actions : Option (List (String × Tree)))
      (children : List (String × Tree))
  | group (members : List (String × Tree))
  | list (items : List Tree)
  deriving Inhabited

namespace Tree

/-- The tree without grants. -/
def empty : Tree := .group []

/-- The key of a node's own leaf. -/
def permissionKey : String := "permission"

/-- The key of a node's actions. -/
def actionsKey : String := "actions"

/-! #### Reading and writing -/

/-- The value that makes an object a node. -/
def permissionOf? (members : List (String × Json)) : Option Json :=
  -- Under the same key an object or an array is an ordinary child.
  (members.lookup permissionKey).filter Json.isScalar

mutual
/-- Reads a value as a tree. -/
def ofJson : Json → Tree
  | .arr items => .list (ofItems items)
  | .obj members =>
      match permissionOf? members with
      | some permission => .node (Leaf.ofJson permission) (actionsOf members) (childrenOf members)
      | none => .group (ofMembers members)
  | scalar => .leaf (Leaf.ofJson scalar)
/-- Reads the items of an array. -/
def ofItems : List Json → List Tree
  | [] => []
  | item :: rest => ofJson item :: ofItems rest
/-- Reads the members of an object. -/
def ofMembers : List (String × Json) → List (String × Tree)
  | [] => []
  | (key, value) :: rest => (key, ofJson value) :: ofMembers rest
/-- Reads the actions of a node: the members of an object under their key. -/
def actionsOf : List (String × Json) → Option (List (String × Tree))
  | [] => none
  | (key, .obj actions) :: rest =>
      if key = actionsKey then some (ofMembers actions) else actionsOf rest
  | _ :: rest => actionsOf rest
/-- Reads the children of a node: the members that are neither its leaf nor its
actions. -/
def childrenOf : List (String × Json) → List (String × Tree)
  | [] => []
  | (key, .obj members) :: rest =>
      if key = permissionKey ∨ key = actionsKey then childrenOf rest
      else (key, ofJson (.obj members)) :: childrenOf rest
  | (key, value) :: rest =>
      if key = permissionKey then childrenOf rest else (key, ofJson value) :: childrenOf rest
end

mutual
/-- The JSON value of a tree. -/
def toJson : Tree → Json
  | .leaf value => value.toJson
  | .node permission none children =>
      .obj (putEntry permissionKey permission.toJson (membersJson children))
  | .node permission (some actions) children =>
      .obj (putEntry actionsKey (.obj (membersJson actions))
        (putEntry permissionKey permission.toJson (membersJson children)))
  | .group members => .obj (membersJson members)
  | .list items => .arr (itemsJson items)
/-- The JSON values of items. -/
def itemsJson : List Tree → List Json
  | [] => []
  | item :: rest => item.toJson :: itemsJson rest
/-- The JSON values of entries. -/
def membersJson : List (String × Tree) → List (String × Json)
  | [] => []
  | (key, tree) :: rest => (key, tree.toJson) :: membersJson rest
end

/-! #### Measures -/

mutual
/-- The number of leaves, the one of each node included. -/
def leafCount : Tree → Nat
  | .leaf _ => 1
  | .node _ none children => 1 + leafCountOfMembers children
  | .node _ (some actions) children =>
      1 + (leafCountOfMembers actions + leafCountOfMembers children)
  | .group members => leafCountOfMembers members
  | .list items => leafCountOfItems items
/-- The number of leaves of items. -/
def leafCountOfItems : List Tree → Nat
  | [] => 0
  | item :: rest => item.leafCount + leafCountOfItems rest
/-- The number of leaves of entries. -/
def leafCountOfMembers : List (String × Tree) → Nat
  | [] => 0
  | (_, tree) :: rest => tree.leafCount + leafCountOfMembers rest
end

mutual
/-- The number of positions in a tree. -/
def size : Tree → Nat
  | .leaf _ => 1
  | .node _ none children => sizeOfMembers children + 1
  | .node _ (some actions) children => sizeOfMembers actions + sizeOfMembers children + 1
  | .group members => sizeOfMembers members + 1
  | .list items => sizeOfItems items + 1
/-- The number of positions in items. -/
def sizeOfItems : List Tree → Nat
  | [] => 0
  | item :: rest => item.size + sizeOfItems rest
/-- The number of positions in entries. -/
def sizeOfMembers : List (String × Tree) → Nat
  | [] => 0
  | (_, tree) :: rest => tree.size + sizeOfMembers rest
end

mutual
/-- Every node and group in the tree lists its entries by ascending key. -/
def Ordered : Tree → Prop
  | .leaf _ => True
  | .node _ none children => Ascending children ∧ OrderedMembers children
  | .node _ (some actions) children =>
      Ascending actions ∧ OrderedMembers actions ∧
        Ascending children ∧ OrderedMembers children
  | .group members => Ascending members ∧ OrderedMembers members
  | .list items => OrderedItems items
/-- Every item is ordered. -/
def OrderedItems : List Tree → Prop
  | [] => True
  | item :: rest => item.Ordered ∧ OrderedItems rest
/-- The tree of every entry is ordered. -/
def OrderedMembers : List (String × Tree) → Prop
  | [] => True
  | (_, tree) :: rest => tree.Ordered ∧ OrderedMembers rest
end

end Tree

/-! ## Walking a permission tree

The leaves of a tree, each with the path that leads to it.  A path joins the keys
and indices on the way by dots.  The leaf of a node stands at the path of the
node followed by `permission`, and the actions of a node stand under the path of
the node followed by `actions`.

The walk keeps a stack of the positions that are still to be visited, so a deep
tree needs no deep recursion.  A node delivers its own leaf first, then its
actions, then its children, each by ascending key. -/

/-! ### Paths -/

/-- The path that leads from a path to one of its entries. -/
def joinPath (path segment : String) : String :=
  if path.isEmpty then segment else path ++ "." ++ segment

/-- A leaf and the path to it. -/
structure Grant where
  path : String
  leaf : Leaf

namespace Tree

/-- Entries under a path. -/
def under (path : String) (entries : List (String × Tree)) : List (String × Tree) :=
  entries.map fun entry => (joinPath path entry.1, entry.2)

/-- Items under a path, the first of them at an index. -/
def indexed (path : String) : Nat → List Tree → List (String × Tree)
  | _, [] => []
  | index, item :: rest =>
      (joinPath path (toString index), item) :: indexed path (index + 1) rest

/-- Whatever a node has below its own leaf: its actions, then its children. -/
def belowNode (path : String) (actions : Option (List (String × Tree)))
    (children : List (String × Tree)) : List (String × Tree) :=
  match actions with
  | none => under path children
  | some actions => under (joinPath path actionsKey) actions ++ under path children

theorem sizeOfMembers_append (entries others : List (String × Tree)) :
    sizeOfMembers (entries ++ others) = sizeOfMembers entries + sizeOfMembers others := by
  induction entries with
  | nil => simp [sizeOfMembers]
  | cons entry rest ih => simp [sizeOfMembers, ih, Nat.add_assoc]

theorem sizeOfMembers_under (path : String) (entries : List (String × Tree)) :
    sizeOfMembers (under path entries) = sizeOfMembers entries := by
  induction entries with
  | nil => rfl
  | cons entry rest ih => simpa [under, sizeOfMembers] using ih

theorem sizeOfMembers_indexed (path : String) (index : Nat) (items : List Tree) :
    sizeOfMembers (indexed path index items) = sizeOfItems items := by
  induction items generalizing index with
  | nil => rfl
  | cons item rest ih => simp [indexed, sizeOfMembers, sizeOfItems, ih]

theorem size_node (permission : Leaf) (path : String) (actions : Option (List (String × Tree)))
    (children : List (String × Tree)) :
    (node permission actions children).size =
      sizeOfMembers (belowNode path actions children) + 1 := by
  cases actions <;>
    simp [size, belowNode, sizeOfMembers_append, sizeOfMembers_under]

end Tree

/-! ### The walk -/

/-- A walk in progress: the positions still to be visited, the next one first. -/
structure Walk where
  pending : List (String × Tree)

namespace Walk

/-- The walk that is about to visit a tree at a path. -/
def start (path : String) (tree : Tree) : Walk := ⟨[(path, tree)]⟩

/-- The number of positions still to be visited. -/
def size (walk : Walk) : Nat := Tree.sizeOfMembers walk.pending

/-- The next leaf among positions, and the walk after it. -/
def nextOf? : List (String × Tree) → Option (Grant × Walk)
  | [] => none
  | (path, .leaf value) :: rest => some (⟨path, value⟩, ⟨rest⟩)
  | (path, .node permission actions children) :: rest =>
      some (⟨joinPath path Tree.permissionKey, permission⟩,
        ⟨Tree.belowNode path actions children ++ rest⟩)
  | (path, .group members) :: rest => nextOf? (Tree.under path members ++ rest)
  -- A list, like a group, has no leaf of its own, so the search goes on inside.
  | (path, .list items) :: rest => nextOf? (Tree.indexed path 0 items ++ rest)
termination_by pending => Tree.sizeOfMembers pending
decreasing_by
  · simp [Tree.sizeOfMembers, Tree.size, Tree.sizeOfMembers_append, Tree.sizeOfMembers_under]
  · simp [Tree.sizeOfMembers, Tree.size, Tree.sizeOfMembers_append, Tree.sizeOfMembers_indexed]

/-- The next leaf of a walk, and the walk after it. -/
def next? (walk : Walk) : Option (Grant × Walk) := nextOf? walk.pending

private theorem size_lt_of_nextOf? {pending : List (String × Tree)} {grant : Grant} {later : Walk}
    (hnext : nextOf? pending = some (grant, later)) :
    later.size < Tree.sizeOfMembers pending := by
  fun_induction nextOf? pending with
  | case1 => simp at hnext
  | case2 path value rest =>
      obtain ⟨rfl, rfl⟩ := Prod.mk.inj (Option.some.inj hnext)
      simp [size, Tree.sizeOfMembers, Tree.size]
  | case3 path permission actions children rest =>
      obtain ⟨rfl, rfl⟩ := Prod.mk.inj (Option.some.inj hnext)
      simp only [size, Tree.sizeOfMembers, Tree.sizeOfMembers_append,
        Tree.size_node permission path actions children]
      omega
  | case4 path members rest ih =>
      have hlt := ih hnext
      simp only [Tree.sizeOfMembers, Tree.size, Tree.sizeOfMembers_append,
        Tree.sizeOfMembers_under] at hlt ⊢
      omega
  | case5 path items rest ih =>
      have hlt := ih hnext
      simp only [Tree.sizeOfMembers, Tree.size, Tree.sizeOfMembers_append,
        Tree.sizeOfMembers_indexed] at hlt ⊢
      omega

/-- Every leaf shortens the walk. -/
theorem size_lt_of_next? {walk later : Walk} {grant : Grant}
    (hnext : walk.next? = some (grant, later)) : later.size < walk.size :=
  size_lt_of_nextOf? hnext

/-- The leaves that a walk still visits. -/
def toList (walk : Walk) : List Grant :=
  match _hnext : walk.next? with
  | none => []
  | some (grant, later) => grant :: later.toList
termination_by walk.size
decreasing_by exact size_lt_of_next? ‹_›

end Walk

/-- The leaves of a tree that stands at a path. -/
def Tree.flattenAt (path : String) (tree : Tree) : List Grant := (Walk.start path tree).toList

/-- The leaves of a tree. -/
def Tree.flatten (tree : Tree) : List Grant := tree.flattenAt ""

end Entitlement
