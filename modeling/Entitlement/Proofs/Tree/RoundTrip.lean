import Entitlement.Proofs.Tree.Scalars

/-!
# Trees and the values they are read from

Reading a value as a tree sorts the members of its objects into slots, and writing the tree
puts them back, so no value is changed on the way (`toJson_ofJson`).  The other way round a tree
can be changed.  It may have been put together with an entry in a place where reading never leaves
one, such as a leaf under `permission` in a group: what is written then is read as a node.

`Tree.Canonical` says that every entry stands where reading leaves it.  Each kind of tree
has an equivalence of its own: it is read back as it was exactly when its own keys are in place
and its parts are read back as they were.

* `ofJson_toJson_leaf_iff`: a value that is kept because it is no level is none.
* `ofJson_toJson_group_iff`: no leaf stands under `permission`.
* `ofJson_toJson_node_none_iff`, `ofJson_toJson_node_some_iff`: neither the leaf nor the actions
  are hidden by a child, and no child would have been read as one of them.

The main statement, `toJson_ofJson_and_ofJson_toJson_iff`, follows by recursion on the tree.

The slots of a node are compared key by key, which is why entries have to ascend: two lists
of ascending entries with the same value under each key are the same.
-/

namespace Entitlement

namespace Leaf

variable {leaf : Leaf}

/-- The leaf is one that is read from a scalar: a value that is kept because it is no level
is indeed none. -/
def Canonical : Leaf → Prop
  | .access _ => True
  | .unrecognized value => value.isScalar = true ∧ ∀ level : Level, value ≠ .str level.name

theorem canonical_iff :
    leaf.Canonical ↔ leaf.toJson.isScalar = true ∧ ofJson leaf.toJson = leaf := by
  cases leaf with
  | access level => simp [Canonical, toJson, ofJson, Json.isScalar, Level.ofName?_name]
  | unrecognized value =>
      cases value with
      -- Of the scalars only a string can be taken for something else, namely for a level.
      | str text =>
          cases hlevel : Level.ofName? text with
          | some level =>
              have hname := Level.name_of_ofName? hlevel
              simp only [Canonical, toJson, ofJson, hlevel]
              constructor
              · rintro ⟨_, hnone⟩
                exact absurd (by rw [hname]) (hnone level)
              · rintro ⟨_, hsame⟩
                contradiction
          | none =>
              have hnone : ∀ level : Level, Json.str text ≠ .str level.name := by
                rintro level hsame
                rw [Json.str.inj hsame, Level.ofName?_name] at hlevel
                contradiction
              simp only [Canonical, toJson, ofJson, hlevel, and_true]
              exact and_iff_left hnone
      | null | bool | num | arr | obj => simp [Canonical, toJson, ofJson, Json.isScalar]

end Leaf

namespace Tree

variable {leaf permission : Leaf} {tree : Tree} {value : Json}
  {members inner : List (String × Json)} {actions children entries : List (String × Tree)}

/-! ## Canonical trees -/

/-- Whether a tree is written as an object, so that it is found by keys. -/
def isKeyed : Tree → Bool
  | .leaf _ => false
  | .node _ _ _ => true
  | .group _ => true
  | .list _ => false

mutual
/-- Every entry of the tree stands where reading leaves it. -/
def Canonical : Tree → Prop
  | .leaf value => value.Canonical
  | .node permission none children =>
      permission.Canonical ∧ children.lookup permissionKey = none ∧
        (∀ child, children.lookup actionsKey = some child → child.isKeyed = false) ∧
        CanonicalMembers children
  | .node permission (some actions) children =>
      permission.Canonical ∧ children.lookup permissionKey = none ∧
        children.lookup actionsKey = none ∧ CanonicalMembers actions ∧ CanonicalMembers children
  | .group members =>
      (∀ leaf, members.lookup permissionKey ≠ some (.leaf leaf)) ∧ CanonicalMembers members
  | .list items => CanonicalItems items
/-- Every item is canonical. -/
def CanonicalItems : List Tree → Prop
  | [] => True
  | item :: rest => item.Canonical ∧ CanonicalItems rest
/-- The tree of every entry is canonical. -/
def CanonicalMembers : List (String × Tree) → Prop
  | [] => True
  | (_, tree) :: rest => tree.Canonical ∧ CanonicalMembers rest
end

/-! ## Entry by entry -/

theorem ofMembers_eq_map (members : List (String × Json)) :
    ofMembers members = members.map fun entry => (entry.1, ofJson entry.2) := by
  induction members with
  | nil => rfl
  | cons entry rest ih => rw [ofMembers, ih, List.map_cons]

theorem membersJson_eq_map (entries : List (String × Tree)) :
    membersJson entries = entries.map fun entry => (entry.1, entry.2.toJson) := by
  induction entries with
  | nil => rfl
  | cons entry rest ih => rw [membersJson, ih, List.map_cons]

theorem lookup_membersJson (key : String) (entries : List (String × Tree)) :
    (membersJson entries).lookup key = (entries.lookup key).map toJson := by
  rw [membersJson_eq_map, lookup_map_snd]

theorem ascending_membersJson (hascending : Ascending entries) :
    Ascending (membersJson entries) := by
  rw [membersJson_eq_map]
  exact List.pairwise_map.mpr hascending

theorem filter_membersJson (p : String → Bool) (entries : List (String × Tree)) :
    ((membersJson entries).filter fun entry => p entry.1) =
      membersJson (entries.filter fun entry => p entry.1) := by
  rw [membersJson_eq_map, membersJson_eq_map, List.filter_map]
  rfl

theorem membersJson_ofMembers_iff :
    membersJson (ofMembers members) = members ↔
      ∀ entry ∈ members, (ofJson entry.2).toJson = entry.2 := by
  induction members with
  | nil => simp [ofMembers, membersJson]
  | cons entry rest ih =>
      obtain ⟨key, value⟩ := entry
      simp [ofMembers, membersJson, ih]

theorem ofMembers_membersJson_iff_forall :
    ofMembers (membersJson entries) = entries ↔
      ∀ entry ∈ entries, ofJson entry.2.toJson = entry.2 := by
  induction entries with
  | nil => simp [ofMembers, membersJson]
  | cons entry rest ih =>
      obtain ⟨key, tree⟩ := entry
      simp [ofMembers, membersJson, ih]

/-- Entries are read back without those under some keys exactly when there are none under
these keys, and the others are read back. -/
theorem ofMembers_membersJson_filter_iff (p : String → Bool) :
    ofMembers (membersJson (entries.filter fun entry => p entry.1)) = entries ↔
      (∀ entry ∈ entries, p entry.1 = true) ∧ ofMembers (membersJson entries) = entries := by
  have hkeep : (∀ entry ∈ entries, p entry.1 = true) →
      (entries.filter fun entry => p entry.1) = entries := List.filter_eq_self.mpr
  constructor
  · intro hread
    -- What is read back has only keys that were kept, and it is all entries.
    have hkeys : ∀ entry ∈ entries, p entry.1 = true := by
      rw [← hread, ofMembers_eq_map, membersJson_eq_map]
      intro entry hentry
      simp only [List.map_map, List.mem_map, List.mem_filter] at hentry
      obtain ⟨old, ⟨_, hold⟩, rfl⟩ := hentry
      exact hold
    rw [hkeep hkeys] at hread
    exact ⟨hkeys, hread⟩
  · rintro ⟨hkeys, hread⟩
    rw [hkeep hkeys, hread]

theorem lookup_eq_none_iff_ne {key : String} :
    entries.lookup key = none ↔ ∀ entry ∈ entries, (entry.1 != key) = true := by
  rw [List.lookup_eq_none_iff]
  simp only [bne_iff_ne, ne_comm]

/-! ## What is read from an object -/

theorem ofJson_eq_leaf_iff :
    ofJson value = .leaf leaf ↔ value.isScalar = true ∧ Leaf.ofJson value = leaf := by
  cases value with
  | obj members => cases hfound : permissionOf? members <;> simp [ofJson, hfound, Json.isScalar]
  | arr items => simp [ofJson, Json.isScalar]
  | null | bool | num | str => simp [ofJson, Json.isScalar]

theorem ofJson_obj_eq_node_iff {slot : Option (List (String × Tree))} :
    ofJson (.obj members) = .node permission slot children ↔
      ∃ value, permissionOf? members = some value ∧ Leaf.ofJson value = permission ∧
        actionsOf members = slot ∧ childrenOf members = children := by
  cases hfound : permissionOf? members <;> simp [ofJson, hfound]

theorem ofJson_obj_eq_group_iff :
    ofJson (.obj members) = .group entries ↔
      permissionOf? members = none ∧ ofMembers members = entries := by
  cases hfound : permissionOf? members <;> simp [ofJson, hfound]

/-- The actions that a value under their key stands for. -/
def actionsIn : Json → Option (List (String × Tree))
  | .obj members => some (ofMembers members)
  | _ => none

theorem actionsOf_eq (hascending : Ascending members) :
    actionsOf members = (members.lookup actionsKey).bind actionsIn := by
  induction members with
  | nil => rfl
  | cons entry rest ih =>
      obtain ⟨key, value⟩ := entry
      rw [List.lookup_cons]
      by_cases hkey : key = actionsKey
      · subst hkey
        -- The key does not come again, so a value there that is no object leaves no actions.
        have hrest : actionsOf rest = none :=
          actionsOf_eq_none fun entry hentry => hascending.ne_of_mem hentry
        cases value with
        | obj members => simp [actionsOf, actionsIn]
        | null | bool | num | str | arr => simp [actionsOf, actionsIn, hrest]
      · rw [actionsOf_cons_of_ne hkey, ih (List.pairwise_cons.mp hascending).2,
          beq_false_of_ne (Ne.symm hkey)]

/-- Whether a member of a node is one of its children. -/
def isChild : String × Json → Bool
  | (key, .obj _) => key != permissionKey && key != actionsKey
  | (key, _) => key != permissionKey

theorem childrenOf_eq (members : List (String × Json)) :
    childrenOf members = ofMembers (members.filter isChild) := by
  induction members with
  | nil => rfl
  | cons entry rest ih =>
      obtain ⟨key, value⟩ := entry
      -- Only an object can be the actions; anything else under their key is a child.
      cases value with
      | obj inner =>
          by_cases hkey : key = permissionKey ∨ key = actionsKey
          · rw [childrenOf, if_pos hkey, List.filter_cons_of_neg, ih]
            rcases hkey with rfl | rfl <;> simp [isChild]
          · rw [childrenOf, if_neg hkey, List.filter_cons_of_pos, ih, ofMembers]
            rw [not_or] at hkey
            simp [isChild, hkey.1, hkey.2]
      | null | bool | num | str | arr =>
          by_cases hkey : key = permissionKey
          · rw [childrenOf, if_pos hkey, List.filter_cons_of_neg, ih]
            · simp [isChild, hkey]
            · simp
          · rw [childrenOf, if_neg hkey, List.filter_cons_of_pos, ih, ofMembers]
            · simp [isChild, hkey]
            · simp

theorem filter_isChild_of_actionsIn_eq_none (hascending : Ascending members)
    (hnone : (members.lookup actionsKey).bind actionsIn = none) :
    members.filter isChild = members.filter fun entry => entry.1 != permissionKey := by
  refine List.filter_congr ?_
  rintro ⟨key, value⟩ hentry
  cases value with
  | obj inner =>
      have hkey : key ≠ actionsKey := by
        rintro rfl
        rw [hascending.lookup_eq_some_iff.mpr hentry] at hnone
        contradiction
      simp [isChild, hkey]
  | null | bool | num | str | arr => rfl

theorem filter_isChild_of_obj (hascending : Ascending members)
    (hactions : members.lookup actionsKey = some (.obj inner)) :
    members.filter isChild =
      members.filter fun entry => entry.1 != permissionKey && entry.1 != actionsKey := by
  refine List.filter_congr ?_
  rintro ⟨key, value⟩ hentry
  cases value with
  | obj inner => rfl
  | null | bool | num | str | arr =>
      have hkey : key ≠ actionsKey := by
        rintro rfl
        rw [hascending.lookup_eq_some_iff.mpr hentry] at hactions
        cases hactions
      simp [isChild, hkey]

/-! ## From a value and back -/

/-- The slots of a node hold all members of the object, if what is in them is written as it
was. -/
theorem toJson_ofJson_of_permissionOf? {permission : Json} (hascending : Ascending members)
    (hpermission : permissionOf? members = some permission)
    (hmembers : membersJson (ofMembers members) = members)
    (hactions : ∀ inner, (actionsKey, .obj inner) ∈ members →
      membersJson (ofMembers inner) = inner) :
    (ofJson (.obj members)).toJson = .obj members := by
  have hlookup : members.lookup permissionKey = some permission :=
    (Option.filter_eq_some_iff.mp hpermission).1
  have hkept : ∀ p, membersJson (ofMembers (members.filter p)) = members.filter p := by
    intro p
    rw [membersJson_ofMembers_iff] at hmembers ⊢
    exact fun entry hentry => hmembers entry (List.mem_filter.mp hentry).1
  rw [ofJson, hpermission]
  simp only
  rw [actionsOf_eq hascending, childrenOf_eq]
  -- Without actions, the children and the leaf of the node are all members.
  cases hslot : (members.lookup actionsKey).bind actionsIn with
  | none =>
      rw [filter_isChild_of_actionsIn_eq_none hascending hslot, toJson, hkept,
        Leaf.toJson_ofJson, hascending.putEntry_filter hlookup]
  | some actions =>
      obtain ⟨held, hheld, hin⟩ := Option.bind_eq_some_iff.mp hslot
      cases held with
      | obj inner =>
          obtain rfl : ofMembers inner = actions := Option.some.inj hin
          have hinner := hactions inner (hascending.lookup_eq_some_iff.mp hheld)
          -- First the leaf goes back among the members beside the actions, then the actions.
          have hbeside : (members.filter fun entry => entry.1 != actionsKey).lookup permissionKey =
              some permission := by
            rw [hascending.lookup_filter, hlookup]
            rfl
          have hleaf := (hascending.filter fun entry => entry.1 != actionsKey).putEntry_filter
            hbeside
          rw [List.filter_filter] at hleaf
          rw [filter_isChild_of_obj hascending hheld, toJson, hkept, hinner, Leaf.toJson_ofJson,
            hleaf, hascending.putEntry_filter hheld]
      | null | bool | num | str | arr => contradiction

mutual
theorem toJson_ofJson (value : Json) (hordered : value.Ordered) :
    (ofJson value).toJson = value := by
  cases value with
  | null | bool | num | str => simp only [ofJson, toJson, Leaf.toJson_ofJson]
  | arr items => rw [ofJson, toJson, itemsJson_ofItems items hordered]
  | obj members =>
      obtain ⟨hascending, hmembers⟩ := hordered
      have hread := membersJson_ofMembers members hmembers
      cases hpermission : permissionOf? members with
      | none =>
          rw [ofJson, hpermission]
          simp only
          rw [toJson, hread]
      | some permission =>
          exact toJson_ofJson_of_permissionOf? hascending hpermission hread
            (membersJson_ofMembers_of_mem members hmembers)
theorem itemsJson_ofItems (items : List Json) (hordered : Json.OrderedItems items) :
    itemsJson (ofItems items) = items := by
  cases items with
  | nil => rfl
  | cons item rest =>
      obtain ⟨hitem, hrest⟩ := hordered
      rw [ofItems, itemsJson, toJson_ofJson item hitem, itemsJson_ofItems rest hrest]
theorem membersJson_ofMembers (members : List (String × Json))
    (hordered : Json.OrderedMembers members) : membersJson (ofMembers members) = members := by
  cases members with
  | nil => rfl
  | cons entry rest =>
      obtain ⟨key, value⟩ := entry
      obtain ⟨hvalue, hrest⟩ := hordered
      rw [ofMembers, membersJson, toJson_ofJson value hvalue, membersJson_ofMembers rest hrest]
/-- The members of an object among the members are read and written one by one. -/
theorem membersJson_ofMembers_of_mem (members : List (String × Json))
    (hordered : Json.OrderedMembers members) (inner : List (String × Json))
    (hmem : (actionsKey, .obj inner) ∈ members) : membersJson (ofMembers inner) = inner := by
  cases members with
  | nil => contradiction
  | cons entry rest =>
      obtain ⟨key, value⟩ := entry
      obtain ⟨hvalue, hrest⟩ := hordered
      cases value with
      | obj first =>
          by_cases hfirst : inner = first
          · -- The order of an object is that of its members, so the recursion can enter it here.
            rw [hfirst]
            exact membersJson_ofMembers first hvalue.2
          · refine membersJson_ofMembers_of_mem rest hrest inner ?_
            simpa [hfirst] using hmem
      | null | bool | num | str | arr =>
          exact membersJson_ofMembers_of_mem rest hrest inner (by simpa using hmem)
end

/-! ## From a tree and back -/

theorem ofJson_toJson_leaf_iff :
    ofJson (Tree.leaf leaf).toJson = .leaf leaf ↔ leaf.Canonical := by
  rw [toJson, ofJson_eq_leaf_iff, Leaf.canonical_iff]

/-- Of the trees that are read back, those that are found by keys are written as objects. -/
theorem actionsIn_toJson_eq_none_iff (hread : ofJson tree.toJson = tree) :
    actionsIn tree.toJson = none ↔ tree.isKeyed = false := by
  cases tree with
  | leaf value =>
      rw [ofJson_toJson_leaf_iff, Leaf.canonical_iff] at hread
      rw [toJson]
      cases hvalue : value.toJson with
      | obj members =>
          rw [hvalue] at hread
          exact absurd hread.1 (by simp [Json.isScalar])
      | null | bool | num | str | arr => simp [actionsIn, isKeyed]
  | node permission slot children => cases slot <;> simp [toJson, actionsIn, isKeyed]
  | group members => simp [toJson, actionsIn, isKeyed]
  | list items => simp [toJson, actionsIn, isKeyed]

/-- Of the trees that are read back, the leaves are those that are written as scalars. -/
theorem isScalar_toJson_iff (hread : ofJson tree.toJson = tree) :
    tree.toJson.isScalar = true ↔ ∃ leaf, tree = .leaf leaf := by
  constructor
  · intro hscalar
    exact ⟨Leaf.ofJson tree.toJson, hread ▸ ofJson_eq_leaf_iff.mpr ⟨hscalar, by rw [hread]⟩⟩
  · rintro ⟨leaf, rfl⟩
    exact (ofJson_eq_leaf_iff.mp hread).1

theorem ofJson_toJson_group_iff :
    ofJson (group entries).toJson = group entries ↔
      (∀ leaf, entries.lookup permissionKey ≠ some (.leaf leaf)) ∧
        ofMembers (membersJson entries) = entries := by
  have hfound : permissionOf? (membersJson entries) =
      ((entries.lookup permissionKey).map toJson).filter Json.isScalar := by
    rw [permissionOf?, lookup_membersJson]
  rw [toJson, ofJson_obj_eq_group_iff, hfound, and_congr_left_iff]
  intro hread
  rw [ofMembers_membersJson_iff_forall] at hread
  cases hlookup : entries.lookup permissionKey with
  | none => simp
  | some child =>
      -- What is no leaf is no scalar when it is written, so it makes no node of the group.
      have hchild : ofJson child.toJson = child := hread _ (mem_of_lookup_eq_some hlookup)
      have hscalar := isScalar_toJson_iff hchild
      simp only [Option.map_some, Option.filter_some, Option.some.injEq, ne_eq]
      cases hcase : child.toJson.isScalar with
      | true =>
          obtain ⟨leaf, rfl⟩ := hscalar.mp hcase
          simp
      | false =>
          rw [hcase] at hscalar
          simpa using hscalar

/-- What stands under `actions` among children that are read back is no actions. -/
theorem bind_actionsIn_eq_none_iff (hread : ofMembers (membersJson children) = children) :
    ((children.lookup actionsKey).map toJson).bind actionsIn = none ↔
      ∀ child, children.lookup actionsKey = some child → child.isKeyed = false := by
  rw [ofMembers_membersJson_iff_forall] at hread
  cases hlookup : children.lookup actionsKey with
  | none => simp
  | some child =>
      have hchild : ofJson child.toJson = child := hread _ (mem_of_lookup_eq_some hlookup)
      simpa using actionsIn_toJson_eq_none_iff hchild

/-- The leaf of a node is read back when it stands under its key and is canonical. -/
theorem exists_permissionOf?_iff (hlookup : members.lookup permissionKey = some permission.toJson) :
    (∃ value, permissionOf? members = some value ∧ Leaf.ofJson value = permission) ↔
      permission.Canonical := by
  rw [Leaf.canonical_iff, permissionOf?, hlookup]
  constructor
  · rintro ⟨value, hfound, hvalue⟩
    obtain ⟨hsame, hscalar⟩ := Option.filter_eq_some_iff.mp hfound
    rw [Option.some.inj hsame]
    exact ⟨hscalar, hvalue⟩
  · rintro ⟨hscalar, hvalue⟩
    exact ⟨permission.toJson, by rw [Option.filter_some, if_pos hscalar], hvalue⟩

theorem ofJson_toJson_node_none_iff (hascending : Ascending children) :
    ofJson (node permission none children).toJson = node permission none children ↔
      permission.Canonical ∧ children.lookup permissionKey = none ∧
        (∀ child, children.lookup actionsKey = some child → child.isKeyed = false) ∧
        ofMembers (membersJson children) = children := by
  let members := putEntry permissionKey permission.toJson (membersJson children)
  have hmembers : Ascending members := (ascending_membersJson hascending).putEntry
  -- What is written is looked at slot by slot: the leaf, the actions and the children.
  have hleaf : (∃ value, permissionOf? members = some value ∧ Leaf.ofJson value = permission) ↔
      permission.Canonical := exists_permissionOf?_iff (lookup_putEntry_self ..)
  have hslot : actionsOf members = ((children.lookup actionsKey).map toJson).bind actionsIn := by
    rw [actionsOf_eq hmembers, lookup_putEntry_of_ne (by decide), lookup_membersJson]
  have hkept : (members.filter fun entry => entry.1 != permissionKey) =
      membersJson (children.filter fun entry => entry.1 != permissionKey) := by
    rw [filter_putEntry (p := (· != permissionKey)) (by simp), filter_membersJson (· != _)]
  have hchildren : actionsOf members = none → (childrenOf members = children ↔
      children.lookup permissionKey = none ∧ ofMembers (membersJson children) = children) := by
    intro hnone
    rw [actionsOf_eq hmembers] at hnone
    rw [childrenOf_eq, filter_isChild_of_actionsIn_eq_none hmembers hnone, hkept,
      ofMembers_membersJson_filter_iff (· != permissionKey), lookup_eq_none_iff_ne]
  -- Whether there are actions depends on what the children are read back as.
  rw [toJson, ofJson_obj_eq_node_iff, ← hleaf]
  constructor
  · rintro ⟨value, hfound, hvalue, hnone, hread⟩
    obtain ⟨hfree, hread⟩ := (hchildren hnone).mp hread
    rw [hslot, bind_actionsIn_eq_none_iff hread] at hnone
    exact ⟨⟨value, hfound, hvalue⟩, hfree, hnone, hread⟩
  · rintro ⟨⟨value, hfound, hvalue⟩, hfree, hplain, hread⟩
    rw [← bind_actionsIn_eq_none_iff hread, ← hslot] at hplain
    exact ⟨value, hfound, hvalue, hplain, (hchildren hplain).mpr ⟨hfree, hread⟩⟩

theorem ofJson_toJson_node_some_iff (hascending : Ascending children) :
    ofJson (node permission (some actions) children).toJson =
        node permission (some actions) children ↔
      permission.Canonical ∧ children.lookup permissionKey = none ∧
        children.lookup actionsKey = none ∧ ofMembers (membersJson actions) = actions ∧
        ofMembers (membersJson children) = children := by
  let p : String → Bool := fun key => key != permissionKey && key != actionsKey
  let members := putEntry actionsKey (.obj (membersJson actions))
    (putEntry permissionKey permission.toJson (membersJson children))
  have hmembers : Ascending members := (ascending_membersJson hascending).putEntry.putEntry
  have hlookup : members.lookup actionsKey = some (.obj (membersJson actions)) :=
    lookup_putEntry_self ..
  -- The actions are put in last, under a key of their own, so the leaf is still found.
  have hleaf : (∃ value, permissionOf? members = some value ∧ Leaf.ofJson value = permission) ↔
      permission.Canonical :=
    exists_permissionOf?_iff
      ((lookup_putEntry_of_ne (by decide) ..).trans (lookup_putEntry_self ..))
  have hslot : actionsOf members = some (ofMembers (membersJson actions)) := by
    rw [actionsOf_eq hmembers, hlookup]
    rfl
  -- A child under either key gives way, and the others are written as they are.
  have hkept : (members.filter fun entry => p entry.1) =
      membersJson (children.filter fun entry => p entry.1) := by
    rw [filter_putEntry (p := p) (by simp [p]), filter_putEntry (p := p) (by simp [p]),
      filter_membersJson p]
  have hchildren : childrenOf members = children ↔ children.lookup permissionKey = none ∧
      children.lookup actionsKey = none ∧ ofMembers (membersJson children) = children := by
    rw [childrenOf_eq, filter_isChild_of_obj hmembers hlookup]
    rw [hkept, ofMembers_membersJson_filter_iff p, lookup_eq_none_iff_ne, lookup_eq_none_iff_ne,
      ← and_assoc]
    simp only [p, Bool.and_eq_true, ← forall_and]
  rw [toJson, ofJson_obj_eq_node_iff, ← hleaf]
  constructor
  · rintro ⟨value, hfound, hvalue, hsame, hread⟩
    obtain ⟨hfree, hfree', hread⟩ := hchildren.mp hread
    exact ⟨⟨value, hfound, hvalue⟩, hfree, hfree', Option.some.inj (hslot ▸ hsame), hread⟩
  · rintro ⟨⟨value, hfound, hvalue⟩, hfree, hfree', hsame, hread⟩
    exact ⟨value, hfound, hvalue, by rw [hslot, hsame], hchildren.mpr ⟨hfree, hfree', hread⟩⟩

mutual
theorem ofJson_toJson_iff (tree : Tree) (hordered : tree.Ordered) :
    ofJson tree.toJson = tree ↔ tree.Canonical := by
  cases tree with
  | leaf value => exact ofJson_toJson_leaf_iff
  | node permission slot children =>
      cases slot with
      | none =>
          obtain ⟨hascending, hchildren⟩ := hordered
          rw [ofJson_toJson_node_none_iff hascending, ofMembers_membersJson_iff children hchildren,
            Canonical]
      | some actions =>
          obtain ⟨_, hactions, hascending, hchildren⟩ := hordered
          rw [ofJson_toJson_node_some_iff hascending, ofMembers_membersJson_iff actions hactions,
            ofMembers_membersJson_iff children hchildren, Canonical]
  | group members =>
      rw [ofJson_toJson_group_iff, ofMembers_membersJson_iff members hordered.2, Canonical]
  | list items =>
      rw [toJson, ofJson, list.injEq, ofItems_itemsJson_iff items hordered, Canonical]
theorem ofItems_itemsJson_iff (items : List Tree) (hordered : OrderedItems items) :
    ofItems (itemsJson items) = items ↔ CanonicalItems items := by
  cases items with
  | nil => simp [itemsJson, ofItems, CanonicalItems]
  | cons item rest =>
      obtain ⟨hitem, hrest⟩ := hordered
      rw [itemsJson, ofItems, List.cons.injEq, ofJson_toJson_iff item hitem,
        ofItems_itemsJson_iff rest hrest, CanonicalItems]
theorem ofMembers_membersJson_iff (entries : List (String × Tree))
    (hordered : OrderedMembers entries) :
    ofMembers (membersJson entries) = entries ↔ CanonicalMembers entries := by
  cases entries with
  | nil => simp [membersJson, ofMembers, CanonicalMembers]
  | cons entry rest =>
      obtain ⟨key, tree⟩ := entry
      obtain ⟨htree, hrest⟩ := hordered
      rw [membersJson, ofMembers, List.cons.injEq, Prod.mk.injEq, ofJson_toJson_iff tree htree,
        ofMembers_membersJson_iff rest hrest, CanonicalMembers, and_iff_right rfl]
end

/-- **Values round-trip, and so do canonical trees.**  Reading a value as a tree and writing
the tree gives the value.  Writing a tree and reading what was written gives the tree exactly
when the tree is canonical. -/
theorem toJson_ofJson_and_ofJson_toJson_iff :
    (∀ value : Json, value.Ordered → (ofJson value).toJson = value) ∧
      ∀ tree : Tree, tree.Ordered → (ofJson tree.toJson = tree ↔ tree.Canonical) :=
  ⟨toJson_ofJson, ofJson_toJson_iff⟩

end Tree

namespace Sample

/-- A node with actions and with a child that holds a number in place of a level. -/
def reviewTree : Tree :=
  .node (.access .writeAccess) (some [("approve", .leaf (.access .viewAccess))])
    [("archive", .list [.leaf (.unrecognized (.int 3))])]

/-- A group with a leaf under the key that makes an object a node. -/
def strayTree : Tree := .group [("permission", .leaf (.access .viewAccess))]

theorem ordered_reviewTree : reviewTree.Ordered := by
  simp [reviewTree, Tree.Ordered, Tree.OrderedMembers, Tree.OrderedItems, Ascending]

theorem canonical_reviewTree : reviewTree.Canonical := by
  simp [reviewTree, Tree.Canonical, Tree.CanonicalMembers, Tree.CanonicalItems, Leaf.Canonical,
    Tree.permissionKey, Tree.actionsKey, Json.isScalar, Json.int]

theorem ordered_strayTree : strayTree.Ordered := by
  simp [strayTree, Tree.Ordered, Tree.OrderedMembers, Ascending]

theorem not_canonical_strayTree : ¬ strayTree.Canonical := by
  simp [strayTree, Tree.Canonical, Tree.permissionKey]

end Sample

/-- A value of every shape and a tree with its entries in place come back as they were, and a
leaf that stands where only nodes have one does not. -/
theorem round_trips_of_samples :
    (Tree.ofJson Sample.mixedValue).toJson = Sample.mixedValue ∧
      Tree.ofJson Sample.reviewTree.toJson = Sample.reviewTree ∧
      Tree.ofJson Sample.strayTree.toJson ≠ Sample.strayTree := by
  obtain ⟨hvalue, htree⟩ := Tree.toJson_ofJson_and_ofJson_toJson_iff
  refine ⟨hvalue _ Sample.ordered_mixedValue, ?_, ?_⟩
  · exact (htree _ Sample.ordered_reviewTree).mpr Sample.canonical_reviewTree
  · intro hsame
    exact Sample.not_canonical_strayTree ((htree _ Sample.ordered_strayTree).mp hsame)

end Entitlement
