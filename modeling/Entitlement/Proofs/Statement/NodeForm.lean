import Entitlement.Proofs.Statement.OfRole
import Entitlement.Proofs.Tree.Grants

/-!
# A grant written as a node

A level that stands at a path can also be written as a node without actions and children, which
has the level as its own leaf.  That leaf is reported one segment further down, at the path
followed by `permission`, and all other leaves stay where they are
(`Tree.exists_flatten_fill_level`).

The two spellings are not always the same grant.  The table knows a single path that ends in
`permission`, and what it says about it is what the words of the path say.  So the leaf of a node
always means what the words of the node's path suggest (`Meaning.ofPath_joinPath_permission`),
while the bare leaf means what the table says.

The paths where the two differ are listed in `Meaning.overridden`.  That the list is right is
checked entry by entry (`Meaning.isSuggested_iff_of_mem_table`); indices in a path do not count
for either spelling.  There, and only there, the two statements differ, and the node loses
every condition of the table (`node_keeps_right_iff`).

Two statements are compared with their conditions on the organization, which could hide that
one has lost a condition.  They do not, since no entry of the table is about the organization
(`isEmpty_of_confined_eq`).
-/

namespace Entitlement

/-! ## What the leaf of a node means -/

namespace Meaning

variable {path : String} {entry : Entry}

/-! ### Entries that the words suggest too -/

/-- The words of an entry's path suggest the meaning that the entry has. -/
def Entry.isSuggested (entry : Entry) : Bool :=
  entry.meaning.conditions.isEmpty && entry.meaning.fields.isNone &&
    entry.meaning.subject == inferSubject entry.path &&
    entry.meaning.action == inferAction entry.path

/-- The paths of the table whose meaning the words do not suggest. -/
def overridden : List String := [
  "documentRepoAccess.approved", "documentRepoAccess.pending", "documentRepoAccess.rejected",
  "documentRepoAccess.draft", "reviewWorkflow.actions.approve", "reviewWorkflow.actions.reject",
  "reviewWorkflow.actions.comment", "taskAccess.assigned", "escalatedTasksAccess.view",
  "escalatedTasksAccess.reassign", "escalatedTasksAccess.notify", "userManagement.profile"]

theorem Entry.meaning_eq_inferred (hsuggested : entry.isSuggested = true) :
    entry.meaning = inferred entry.path := by
  obtain ⟨path, subject, action, ⟨entries, hascending⟩, fields⟩ := entry
  simp only [isSuggested, Dict.isEmpty, Bool.and_eq_true, beq_iff_eq, List.isEmpty_iff,
    Option.isNone_iff_eq_none] at hsuggested
  obtain ⟨⟨⟨rfl, rfl⟩, hsubject⟩, haction⟩ := hsuggested
  subst hsubject haction
  rfl

theorem isSuggested_iff_of_mem_table (hentry : entry ∈ table) :
    entry.isSuggested = true ↔ entry.path ∉ overridden := by
  have hall : table.all
      (fun entry => entry.isSuggested == !overridden.contains entry.path) = true := by
    decide +kernel
  have hagree := List.all_eq_true.mp hall entry hentry
  rw [beq_iff_eq] at hagree
  simp [hagree]

theorem exists_mem_table_of_mem_overridden (hpath : path ∈ overridden) :
    ∃ entry ∈ table, entry.path = path := by
  have hall : overridden.all (fun path => table.any fun entry => entry.path == path) = true := by
    decide
  simpa using List.all_eq_true.mp hall path hpath

/-! ### The leaf of a node -/

theorem isSuggested_of_getLast? (hentry : entry ∈ table)
    (hlast : (segments entry.path).getLast? = some Tree.permissionKey.toList) :
    entry.isSuggested = true := by
  have hall : overridden.all
      (fun path => (segments path).getLast? != some Tree.permissionKey.toList) = true := by
    decide
  refine (isSuggested_iff_of_mem_table hentry).mpr ?_
  intro hpath
  have hother := List.all_eq_true.mp hall entry.path hpath
  simp [hlast] at hother

theorem getLast?_keySegments_permission (path : String) :
    (keySegments (joinPath path Tree.permissionKey)).getLast? =
      some Tree.permissionKey.toList := by
  by_cases hempty : path = ""
  · subst hempty
    decide
  · have hkey : (segments Tree.permissionKey).filter (fun segment => !isIndex segment) =
        [Tree.permissionKey.toList] := by
      decide
    rw [keySegments, segments_joinPath hempty, List.filter_append, hkey, List.getLast?_concat]

theorem inferred_joinPath_permission (path : String) :
    inferred (joinPath path Tree.permissionKey) = inferred path :=
  inferred_congr (tellingSegments_joinPath (by decide))

/-- **The leaf of a node means what the words of the node's path suggest.** -/
theorem ofPath_joinPath_permission (path : String) :
    ofPath (joinPath path Tree.permissionKey) = inferred path := by
  rw [ofPath]
  cases hfound : lookup? (joinPath path Tree.permissionKey) with
  | none => exact inferred_joinPath_permission path
  | some entry =>
      -- An entry of the table with such a path is one that the words suggest.
      have hlast := getLast?_keySegments_permission path
      rw [← segments_of_lookup? hfound] at hlast
      have hsuggested := isSuggested_of_getLast? (mem_table_of_lookup? hfound) hlast
      calc entry.meaning
          = inferred entry.path := Entry.meaning_eq_inferred hsuggested
        _ = inferred (joinPath path Tree.permissionKey) := by
            rw [path_of_lookup? hfound]
            exact inferred_congr (tellingSegments_withoutIndices _)
        _ = inferred path := inferred_joinPath_permission path

/-! ### Overridden paths -/

theorem ofPath_eq_inferred (hpath : withoutIndices path ∉ overridden) :
    ofPath path = inferred path := by
  rw [ofPath]
  cases hfound : lookup? path with
  | none => rfl
  | some entry =>
      rw [← path_of_lookup? hfound, ← isSuggested_iff_of_mem_table (mem_table_of_lookup? hfound)]
        at hpath
      show entry.meaning = inferred path
      rw [Entry.meaning_eq_inferred hpath, path_of_lookup? hfound]
      exact inferred_congr (tellingSegments_withoutIndices path)

/-- At an overridden path stands an entry that the words do not suggest. -/
theorem exists_lookup?_of_mem_overridden (hpath : withoutIndices path ∈ overridden) :
    ∃ entry ∈ table, lookup? path = some entry ∧ entry.path = withoutIndices path ∧
      entry.isSuggested = false := by
  obtain ⟨listed, hlisted, hsame⟩ := exists_mem_table_of_mem_overridden hpath
  have hsome : (table.find? (·.path == withoutIndices path)).isSome = true :=
    List.find?_isSome.mpr ⟨listed, hlisted, by simpa using hsame⟩
  obtain ⟨entry, hfound⟩ := Option.isSome_iff_exists.mp hsome
  rw [← lookup?_eq_find?] at hfound
  have hentry := mem_table_of_lookup? hfound
  refine ⟨entry, hentry, hfound, path_of_lookup? hfound, ?_⟩
  -- The entry that is found has this path, though it need not be the one that was listed.
  rw [← path_of_lookup? hfound] at hpath
  rw [← Bool.not_eq_true, isSuggested_iff_of_mem_table hentry]
  exact not_not_intro hpath

end Meaning

/-! ## The statements of both spellings -/

/-! ### The two spellings -/

namespace Tree

/-- A level as it is written at the end of a path. -/
theorem ofJson_level (level : Level) : ofJson (.str level.name) = .leaf (.access level) := by
  cases level <;> rfl

/-- The same level as it is written in a node. -/
theorem ofJson_node (level : Level) :
    ofJson (.obj [(permissionKey, .str level.name)]) = .node (.access level) none [] := by
  cases level <;> rfl

/-- A level at a position and the same level in a node there are walked among the
same other leaves. -/
theorem exists_flatten_fill_level (position : Position) (level : Level) :
    ∃ before after,
      (position.fill (ofJson (.str level.name))).flatten =
        before ++ ⟨position.pathFrom "", .access level⟩ :: after ∧
      (position.fill (ofJson (.obj [(permissionKey, .str level.name)]))).flatten =
        before ++ ⟨joinPath (position.pathFrom "") permissionKey, .access level⟩ :: after := by
  obtain ⟨before, after, hfill⟩ := position.exists_grantsAt_fill ""
  refine ⟨before, after, ?_, ?_⟩
  · rw [flatten, flattenAt_eq_grantsAt, hfill, ofJson_level, grantsAt, List.append_assoc,
      List.singleton_append]
  · rw [flatten, flattenAt_eq_grantsAt, hfill, ofJson_node, grantsAt, grantsOfMembers,
      List.append_assoc, List.singleton_append]

end Tree

/-! ### The same right -/

namespace Statement

/-- Two statements are about the same right, under the same conditions and on the
same fields. -/
structure SameRight (statement other : Statement) : Prop where
  subject : statement.subject = other.subject
  action : statement.action = other.action
  conditions : statement.conditions = other.conditions
  fields : statement.fields = other.fields

variable {role : Role} {path : String} {level : Level}

/-- Conditions on other keys than these two stay visible among them. -/
theorem isEmpty_of_confined_eq {conditions : Conditions}
    (hfree : ∀ entry ∈ conditions.entries, entry.1 ≠ "domain" ∧ entry.1 ≠ "department")
    (hsame : confined role conditions = confined role ∅) : conditions.isEmpty = true := by
  rw [Dict.isEmpty, List.isEmpty_iff, List.eq_nil_iff_forall_not_mem]
  rintro ⟨key, condition⟩ hentry
  obtain ⟨hdomain, hdepartment⟩ := hfree _ hentry
  -- A condition of the table would be kept under its key, where the organization has none.
  have hkept : (confined role conditions).get? key = some condition := by
    rw [get?_confined_of_ne hdomain hdepartment]
    exact Dict.get?_eq_some_iff.mpr hentry
  have hnone : (confined role ∅).get? key = none := by
    rw [get?_confined_of_ne hdomain hdepartment]
    rfl
  rw [hsame, hnone] at hkept
  contradiction

/-- No entry of the table has a condition on the organization. -/
theorem keys_of_mem_table {entry : Meaning.Entry} (hentry : entry ∈ Meaning.table) :
    ∀ condition ∈ entry.meaning.conditions.entries,
      condition.1 ≠ "domain" ∧ condition.1 ≠ "department" := by
  have hall : Meaning.table.all (fun entry => entry.meaning.conditions.entries.all fun condition =>
      condition.1 != "domain" && condition.1 != "department") = true := by
    decide
  simpa using List.all_eq_true.mp hall entry hentry

theorem sameRight_ofGrant_iff {other : String} :
    (ofGrant role path level).SameRight (ofGrant role other level) ↔
      (Meaning.ofPath path).subject = (Meaning.ofPath other).subject ∧
        (Meaning.ofPath path).action = (Meaning.ofPath other).action ∧
        confined role (Meaning.ofPath path).conditions =
          confined role (Meaning.ofPath other).conditions ∧
        (Meaning.ofPath path).fields = (Meaning.ofPath other).fields := by
  constructor
  · rintro ⟨hsubject, haction, hconditions, hfields⟩
    exact ⟨hsubject, haction, hconditions, hfields⟩
  · rintro ⟨hsubject, haction, hconditions, hfields⟩
    exact ⟨hsubject, haction, hconditions, hfields⟩

/-- An entry that makes the statement of the node is one that the words suggest. -/
theorem isSuggested_of_sameRight_node {entry : Meaning.Entry}
    (hfound : Meaning.lookup? path = some entry)
    (hsame : (ofGrant role path level).SameRight
      (ofGrant role (joinPath path Tree.permissionKey) level)) :
    entry.isSuggested = true := by
  have hpath : Meaning.ofPath path = entry.meaning := by
    rw [Meaning.ofPath, hfound]
    rfl
  have hwords : Meaning.inferred path = Meaning.inferred entry.path := by
    rw [Meaning.path_of_lookup? hfound]
    exact (Meaning.inferred_congr (Meaning.tellingSegments_withoutIndices path)).symm
  rw [sameRight_ofGrant_iff, Meaning.ofPath_joinPath_permission, hpath, hwords] at hsame
  obtain ⟨hsubject, haction, hconditions, hfields⟩ := hsame
  -- Conditions of the table would still be seen beside those on the organization.
  have hempty := isEmpty_of_confined_eq (keys_of_mem_table (Meaning.mem_table_of_lookup? hfound))
    hconditions
  rw [Meaning.Entry.isSuggested, hsubject, haction, hfields, hempty]
  simp [Meaning.inferred]

theorem sameRight_node_iff :
    (ofGrant role path level).SameRight (ofGrant role (joinPath path Tree.permissionKey) level) ↔
      Meaning.withoutIndices path ∉ Meaning.overridden := by
  constructor
  · intro hsame hoverridden
    obtain ⟨entry, _, hfound, _, hnot⟩ := Meaning.exists_lookup?_of_mem_overridden hoverridden
    have hsuggested := isSuggested_of_sameRight_node hfound hsame
    rw [hnot] at hsuggested
    exact Bool.false_ne_true hsuggested
  · intro hpath
    -- Off these paths both spellings mean what the words suggest.
    rw [sameRight_ofGrant_iff, Meaning.ofPath_joinPath_permission,
      Meaning.ofPath_eq_inferred hpath]
    exact ⟨rfl, rfl, rfl, rfl⟩

/-- **When the two spellings are the same grant.**  A level at a path and the same
level in a node there make statements of the same right exactly when the path,
without its indices, is not overridden; the statement of the node never has a
condition but those on the organization.  Wherever the level stands in a tree, the
walk reports the two spellings at these two paths and all else alike. -/
theorem node_keeps_right_iff (role : Role) (level : Level) :
    (∀ path, (ofGrant role path level).SameRight
        (ofGrant role (joinPath path Tree.permissionKey) level) ↔
      Meaning.withoutIndices path ∉ Meaning.overridden) ∧
    (∀ path, (ofGrant role (joinPath path Tree.permissionKey) level).conditions =
      ((∅ : Conditions).insert "domain" (.text role.domain)).insert "department"
        (.text role.department)) ∧
    ∀ position : Tree.Position, ∃ before after,
      (position.fill (.ofJson (.str level.name))).flatten =
        before ++ ⟨position.pathFrom "", .access level⟩ :: after ∧
      (position.fill (.ofJson (.obj [(Tree.permissionKey, .str level.name)]))).flatten =
        before ++ ⟨joinPath (position.pathFrom "") Tree.permissionKey, .access level⟩ :: after := by
  refine ⟨fun path => sameRight_node_iff, fun path => ?_,
    fun position => Tree.exists_flatten_fill_level position level⟩
  rw [conditions_ofGrant, Meaning.ofPath_joinPath_permission]
  rfl

/-- A role that lets the actor look at the tasks that are assigned to it, written
as a node. -/
def assignee : Role where
  id := ⟨List.replicate 32 (Fin.last 15), List.length_replicate⟩
  domain := "acme"
  department := "legal"
  roleName := "assignee"
  tree := .group [("taskAccess", .group [("assigned", .node (.access .viewAccess) none [])])]
  userIds := []
  groupIds := []

/-- The two spellings are not always the same grant: in a node, the right to look
at one's own tasks is the right to look at all tasks of the organization. -/
theorem not_forall_sameRight_node :
    ¬ ∀ (role : Role) (path : String) (level : Level),
      (ofGrant role path level).SameRight
        (ofGrant role (joinPath path Tree.permissionKey) level) := by
  intro hall
  have hconditions := (hall assignee "taskAccess.assigned" .viewAccess).conditions
  -- The bare leaf is confined to own tasks, and the leaf of the node is not.
  have hbare : ((ofGrant assignee "taskAccess.assigned" .viewAccess).conditions.get?
      "assignedTo").isSome = true := by
    decide +kernel
  have hnode : ((ofGrant assignee (joinPath "taskAccess.assigned" Tree.permissionKey)
      .viewAccess).conditions.get? "assignedTo").isSome = false := by
    decide +kernel
  rw [hconditions, hnode] at hbare
  contradiction

end Statement

end Entitlement
