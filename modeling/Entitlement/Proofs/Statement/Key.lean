import Entitlement.Proofs.Meaning.Right
import Entitlement.Proofs.Statement.NodeForm

/-!
# What a key tells

The key of a statement joins three texts by a character that may also occur inside
them: a subject can be named by any segment of a path, and the conditions hold the
names of organizations.  Among the statements that roles make the key is unambiguous
all the same (`IsGranted.overlaps_of_key_eq`).

It is read from its end, in three steps.

* **Conditions.**  Their text is that of an object, and it begins at the only place that looks
  like the beginning of one (`IsGranted.text_conditions_eq`).  The organization is always among
  them, so the object is never empty (`IsGranted.exists_keyMembers_eq_cons`).  The text tells the
  members, and these tell the conditions, as long as one knows which of them are given by
  name: `readCondition` reads a written form under its key.
* **Action.**  No action that a path can mean has the joining character in its name, so in front
  of the conditions it is what stands behind the last one.
* **Subject.**  What is left is the name of the subject, and a subject that a path means is the
  one of its name.

`key_eq_iff` says it of any two leaves of any two roles, and `key_ne_of_spelled_subject` of a
segment that was made to look like the rest of a key.
-/

namespace Entitlement

namespace Statement

/-- Two statements are about the same right, whatever their levels and fields. -/
structure Overlaps (statement other : Statement) : Prop where
  subject : statement.subject = other.subject
  action : statement.action = other.action
  conditions : statement.conditions = other.conditions

variable {statement other : Statement}

/-! ## Conditions -/

/-- A condition in its written form, read under its key: the organization is always
given by name. -/
def readCondition (key : String) (value : Json) : Condition :=
  if key = "domain" ∨ key = "department" then .literal value else .ofJson value

theorem opensObject_of_mem_table {entry : Meaning.Entry} (hentry : entry ∈ Meaning.table) :
    ∀ condition ∈ entry.meaning.conditions.entries,
      Json.opensObject ('\x7b' :: (Json.quote condition.1).toList) = true := by
  have hall : Meaning.table.all (fun entry => entry.meaning.conditions.entries.all fun condition =>
      Json.opensObject ('\x7b' :: (Json.quote condition.1).toList)) = true := by
    decide
  simpa using List.all_eq_true.mp hall entry hentry

/-- A condition of a role's statement is on the organization, or plain and on
something else. -/
theorem IsGranted.condition_cases (hgranted : statement.IsGranted) {entry : String × Condition}
    (hentry : entry ∈ statement.conditions.entries) :
    (∃ text, entry = ("department", .text text) ∨ entry = ("domain", .text text)) ∨
      (∃ known ∈ Meaning.table, entry ∈ known.meaning.conditions.entries) := by
  obtain ⟨role, path, level, rfl⟩ := hgranted
  rcases eq_or_mem_of_mem_confined hentry with hdepartment | hdomain | hmeaning
  · exact Or.inl ⟨_, Or.inl hdepartment⟩
  · exact Or.inl ⟨_, Or.inr hdomain⟩
  · rcases Meaning.exists_mem_table_or_eq_inferred path with ⟨known, hknown, heq⟩ | heq
    · rw [heq] at hmeaning
      exact Or.inr ⟨known, hknown, hmeaning⟩
    · rw [heq] at hmeaning
      exact absurd hmeaning List.not_mem_nil

theorem IsGranted.readCondition_toJson (hgranted : statement.IsGranted)
    {entry : String × Condition} (hentry : entry ∈ statement.conditions.entries) :
    readCondition entry.1 entry.2.toJson = entry.2 := by
  rcases hgranted.condition_cases hentry with ⟨text, rfl | rfl⟩ | ⟨known, hknown, hmem⟩
  · rfl
  · rfl
  · obtain ⟨hdomain, hdepartment⟩ := keys_of_mem_table hknown entry hmem
    rw [readCondition, if_neg (by simp [hdomain, hdepartment])]
    exact Condition.ofJson_toJson_of_isPlain (Meaning.isPlain_of_mem_table hknown entry hmem)

theorem IsGranted.isLabel_toJson (hgranted : statement.IsGranted)
    {entry : String × Condition} (hentry : entry ∈ statement.conditions.entries) :
    entry.2.toJson.isLabel = true := by
  rcases hgranted.condition_cases hentry with ⟨text, rfl | rfl⟩ | ⟨known, hknown, hmem⟩
  · rfl
  · rfl
  · exact Condition.isLabel_toJson_of_isPlain (Meaning.isPlain_of_mem_table hknown entry hmem)

theorem IsGranted.opensObject_key (hgranted : statement.IsGranted)
    {entry : String × Condition} (hentry : entry ∈ statement.conditions.entries) :
    Json.opensObject ('\x7b' :: (Json.quote entry.1).toList) = true := by
  rcases hgranted.condition_cases hentry with ⟨text, rfl | rfl⟩ | ⟨known, hknown, hmem⟩
  · show Json.opensObject ('\x7b' :: (Json.quote "department").toList) = true
    decide
  · show Json.opensObject ('\x7b' :: (Json.quote "domain").toList) = true
    decide
  · exact opensObject_of_mem_table hknown entry hmem

/-- The members of the object in the key of a statement. -/
def keyMembers (statement : Statement) : List (String × Json) :=
  statement.conditions.entries.map fun entry => (entry.1, entry.2.toJson)

theorem IsGranted.map_readCondition_keyMembers (hgranted : statement.IsGranted) :
    statement.keyMembers.map (fun member => (member.1, readCondition member.1 member.2)) =
      statement.conditions.entries := by
  calc statement.keyMembers.map (fun member => (member.1, readCondition member.1 member.2))
      = statement.conditions.entries.map fun entry =>
          (entry.1, readCondition entry.1 entry.2.toJson) := List.map_map
    _ = statement.conditions.entries.map id := by
        refine List.map_congr_left fun entry hentry => ?_
        rw [hgranted.readCondition_toJson hentry, id]
    _ = statement.conditions.entries := List.map_id _

theorem IsGranted.conditions_eq (hgranted : statement.IsGranted) (hother : other.IsGranted)
    (hmembers : statement.keyMembers = other.keyMembers) :
    statement.conditions = other.conditions := by
  refine Dict.eq_of_entries_eq ?_
  rw [← hgranted.map_readCondition_keyMembers, hmembers, hother.map_readCondition_keyMembers]

theorem IsGranted.exists_keyMembers_eq_cons (hgranted : statement.IsGranted) :
    ∃ member rest, statement.keyMembers = member :: rest := by
  refine List.exists_cons_of_ne_nil ?_
  obtain ⟨role, path, level, rfl⟩ := hgranted
  exact List.ne_nil_of_mem (List.mem_map_of_mem domain_mem_confined)

theorem IsGranted.isLabel_of_mem_keyMembers (hgranted : statement.IsGranted) :
    ∀ member ∈ statement.keyMembers, member.2.isLabel = true := by
  intro member hmember
  obtain ⟨entry, hentry, rfl⟩ := List.mem_map.mp hmember
  exact hgranted.isLabel_toJson hentry

/-- The text of the conditions begins like an object, and looks like one nowhere
else. -/
theorem IsGranted.toList_text_conditions (hgranted : statement.IsGranted) :
    ∃ chars, statement.conditions.toJson.text.toList = '\x7b' :: chars ∧
      Json.opensObject ('\x7b' :: chars) = true ∧ Json.OpensNowhere chars := by
  obtain ⟨member, rest, hcons⟩ := hgranted.exists_keyMembers_eq_cons
  have hlabels := hgranted.isLabel_of_mem_keyMembers
  have hkey : Json.opensObject ('\x7b' :: (Json.quote member.1).toList) = true := by
    have hmember : member ∈ statement.keyMembers := by
      rw [hcons]
      exact List.mem_cons_self ..
    obtain ⟨entry, hentry, rfl⟩ := List.mem_map.mp hmember
    exact hgranted.opensObject_key hentry
  show ∃ chars, (Json.obj statement.keyMembers).text.toList = '\x7b' :: chars ∧ _
  rw [hcons] at hlabels ⊢
  exact Json.toList_text_obj hlabels hkey

theorem IsGranted.conditions_eq_of_text_eq (hgranted : statement.IsGranted)
    (hother : other.IsGranted)
    (htext : statement.conditions.toJson.text = other.conditions.toJson.text) :
    statement.conditions = other.conditions := by
  obtain ⟨member, rest, hcons⟩ := hgranted.exists_keyMembers_eq_cons
  obtain ⟨name, later, hcons'⟩ := hother.exists_keyMembers_eq_cons
  have hlabels := hgranted.isLabel_of_mem_keyMembers
  have hlabels' := hother.isLabel_of_mem_keyMembers
  refine hgranted.conditions_eq hother ?_
  -- The written conditions are an object with at least one member, so its members can be read.
  change (Json.obj statement.keyMembers).text = (Json.obj other.keyMembers).text at htext
  rw [hcons, hcons'] at *
  exact Json.text_obj_inj hlabels hlabels' htext

/-! ## Subjects and actions -/

theorem IsGranted.subject_eq (hgranted : statement.IsGranted) (hother : other.IsGranted)
    (hname : statement.subject.name = other.subject.name) : statement.subject = other.subject := by
  obtain ⟨role, path, level, rfl⟩ := hgranted
  obtain ⟨role', path', level', rfl⟩ := hother
  calc (ofGrant role path level).subject
      = Subject.ofName (Meaning.ofPath path).subject.name :=
        (Meaning.ofName_name_subject_ofPath path).symm
    _ = Subject.ofName (Meaning.ofPath path').subject.name := congrArg Subject.ofName hname
    _ = (ofGrant role' path' level').subject := Meaning.ofName_name_subject_ofPath path'

theorem IsGranted.action_mem_known (hgranted : statement.IsGranted) :
    statement.action ∈ Action.known := by
  obtain ⟨role, path, level, rfl⟩ := hgranted
  exact Meaning.action_ofPath_mem_known path

theorem separator_not_mem_of_mem_known {action : Action} (hknown : action ∈ Action.known) :
    '|' ∉ action.name.toList := by
  have hall : Action.known.all (fun action => !action.name.toList.contains '|') = true := by
    decide
  simpa using List.all_eq_true.mp hall action hknown

theorem ofName_name_of_mem_known {action : Action} (hknown : action ∈ Action.known) :
    Action.ofName action.name = action := by
  have hall : Action.known.all (fun action => Action.ofName action.name == action) = true := by
    decide
  simpa using List.all_eq_true.mp hall action hknown

theorem action_eq_of_mem_known {action made : Action} (hknown : action ∈ Action.known)
    (hmade : made ∈ Action.known) (hname : action.name = made.name) : action = made := by
  rw [← ofName_name_of_mem_known hknown, hname, ofName_name_of_mem_known hmade]

/-! ## Keys -/

theorem toList_key (statement : Statement) :
    statement.key.toList = statement.subject.name.toList ++
      '|' :: (statement.action.name.toList ++
        '|' :: statement.conditions.toJson.text.toList) := by
  simp [key]

/-- The conditions stand where the text of the key begins like an object for the last
time. -/
theorem IsGranted.text_conditions_eq (hgranted : statement.IsGranted) (hother : other.IsGranted)
    (hkey : statement.key.toList = other.key.toList) :
    statement.conditions.toJson.text.toList = other.conditions.toJson.text.toList := by
  obtain ⟨chars, hopening, hopens, hnowhere⟩ := hgranted.toList_text_conditions
  obtain ⟨later, hopening', hopens', hnowhere'⟩ := hother.toList_text_conditions
  -- Both keys end in the text of the conditions, before which an object is opened nowhere later.
  have hends : (statement.subject.name.toList ++ '|' :: (statement.action.name.toList ++ ['|'])) ++
      '\x7b' :: chars =
      (other.subject.name.toList ++ '|' :: (other.action.name.toList ++ ['|'])) ++
        '\x7b' :: later := by
    rw [toList_key, toList_key, hopening, hopening'] at hkey
    simpa using hkey
  rw [hopening, hopening', Json.eq_of_append_opensObject hopens hnowhere hopens' hnowhere' hends]

/-- **Equal keys are equal rights.**  Roles make statements with the same key only if
these agree in subject, action and conditions. -/
theorem IsGranted.overlaps_of_key_eq (hgranted : statement.IsGranted) (hother : other.IsGranted)
    (hkey : statement.key = other.key) : statement.Overlaps other := by
  have hchars := congrArg String.toList hkey
  have htext := hgranted.text_conditions_eq hother hchars
  have hfront : (statement.subject.name.toList ++ '|' :: statement.action.name.toList) ++
      '|' :: other.conditions.toJson.text.toList =
      (other.subject.name.toList ++ '|' :: other.action.name.toList) ++
        '|' :: other.conditions.toJson.text.toList := by
    rw [toList_key, toList_key, htext] at hchars
    simpa using hchars
  -- Before the conditions stands the action, whose name does not hold the joining
  -- character; the subject is what is left.
  obtain ⟨hsubject, haction⟩ := Text.append_separator_inj
    (separator_not_mem_of_mem_known hgranted.action_mem_known)
    (separator_not_mem_of_mem_known hother.action_mem_known) (List.append_cancel_right hfront)
  refine ⟨?_, ?_, ?_⟩
  · exact hgranted.subject_eq hother (String.toList_inj.mp hsubject)
  · exact action_eq_of_mem_known hgranted.action_mem_known hother.action_mem_known
      (String.toList_inj.mp haction)
  · exact hgranted.conditions_eq_of_text_eq hother (String.toList_inj.mp htext)

/-! ## Statements of leaves -/

theorem isGranted_of_result_ofLeaf {strict : Bool} {role : Role} {path : String} {leaf : Leaf}
    (hmade : (ofLeaf strict role path leaf).result = .ok (some statement)) :
    statement.IsGranted := by
  cases leaf with
  | access level => exact ⟨role, path, level, (Option.some.inj (Except.ok.inj hmade)).symm⟩
  | unrecognized value =>
      -- Such a leaf makes no statement, whether it fails or is passed over.
      cases strict with
      | true => simp [ofLeaf, Leaf.level?] at hmade
      | false =>
          have hnone : none = some statement := Except.ok.inj hmade
          contradiction

/-- **Keys stand for rights.**  Whatever roles, paths and leaves two statements are made
from, their keys are the same text exactly when the statements agree in subject, action
and conditions. -/
theorem key_eq_iff {strict strict' : Bool} {role role' : Role} {path path' : String}
    {leaf leaf' : Leaf}
    (hstatement : (ofLeaf strict role path leaf).result = .ok (some statement))
    (hother : (ofLeaf strict' role' path' leaf').result = .ok (some other)) :
    statement.key = other.key ↔
      statement.subject = other.subject ∧ statement.action = other.action ∧
        statement.conditions = other.conditions := by
  constructor
  · intro hkey
    have hgranted := isGranted_of_result_ofLeaf hstatement
    obtain ⟨hsubject, haction, hconditions⟩ :=
      hgranted.overlaps_of_key_eq (isGranted_of_result_ofLeaf hother) hkey
    exact ⟨hsubject, haction, hconditions⟩
  · rintro ⟨hsubject, haction, hconditions⟩
    rw [key, key, hsubject, haction, hconditions]

/-- A role of an organization that is named like a placeholder, and of a department whose
name goes on like conditions. -/
def namesake : Role :=
  { assignee with
    domain := Placeholder.domain.token
    department := "legal\",\"domain\":\"acme\"\x7d|\x7b\"" }

/-- A subject that is spelled like the rest of a key does not pass for it. -/
theorem key_ne_of_spelled_subject :
    ∃ path statement other,
      (ofLeaf true namesake "budget" (.access .viewAccess)).result = .ok (some statement) ∧
      (ofLeaf false namesake path (.access .noAccess)).result = .ok (some other) ∧
      other.subject.name = "Budget|read|\x7b\"department\":\"legal\"" ∧
      statement.key ≠ other.key := by
  let path := "budget|read|\x7b\"department\":\"legal\""
  have hstatement : (ofLeaf true namesake "budget" (.access .viewAccess)).result =
      .ok (some (ofGrant namesake "budget" .viewAccess)) := rfl
  have hother : (ofLeaf false namesake path (.access .noAccess)).result =
      .ok (some (ofGrant namesake path .noAccess)) := rfl
  -- Equal keys would make the two subjects the same, and they are not.
  refine ⟨path, _, _, hstatement, hother, by decide +kernel, fun hkey => ?_⟩
  obtain ⟨hsubject, _, _⟩ := (key_eq_iff hstatement hother).mp hkey
  have hdiffer : (ofGrant namesake "budget" .viewAccess).subject ≠
      (ofGrant namesake path .noAccess).subject := by
    decide +kernel
  exact hdiffer hsubject

end Statement

end Entitlement
