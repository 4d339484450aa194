import Entitlement.Proofs.Json.Text
import Entitlement.Proofs.Meaning.Path

/-!
# The rights that paths can mean

Whatever a path is, its meaning is of a limited kind.  Everything here is seen entry by entry in
the table, and keyword by keyword where the words of a path decide.

* **Subjects** are spelled by their names (`ofName_name_subject_ofPath`), so a subject can be
  stored by its name.
* **Actions** are those with a name of their own (`action_ofPath_mem_known`), and none is made up
  from a word of the path.
* **Conditions** are plain: they demand a text that is no placeholder, a truth value, or the
  identifier of the actor (`isPlain_of_mem_table`).  So they read back from their written forms.
* **Fields** confine a right at two entries of the table only.  One is on the actor's own record,
  which its condition on the identifier tells (`fields_ofPath_of_id`), the other on the comments of
  reviews, which no condition tells (`fields_ofPath_of_not_id`).

Later modules use the kinds and not the entries.  Only two of them go through the table again: for
the keys of conditions, and for grants that are written as nodes.
-/

namespace Entitlement

/-! ## Conditions -/

namespace Condition

/-- A text that is no placeholder, a truth value, or the identifier of the actor. -/
def isPlain : Condition → Bool
  | .literal (.str text) => (Placeholder.ofToken? text).isNone
  | .literal (.bool _) => true
  | .literal _ => false
  | .placeholder which => which == .id

variable {condition : Condition}

/-- The written form of a plain condition reads back. -/
theorem ofJson_toJson_of_isPlain (hplain : condition.isPlain = true) :
    ofJson condition.toJson = condition := by
  cases condition with
  | placeholder which => simp only [toJson, ofJson, Placeholder.ofToken?_token]
  | literal value =>
      cases value with
      | str text =>
          have hnone : Placeholder.ofToken? text = none := by simpa [isPlain] using hplain
          simp only [toJson, ofJson, hnone]
      | null | bool | num | arr | obj => rfl

theorem isLabel_toJson_of_isPlain (hplain : condition.isPlain = true) :
    condition.toJson.isLabel = true := by
  cases condition with
  | placeholder which => rfl
  | literal value =>
      cases value with
      | str | bool => rfl
      | null | num | arr | obj => contradiction

end Condition

namespace Meaning

variable {path : String}

theorem isPlain_of_mem_table {entry : Entry} (hentry : entry ∈ table) :
    ∀ condition ∈ entry.meaning.conditions.entries, condition.2.isPlain = true := by
  have hall : table.all (fun entry => entry.meaning.conditions.entries.all fun condition =>
      condition.2.isPlain) = true := by
    decide
  simpa using List.all_eq_true.mp hall entry hentry

/-! ## Actions -/

theorem inferAction_mem_known (path : String) : inferAction path ∈ Action.known := by
  have hall : actionKeywords.all (fun keyword => keyword.2 ∈ Action.known) = true := by decide
  unfold inferAction
  cases hfound : (tellingSegments path).findSome? fun segment =>
      (words segment).findSome? wordAction? with
  | none => decide
  | some action =>
      obtain ⟨segment, _, hsegment⟩ := List.exists_of_findSome?_eq_some hfound
      obtain ⟨word, _, hword⟩ := List.exists_of_findSome?_eq_some hsegment
      obtain ⟨keyword, hkeyword, rfl⟩ := Option.map_eq_some_iff.mp hword
      simpa using List.all_eq_true.mp hall keyword (List.mem_of_find?_eq_some hkeyword)

theorem action_ofPath_mem_known (path : String) : (ofPath path).action ∈ Action.known := by
  have hall : table.all (fun entry => entry.meaning.action ∈ Action.known) = true := by decide
  rcases exists_mem_table_or_eq_inferred path with ⟨entry, hentry, hmeaning⟩ | hmeaning
  · rw [hmeaning]
    simpa using List.all_eq_true.mp hall entry hentry
  · rw [hmeaning]
    exact inferAction_mem_known path

/-! ## Subjects -/

theorem ofName_name_inferSubject (path : String) :
    Subject.ofName (inferSubject path).name = inferSubject path := by
  have hall : subjectKeywords.all (fun keyword =>
      Subject.ofName keyword.2.name == keyword.2) = true := by
    decide
  simp only [inferSubject]
  split
  · rename_i subject hfound
    obtain ⟨segment, _, hsegment⟩ := List.exists_of_findSome?_eq_some hfound
    obtain ⟨keyword, hkeyword, rfl⟩ := Option.map_eq_some_iff.mp hsegment
    simpa using List.all_eq_true.mp hall keyword (List.mem_of_find?_eq_some hkeyword)
  · cases (tellingSegments path).head? with
    | none => rfl
    | some segment =>
        show Subject.ofName (namedSubject segment).name = namedSubject segment
        rw [namedSubject, Subject.name_ofName]

/-- The subject that a path means is the subject of its own name. -/
theorem ofName_name_subject_ofPath (path : String) :
    Subject.ofName (ofPath path).subject.name = (ofPath path).subject := by
  have hall : table.all (fun entry =>
      Subject.ofName entry.meaning.subject.name == entry.meaning.subject) = true := by
    decide
  rcases exists_mem_table_or_eq_inferred path with ⟨entry, hentry, hmeaning⟩ | hmeaning
  · rw [hmeaning]
    simpa using List.all_eq_true.mp hall entry hentry
  · rw [hmeaning]
    exact ofName_name_inferSubject path

/-! ## Fields -/

/-- A right on the actor's own record is one on the fields of a profile. -/
theorem fields_ofPath_of_id (hid : ((ofPath path).conditions.get? "id").isSome = true) :
    (ofPath path).fields = some ["name", "email", "avatar"] := by
  have hall : table.all (fun entry => !(entry.meaning.conditions.get? "id").isSome ||
      entry.meaning.fields == some ["name", "email", "avatar"]) = true := by
    decide
  rcases exists_mem_table_or_eq_inferred path with ⟨entry, hentry, hmeaning⟩ | hmeaning
  · rw [hmeaning] at hid ⊢
    simpa [hid] using List.all_eq_true.mp hall entry hentry
  · rw [hmeaning] at hid
    contradiction

/-- Any other right is confined to fields only when it is one on the comments of
reviews. -/
theorem fields_ofPath_of_not_id (hid : ((ofPath path).conditions.get? "id").isSome = false) :
    (ofPath path).fields = none ∨
      ((ofPath path).subject = .review ∧ (ofPath path).fields = some ["comments"]) := by
  have hall : table.all (fun entry => (entry.meaning.conditions.get? "id").isSome ||
      (entry.meaning.fields == none ||
        entry.meaning.subject == .review && entry.meaning.fields == some ["comments"])) = true := by
    decide
  rcases exists_mem_table_or_eq_inferred path with ⟨entry, hentry, hmeaning⟩ | hmeaning
  · rw [hmeaning] at hid ⊢
    simpa [hid] using List.all_eq_true.mp hall entry hentry
  · rw [hmeaning]
    exact Or.inl rfl

/-- A right on reviews is one on every field or on the comments. -/
theorem fields_ofPath_of_review (hreview : (ofPath path).subject = .review) :
    (ofPath path).fields = none ∨ (ofPath path).fields = some ["comments"] := by
  have hall : table.all (fun entry => !(entry.meaning.subject == .review) ||
      (entry.meaning.fields == none || entry.meaning.fields == some ["comments"])) = true := by
    decide
  rcases exists_mem_table_or_eq_inferred path with ⟨entry, hentry, hmeaning⟩ | hmeaning
  · rw [hmeaning] at hreview ⊢
    simpa [hreview] using List.all_eq_true.mp hall entry hentry
  · rw [hmeaning]
    exact Or.inl rfl

/-- Rights on tasks and on notifications are never confined to fields. -/
theorem fields_ofPath_of_task_or_notification
    (hsubject : (ofPath path).subject = .task ∨ (ofPath path).subject = .notification) :
    (ofPath path).fields = none := by
  have hall : table.all (fun entry => entry.meaning.fields == none ||
      !(entry.meaning.subject == .task || entry.meaning.subject == .notification)) = true := by
    decide
  rcases exists_mem_table_or_eq_inferred path with ⟨entry, hentry, hmeaning⟩ | hmeaning
  · rw [hmeaning] at hsubject ⊢
    have hentry := List.all_eq_true.mp hall entry hentry
    rcases hsubject with htask | hnotification
    · simpa [htask] using hentry
    · simpa [hnotification] using hentry
  · rw [hmeaning]
    rfl

end Meaning

end Entitlement
