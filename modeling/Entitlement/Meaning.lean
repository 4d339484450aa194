import Entitlement.Statement
import Entitlement.Text.Split

/-!
# What a path means

The meaning of a path is the right that a leaf at that path grants: a subject and an action, the
conditions under which the right holds, and the fields to which it is confined.

A table gives the meaning of the paths that are known in advance.  All others have the subject
and the action that their words suggest, without conditions and on every field.  To this end a
path falls into segments, and a segment into words.

Indices do not count: a path is looked up as it stands, and then without them.
-/

namespace Entitlement

/-! ## Segments and words of a path

A path falls into segments at its dots, and a segment into words, as in
`camelCase`, `snake_case` and `kebab-case`.  Not every segment says something
about the right: indices of lists, the keys that only structure a tree, and
empty segments are passed over. -/

namespace Meaning

/-! ### Segments -/

/-- The segments of a path. -/
def segments (path : String) : List (List Char) := Text.pieces '.' path.toList

/-- Whether a segment is the index of an item. -/
def isIndex (segment : List Char) : Bool := !segment.isEmpty && segment.all Char.isDigit

/-- A path without the indices in it. -/
def withoutIndices (path : String) : String :=
  String.ofList (Text.joinPieces '.' ((segments path).filter fun segment => !isIndex segment))

/-- Whether a segment says something about the right. -/
def isTelling (segment : List Char) : Bool :=
  !segment.isEmpty && segment != Tree.permissionKey.toList && segment != Tree.actionsKey.toList &&
    !isIndex segment

/-- The segments that say something, the last one first. -/
def tellingSegments (path : String) : List (List Char) :=
  (segments path).reverse.filter isTelling

/-! ### Words -/

/-- Whether a character only separates words. -/
def isJoiner (c : Char) : Bool := c == '_' || c == '-'

/-- A word in front of others, unless it is empty. -/
def closeWord (word : List Char) (words : List (List Char)) : List (List Char) :=
  if word.isEmpty then words else word :: words

/-- The words of a segment of which the current word has been read in part. -/
def wordsFrom (current : List Char) : List Char → List (List Char)
  | [] => closeWord current []
  | c :: rest =>
      if isJoiner c then closeWord current (wordsFrom [] rest)
      else if Text.isUpper c then closeWord current (wordsFrom (Text.lower c) rest)
      else wordsFrom (current ++ Text.lower c) rest

/-- The words of a segment in lower case: a joiner separates two words, and an
upper-case character starts one. -/
def words (segment : List Char) : List (List Char) := wordsFrom [] segment

end Meaning

/-! ## What a path says by its words

The subject and the action of a right are inferred from the path to it when
nothing else is known about the path.  Both search the segments from the last to
the first.

A subject is found by a keyword anywhere in a segment, in ASCII letters of
either case; without one, the last telling segment names the subject.  An action
is found only as a whole word, so that `userManagement` does not speak of
`manage`; without one, the action is `read`. -/

namespace Meaning

/-! ### Subjects -/

/-- The keywords of subjects, in the order in which they are tried. -/
def subjectKeywords : List (String × Subject) :=
  [("document", .document), ("notification", .notification), ("task", .task), ("user", .user),
    ("role", .role), ("group", .group), ("review", .review), ("audit", .auditLog)]

/-- The subject of the first keyword that occurs in a segment. -/
def keywordSubject? (segment : List Char) : Option Subject :=
  -- Letters beyond ASCII stay as they are, unlike in the words that tell the action.
  (subjectKeywords.find? fun keyword =>
    Text.occursIn keyword.1.toList (segment.map Char.toLower)).map (·.2)

/-- The subject that a segment names, with its first letter in upper case. -/
def namedSubject (segment : List Char) : Subject :=
  Subject.ofName (Text.capitalize (String.ofList segment))

/-- The subject of a path without telling segments. -/
def unknownSubject : Subject := .other "Unknown"

/-- The subject that a path speaks of. -/
def inferSubject (path : String) : Subject :=
  let telling := tellingSegments path
  match telling.findSome? keywordSubject? with
  | some subject => subject
  | none => (telling.head?.map namedSubject).getD unknownSubject

/-! ### Actions -/

/-- The words that stand for actions. -/
def actionKeywords : List (String × Action) :=
  [("manage", .manage), ("create", .create), ("update", .update), ("delete", .delete),
    ("upload", .upload), ("notify", .notify)]

/-- The action that a word stands for. -/
def wordAction? (word : List Char) : Option Action :=
  (actionKeywords.find? fun keyword => keyword.1.toList == word).map (·.2)

/-- The action that a path speaks of. -/
def inferAction (path : String) : Action :=
  ((tellingSegments path).findSome? fun segment => (words segment).findSome? wordAction?).getD .read

end Meaning

/-! ## The table -/

/-- The right that a leaf at a path grants. -/
structure Meaning where
  subject : Subject
  action : Action
  conditions : Conditions
  /-- The fields to which the right is confined; absent when it is not. -/
  fields : Option (List String)

namespace Meaning

/-- A path with a fixed meaning. -/
structure Entry where
  path : String
  meaning : Meaning

/-- A path whose right is not confined to fields. -/
def entry (path : String) (subject : Subject) (action : Action)
    (conditions : List (String × Condition)) : Entry :=
  ⟨path, subject, action, Dict.ofList conditions, none⟩

/-- The paths with a fixed meaning. -/
def table : List Entry := [
  entry "documentRepoAccess.approved" .document .read [("status", .text "approved")],
  entry "documentRepoAccess.pending" .document .read [("status", .text "pending")],
  entry "documentRepoAccess.rejected" .document .read [("status", .text "rejected")],
  entry "documentRepoAccess.draft" .document .read
    [("status", .text "draft"), ("uploadedBy", .placeholder .id)],
  entry "documentRepoAccess.upload" .document .upload [],
  entry "reviewWorkflow.permission" .review .read [],
  entry "reviewWorkflow.actions.approve" .document .approve [("status", .text "pending")],
  entry "reviewWorkflow.actions.reject" .document .reject [("status", .text "pending")],
  ⟨"reviewWorkflow.actions.comment", .review, .update, ∅, some ["comments"]⟩,
  entry "taskAccess.assigned" .task .read [("assignedTo", .placeholder .id)],
  entry "taskAccess.all" .task .read [],
  entry "escalatedTasksAccess.view" .task .read [("escalated", .literal (.bool true))],
  entry "escalatedTasksAccess.reassign" .task .assign [("escalated", .literal (.bool true))],
  entry "escalatedTasksAccess.notify" .notification .notify [],
  entry "userManagement.users" .user .read [],
  ⟨"userManagement.profile", .user, .read, Dict.ofList [("id", .placeholder .id)],
    some ["name", "email", "avatar"]⟩,
  entry "userManagement.roles" .role .read [],
  entry "userManagement.groups" .group .read [],
  entry "auditLogAccess" .auditLog .read []]

/-- The entry of a path: its own, or else the one of the path without indices. -/
def lookup? (path : String) : Option Entry :=
  -- An entry for the path as it stands counts before one for the path without indices.
  match table.find? (·.path == path) with
  | some found => some found
  | none => table.find? (·.path == withoutIndices path)

/-- The meaning that the words of a path suggest. -/
def inferred (path : String) : Meaning := ⟨inferSubject path, inferAction path, ∅, none⟩

/-- The meaning of a path. -/
def ofPath (path : String) : Meaning := ((lookup? path).map (·.meaning)).getD (inferred path)

end Meaning

end Entitlement
