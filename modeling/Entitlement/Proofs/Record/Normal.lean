import Entitlement.Proofs.Decode.ByValue
import Entitlement.Proofs.Json.Written
import Entitlement.Proofs.Resolution.Provenance
import Entitlement.Proofs.Tree.RoundTrip

/-!
# Records in normal form

A record is accepted in many forms: as an object or as a list of its fields, with identifiers
in any spelling, with other keys beside its own, without the lists that are empty.  It is
written in one.  What is read from the written form is the record again, so reading and writing
bring a document into a normal form that further rounds leave as it is
(`Fixture.reads_as_written`).

Lists, texts and identifiers read back whatever they hold.  A permission tree does so when it
was itself read from a value (`Tree.OfValue`), and every tree of a record that was read is such
a tree, even the one that stands in for an absent tree (`Role.ofValue_of_yields`).

For each kind of record there are the same three lemmas, which follow its fields: what is written
reads back (`reads_toJson`), a text and its value read alike (`byValue_decoder`), and nothing
that is written beside the trees is a number (`numberFree_toJson`).  The last is needed for
texts only, since a number in a text is a matter of its digits.
-/

namespace Entitlement

open Decode

/-! ## Identifiers and trees -/

theorem Decode.reads_identifiers (ids : List Uuid) : identifiers.Reads (idsJson ids) ids := by
  have hlist : identifiers.Reads (idsJson ids) (ids.map id) :=
    reads_listOf fun id _ => reads_identifier id
  rwa [List.map_id] at hlist

theorem Decode.byValue_identifiers : identifiers.ByValue := byValue_listOf byValue_identifier

theorem numberFree_idsJson (depth : Nat) (ids : List Uuid) :
    (idsJson ids).NumberFree (depth + 1) :=
  Json.numberFree_arr fun id _ => Json.numberFree_str depth id.text

/-- The tree is what some value is read as. -/
def Tree.OfValue (tree : Tree) : Prop := ∃ value : Json, value.Ordered ∧ ofJson value = tree

theorem Tree.ofValue_empty : Tree.empty.OfValue := ⟨.obj [], ⟨.nil, trivial⟩, rfl⟩

theorem Decode.ofValue_of_yields_permissionTree {tree : Tree}
    (hyields : permissionTree.Yields tree) : tree.OfValue := by
  obtain ⟨value, hvalue, htree⟩ := exists_yields_of_mapped hyields
  exact ⟨value, ordered_of_yields_anything hvalue, htree⟩

theorem Decode.reads_permissionTree {tree : Tree} (htree : tree.OfValue) :
    permissionTree.Reads tree.toJson tree := by
  obtain ⟨value, hordered, rfl⟩ := htree
  rw [Tree.toJson_ofJson value hordered]
  exact reads_mapped Tree.ofJson (reads_anything hordered)

theorem Decode.byValue_permissionTree : permissionTree.ByValue :=
  byValue_mapped Tree.ofJson byValue_anything

/-! ## Roles -/

namespace Role

variable {role : Role}

theorem ofValue_of_yields (hyields : Role.decoder.Yields role) : role.tree.OfValue := by
  obtain ⟨_, groupIds, hsix, _, rfl⟩ := (yields_of_record hyields).exists_of_seq
  obtain ⟨_, userIds, hfive, _, rfl⟩ := hsix.exists_of_seq
  obtain ⟨_, tree, hfour, htree, rfl⟩ := hfive.exists_of_seq
  obtain ⟨_, roleName, hthree, _, rfl⟩ := hfour.exists_of_seq
  obtain ⟨_, department, htwo, _, rfl⟩ := hthree.exists_of_seq
  obtain ⟨_, domain, hone, _, rfl⟩ := htwo.exists_of_seq
  obtain ⟨id, _, rfl⟩ := hone.exists_of_map
  rcases yields_of_defaulting htree with rfl | htree
  · exact Tree.ofValue_empty
  · exact ofValue_of_yields_permissionTree htree

theorem reads_toJson (htree : role.tree.OfValue) : Role.decoder.Reads role.toJson role :=
  reads_record _ (.seq (.seq (.seq (.seq (.seq (.seq (.map Role.mk
    (reads_required (by simp) rfl (reads_identifier _)))
    (reads_required (by simp) rfl (reads_text _))) (reads_required (by simp) rfl (reads_text _)))
    (reads_required (by simp) rfl (reads_text _)))
    (reads_defaulting (by simp) rfl (reads_permissionTree htree) _))
    (reads_defaulting (by simp) rfl (reads_identifiers _) _))
    (reads_defaulting (by simp) rfl (reads_identifiers _) _))

theorem byValue_decoder : Role.decoder.ByValue :=
  byValue_record _ (.seq (.seq (.seq (.seq (.seq (.seq (.map Role.mk
    (byValue_required _ byValue_identifier)) (byValue_required _ byValue_text))
    (byValue_required _ byValue_text)) (byValue_required _ byValue_text))
    (byValue_defaulting _ byValue_permissionTree _)) (byValue_defaulting _ byValue_identifiers _))
    (byValue_defaulting _ byValue_identifiers _))

theorem numberFree_toJson {depth : Nat} (hfree : role.tree.toJson.NumberFree (depth + 1)) :
    role.toJson.NumberFree (depth + 2) := by
  simp [toJson, Uuid.toJson, Json.NumberFree, hfree, numberFree_idsJson]

end Role

/-! ## Groups and actors -/

theorem Group.reads_toJson (group : Group) : Group.decoder.Reads group.toJson group :=
  reads_record _ (.seq (.seq (.map Group.mk (reads_required (by simp) rfl (reads_identifier _)))
    (reads_defaulting (by simp) rfl (reads_identifiers _) _))
    (reads_defaulting (by simp) rfl (reads_identifiers _) _))

theorem Group.byValue_decoder : Group.decoder.ByValue :=
  byValue_record _ (.seq (.seq (.map Group.mk (byValue_required _ byValue_identifier))
    (byValue_defaulting _ byValue_identifiers _)) (byValue_defaulting _ byValue_identifiers _))

theorem Group.numberFree_toJson (depth : Nat) (group : Group) :
    group.toJson.NumberFree (depth + 2) := by
  simp [toJson, Uuid.toJson, Json.NumberFree, numberFree_idsJson]

theorem Actor.reads_toJson (actor : Actor) : Actor.decoder.Reads actor.toJson actor :=
  reads_record _ (.seq (.seq (.seq (.seq (.seq (.map Actor.mk
    (reads_required (by simp) rfl (reads_identifier _)))
    (reads_required (by simp) rfl (reads_text _))) (reads_required (by simp) rfl (reads_text _)))
    (reads_required (by simp) rfl (reads_text _)))
    (reads_defaulting (by simp) rfl (reads_identifiers _) _))
    (reads_defaulting (by simp) rfl (reads_identifiers _) _))

theorem Actor.byValue_decoder : Actor.decoder.ByValue :=
  byValue_record _ (.seq (.seq (.seq (.seq (.seq (.map Actor.mk
    (byValue_required _ byValue_identifier)) (byValue_required _ byValue_text))
    (byValue_required _ byValue_text)) (byValue_required _ byValue_text))
    (byValue_defaulting _ byValue_identifiers _)) (byValue_defaulting _ byValue_identifiers _))

theorem Actor.numberFree_toJson (depth : Nat) (actor : Actor) :
    actor.toJson.NumberFree (depth + 2) := by
  simp [toJson, Uuid.toJson, Json.NumberFree, numberFree_idsJson]

/-! ## Fixtures -/

namespace Fixture

variable {fixture : Fixture}

theorem ofValue_of_yields (hyields : Fixture.decoder.Yields fixture) :
    ∀ role ∈ fixture.roles, role.tree.OfValue := by
  obtain ⟨_, actors, htwo, _, rfl⟩ := (yields_of_record hyields).exists_of_seq
  obtain ⟨_, groups, hone, _, rfl⟩ := htwo.exists_of_seq
  obtain ⟨roles, hroles, rfl⟩ := hone.exists_of_map
  intro role hrole
  rcases yields_of_defaulting hroles with rfl | hroles
  · contradiction
  · exact Role.ofValue_of_yields (yields_of_mem_listOf hroles role hrole)

theorem reads_toJson (htrees : ∀ role ∈ fixture.roles, role.tree.OfValue) :
    Fixture.decoder.Reads fixture.toJson fixture := by
  have hroles := reads_listOf fun role hrole => Role.reads_toJson (htrees role hrole)
  have hgroups := reads_listOf fun group (_ : group ∈ fixture.groups) => group.reads_toJson
  have hactors := reads_listOf fun actor (_ : actor ∈ fixture.actors) => actor.reads_toJson
  rw [List.map_id'] at hroles hgroups hactors
  exact reads_record _ (.seq (.seq (.map Fixture.mk (reads_defaulting (by simp) rfl hroles _))
    (reads_defaulting (by simp) rfl hgroups _)) (reads_defaulting (by simp) rfl hactors _))

theorem byValue_decoder : Fixture.decoder.ByValue :=
  byValue_record _ (.seq (.seq (.map Fixture.mk
    (byValue_defaulting _ (byValue_listOf Role.byValue_decoder) _))
    (byValue_defaulting _ (byValue_listOf Group.byValue_decoder) _))
    (byValue_defaulting _ (byValue_listOf Actor.byValue_decoder) _))

theorem numberFree_toJson {depth : Nat}
    (hfree : ∀ role ∈ fixture.roles, role.tree.toJson.NumberFree (depth + 1)) :
    fixture.toJson.NumberFree (depth + 4) := by
  intro entry hentry
  simp only [List.mem_cons, List.not_mem_nil, or_false] at hentry
  rcases hentry with rfl | rfl | rfl
  · exact Json.numberFree_arr fun role hrole => Role.numberFree_toJson (hfree role hrole)
  · exact Json.numberFree_arr fun group _ => group.numberFree_toJson depth
  · exact Json.numberFree_arr fun actor _ => actor.numberFree_toJson depth

/-- The text of a fixture without numbers reads as the fixture. -/
theorem ofText_text_toJson {depth : Nat} (htrees : ∀ role ∈ fixture.roles, role.tree.OfValue)
    (hfree : ∀ role ∈ fixture.roles, role.tree.toJson.NumberFree (depth + 1))
    (hdepth : depth + 4 ≤ Json.maxDepth) :
    Fixture.decoder.ofText fixture.toJson.text = .ok fixture :=
  (reads_toJson htrees).ofText (numberFree_toJson hfree) hdepth

/-- **Decoding a fixture brings it into a normal form.**  Whatever a fixture was read from, a
value at hand or a text, in whichever forms the records were there, the value that is written
for the fixture reads as the fixture again, with its members as they are written and by
ascending key alike.  So it is written again as it was. -/
theorem reads_as_written
    (hread : (∃ value, Fixture.decoder.ofJson value = .ok fixture) ∨
      ∃ text, Fixture.decoder.ofText text = .ok fixture) :
    Fixture.decoder.ofJson fixture.toJson = .ok fixture ∧
      Fixture.decoder.ofJson fixture.toJson.sorted = .ok fixture ∧
      (Fixture.decoder.ofJson fixture.toJson).map Fixture.toJson = .ok fixture.toJson := by
  have hyields : Fixture.decoder.Yields fixture := by
    rcases hread with ⟨value, hvalue⟩ | ⟨text, htext⟩
    · exact .of_ofJson hvalue
    · exact .of_ofText htext
  have hreads := reads_toJson (ofValue_of_yields hyields)
  have hwritten : Fixture.decoder none (Document.ofJson fixture.toJson) = .ok fixture :=
    hreads none nofun
  refine ⟨hreads.ofJson, ?_, ?_⟩
  · have hvalue := Document.value?_ofJson_eq_sorted fixture.toJson
    rw [Decoder.ofJson, byValue_decoder hvalue hwritten]
    rfl
  · rw [hreads.ofJson]
    rfl

end Fixture

namespace Sample

theorem numberFree_leadTree : lead.tree.toJson.NumberFree 2 := by
  simp [lead, Tree.toJson, Tree.membersJson, Leaf.toJson, Json.NumberFree]

theorem ordered_leadTree : lead.tree.toJson.Ordered := by
  have hkeys : "all" < "assigned" := by decide
  exact ⟨List.pairwise_singleton _ _, ⟨List.pairwise_pair.mpr hkeys, trivial, trivial, trivial⟩,
    trivial⟩

/-- A role as a list that ends before its lists, and a group beside a key that means nothing,
with its identifier in braces and capitals. -/
def mixedForms : Json := .obj [
  ("roles", .arr [.arr [.str "11111111111111111111111111111111", .str "acme", .str "legal",
    .str "lead", lead.tree.toJson]]),
  ("remark", .null),
  ("groups", .arr [.obj [("size", .int 3), ("roleIds", .arr [.str lead.id.text]),
    ("id", .str "{AAAAAAAA-AAAA-AAAA-AAAA-AAAAAAAAAAAA}")]])]

/-- The records that it holds. -/
def normalForm : Fixture := ⟨[lead], [⟨uuid ⟨10, by decide⟩, [lead.id], []⟩], []⟩

end Sample

/-- Records in mixed forms are read, and come back from what is written for them; a list that
is null is refused. -/
theorem mixed_forms_are_normalized :
    Fixture.decoder.ofJson Sample.mixedForms = .ok Sample.normalForm ∧
      Fixture.decoder.ofJson Sample.normalForm.toJson = .ok Sample.normalForm ∧
      Fixture.decoder.ofJson Sample.normalForm.toJson.sorted = .ok Sample.normalForm ∧
      Fixture.decoder.ofJson (.obj [("roles", .null)]) =
        .error (.wrongKind .null .sequence) := by
  have hread : Fixture.decoder.ofJson Sample.mixedForms = .ok Sample.normalForm := by rfl
  obtain ⟨hwritten, hsorted, _⟩ := Fixture.reads_as_written (.inl ⟨_, hread⟩)
  exact ⟨hread, hwritten, hsorted, rfl⟩

end Entitlement
