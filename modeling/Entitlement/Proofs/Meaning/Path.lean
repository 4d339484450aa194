import Entitlement.Meaning
import Entitlement.Proofs.Text

/-!
# Which parts of a path count

Neither the table nor the words of a path see the indices in it: a path means what it means
without them (`ofPath_withoutIndices`).  The words moreover pass over the keys that only
structure a tree.  All of this is read off `keySegments`, the segments that are no indices, and
for paths that grow key by key off `keysOf` (`ofPath_congr`).

Whatever a path is, it does not mean the wildcard subject (`subject_ofPath_ne_all`).  A rule
about the subject `all` would cover every resource.  The table does not list it and no keyword
stands for it.  What remains is a segment that spells its name, and this is ruled out letter by
letter: the name begins with the upper case of a character, and no character has an upper case
that begins with the small letter `a`.
-/

namespace Entitlement

/-! ## Paths without their indices -/

namespace Meaning

variable {path segment : String} {entry : Entry}

/-! ### Segments -/

/-- The segments of a path that are no indices. -/
def keySegments (path : String) : List (List Char) :=
  (segments path).filter fun segment => !isIndex segment

/-- One more segment on a path is one more segment at its end. -/
theorem segments_joinPath (hne : path ≠ "") :
    segments (joinPath path segment) = segments path ++ segments segment := by
  have hjoined : (joinPath path segment).toList = path.toList ++ '.' :: segment.toList := by
    rw [joinPath, if_neg (by simpa using hne)]
    simp
  rw [segments, hjoined, Text.pieces_append_separator]
  rfl

theorem segments_joinPath_empty : segments (joinPath "" segment) = segments segment := rfl

theorem segments_withoutIndices (hne : keySegments path ≠ []) :
    segments (withoutIndices path) = keySegments path := by
  rw [segments, withoutIndices, String.toList_ofList]
  refine Text.pieces_joinPieces hne fun segment hsegment => ?_
  exact Text.not_mem_of_mem_pieces (List.mem_filter.mp hsegment).1

/-- A path of nothing but indices has nothing left without them. -/
theorem withoutIndices_eq_empty (hnil : keySegments path = []) : withoutIndices path = "" := by
  show String.ofList (Text.joinPieces '.' (keySegments path)) = ""
  rw [hnil]
  rfl

theorem withoutIndices_eq_self (hkeys : keySegments path = segments path) :
    withoutIndices path = path := by
  show String.ofList (Text.joinPieces '.' (keySegments path)) = path
  rw [hkeys, segments, Text.joinPieces_pieces, String.ofList_toList]

theorem keySegments_withoutIndices (hne : keySegments path ≠ []) :
    keySegments (withoutIndices path) = keySegments path := by
  rw [keySegments, segments_withoutIndices hne, keySegments, List.filter_filter]
  simp only [Bool.and_self]

/-- Taking the indices away a second time takes nothing away. -/
theorem withoutIndices_withoutIndices (path : String) :
    withoutIndices (withoutIndices path) = withoutIndices path := by
  by_cases hnil : keySegments path = []
  · rw [withoutIndices_eq_empty hnil]
    rfl
  · refine withoutIndices_eq_self ?_
    rw [keySegments_withoutIndices hnil, segments_withoutIndices hnil]

/-! ### Telling segments -/

theorem tellingSegments_eq (path : String) :
    tellingSegments path = ((keySegments path).filter isTelling).reverse := by
  rw [tellingSegments, List.filter_reverse, keySegments, List.filter_filter]
  congr 1
  refine List.filter_congr fun segment _ => ?_
  unfold isTelling
  cases isIndex segment <;> simp

theorem tellingSegments_withoutIndices (path : String) :
    tellingSegments (withoutIndices path) = tellingSegments path := by
  by_cases hnil : keySegments path = []
  · rw [withoutIndices_eq_empty hnil, tellingSegments_eq path, hnil]
    rfl
  · rw [tellingSegments_eq, keySegments_withoutIndices hnil, tellingSegments_eq]

/-- A last segment that tells nothing might as well not be there. -/
theorem tellingSegments_joinPath (hmute : (segments segment).all (!isTelling ·) = true) :
    tellingSegments (joinPath path segment) = tellingSegments path := by
  have hnone : (segments segment).filter isTelling = [] := by
    simpa [List.filter_eq_nil_iff] using hmute
  by_cases hempty : path = ""
  · subst hempty
    rw [tellingSegments, segments_joinPath_empty, List.filter_reverse, hnone]
    rfl
  · rw [tellingSegments, tellingSegments, segments_joinPath hempty, List.filter_reverse,
      List.filter_append, hnone, List.append_nil, List.filter_reverse]

/-- Only the telling segments count for what the words of a path suggest. -/
theorem inferred_congr {other : String} (htelling : tellingSegments other = tellingSegments path) :
    inferred other = inferred path := by
  simp only [inferred, inferSubject, inferAction, htelling]

/-! ### The table -/

theorem withoutIndices_of_mem_table (hentry : entry ∈ table) :
    withoutIndices entry.path = entry.path := by
  have hall : table.all (fun entry => withoutIndices entry.path == entry.path) = true := by
    decide +kernel
  simpa using List.all_eq_true.mp hall entry hentry

theorem path_ne_empty_of_mem_table (hentry : entry ∈ table) : entry.path ≠ "" := by
  have hall : table.all (fun entry => entry.path != "") = true := by decide
  simpa using List.all_eq_true.mp hall entry hentry

/-- No path of the table has indices, so they can be left out at once. -/
theorem lookup?_eq_find? (path : String) :
    lookup? path = table.find? (·.path == withoutIndices path) := by
  unfold lookup?
  cases hfound : table.find? (·.path == path) with
  | none => rfl
  | some found =>
      -- A path of the table is its own path without indices.
      have hpath : found.path = path := by simpa using List.find?_some hfound
      rw [← hpath, withoutIndices_of_mem_table (List.mem_of_find?_eq_some hfound), hpath, hfound]

theorem mem_table_of_lookup? (hfound : lookup? path = some entry) : entry ∈ table := by
  rw [lookup?_eq_find?] at hfound
  exact List.mem_of_find?_eq_some hfound

theorem path_of_lookup? (hfound : lookup? path = some entry) :
    entry.path = withoutIndices path := by
  rw [lookup?_eq_find?] at hfound
  simpa using List.find?_some hfound

theorem segments_of_lookup? (hfound : lookup? path = some entry) :
    segments entry.path = keySegments path := by
  have hne : keySegments path ≠ [] := by
    intro hnil
    have hempty := withoutIndices_eq_empty hnil
    rw [← path_of_lookup? hfound] at hempty
    exact path_ne_empty_of_mem_table (mem_table_of_lookup? hfound) hempty
  rw [path_of_lookup? hfound, segments_withoutIndices hne]

/-- A path means what an entry of the table says, or what its words suggest. -/
theorem exists_mem_table_or_eq_inferred (path : String) :
    (∃ entry ∈ table, ofPath path = entry.meaning) ∨ ofPath path = inferred path := by
  unfold ofPath
  cases hfound : lookup? path with
  | none => exact Or.inr rfl
  | some entry => exact Or.inl ⟨entry, mem_table_of_lookup? hfound, rfl⟩

/-- **Indices do not count.**  A path means what it means without its indices. -/
theorem ofPath_withoutIndices (path : String) : ofPath (withoutIndices path) = ofPath path := by
  rw [ofPath, ofPath, lookup?_eq_find?, withoutIndices_withoutIndices, ← lookup?_eq_find?,
    inferred_congr (tellingSegments_withoutIndices path)]

/-! ### Keys on the way

A path grows by one key after the other.  Each key that is not empty adds its own segments,
and an index adds none. -/

/-- The segments that the keys on the way to a path have brought in; the empty path is the
one without any. -/
def keysOf (path : String) : List (List Char) := if path = "" then [] else keySegments path

theorem keysOf_of_ne_empty (hne : path ≠ "") : keysOf path = keySegments path := if_neg hne

theorem keysOf_joinPath (hsegment : segment ≠ "") :
    keysOf (joinPath path segment) = keysOf path ++ keySegments segment := by
  by_cases hempty : path = ""
  · subst hempty
    rw [show joinPath "" segment = segment from rfl, keysOf_of_ne_empty hsegment]
    rfl
  · have hjoined : joinPath path segment ≠ "" := by
      rw [joinPath, if_neg (by simpa using hempty)]
      simp
    rw [keysOf_of_ne_empty hjoined, keysOf_of_ne_empty hempty, keySegments,
      segments_joinPath hempty, List.filter_append]
    rfl

theorem withoutIndices_eq_of_keysOf (path : String) :
    withoutIndices path = String.ofList (Text.joinPieces '.' (keysOf path)) := by
  by_cases hempty : path = ""
  · subst hempty
    rfl
  · rw [keysOf_of_ne_empty hempty]
    rfl

theorem tellingSegments_eq_of_keysOf (path : String) :
    tellingSegments path = ((keysOf path).filter isTelling).reverse := by
  by_cases hempty : path = ""
  · subst hempty
    rfl
  · rw [keysOf_of_ne_empty hempty, tellingSegments_eq]

/-- **Only the keys count.**  Paths with the same keys on the way mean the same. -/
theorem ofPath_congr {other : String} (hkeys : keysOf other = keysOf path) :
    ofPath other = ofPath path := by
  have hindices : withoutIndices other = withoutIndices path := by
    rw [withoutIndices_eq_of_keysOf, hkeys, withoutIndices_eq_of_keysOf]
  have htelling : tellingSegments other = tellingSegments path := by
    rw [tellingSegments_eq_of_keysOf, hkeys, tellingSegments_eq_of_keysOf]
  rw [ofPath, ofPath, lookup?_eq_find?, lookup?_eq_find?, hindices, inferred_congr htelling]

end Meaning

/-! ## The wildcard subject -/

/-! ### Upper case never begins with a small letter a -/

namespace Text

/-- A run that maps a letter to the code `0x61` would cover the letter that lies
its shift below. -/
theorem not_covers_of_mem_upperRuns {run : CaseRun} (hrun : run ∈ upperRuns) :
    run.covers (0x61 - run.shift).toNat = false := by
  have hall : upperRuns.all (fun run => !run.covers (0x61 - run.shift).toNat) = true := by
    decide
  simpa using List.all_eq_true.mp hall run hrun

theorem shiftIn_upperRuns_ne (code : Nat) : shiftIn upperRuns code ≠ some 0x61 := by
  intro hshift
  obtain ⟨run, hfound, hcode⟩ := Option.map_eq_some_iff.mp hshift
  have hcovers := List.find?_some hfound
  -- A run that maps the code to the letter has the code as its only candidate.
  have horigin : (0x61 - run.shift).toNat = code := by omega
  have hfree := not_covers_of_mem_upperRuns (List.mem_of_find?_eq_some hfound)
  rw [horigin, hcovers] at hfree
  contradiction

/-- A code that makes a character other than the null character is the code of it. -/
theorem toNat_ofNat_eq {code : Nat} {c : Char} (hchar : Char.ofNat code = c)
    (hpositive : c.toNat ≠ 0) : code = c.toNat := by
  subst hchar
  by_cases hvalid : code.isValidChar
  · have hofNat : Char.ofNat code = Char.ofNatAux code hvalid := dif_pos hvalid
    rw [hofNat]
    rfl
  · have hofNat : Char.ofNat code = '\x00' := dif_neg hvalid
    rw [hofNat] at hpositive
    exact absurd rfl hpositive

theorem head?_expansion_ne {code : Nat} {codes : List Nat}
    (hfound : upperExpansions.lookup code = some codes) :
    (codes.map Char.ofNat).head?.any (· != 'a') = true := by
  have hall : upperExpansions.all
      (fun entry => (entry.2.map Char.ofNat).head?.any (· != 'a')) = true := by
    decide
  obtain ⟨before, after, hsplit, _⟩ := List.lookup_eq_some_iff.mp hfound
  refine List.all_eq_true.mp hall (code, codes) ?_
  rw [hsplit]
  simp

/-- The upper case of a character begins with a character other than `a`. -/
theorem head?_upper_ne (c : Char) : (upper c).head?.any (· != 'a') = true := by
  unfold upper
  split
  · rename_i codes hfound
    exact head?_expansion_ne hfound
  · split
    · rename_i code hshift
      suffices hne : Char.ofNat code ≠ 'a' by simpa using hne
      intro hchar
      have hcode : code = 0x61 := toNat_ofNat_eq hchar (by decide)
      exact shiftIn_upperRuns_ne c.toNat (hcode ▸ hshift)
    · rename_i hnone
      suffices hne : c ≠ 'a' by simpa using hne
      rintro rfl
      have hsome : (shiftIn upperRuns 'a'.toNat).isSome = true := by decide
      rw [hnone] at hsome
      contradiction

theorem capitalize_ne_all (text : String) : capitalize text ≠ "all" := by
  unfold capitalize
  cases text.toList with
  | nil => simp
  | cons first rest =>
      intro hall
      have hhead := head?_upper_ne first
      have hchars : upper first ++ rest = "all".toList := by
        rw [← hall, String.toList_ofList]
      -- The name can only begin where the upper case of the first letter begins.
      cases hupper : upper first with
      | nil => simp [hupper] at hhead
      | cons head more =>
          rw [hupper] at hhead hchars
          obtain ⟨rfl, _⟩ : head = 'a' ∧ more ++ rest = "ll".toList := by
            simpa using hchars
          simp at hhead

end Text

/-! ### Subjects of paths -/

namespace Meaning

theorem namedSubject_ne_all (segment : List Char) : namedSubject segment ≠ .all := by
  intro hall
  have hname := Subject.name_ofName (Text.capitalize (String.ofList segment))
  rw [show Subject.ofName _ = .all from hall] at hname
  exact Text.capitalize_ne_all _ hname.symm

theorem keywordSubject?_ne_all (segment : List Char) : keywordSubject? segment ≠ some .all := by
  have hall : subjectKeywords.all (fun keyword => keyword.2 != .all) = true := by decide
  intro hsome
  obtain ⟨keyword, hfound, hsubject⟩ := Option.map_eq_some_iff.mp hsome
  have hne := List.all_eq_true.mp hall keyword (List.mem_of_find?_eq_some hfound)
  rw [hsubject] at hne
  contradiction

theorem inferSubject_ne_all (path : String) : inferSubject path ≠ .all := by
  simp only [inferSubject]
  split
  · rename_i subject hfound
    obtain ⟨segment, _, hkeyword⟩ := List.exists_of_findSome?_eq_some hfound
    rintro rfl
    exact keywordSubject?_ne_all segment hkeyword
  · cases (tellingSegments path).head? with
    | none => simp [unknownSubject]
    | some segment => exact namedSubject_ne_all segment

theorem subject_ne_all_of_mem_table {entry : Entry} (hentry : entry ∈ table) :
    entry.meaning.subject ≠ .all := by
  have hall : table.all (fun entry => entry.meaning.subject != .all) = true := by decide
  simpa using List.all_eq_true.mp hall entry hentry

/-- **No path means every subject.** -/
theorem subject_ofPath_ne_all (path : String) : (ofPath path).subject ≠ .all := by
  unfold ofPath
  cases hfound : lookup? path with
  | none => exact inferSubject_ne_all path
  | some entry => exact subject_ne_all_of_mem_table (mem_table_of_lookup? hfound)

end Meaning

end Entitlement
