import Entitlement.Proofs.Decode.Reads
import Entitlement.Proofs.Json.Text

/-!
# Written values read back

Of the compact text of a value, and of whatever follows it, the reader delivers the document
that lists the value, and exactly what follows (`NumberFree.readsBack`).

The reader works on a budget, which a part of the text uses up according to its length.  So
what it is known to read is stated for any budget that suffices for the part, whatever
stands behind it (`ReadsBack`).  Two steps for each character are enough: an item takes one step
for itself and one for the list it is in.

The induction is on the value.  Arrays and objects are read item by item from behind the first
one on, and what is still to come is `furtherItems` for arrays; each lemma about a list of items
assumes of the items what the induction gives (`items_append_furtherItems`,
`members_append_furtherMembers`).  To see that an item is there at all, and no closing bracket,
it is enough that no text of a value begins with one (`opening`).

Numbers are left out.  A binary number is written in as few digits as tell it apart, and that
these digits read back is a fact about rounding, not about the notation.
-/

namespace Entitlement

namespace Json

open Reader

/-! ## Values without numbers -/

/-- A value without numbers, in which arrays and objects nest to a depth at most. -/
def NumberFree : Nat → Json → Prop
  | _, .null => True
  | _, .bool _ => True
  | _, .num _ => False
  | _, .str _ => True
  | 0, .arr _ => False
  | 0, .obj _ => False
  | depth + 1, .arr items => ∀ item ∈ items, NumberFree depth item
  | depth + 1, .obj members => ∀ entry ∈ members, NumberFree depth entry.2

variable {value item : Json} {key : String} {rest : List Char}

theorem numberFree_str (depth : Nat) (text : String) : NumberFree depth (.str text) := by
  cases depth <;> trivial

theorem numberFree_arr {α : Type} {write : α → Json} {depth : Nat} {values : List α}
    (hvalues : ∀ value ∈ values, NumberFree depth (write value)) :
    NumberFree (depth + 1) (.arr (values.map write)) := by
  intro item hitem
  obtain ⟨value, hvalue, rfl⟩ := List.mem_map.mp hitem
  exact hvalues value hvalue

theorem depthOfItems_ofItems_le {depth : Nat} {items : List Json}
    (hitems : ∀ item ∈ items, (Document.ofJson item).depth ≤ depth) :
    Document.depthOfItems (Document.ofItems items) ≤ depth := by
  induction items with
  | nil => exact Nat.zero_le depth
  | cons item others ih =>
      obtain ⟨hitem, hothers⟩ := List.forall_mem_cons.mp hitems
      exact Nat.max_le.mpr ⟨hitem, ih hothers⟩

theorem depthOfMembers_ofMembers_le {depth : Nat} {members : List (String × Json)}
    (hmembers : ∀ entry ∈ members, (Document.ofJson entry.2).depth ≤ depth) :
    Document.depthOfMembers (Document.ofMembers members) ≤ depth := by
  induction members with
  | nil => exact Nat.zero_le depth
  | cons entry others ih =>
      obtain ⟨hentry, hothers⟩ := List.forall_mem_cons.mp hmembers
      exact Nat.max_le.mpr ⟨hentry, ih hothers⟩

theorem NumberFree.depth_le {depth : Nat} (hfree : NumberFree depth value) :
    (Document.ofJson value).depth ≤ depth := by
  induction depth generalizing value with
  | zero => cases value <;> simp_all [NumberFree, Document.ofJson, Document.depth]
  | succ depth ih =>
      cases value with
      -- Items and members nest one level less than the value that holds them.
      | arr items =>
          have hitems : ∀ item ∈ items, NumberFree depth item := hfree
          exact Nat.succ_le_succ (depthOfItems_ofItems_le fun item hitem => ih (hitems item hitem))
      | obj members =>
          have hmembers : ∀ entry ∈ members, NumberFree depth entry.2 := hfree
          exact Nat.succ_le_succ
            (depthOfMembers_ofMembers_le fun entry hentry => ih (hmembers entry hentry))
      | null | bool | num | str => exact Nat.zero_le _

/-! ## Strings -/

/-- The codes of characters are no surrogates, so each stands for itself. -/
theorem joinSurrogates_map_toNat (chars : List Char) :
    joinSurrogates (chars.map Char.toNat) = some chars := by
  induction chars with
  | nil => rfl
  | cons c chars ih =>
      -- A character is never a surrogate, so neither half of a pair is found.
      have hvalid : c.toNat < 0xd800 ∨ 0xdfff < c.toNat ∧ c.toNat < 0x110000 := c.valid
      have hlead : (decide (0xd800 ≤ c.toNat) && decide (c.toNat < 0xdc00)) = false := by
        rw [← Bool.not_eq_true, Bool.and_eq_true, decide_eq_true_iff, decide_eq_true_iff]
        omega
      have htrail : (decide (0xdc00 ≤ c.toNat) && decide (c.toNat < 0xe000)) = false := by
        rw [← Bool.not_eq_true, Bool.and_eq_true, decide_eq_true_iff, decide_eq_true_iff]
        omega
      unfold joinSurrogates
      simp only [List.map_cons, hlead, htrail, ih, Bool.false_eq_true, if_false, Option.map_some,
        Char.ofNat_toNat]

theorem string_append_quote (text : String) (rest : List Char) :
    Reader.string (text.toList.flatMap escapeChar ++ '"' :: rest) = some (some text, rest) := by
  simp only [Reader.string, stringCodes_append_quote, List.reverse_nil, List.nil_append,
    Option.bind_eq_bind, Option.bind_some, joinSurrogates_map_toNat, Option.map_some,
    String.ofList_toList, Option.pure_def]

/-! ## Arrays and objects -/

/-- The characters of an array from behind its first item on. -/
def furtherItems : List Json → List Char
  | [] => [']']
  | item :: rest => ',' :: (item.text.toList ++ furtherItems rest)

theorem flatMap_itemTexts (items : List Json) :
    (itemTexts items).flatMap (fun later => ",".toList ++ later.toList) ++ [']'] =
      furtherItems items := by
  induction items with
  | nil => rfl
  | cons item others ih =>
      rw [itemTexts, List.flatMap_cons, List.append_assoc, ih]
      simp [furtherItems]

/-- The characters of an array that has items. -/
theorem toList_text_arr_cons (item : Json) (others : List Json) :
    (Json.arr (item :: others)).text.toList =
      '[' :: (item.text.toList ++ furtherItems others) := by
  have hopening : "[".toList = ['['] := by simp
  have hclosing : "]".toList = [']'] := by simp
  rw [text, itemTexts, String.toList_append, String.toList_append, toList_separated_cons,
    hopening, hclosing, List.append_assoc, List.append_assoc, flatMap_itemTexts]
  simp only [List.cons_append, List.nil_append]

/-- The reader delivers a value and what follows its text, on any budget that allows two steps
for each character of the text. -/
def ReadsBack (value : Json) : Prop :=
  ∀ budget rest, 2 * value.text.toList.length ≤ budget →
    Reader.value budget (value.text.toList ++ rest) = some (Document.ofJson value, rest)

theorem items_append_furtherItems {others : List Json} (hitem : item.ReadsBack)
    (hothers : ∀ later ∈ others, later.ReadsBack) (found : List Document) {budget : Nat}
    (hbudget : 2 * (item.text.toList ++ furtherItems others).length ≤ budget) :
    Reader.items budget found (item.text.toList ++ (furtherItems others ++ rest)) =
      some (.arr (found.reverse ++ Document.ofItems (item :: others)), rest) := by
  induction others generalizing item found budget with
  | nil =>
      rw [furtherItems, List.length_append, List.length_singleton] at hbudget
      obtain ⟨spare, rfl⟩ : ∃ spare, budget = spare + 1 := Nat.exists_eq_add_one.mpr (by omega)
      -- The last item is followed by the bracket that closes the array.
      have hclosed : skipSpace (']' :: rest) = ']' :: rest := rfl
      rw [Reader.items, hitem spare _ (by omega), furtherItems, List.singleton_append]
      simp only [hclosed, List.reverse_cons, Document.ofItems]
  | cons next later ih =>
      obtain ⟨hnext, hlater⟩ := List.forall_mem_cons.mp hothers
      rw [furtherItems, List.length_append, List.length_cons] at hbudget
      obtain ⟨spare, rfl⟩ : ∃ spare, budget = spare + 1 := Nat.exists_eq_add_one.mpr (by omega)
      -- Any other one is followed by a comma, and the rest has a smaller budget.
      have hcomma : ∀ chars, skipSpace (',' :: chars) = ',' :: chars := fun _ => rfl
      rw [Reader.items, hitem spare _ (by omega), furtherItems, List.cons_append,
        List.append_assoc]
      simp only [hcomma]
      rw [ih hnext hlater _ (by omega), List.reverse_cons, List.append_assoc,
        List.singleton_append]
      rfl

theorem members_append_furtherMembers {others : List (String × Json)} (hvalue : value.ReadsBack)
    (hothers : ∀ later ∈ others, later.2.ReadsBack) (found : List (Option String × Document))
    {budget : Nat}
    (hbudget : 2 * ((quote key).toList ++
      ':' :: (value.text.toList ++ furtherMembers others)).length ≤ budget) :
    Reader.members budget found
        ((quote key).toList ++ ':' :: (value.text.toList ++ (furtherMembers others ++ rest))) =
      some (.obj (found.reverse ++ Document.ofMembers ((key, value) :: others)), rest) := by
  -- No blanks stand in the compact notation, so skipping them changes nothing.
  have hcolon : ∀ chars, skipSpace (':' :: chars) = ':' :: chars := fun _ => rfl
  have hmark : ∀ chars, skipSpace ('"' :: chars) = '"' :: chars := fun _ => rfl
  induction others generalizing key value found budget with
  | nil =>
      rw [furtherMembers, List.length_append, List.length_cons, List.length_append,
        List.length_singleton] at hbudget
      obtain ⟨spare, rfl⟩ : ∃ spare, budget = spare + 1 := Nat.exists_eq_add_one.mpr (by omega)
      have hclosed : skipSpace ('\x7d' :: rest) = '\x7d' :: rest := rfl
      -- The key is read as a string, and then its value on what is left of the budget.
      rw [Reader.members, toList_quote_append, hmark]
      simp only [string_append_quote, hcolon]
      rw [hvalue spare _ (by omega), furtherMembers, List.singleton_append]
      simp only [hclosed, List.reverse_cons, Document.ofMembers]
  | cons next later ih =>
      obtain ⟨hnext, hlater⟩ := List.forall_mem_cons.mp hothers
      rw [furtherMembers, List.length_append, List.length_cons, List.length_append,
        List.length_cons] at hbudget
      obtain ⟨spare, rfl⟩ : ∃ spare, budget = spare + 1 := Nat.exists_eq_add_one.mpr (by omega)
      -- Behind the comma the reader starts over with one member more found.
      have hcomma : ∀ chars, skipSpace (',' :: chars) = ',' :: chars := fun _ => rfl
      rw [Reader.members, toList_quote_append, hmark]
      simp only [string_append_quote, hcolon]
      rw [hvalue spare _ (by omega), furtherMembers, List.cons_append, List.append_assoc,
        List.cons_append, List.append_assoc]
      simp only [hcomma]
      rw [ih hnext hlater _ (by omega), List.reverse_cons, List.append_assoc,
        List.singleton_append]
      rfl

/-! ## Values -/

/-- The characters with which the text of a value without numbers can begin. -/
def opening : List Char := ['n', 't', 'f', '"', '[', '\x7b']

theorem toList_text_cons {depth : Nat} (hfree : NumberFree depth value) :
    ∃ c chars, value.text.toList = c :: chars ∧ c ∈ opening := by
  cases value with
  | null => exact ⟨'n', _, rfl, by decide⟩
  | bool truth => cases truth <;> exact ⟨_, _, rfl, by decide⟩
  | num number => cases depth <;> contradiction
  | str text => exact ⟨'"', _, by rw [text_str, toList_quote], by decide⟩
  | arr items =>
      cases items with
      | nil => exact ⟨'[', _, rfl, by decide⟩
      | cons item others => exact ⟨'[', _, toList_text_arr_cons item others, by decide⟩
  | obj members =>
      cases members with
      | nil => exact ⟨'\x7b', _, rfl, by decide⟩
      | cons entry others => exact ⟨'\x7b', _, toList_text_obj_cons _ _ _, by decide⟩

/-- A bracket that is not closed at once opens an array with items. -/
theorem value_bracket {c : Char} (hc : c ∈ opening) (spare : Nat) (chars : List Char) :
    Reader.value (spare + 1) ('[' :: c :: chars) = Reader.items spare [] (c :: chars) := by
  simp only [opening, List.mem_cons, List.not_mem_nil, or_false] at hc
  rcases hc with rfl | rfl | rfl | rfl | rfl | rfl <;> rfl

theorem value_brace (spare : Nat) (chars : List Char) :
    Reader.value (spare + 1) ('\x7b' :: '"' :: chars) = Reader.members spare [] ('"' :: chars) :=
  rfl

/-- No text is empty, so there is a step to take. -/
theorem exists_eq_add_one_of_budget {depth budget : Nat} (hfree : NumberFree depth value)
    (hbudget : 2 * value.text.toList.length ≤ budget) : ∃ spare, budget = spare + 1 := by
  obtain ⟨c, chars, htext, _⟩ := toList_text_cons hfree
  rw [htext, List.length_cons] at hbudget
  exact Nat.exists_eq_add_one.mpr (by omega)

theorem readsBack_of_isScalar {depth : Nat} (hfree : NumberFree depth value)
    (hscalar : value.isScalar = true) : value.ReadsBack := by
  intro budget rest hbudget
  obtain ⟨spare, rfl⟩ := exists_eq_add_one_of_budget hfree hbudget
  cases value with
  | null => rfl
  | bool truth => cases truth <;> rfl
  | num number => cases depth <;> contradiction
  | str text =>
      have hmark : ∀ chars, Reader.value (spare + 1) ('"' :: chars) =
          (Reader.string chars).map fun found => (.str found.1, found.2) := fun _ => rfl
      rw [text_str, toList_quote_append, hmark, string_append_quote]
      rfl
  | arr | obj => contradiction

theorem readsBack_arr {depth : Nat} {items : List Json} (hfree : NumberFree depth (.arr items))
    (hitems : ∀ item ∈ items, item.ReadsBack) : (Json.arr items).ReadsBack := by
  intro budget rest hbudget
  obtain ⟨spare, rfl⟩ := exists_eq_add_one_of_budget hfree hbudget
  cases items with
  | nil => rfl
  | cons item others =>
      obtain ⟨hitem, hothers⟩ := List.forall_mem_cons.mp hitems
      -- The first item does not begin with a bracket that closes, so the array is not empty.
      obtain ⟨c, chars, htext, hc⟩ : ∃ c chars, item.text.toList = c :: chars ∧ c ∈ opening := by
        cases depth with
        | zero => contradiction
        | succ depth => exact toList_text_cons (hfree item (List.mem_cons_self ..))
      rw [toList_text_arr_cons, List.length_cons] at hbudget
      rw [toList_text_arr_cons, List.cons_append, List.append_assoc, htext, List.cons_append,
        value_bracket hc, ← List.cons_append, ← htext,
        items_append_furtherItems hitem hothers [] (by omega)]
      rfl

theorem readsBack_obj {depth : Nat} {members : List (String × Json)}
    (hfree : NumberFree depth (.obj members)) (hmembers : ∀ entry ∈ members, entry.2.ReadsBack) :
    (Json.obj members).ReadsBack := by
  intro budget rest hbudget
  obtain ⟨spare, rfl⟩ := exists_eq_add_one_of_budget hfree hbudget
  cases members with
  | nil => rfl
  | cons entry others =>
      obtain ⟨key, value⟩ := entry
      obtain ⟨hvalue, hothers⟩ := List.forall_mem_cons.mp hmembers
      have hvalue : value.ReadsBack := hvalue
      rw [toList_text_obj_cons, List.length_cons] at hbudget
      rw [toList_text_obj_cons, List.cons_append, List.append_assoc, List.cons_append,
        List.append_assoc, toList_quote_append, value_brace, ← toList_quote_append,
        members_append_furtherMembers hvalue hothers [] (by omega)]
      rfl

/-- **Values without numbers read back.** -/
theorem NumberFree.readsBack {depth : Nat} (hfree : NumberFree depth value) :
    value.ReadsBack := by
  induction depth generalizing value with
  | zero =>
      refine readsBack_of_isScalar hfree ?_
      cases value <;> first | rfl | contradiction
  | succ depth ih =>
      cases value with
      | arr items => exact readsBack_arr hfree fun item hitem => ih (hfree item hitem)
      | obj members => exact readsBack_obj hfree fun entry hentry => ih (hfree entry hentry)
      | null | bool | num | str => exact readsBack_of_isScalar hfree rfl

end Json

/-! ## Texts -/

variable {value : Json} {depth : Nat}

/-- The document at the front of a written value is the one that lists it, and nothing follows. -/
theorem Json.NumberFree.readFront?_text (hfree : value.NumberFree depth) :
    Document.readFront? value.text = some (Document.ofJson value, []) := by
  have hread := hfree.readsBack (2 * value.text.toList.length + 2) [] (by omega)
  rwa [List.append_nil] at hread

/-- A written value reads back. -/
theorem Json.NumberFree.parse?_text (hfree : value.NumberFree depth)
    (hdepth : depth ≤ Json.maxDepth) (hordered : value.Ordered) :
    Json.parse? value.text = some value := by
  have hshallow : (Document.ofJson value).depth ≤ Json.maxDepth :=
    Nat.le_trans hfree.depth_le hdepth
  have hend : (Json.Reader.skipSpace []).isEmpty = true := rfl
  rw [Json.parse?, Document.read?, hfree.readFront?_text]
  simp only [hend, if_true]
  rw [Option.bind_some, Document.shallowValue?, if_pos hshallow,
    Document.value?_ofJson value hordered]

/-- What a decoder makes of a value it makes of the value's text. -/
theorem Decoder.Reads.ofText {α : Type} {decoder : Decoder α} {result : α}
    (hreads : decoder.Reads value result) (hfree : value.NumberFree depth)
    (hdepth : depth ≤ Json.maxDepth) : decoder.ofText value.text = .ok result := by
  have hroom : Decode.Suffices (some Json.maxDepth) (Document.ofJson value).depth := by
    intro limit hlimit
    obtain rfl := Option.some.inj hlimit
    exact Nat.le_trans hfree.depth_le hdepth
  rw [Decoder.ofText, hfree.readFront?_text]
  simp only [hreads _ hroom]

end Entitlement
