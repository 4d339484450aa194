import Entitlement.Text.Character
import Entitlement.Text.Split
import Entitlement.Uuid
import Mathlib.Algebra.GroupWithZero.Nat

/-!
# Texts that are joined and read back

Two ways in which texts lose nothing.  Pieces that do not hold a separator are the pieces of the
text that they are joined to, so splitting undoes joining (`Text.pieces_joinPieces`); and of two
texts that are joined by a separator which neither of the last parts holds, both parts can be
told (`Text.append_separator_inj`).

An identifier is written in one of the four spellings that are read, the grouped one in lower
case, so it reads back (`Uuid.parse?_text`).  Hence different identifiers have different texts,
and to compare texts is to compare identifiers wherever texts are in this form.
-/

namespace Entitlement

/-! ## Pieces of joined texts

Splitting and joining undo each other.  The pieces of a text never hold the
separator, and pieces that do not hold it are the pieces of the text that they
are joined to. -/

namespace Text

variable {separator : Char} {chars rest piece : List Char}

theorem pieces_of_not_mem (hfree : separator ∉ chars) : pieces separator chars = [chars] := by
  induction chars with
  | nil => rfl
  | cons c chars ih =>
      have hne : c ≠ separator := (List.ne_of_not_mem_cons hfree).symm
      rw [pieces, if_neg hne, ih (List.not_mem_of_not_mem_cons hfree)]

/-- The pieces before a separator are followed by those after it. -/
theorem pieces_append_separator (separator : Char) (chars rest : List Char) :
    pieces separator (chars ++ separator :: rest) =
      pieces separator chars ++ pieces separator rest := by
  induction chars with
  | nil =>
      show pieces separator (separator :: rest) = [] :: pieces separator rest
      rw [pieces, if_pos rfl]
  | cons c chars ih =>
      rw [List.cons_append, pieces, pieces, ih]
      by_cases hseparator : c = separator
      · rw [if_pos hseparator, if_pos hseparator, List.cons_append]
      · rw [if_neg hseparator, if_neg hseparator]
        -- The character joins the first piece, and there always is one.
        cases hpieces : pieces separator chars with
        | nil => exact absurd hpieces (pieces_ne_nil separator chars)
        | cons first more => rfl

theorem not_mem_of_mem_pieces (hpiece : piece ∈ pieces separator chars) : separator ∉ piece := by
  induction chars generalizing piece with
  | nil =>
      obtain rfl := List.mem_singleton.mp hpiece
      exact List.not_mem_nil
  | cons c chars ih =>
      rw [pieces] at hpiece
      by_cases hseparator : c = separator
      · rw [if_pos hseparator] at hpiece
        rcases List.mem_cons.mp hpiece with rfl | hrest
        · exact List.not_mem_nil
        · exact ih hrest
      · rw [if_neg hseparator] at hpiece
        cases hpieces : pieces separator chars with
        | nil => exact absurd hpieces (pieces_ne_nil separator chars)
        | cons first more =>
            rw [hpieces] at hpiece ih
            -- The character went into the first piece, and the others are as they were.
            rcases List.mem_cons.mp hpiece with rfl | hrest
            · exact List.not_mem_cons_of_ne_of_not_mem (Ne.symm hseparator)
                (ih (List.mem_cons_self ..))
            · exact ih (List.mem_cons_of_mem _ hrest)

/-- Pieces that do not hold the separator come back from the joined text. -/
theorem pieces_joinPieces {segments : List (List Char)} (hne : segments ≠ [])
    (hfree : ∀ segment ∈ segments, separator ∉ segment) :
    pieces separator (joinPieces separator segments) = segments := by
  induction segments with
  | nil => contradiction
  | cons segment rest ih =>
      obtain ⟨hsegment, hrest⟩ := List.forall_mem_cons.mp hfree
      cases rest with
      | nil => exact pieces_of_not_mem hsegment
      | cons next more =>
          rw [joinPieces, pieces_append_separator, pieces_of_not_mem hsegment,
            ih (List.cons_ne_nil _ _) hrest, List.singleton_append]

/-- A text falls apart at its last separator in one way. -/
theorem append_separator_inj {front back : List Char} (hrest : separator ∉ rest)
    (hback : separator ∉ back) (hsame : chars ++ separator :: rest = front ++ separator :: back) :
    chars = front ∧ rest = back := by
  have hpieces := congrArg (pieces separator) hsame
  rw [pieces_append_separator, pieces_append_separator, pieces_of_not_mem hrest,
    pieces_of_not_mem hback] at hpieces
  obtain ⟨hfront, hlast⟩ := List.append_inj' hpieces rfl
  have hjoined := congrArg (joinPieces separator) hfront
  rw [joinPieces_pieces, joinPieces_pieces] at hjoined
  exact ⟨hjoined, List.singleton_inj.mp hlast⟩

/-- The first separator of a text is the one behind a part without any. -/
theorem splitOnce?_append_separator (hfree : separator ∉ chars) (rest : List Char) :
    splitOnce? separator (chars ++ separator :: rest) = some (chars, rest) := by
  induction chars with
  | nil => exact if_pos rfl
  | cons c chars ih =>
      have hne : c ≠ separator := (List.ne_of_not_mem_cons hfree).symm
      rw [List.cons_append, splitOnce?, if_neg hne, ih (List.not_mem_of_not_mem_cons hfree)]
      rfl

end Text

/-! ## The written form of an identifier

Nothing in the form is white space, so readers that overlook white space around a text find
nothing to overlook. -/

namespace Text

variable {text : String}

theorem dropWhile_isBlank {chars : List Char} (hchars : ∀ c ∈ chars, isBlank c = false) :
    chars.dropWhile isBlank = chars := by
  cases chars with
  | nil => rfl
  | cons c rest => simp [hchars c (List.mem_cons_self ..)]

theorem trim_eq_self (hchars : ∀ c ∈ text.toList, isBlank c = false) : trim text = text := by
  have hstart : trimStart text = text := by
    rw [trimStart, dropWhile_isBlank hchars, String.ofList_toList]
  have hend : text.toList.reverse.dropWhile isBlank = text.toList.reverse :=
    dropWhile_isBlank fun c hc => hchars c (List.mem_reverse.mp hc)
  rw [trim, hstart, trimEnd, hend, List.reverse_reverse, String.ofList_toList]

end Text

namespace Uuid

variable {id other : Uuid} {chars : List Char} {sizes : List Nat}

/-! ### Digits -/

theorem charDigit?_digitChar (digit : Fin 16) : charDigit? (digitChar digit) = some digit := by
  have hall : ∀ digit : Fin 16, charDigit? (digitChar digit) = some digit := by decide
  exact hall digit

theorem mapM_charDigit?_digits (digits : List (Fin 16)) :
    (digits.map digitChar).mapM charDigit? = some digits := by
  induction digits with
  | nil => rfl
  | cons digit rest ih => simp [charDigit?_digitChar, ih]

theorem ofBare?_digits (id : Uuid) : ofBare? (id.digits.map digitChar) = some id := by
  rw [ofBare?, mapM_charDigit?_digits, Option.bind_some, ofDigits?, dif_pos id.length_digits]

/-- Whoever reads bare digits does not read a hyphen. -/
theorem ofBare?_eq_none (hhyphen : '-' ∈ chars) : ofBare? chars = none := by
  have hnone : chars.mapM charDigit? = none := by
    induction chars with
    | nil => contradiction
    | cons c rest ih =>
        rw [List.mapM_cons]
        rcases List.mem_cons.mp hhyphen with rfl | hrest
        · rfl
        · rw [ih hrest]
          cases charDigit? c <;> rfl
  rw [ofBare?, hnone]
  rfl

/-! ### Groups -/

theorem ungroup?_group (hlength : sizes.sum = chars.length) :
    ungroup? sizes (group sizes chars) = some chars := by
  fun_induction group sizes chars with
  | case1 size next sizes chars ih =>
      have hsize : size ≤ chars.length := by
        rw [List.sum_cons] at hlength
        omega
      have hrest : (next :: sizes).sum = (chars.drop size).length := by
        rw [List.sum_cons] at hlength
        rw [List.length_drop]
        omega
      have htake : (chars.take size).length = size := by
        rw [List.length_take, Nat.min_eq_left hsize]
      rw [ungroup?, List.drop_left' htake, List.take_left' htake]
      simp only
      rw [ih hrest, Option.map_some, List.take_append_drop]
  | case2 sizes chars hshort =>
      rw [ungroup?]
      exact hshort

theorem eq_or_mem_of_mem_group {c : Char} (hc : c ∈ group sizes chars) : c = '-' ∨ c ∈ chars := by
  fun_induction group sizes chars with
  | case1 size next sizes chars ih =>
      rcases List.mem_append.mp hc with htake | hrest
      · exact Or.inr (List.mem_of_mem_take htake)
      · rcases List.mem_cons.mp hrest with rfl | hrest
        · exact Or.inl rfl
        · exact (ih hrest).imp_right List.mem_of_mem_drop
  | case2 sizes chars => exact Or.inr hc

/-! ### Texts -/

theorem toList_text (id : Uuid) :
    id.text.toList = group groupSizes (id.digits.map digitChar) := String.toList_ofList

/-- **An identifier reads back.** -/
@[simp] theorem parse?_text (id : Uuid) : parse? id.text = some id := by
  have hgrouped : ofGrouped? (group groupSizes (id.digits.map digitChar)) = some id := by
    have hlength : groupSizes.sum = (id.digits.map digitChar).length := by
      rw [List.length_map, id.length_digits]
      rfl
    rw [ofGrouped?, ungroup?_group hlength, Option.bind_some, ofBare?_digits]
  have hbare : ofBare? (group groupSizes (id.digits.map digitChar)) = none := by
    refine ofBare?_eq_none ?_
    rw [groupSizes, group]
    simp
  rw [parse?, toList_text, hbare, hgrouped]
  rfl

theorem text_inj : id.text = other.text ↔ id = other := by
  constructor
  · intro htext
    have hread := congrArg parse? htext
    rw [parse?_text, parse?_text] at hread
    exact Option.some.inj hread
  · rintro rfl
    rfl

theorem isBlank_eq_false_of_mem_text {c : Char} (hc : c ∈ id.text.toList) :
    Text.isBlank c = false := by
  have hdigits : ∀ digit : Fin 16, Text.isBlank (digitChar digit) = false := by decide
  rw [toList_text] at hc
  rcases eq_or_mem_of_mem_group hc with rfl | hmem
  · rfl
  · obtain ⟨digit, _, rfl⟩ := List.mem_map.mp hmem
    exact hdigits digit

@[simp] theorem trim_text (id : Uuid) : Text.trim id.text = id.text :=
  Text.trim_eq_self fun _ => isBlank_eq_false_of_mem_text

end Uuid

end Entitlement
