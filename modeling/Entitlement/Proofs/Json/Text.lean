import Entitlement.Json.Reader
import Mathlib.Tactic.SplitIfs

/-!
# Texts of objects

The compact text of an object whose values are texts or truth values tells its members
(`text_obj_inj`), and it tells where it begins: inside of it there is no second place that looks
like the beginning of an object (`toList_text_obj`).  So such a text can stand at the end of
other text, whatever that is, and the two can be told apart (`eq_of_append_opensObject`).  The
keys of statements end in such a text.

Two obstacles have to be removed.

* **Escapes.**  Where a string ends is decided by what stands before a quotation mark.  The
  reader of strings is used as the judge: of a quoted string and whatever follows it, it
  delivers the codes of the string's characters and exactly what follows
  (`stringCodes_append_quote`).
* **Braces inside strings.**  A brace can stand inside a string, even with a quotation mark
  behind it.  But then the string is over, and the next character is one that goes on with the
  object and none that begins a member.
-/

namespace Entitlement.Json

/-! ## Strings read back

The invariant of the reader is `stringCodes_append_quote`: it holds after any codes that have
been read before. -/

section Quote

open Reader

/-! ### One character -/

theorem hexValue?_hexDigit {n : Nat} (hn : n < 16) : hexValue? (hexDigit n) = some n := by
  have hall : ∀ digit : Fin 16, hexValue? (hexDigit digit) = some digit.val := by decide
  exact hall ⟨n, hn⟩

/-- The four digits of a control character give its code. -/
theorem hexCode?_control {code : Nat} (hcode : code < 0x20) :
    hexCode? '0' '0' (hexDigit (code / 16)) (hexDigit (code % 16)) = some code := by
  have hzero : hexValue? '0' = some 0 := by decide
  have hhigh := hexValue?_hexDigit (n := code / 16) (by omega)
  have hlow := hexValue?_hexDigit (n := code % 16) (by omega)
  have hsum : ((0 * 16 + 0) * 16 + code / 16) * 16 + code % 16 = code := by omega
  simp only [hexCode?, hzero, hhigh, hlow, Option.bind_eq_bind, Option.bind_some, Option.pure_def,
    hsum]

/-- A character is written as a letter that stands for it, as the code of a control
character, or as itself. -/
theorem escapeChar_cases (c : Char) :
    (∃ letter, escapeChar c = ['\\', letter] ∧ simpleEscape? letter = some c.toNat) ∨
      (c.toNat < 0x20 ∧ escapeChar c =
        ['\\', 'u', '0', '0', hexDigit (c.toNat / 16), hexDigit (c.toNat % 16)]) ∨
      (c ≠ '"' ∧ c ≠ '\\' ∧ ¬ c.toNat < 0x20 ∧ escapeChar c = [c]) := by
  unfold escapeChar
  split_ifs with hquote hslash hfeed hreturn htab hback hform hcontrol
  · exact Or.inl ⟨'"', rfl, by rw [hquote]; rfl⟩
  · exact Or.inl ⟨'\\', rfl, by rw [hslash]; rfl⟩
  · exact Or.inl ⟨'n', rfl, by rw [hfeed]; rfl⟩
  · exact Or.inl ⟨'r', rfl, by rw [hreturn]; rfl⟩
  · exact Or.inl ⟨'t', rfl, by rw [htab]; rfl⟩
  · exact Or.inl ⟨'b', rfl, by rw [hback]; rfl⟩
  · exact Or.inl ⟨'f', rfl, by rw [hform]; rfl⟩
  · exact Or.inr (Or.inl ⟨hcontrol, rfl⟩)
  · exact Or.inr (Or.inr ⟨hquote, hslash, hcontrol, rfl⟩)

/-- An escape of one letter stands for the character that the letter is for. -/
theorem stringCodes_cons_letter {letter : Char} {code : Nat}
    (hletter : simpleEscape? letter = some code) (codes : List Nat) (rest : List Char) :
    stringCodes codes ('\\' :: letter :: rest) = stringCodes (code :: codes) rest := by
  rw [stringCodes]
  · rw [hletter]
  · -- The letter of a code is no letter of this kind.
    rintro a b c d later rfl
    contradiction

theorem stringCodes_cons_control {code : Nat} (hcode : code < 0x20) (codes : List Nat)
    (rest : List Char) :
    stringCodes codes
        ('\\' :: 'u' :: '0' :: '0' :: hexDigit (code / 16) :: hexDigit (code % 16) :: rest) =
      stringCodes (code :: codes) rest := by
  rw [stringCodes, hexCode?_control hcode]

/-- A character that needs no escape stands for itself. -/
theorem stringCodes_cons_plain {c : Char} (hquote : c ≠ '"') (hslash : c ≠ '\\')
    (hcontrol : ¬ c.toNat < 0x20) (codes : List Nat) (rest : List Char) :
    stringCodes codes (c :: rest) = stringCodes (c.toNat :: codes) rest := by
  rw [stringCodes]
  · simp [hslash, hcontrol]
  · exact hquote
  · rintro a b d e later rfl
    contradiction
  · rintro d later rfl
    contradiction

/-- One step of the reader takes back one step of the printer. -/
theorem stringCodes_escapeChar (c : Char) (codes : List Nat) (rest : List Char) :
    stringCodes codes (escapeChar c ++ rest) = stringCodes (c.toNat :: codes) rest := by
  -- Three ways to write a character, and each has its way back.
  rcases escapeChar_cases c with ⟨letter, hc, hletter⟩ | ⟨hcontrol, hc⟩ |
    ⟨hquote, hslash, hcontrol, hc⟩
  · rw [hc]
    exact stringCodes_cons_letter hletter codes rest
  · rw [hc]
    exact stringCodes_cons_control hcontrol codes rest
  · rw [hc]
    exact stringCodes_cons_plain hquote hslash hcontrol codes rest

/-! ### Strings -/

/-- **A string reads back.**  After codes that have been read before, the reader
delivers the codes of an escaped text up to the closing mark, and what follows. -/
theorem stringCodes_append_quote (chars : List Char) (codes : List Nat) (rest : List Char) :
    stringCodes codes (chars.flatMap escapeChar ++ '"' :: rest) =
      some (codes.reverse ++ chars.map Char.toNat, rest) := by
  induction chars generalizing codes with
  | nil =>
      rw [List.flatMap_nil, List.nil_append, stringCodes, List.map_nil, List.append_nil]
  | cons c chars ih =>
      rw [List.flatMap_cons, List.append_assoc, stringCodes_escapeChar, ih, List.reverse_cons,
        List.append_assoc, List.singleton_append, List.map_cons]

/-- The characters of a quoted text. -/
theorem toList_quote (text : String) :
    (quote text).toList = '"' :: (text.toList.flatMap escapeChar ++ ['"']) :=
  String.toList_ofList

theorem toList_quote_append (text : String) (rest : List Char) :
    (quote text).toList ++ rest = '"' :: (text.toList.flatMap escapeChar ++ '"' :: rest) := by
  rw [toList_quote, List.cons_append, List.append_assoc, List.singleton_append]

/-- Where two texts begin with quoted strings, the strings are the same and so is what
follows them. -/
theorem quote_append_inj {text other : String} {rest later : List Char}
    (hsame : (quote text).toList ++ rest = (quote other).toList ++ later) :
    text = other ∧ rest = later := by
  rw [toList_quote_append, toList_quote_append] at hsame
  -- Reading both texts gives the codes of the strings, and codes tell the characters.
  have hread := congrArg (stringCodes []) (List.cons.inj hsame).2
  rw [stringCodes_append_quote, stringCodes_append_quote] at hread
  obtain ⟨hcodes, hrest⟩ := Prod.mk.inj (Option.some.inj hread)
  have hchars : text.toList = other.toList :=
    (List.map_inj_right fun _ _ => Char.toNat_inj.mp).mp hcodes
  exact ⟨String.toList_inj.mp hchars, hrest⟩

end Quote

/-! ## Objects -/

/-! ### Members one after the other -/

/-- Texts and truth values. -/
def isLabel : Json → Bool
  | .str _ => true
  | .bool _ => true
  | _ => false

/-- The characters of an object from behind its first member on. -/
def furtherMembers : List (String × Json) → List Char
  | [] => ['\x7d']
  | (key, value) :: rest =>
      ',' :: ((quote key).toList ++ ':' :: (value.text.toList ++ furtherMembers rest))

theorem toList_foldl_separated (separator : String) (texts : List String) (before : String) :
    (texts.foldl (fun acc later => acc ++ separator ++ later) before).toList =
      before.toList ++ texts.flatMap fun later => separator.toList ++ later.toList := by
  induction texts generalizing before with
  | nil => simp
  | cons next rest ih => simp [ih]

theorem toList_separated_cons (separator first : String) (rest : List String) :
    (separated separator (first :: rest)).toList =
      first.toList ++ rest.flatMap fun later => separator.toList ++ later.toList := by
  cases rest with
  | nil => simp [separated]
  | cons next more => simp [separated, toList_foldl_separated]

theorem flatMap_memberTexts (members : List (String × Json)) :
    (memberTexts members).flatMap (fun later => ",".toList ++ later.toList) ++ ['\x7d'] =
      furtherMembers members := by
  induction members with
  | nil => rfl
  | cons entry rest ih =>
      obtain ⟨key, value⟩ := entry
      rw [memberTexts, List.flatMap_cons, List.append_assoc, ih]
      simp [furtherMembers]

/-- The characters of an object that has members. -/
theorem toList_text_obj_cons (key : String) (value : Json) (rest : List (String × Json)) :
    (Json.obj ((key, value) :: rest)).text.toList =
      '\x7b' :: ((quote key).toList ++ ':' :: (value.text.toList ++ furtherMembers rest)) := by
  have hopening : "\x7b".toList = ['\x7b'] := by simp
  have hclosing : "\x7d".toList = ['\x7d'] := by simp
  have hcolon : ":".toList = [':'] := by simp
  rw [text, memberTexts, String.toList_append, String.toList_append, toList_separated_cons,
    hopening, hclosing, List.append_assoc, List.append_assoc, flatMap_memberTexts,
    String.toList_append, String.toList_append, hcolon]
  simp only [List.append_assoc, List.cons_append, List.nil_append]

/-- What comes after a member goes on with the object or closes it. -/
theorem furtherMembers_eq_cons (members : List (String × Json)) :
    ∃ c rest, furtherMembers members = c :: rest ∧ (c = ',' ∨ c = '\x7d') := by
  cases members with
  | nil => exact ⟨'\x7d', [], rfl, Or.inr rfl⟩
  | cons entry rest => exact ⟨',', _, rfl, Or.inl rfl⟩

/-! ### The members by the text -/

theorem text_str (text : String) : (Json.str text).text = quote text := by
  rw [Json.text]

theorem text_append_inj {value other : Json} (hvalue : value.isLabel = true)
    (hother : other.isLabel = true) {rest later : List Char}
    (hsame : value.text.toList ++ rest = other.text.toList ++ later) :
    value = other ∧ rest = later := by
  cases value with
  | str text =>
      cases other with
      | str word =>
          obtain ⟨rfl, hrest⟩ := quote_append_inj hsame
          exact ⟨rfl, hrest⟩
      | bool truth =>
          -- One text begins with a quotation mark and the other with a letter.
          rw [text_str, toList_quote_append] at hsame
          cases truth <;> simp [Json.text] at hsame
      | null | num | arr | obj => contradiction
  | bool truth =>
      cases other with
      | str word =>
          rw [text_str, toList_quote_append] at hsame
          cases truth <;> simp [Json.text] at hsame
      | bool other => cases truth <;> cases other <;> simp_all [Json.text]
      | null | num | arr | obj => contradiction
  | null | num | arr | obj => contradiction

theorem member_append_inj {key name : String} {value other : Json}
    (hvalue : value.isLabel = true) (hother : other.isLabel = true) {rest later : List Char}
    (hsame : (quote key).toList ++ ':' :: (value.text.toList ++ rest) =
      (quote name).toList ++ ':' :: (other.text.toList ++ later)) :
    (key, value) = (name, other) ∧ rest = later := by
  obtain ⟨rfl, hbehind⟩ := quote_append_inj hsame
  obtain ⟨rfl, hrest⟩ := text_append_inj hvalue hother (List.cons.inj hbehind).2
  exact ⟨rfl, hrest⟩

theorem furtherMembers_inj {members others : List (String × Json)}
    (hmembers : ∀ entry ∈ members, entry.2.isLabel = true)
    (hothers : ∀ entry ∈ others, entry.2.isLabel = true)
    (hsame : furtherMembers members = furtherMembers others) : members = others := by
  induction members generalizing others with
  | nil =>
      cases others with
      | nil => rfl
      | cons entry rest => simp [furtherMembers] at hsame
  | cons entry rest ih =>
      obtain ⟨hentry, hrest⟩ := List.forall_mem_cons.mp hmembers
      cases others with
      | nil => simp [furtherMembers] at hsame
      | cons other later =>
          obtain ⟨hother, hlater⟩ := List.forall_mem_cons.mp hothers
          -- The first members are the same, and what is left are again members.
          obtain ⟨hmember, hbehind⟩ :=
            member_append_inj hentry hother (List.cons.inj hsame).2
          rw [ih hrest hlater hbehind, show entry = other from hmember]

/-- **The text of an object tells its members.** -/
theorem text_obj_inj {entry other : String × Json} {rest later : List (String × Json)}
    (hmembers : ∀ member ∈ entry :: rest, member.2.isLabel = true)
    (hothers : ∀ member ∈ other :: later, member.2.isLabel = true)
    (hsame : (Json.obj (entry :: rest)).text = (Json.obj (other :: later)).text) :
    entry :: rest = other :: later := by
  have hchars := congrArg String.toList hsame
  rw [toList_text_obj_cons, toList_text_obj_cons] at hchars
  -- But for its first character, the text is that of further members.
  refine furtherMembers_inj hmembers hothers ?_
  rw [furtherMembers, furtherMembers, (List.cons.inj hchars).2]

/-! ### The beginning of the text -/

/-- Whether characters look like the beginning of an object with a member: a brace, a
quotation mark, and then nothing that follows the end of a string. -/
def opensObject : List Char → Bool
  | '\x7b' :: '"' :: c :: _ => c != ',' && c != ':' && c != '\x7d'
  | _ => false

/-- At no place do characters look like the beginning of an object. -/
def OpensNowhere (chars : List Char) : Prop :=
  ∀ suffix, suffix <:+ chars → opensObject suffix = false

theorem opensObject_cons_of_ne {c : Char} (hne : c ≠ '\x7b') (rest : List Char) :
    opensObject (c :: rest) = false := by
  unfold opensObject
  split
  · rename_i hcons
    exact absurd (List.cons.inj hcons).1 hne
  · rfl

theorem opensNowhere_cons_iff {c : Char} {rest : List Char} :
    OpensNowhere (c :: rest) ↔ opensObject (c :: rest) = false ∧ OpensNowhere rest := by
  simp only [OpensNowhere, List.suffix_cons_iff, forall_eq_or_imp]

theorem OpensNowhere.cons {c : Char} {rest : List Char} (hrest : OpensNowhere rest)
    (hne : c ≠ '\x7b') : OpensNowhere (c :: rest) :=
  opensNowhere_cons_iff.mpr ⟨opensObject_cons_of_ne hne rest, hrest⟩

theorem OpensNowhere.append {before rest : List Char} (hrest : OpensNowhere rest)
    (hbefore : '\x7b' ∉ before) : OpensNowhere (before ++ rest) := by
  induction before with
  | nil => exact hrest
  | cons c before ih =>
      exact (ih (List.not_mem_of_not_mem_cons hbefore)).cons
        (List.ne_of_not_mem_cons hbefore).symm

/-- What is written for a character never begins with a quotation mark. -/
theorem head?_escapeChar_ne (c : Char) : (escapeChar c).head? ≠ some '"' := by
  rcases escapeChar_cases c with ⟨letter, hc, _⟩ | ⟨_, hc⟩ | ⟨hquote, _, _, hc⟩
  · simp [hc]
  · simp [hc]
  · simpa [hc] using hquote

theorem hexDigit_ne_brace {n : Nat} (hn : n < 16) : '\x7b' ≠ hexDigit n := by
  have hall : ∀ digit : Fin 16, '\x7b' ≠ hexDigit digit := by decide
  exact hall ⟨n, hn⟩

/-- A brace is written as itself only. -/
theorem escapeChar_eq_of_brace_mem {c : Char} (hbrace : '\x7b' ∈ escapeChar c) :
    escapeChar c = ['\x7b'] := by
  rcases escapeChar_cases c with ⟨letter, hc, hletter⟩ | ⟨hcontrol, hc⟩ | ⟨_, _, _, hc⟩
  · obtain rfl : '\x7b' = letter := by simpa [hc] using hbrace
    contradiction
  · -- An escape with digits has no brace in it.
    have hhigh := hexDigit_ne_brace (n := c.toNat / 16) (by omega)
    have hlow := hexDigit_ne_brace (n := c.toNat % 16) (by omega)
    simp [hc, hhigh, hlow] at hbrace
  · obtain rfl : '\x7b' = c := by simpa [hc] using hbrace
    exact hc

/-- After a brace inside a string the string goes on, or it ends and the object does
not begin. -/
theorem opensObject_brace_escaped {chars rest : List Char} {c : Char}
    (hc : c = ',' ∨ c = ':' ∨ c = '\x7d') :
    opensObject ('\x7b' :: (chars.flatMap escapeChar ++ '"' :: c :: rest)) = false := by
  cases chars with
  | nil => rcases hc with rfl | rfl | rfl <;> rfl
  | cons first more =>
      rw [List.flatMap_cons, List.append_assoc]
      -- The string goes on with a character, and none is written beginning with a quotation mark.
      have hhead := head?_escapeChar_ne first
      cases hescaped : escapeChar first with
      | nil =>
          rcases escapeChar_cases first with ⟨_, hsome, _⟩ | ⟨_, hsome⟩ | ⟨_, _, _, hsome⟩ <;>
            simp [hescaped] at hsome
      | cons head tail =>
          rw [hescaped] at hhead
          unfold opensObject
          split
          · rename_i hcons
            obtain ⟨rfl, _⟩ := List.cons.inj (List.cons.inj hcons).2
            contradiction
          · rfl

/-- No object begins inside a string after which something goes on. -/
theorem opensNowhere_escaped {c : Char} {rest : List Char} (hrest : OpensNowhere (c :: rest))
    (hc : c = ',' ∨ c = ':' ∨ c = '\x7d') (chars : List Char) :
    OpensNowhere (chars.flatMap escapeChar ++ '"' :: c :: rest) := by
  induction chars with
  | nil => exact hrest.cons (by decide)
  | cons first more ih =>
      rw [List.flatMap_cons, List.append_assoc]
      by_cases hbrace : '\x7b' ∈ escapeChar first
      · rw [escapeChar_eq_of_brace_mem hbrace]
        exact opensNowhere_cons_iff.mpr ⟨opensObject_brace_escaped hc, ih⟩
      · exact ih.append hbrace

theorem OpensNowhere.quote {c : Char} {rest : List Char} (hrest : OpensNowhere (c :: rest))
    (hc : c = ',' ∨ c = ':' ∨ c = '\x7d') (text : String) :
    OpensNowhere ((quote text).toList ++ c :: rest) := by
  rw [toList_quote_append]
  exact (opensNowhere_escaped hrest hc _).cons (by decide)

theorem OpensNowhere.text {value : Json} (hvalue : value.isLabel = true) {c : Char}
    {rest : List Char} (hrest : OpensNowhere (c :: rest)) (hc : c = ',' ∨ c = '\x7d') :
    OpensNowhere (value.text.toList ++ c :: rest) := by
  cases value with
  | str text => exact text_str text ▸ hrest.quote (hc.imp_right Or.inr) text
  | bool truth => cases truth <;> exact hrest.append (by simp [Json.text])
  | null | num | arr | obj => contradiction

/-- A member in the middle of an object does not look like the beginning of one. -/
theorem OpensNowhere.member {value : Json} (hvalue : value.isLabel = true)
    {members : List (String × Json)} (hmembers : OpensNowhere (furtherMembers members))
    (key : String) :
    OpensNowhere ((Json.quote key).toList ++
      ':' :: (value.text.toList ++ furtherMembers members)) := by
  obtain ⟨c, rest, hcons, hc⟩ := furtherMembers_eq_cons members
  rw [hcons] at hmembers ⊢
  exact ((hmembers.text hvalue hc).cons (by decide)).quote (Or.inr (Or.inl rfl)) key

theorem opensNowhere_furtherMembers {members : List (String × Json)}
    (hmembers : ∀ entry ∈ members, entry.2.isLabel = true) :
    OpensNowhere (furtherMembers members) := by
  induction members with
  | nil => exact OpensNowhere.cons (fun suffix hsuffix => by simp_all [opensObject]) (by decide)
  | cons entry rest ih =>
      obtain ⟨hentry, hrest⟩ := List.forall_mem_cons.mp hmembers
      exact ((ih hrest).member hentry entry.1).cons (by decide)

/-- **An object begins at one place of its text.**  The text looks like the beginning
of an object if its first key lets it, and the rest of it does so nowhere. -/
theorem toList_text_obj {entry : String × Json} {rest : List (String × Json)}
    (hmembers : ∀ member ∈ entry :: rest, member.2.isLabel = true)
    (hkey : opensObject ('\x7b' :: (quote entry.1).toList) = true) :
    ∃ chars, (Json.obj (entry :: rest)).text.toList = '\x7b' :: chars ∧
      opensObject ('\x7b' :: chars) = true ∧ OpensNowhere chars := by
  obtain ⟨hentry, hrest⟩ := List.forall_mem_cons.mp hmembers
  refine ⟨_, toList_text_obj_cons entry.1 entry.2 rest, ?_,
    (opensNowhere_furtherMembers hrest).member hentry entry.1⟩
  -- The first key and its marks are three characters at least, so they decide.
  rw [toList_quote] at hkey ⊢
  cases hescaped : entry.1.toList.flatMap escapeChar with
  | nil => rfl
  | cons first more =>
      rw [hescaped] at hkey
      exact hkey

/-- Texts that end with an object each are the same text only if the objects have the
same text. -/
theorem eq_of_append_opensObject {before behind after later : List Char}
    (hopens : opensObject ('\x7b' :: behind) = true) (hnowhere : OpensNowhere behind)
    (hopens' : opensObject ('\x7b' :: later) = true) (hnowhere' : OpensNowhere later)
    (hsame : before ++ '\x7b' :: behind = after ++ '\x7b' :: later) :
    behind = later := by
  have hbehind : '\x7b' :: behind <:+ before ++ '\x7b' :: behind := List.suffix_append ..
  have hlater : '\x7b' :: later <:+ before ++ '\x7b' :: behind := hsame ▸ List.suffix_append ..
  -- One of the two ends is in the other, and if it were shorter, an object would open inside.
  rcases List.suffix_or_suffix_of_suffix hbehind hlater with hsuffix | hsuffix
  · rcases List.suffix_cons_iff.mp hsuffix with heq | hinner
    · exact (List.cons.inj heq).2
    · rw [hnowhere' _ hinner] at hopens
      contradiction
  · rcases List.suffix_cons_iff.mp hsuffix with heq | hinner
    · exact (List.cons.inj heq).2.symm
    · rw [hnowhere _ hinner] at hopens'
      contradiction

end Entitlement.Json
