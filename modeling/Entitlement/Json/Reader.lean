import Entitlement.Json.Basic

/-!
# Reading JSON

A text is first read into a document, which keeps what a value forgets: the order of members,
keys that occur more than once, numbers beyond the finite ones, strings whose escapes form no
text.  Whoever reads records walks through the document in its order, and only the parts that
are needed have to denote a value.

Reading is strict: no comments, no trailing commas, no leading zeros, no control characters
inside strings.

A document that repeats a key, or spells a number that is out of range, is a document all the same.
It denotes a value only if it denotes one in every part, and of two members with one key the later
counts.  Behind a key that nobody asks for, nothing has to denote a value, and nesting is not
limited either.
-/

namespace Entitlement

/-! ## Documents as they are written

A document keeps what a value forgets: the order of members, keys that occur
more than once, numbers beyond the finite ones, and strings whose escapes form
no text.  It may nest to any depth.  A reader of records walks through a
document in its order; only the parts it needs have to denote a value. -/

/-- A JSON text after reading.  A number is absent when it is too large, a
string or key when it contains an escaped surrogate without its partner. -/
inductive Document where
  | null
  | bool (value : Bool)
  | num (number : Option Json.Number)
  | str (text : Option String)
  | arr (items : List Document)
  | obj (members : List (Option String × Document))
  deriving Inhabited

namespace Document

/-! ### What a document denotes -/

mutual
/-- How many arrays and objects enclose the innermost part, the document
included. -/
def depth : Document → Nat
  | .arr items => depthOfItems items + 1
  | .obj members => depthOfMembers members + 1
  | _ => 0
/-- The greatest depth of an item. -/
def depthOfItems : List Document → Nat
  | [] => 0
  | item :: rest => max item.depth (depthOfItems rest)
/-- The greatest depth of a member. -/
def depthOfMembers : List (Option String × Document) → Nat
  | [] => 0
  | (_, value) :: rest => max value.depth (depthOfMembers rest)
end

mutual
/-- The value of a document, unless a number is too large or a string forms no
text.  Of two members with one key the later counts. -/
def value? : Document → Option Json
  | .null => some .null
  | .bool b => some (.bool b)
  | .num number => number.map .num
  | .str text => text.map .str
  | .arr items => (itemValues items).map .arr
  | .obj members => (memberValues members).map Json.ofMembers
/-- The values of items. -/
def itemValues : List Document → Option (List Json)
  | [] => some []
  | item :: rest =>
      match item.value?, itemValues rest with
      | some value, some values => some (value :: values)
      | _, _ => none
/-- The members of an object with their values. -/
def memberValues : List (Option String × Document) → Option (List (String × Json))
  | [] => some []
  | (key, member) :: rest =>
      match key, member.value?, memberValues rest with
      | some key, some value, some values => some ((key, value) :: values)
      | _, _, _ => none
end

mutual
/-- The document that lists a value as it is. -/
def ofJson : Json → Document
  | .null => .null
  | .bool b => .bool b
  | .num n => .num (some n)
  | .str text => .str (some text)
  | .arr items => .arr (ofItems items)
  | .obj members => .obj (ofMembers members)
/-- The documents of items. -/
def ofItems : List Json → List Document
  | [] => []
  | item :: rest => ofJson item :: ofItems rest
/-- The members of an object as a document. -/
def ofMembers : List (String × Json) → List (Option String × Document)
  | [] => []
  | (key, value) :: rest => (some key, ofJson value) :: ofMembers rest
end

end Document

/-! ## The reader

A reader takes the characters of a text and delivers what stands at their front together with
the characters after it, or nothing when the front is not JSON.

Nested values are read by recursion on a budget.  Every step of the recursion that opens a
value or passes on to the next item is paid for by a character, so twice the length of the text
always suffices. -/

namespace Json.Reader

/-- Drops the white space of JSON: space, tab, line feed, carriage return. -/
def skipSpace (chars : List Char) : List Char :=
  chars.dropWhile fun c => c == ' ' || c == '\n' || c == '\t' || c == '\r'

/-! ### Strings -/

/-- The value of a hexadecimal digit. -/
def hexValue? (c : Char) : Option Nat :=
  if '0' ≤ c && c ≤ '9' then some (c.toNat - 0x30)
  else if 'a' ≤ c && c ≤ 'f' then some (c.toNat - 0x57)
  else if 'A' ≤ c && c ≤ 'F' then some (c.toNat - 0x37)
  else none

/-- The value of four hexadecimal digits. -/
def hexCode? (a b c d : Char) : Option Nat := do
  let (a, b, c, d) := (← hexValue? a, ← hexValue? b, ← hexValue? c, ← hexValue? d)
  return ((a * 16 + b) * 16 + c) * 16 + d

/-- The character that a one-letter escape stands for. -/
def simpleEscape? (c : Char) : Option Nat :=
  match c with
  | '"' => some 0x22
  | '\\' => some 0x5c
  | '/' => some 0x2f
  | 'b' => some 0x08
  | 'f' => some 0x0c
  | 'n' => some 0x0a
  | 'r' => some 0x0d
  | 't' => some 0x09
  | _ => none

/-- Reads the inside of a string up to its closing mark: the codes of its
characters, an escaped surrogate counting as a code of its own. -/
def stringCodes (codes : List Nat) : List Char → Option (List Nat × List Char)
  | [] => none
  | '"' :: rest => some (codes.reverse, rest)
  | '\\' :: 'u' :: a :: b :: c :: d :: rest =>
      match hexCode? a b c d with
      | some code => stringCodes (code :: codes) rest
      | none => none
  | '\\' :: c :: rest =>
      match simpleEscape? c with
      | some code => stringCodes (code :: codes) rest
      | none => none
  | c :: rest => if c.toNat < 0x20 || c == '\\' then none else stringCodes (c.toNat :: codes) rest

/-- Joins each leading surrogate with the trailing one after it; nothing when
one stands alone. -/
def joinSurrogates : List Nat → Option (List Char)
  | [] => some []
  | code :: rest =>
      if 0xd800 ≤ code && code < 0xdc00 then
        match rest with
        | low :: rest =>
            if 0xdc00 ≤ low && low < 0xe000 then
              (joinSurrogates rest).map
                (Char.ofNat (0x10000 + (code - 0xd800) * 0x400 + (low - 0xdc00)) :: ·)
            else none
        | [] => none
      else if 0xdc00 ≤ code && code < 0xe000 then none
      else (joinSurrogates rest).map (Char.ofNat code :: ·)

/-- Reads a string after its opening mark. -/
def string (chars : List Char) : Option (Option String × List Char) := do
  let (codes, rest) ← stringCodes [] chars
  return ((joinSurrogates codes).map String.ofList, rest)

/-! ### Numbers -/

/-- The value of a decimal digit. -/
def digitValue? (c : Char) : Option Nat :=
  if '0' ≤ c && c ≤ '9' then some (c.toNat - 0x30) else none

/-- Reads digits, possibly none. -/
def digits : List Char → List Nat × List Char
  | [] => ([], [])
  | c :: rest =>
      match digitValue? c with
      | some digit =>
          let (more, rest) := digits rest
          (digit :: more, rest)
      | none => ([], c :: rest)

/-- Reads at least one digit. -/
def someDigits (chars : List Char) : Option (List Nat × List Char) :=
  match digits chars with
  | ([], _) => none
  | found => some found

/-- Reads the digits before the point: a zero alone, or digits without a zero in
front. -/
def wholePart (chars : List Char) : Option (List Nat × List Char) := do
  let (found, rest) ← someDigits chars
  match found with
  | 0 :: _ :: _ => none
  | _ => return (found, rest)

/-- Reads the point and the digits after it, if there is a point. -/
def fractionPart : List Char → Option (Option (List Nat) × List Char)
  | '.' :: rest => do
      let (found, rest) ← someDigits rest
      return (some found, rest)
  | chars => some (none, chars)

/-- Reads the sign of an exponent; whether it is a minus. -/
def exponentSign : List Char → Bool × List Char
  | '+' :: rest => (false, rest)
  | '-' :: rest => (true, rest)
  | chars => (false, chars)

/-- Reads the exponent part, if there is one. -/
def exponentPart : List Char → Option (Option (Bool × List Nat) × List Char)
  | c :: rest =>
      if c == 'e' || c == 'E' then do
        let (down, rest) := exponentSign rest
        let (found, rest) ← someDigits rest
        return (some (down, found), rest)
      else some (none, c :: rest)
  | [] => some (none, [])

/-- Reads a number. -/
def number (chars : List Char) : Option (Literal × List Char) := do
  let (negative, chars) := match chars with
    | '-' :: rest => (true, rest)
    | chars => (false, chars)
  let (whole, chars) ← wholePart chars
  let (fraction, chars) ← fractionPart chars
  let (exponent, chars) ← exponentPart chars
  return (⟨negative, whole, fraction, exponent⟩, chars)

/-! ### Values -/

mutual
/-- Reads a value, after white space. -/
def value : Nat → List Char → Option (Document × List Char)
  | 0, _ => none
  | budget + 1, chars =>
      match skipSpace chars with
      | 'n' :: 'u' :: 'l' :: 'l' :: rest => some (.null, rest)
      | 't' :: 'r' :: 'u' :: 'e' :: rest => some (.bool true, rest)
      | 'f' :: 'a' :: 'l' :: 's' :: 'e' :: rest => some (.bool false, rest)
      | '"' :: rest => (string rest).map fun (text, rest) => (.str text, rest)
      | '[' :: rest =>
          match skipSpace rest with
          | ']' :: rest => some (.arr [], rest)
          | rest => items budget [] rest
      | '\x7b' :: rest =>
          match skipSpace rest with
          | '\x7d' :: rest => some (.obj [], rest)
          | rest => members budget [] rest
      | rest => (number rest).map fun (literal, rest) => (.num literal.number?, rest)
/-- Reads the items of an array up to its end, after those already found. -/
def items : Nat → List Document → List Char → Option (Document × List Char)
  | 0, _, _ => none
  | budget + 1, found, chars =>
      match value budget chars with
      | none => none
      | some (item, rest) =>
          match skipSpace rest with
          | ',' :: rest => items budget (item :: found) rest
          | ']' :: rest => some (.arr (item :: found).reverse, rest)
          | _ => none
/-- Reads the members of an object up to its end, after those already found. -/
def members :
    Nat → List (Option String × Document) → List Char → Option (Document × List Char)
  | 0, _, _ => none
  | budget + 1, found, chars =>
      match skipSpace chars with
      | '"' :: rest =>
          match string rest with
          | none => none
          | some (key, rest) =>
              match skipSpace rest with
              | ':' :: rest =>
                  match value budget rest with
                  | none => none
                  | some (member, rest) =>
                      match skipSpace rest with
                      | ',' :: rest => members budget ((key, member) :: found) rest
                      | '\x7d' :: rest => some (.obj ((key, member) :: found).reverse, rest)
                      | _ => none
              | _ => none
      | _ => none
end

end Json.Reader

/-- The document at the front of a text, and what follows it. -/
def Document.readFront? (text : String) : Option (Document × List Char) :=
  let chars := text.toList
  Json.Reader.value (2 * chars.length + 2) chars

/-- The document that makes up a text, white space aside. -/
def Document.read? (text : String) : Option Document :=
  match Document.readFront? text with
  | some (document, rest) => if (Json.Reader.skipSpace rest).isEmpty then some document else none
  | none => none

/-- How deep arrays and objects may nest in a text that is read as a value. -/
def Json.maxDepth : Nat := 127

/-- The value of a document, unless it nests too deep. -/
def Document.shallowValue? (document : Document) : Option Json :=
  if document.depth ≤ Json.maxDepth then document.value? else none

/-- The value of a text that is one complete JSON value. -/
def Json.parse? (text : String) : Option Json :=
  (Document.read? text).bind Document.shallowValue?

end Entitlement
