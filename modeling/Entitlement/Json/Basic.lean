import Entitlement.Binary64
import Entitlement.Dict

/-!
# JSON values and their texts

A value is schema-free, and an object holds its members as a list.  Every object that is read
from a text, or built with `putEntry`, lists them by ascending key; in this form two values can
be compared and written canonically.

Numbers are integers of 64 bits, signed or not, or else binary numbers of 64 bits.  There are
two ways to write a value, compact and indented, and the compact one is what the keys of
statements are made of.

Two values are the same (`Json.same`) if their parts are.  This is coarser than equality, since
the two zeros of a binary number are the same, but an integer and a binary number never are.
A binary number is written in as few digits as tell it from its neighbours.
-/

namespace Entitlement

/-! ## Numbers

A number is an integer between `-2^63` and `2^64 - 1` when it is written as one,
and a 64-bit binary number otherwise.  Integers and binary numbers are never
equal, not even `1` and `1.0`.

A literal is read on a best effort: the leading digits that fit 64 bits form a
significand, which one multiplication or division by a power of ten scales. -/

namespace Json

/-- A JSON number. -/
inductive Number where
  | int (value : Int)
  | float (value : Binary64)
  deriving DecidableEq, Repr

namespace Number

/-- Equality of numbers: integers by value, binary numbers by value, and the
two kinds never. -/
def same : Number → Number → Bool
  | .int a, .int b => a == b
  | .float x, .float y => x.same y
  | _, _ => false

/-! ### Text -/

/-- How a binary number is spelled: the decimal exponents of its first digit
that are written without an exponent part. -/
structure FloatFormat where
  leastPlain : Int
  plainBelow : Int

/-- Numbers from `0.00001` up to, not including, `1e+16` are written out. -/
def floatFormat : FloatFormat := ⟨-5, 16⟩

/-- A number of zeros. -/
def zeros (count : Nat) : String := String.ofList (List.replicate count '0')

/-- The text of digits whose first has the given decimal exponent.  Written out,
it always has a fraction; with an exponent part, the sign is always shown. -/
def placeDigits (format : FloatFormat) (digits : List Char) (first : Int) : String :=
  let count : Int := digits.length
  if format.leastPlain ≤ first && first < format.plainBelow then
    if first < 0 then "0." ++ zeros (-first - 1).toNat ++ String.ofList digits
    else if count ≤ first + 1 then
      String.ofList digits ++ zeros (first + 1 - count).toNat ++ ".0"
    else
      String.ofList (digits.take (first + 1).toNat) ++ "." ++
        String.ofList (digits.drop (first + 1).toNat)
  else
    let mantissa :=
      match digits with
      | [] => ""
      | [digit] => String.ofList [digit]
      | digit :: rest => String.ofList (digit :: '.' :: rest)
    let sign := if first < 0 then "-" else "+"
    mantissa ++ "e" ++ sign ++ toString first.natAbs

/-- The text of a binary number: its shortest digits. -/
def floatText (x : Binary64) : String :=
  let sign := if x.negative then "-" else ""
  if x.isZero then sign ++ "0.0"
  else
    let decimal := x.shortest
    let digits := Nat.toDigits 10 decimal.coefficient
    sign ++ placeDigits floatFormat digits (decimal.exponent + digits.length - 1)

/-- The text of a number. -/
def text : Number → String
  | .int n => toString n
  | .float x => floatText x

end Number

/-! ### Literals -/

/-- A number as it is written: the digits before the point, those after it, and
the exponent part with its sign, all as values of digits. -/
structure Literal where
  negative : Bool
  whole : List Nat
  fraction : Option (List Nat)
  exponent : Option (Bool × List Nat)

namespace Literal

/-- The greatest significand that is kept. -/
def maxSignificand : Nat := Nat.pow 2 64 - 1

/-- The greatest exponent that is read; a greater one counts as infinite. -/
def maxExponent : Nat := Nat.pow 2 31 - 1

/-- Reads on from a significand as long as the digits fit; returns the new
significand and the digits that are left. -/
def absorb (significand : Nat) : List Nat → Nat × List Nat
  | [] => (significand, [])
  | digit :: rest =>
      if significand * 10 + digit ≤ maxSignificand then absorb (significand * 10 + digit) rest
      else (significand, digit :: rest)

/-- The binary number nearest to `10 ^ k`. -/
def powerOfTen? (k : Nat) : Option Binary64 := Binary64.ofNat? (Nat.pow 10 k)

/-- The greatest power of ten among the finite numbers. -/
def greatestPower : Nat := 308

/-- Divides by `10 ^ k`, in steps of at most the greatest power of ten. -/
def divideByPower (x : Binary64) (k : Nat) : Option Binary64 :=
  if k ≤ greatestPower then do x.div? (← powerOfTen? k)
  else if x.isZero then some x
  else do
    let step ← powerOfTen? greatestPower
    let y ← x.div? step
    divideByPower y (k - greatestPower)
termination_by k
decreasing_by
  have : 0 < greatestPower := by decide
  omega

/-- Multiplies by `10 ^ k`, unless the result is too large. -/
def multiplyByPower (x : Binary64) (k : Nat) : Option Binary64 :=
  if k ≤ greatestPower then do x.mul? (← powerOfTen? k)
  else if x.isZero then some x
  else none

/-- The value of digits read as a whole number. -/
def digitsValue (digits : List Nat) : Nat := digits.foldl (fun n digit => n * 10 + digit) 0

/-- The binary number of a literal, unless it is too large. -/
def float? (literal : Literal) : Option Binary64 := do
  let (significand, beyond) := absorb 0 literal.whole
  let (significand, below) :=
    match literal.fraction with
    | none => (significand, 0)
    | some digits =>
        let (significand, rest) := absorb significand digits
        (significand, digits.length - rest.length)
  let shift : Int := (beyond.length : Int) - below
  let scaled (shift : Int) : Option Binary64 := do
    let x ← Binary64.ofNat? significand
    if 0 ≤ shift then multiplyByPower x shift.toNat else divideByPower x (-shift).toNat
  let magnitude ←
    match literal.exponent with
    | none => scaled shift
    | some (down, digits) =>
        let exponent := digitsValue digits
        if exponent ≤ maxExponent then
          scaled (if down then shift - exponent else shift + exponent)
        else if significand = 0 || down then some (Binary64.zero false)
        else none
  return magnitude.withSign literal.negative

/-- The number that a literal denotes, unless it is too large. -/
def number? (literal : Literal) : Option Number :=
  let integer : Option Int :=
    if literal.fraction.isSome || literal.exponent.isSome then none
    else
      let value := digitsValue literal.whole
      if literal.negative then
        if value = 0 || Nat.pow 2 63 < value then none else some (-(value : Int))
      else if value ≤ maxSignificand then some value
      else none
  match integer with
  | some n => some (.int n)
  | none => literal.float?.map .float

end Literal

end Json

/-! ## Values

An object that is read from a text or built with `putEntry` lists its members by ascending key. -/

/-- A JSON value. -/
inductive Json where
  | null
  | bool (value : Bool)
  | num (value : Json.Number)
  | str (text : String)
  | arr (items : List Json)
  | obj (members : List (String × Json))
  deriving Inhabited

namespace Json

/-- The whole number `n`. -/
def int (n : Int) : Json := .num (.int n)

/-- The count `n`. -/
def nat (n : Nat) : Json := .num (.int n)

/-- The text of a string value. -/
def asText? : Json → Option String
  | .str text => some text
  | _ => none

/-- Whether a value is neither an array nor an object. -/
def isScalar : Json → Bool
  | .arr _ => false
  | .obj _ => false
  | _ => true

/-- The member `key` of an object. -/
def member? (key : String) : Json → Option Json
  | .obj members => members.lookup key
  | _ => none

mutual
/-- Equality of values, by which the two zeros of a binary number are equal. -/
def same : Json → Json → Bool
  | .null, .null => true
  | .bool a, .bool b => a == b
  | .num a, .num b => a.same b
  | .str a, .str b => a == b
  | .arr xs, .arr ys => sameItems xs ys
  | .obj xs, .obj ys => sameMembers xs ys
  | _, _ => false
/-- Equality of arrays, item by item. -/
def sameItems : List Json → List Json → Bool
  | [], [] => true
  | x :: xs, y :: ys => x.same y && sameItems xs ys
  | _, _ => false
/-- Equality of objects, member by member. -/
def sameMembers : List (String × Json) → List (String × Json) → Bool
  | [], [] => true
  | (key, x) :: xs, (other, y) :: ys => key == other && x.same y && sameMembers xs ys
  | _, _ => false
end

/-- An object with the given members in ascending order; of two with one key the
later counts. -/
def ofMembers (members : List (String × Json)) : Json :=
  .obj (members.foldl (fun entries entry => putEntry entry.1 entry.2 entries) [])

/-- The object of a dictionary. -/
def ofDict (dict : Dict Json) : Json := .obj dict.entries

mutual
/-- Every object in the value lists its members by ascending key. -/
def Ordered : Json → Prop
  | .arr items => OrderedItems items
  | .obj members => Ascending members ∧ OrderedMembers members
  | _ => True
/-- Every item is ordered. -/
def OrderedItems : List Json → Prop
  | [] => True
  | item :: rest => item.Ordered ∧ OrderedItems rest
/-- Every member's value is ordered. -/
def OrderedMembers : List (String × Json) → Prop
  | [] => True
  | (_, value) :: rest => value.Ordered ∧ OrderedMembers rest
end

end Json

/-! ## Texts

Two ways to write a value: compact, without any space, and indented, with one
member or item to a line.  Strings escape the quotation mark, the backslash and
the control characters below the space, and hold every other character as
itself. -/

namespace Json

/-- The digits of base sixteen. -/
def hexDigit (n : Nat) : Char :=
  if n < 10 then Char.ofNat (0x30 + n) else Char.ofNat (0x57 + n)

/-- A character inside a string. -/
def escapeChar (c : Char) : List Char :=
  if c = '"' then ['\\', '"']
  else if c = '\\' then ['\\', '\\']
  else if c = '\n' then ['\\', 'n']
  else if c = '\r' then ['\\', 'r']
  else if c = '\t' then ['\\', 't']
  else if c.toNat = 0x08 then ['\\', 'b']
  else if c.toNat = 0x0c then ['\\', 'f']
  else if c.toNat < 0x20 then
    ['\\', 'u', '0', '0', hexDigit (c.toNat / 16), hexDigit (c.toNat % 16)]
  else [c]

/-- A string in quotation marks. -/
def quote (text : String) : String :=
  String.ofList ('"' :: (text.toList.flatMap escapeChar ++ ['"']))

/-- The texts with a separator between each two. -/
def separated (separator : String) : List String → String
  | [] => ""
  | [text] => text
  | text :: next :: rest =>
      rest.foldl (fun acc later => acc ++ separator ++ later) (text ++ separator ++ next)

mutual
/-- The compact text of a value. -/
def text : Json → String
  | .null => "null"
  | .bool true => "true"
  | .bool false => "false"
  | .num n => n.text
  | .str s => quote s
  | .arr items => "[" ++ separated "," (itemTexts items) ++ "]"
  | .obj members => "\x7b" ++ separated "," (memberTexts members) ++ "\x7d"
/-- The compact texts of items. -/
def itemTexts : List Json → List String
  | [] => []
  | item :: rest => item.text :: itemTexts rest
/-- The compact texts of members. -/
def memberTexts : List (String × Json) → List String
  | [] => []
  | (key, value) :: rest => (quote key ++ ":" ++ value.text) :: memberTexts rest
end

/-- A line break followed by the indentation of a level, two spaces each. -/
def newline (level : Nat) : String := String.ofList ('\n' :: List.replicate (2 * level) ' ')

mutual
/-- The indented text of a value at a level. -/
def indented (level : Nat) : Json → String
  | .arr (item :: rest) =>
      "[" ++ newline (level + 1) ++
        separated ("," ++ newline (level + 1)) (indentedItems (level + 1) (item :: rest)) ++
        newline level ++ "]"
  | .obj (entry :: rest) =>
      "\x7b" ++ newline (level + 1) ++
        separated ("," ++ newline (level + 1)) (indentedMembers (level + 1) (entry :: rest)) ++
        newline level ++ "\x7d"
  | scalar => scalar.text
/-- The indented texts of items. -/
def indentedItems (level : Nat) : List Json → List String
  | [] => []
  | item :: rest => item.indented level :: indentedItems level rest
/-- The indented texts of members. -/
def indentedMembers (level : Nat) : List (String × Json) → List String
  | [] => []
  | (key, value) :: rest =>
      (quote key ++ ": " ++ value.indented level) :: indentedMembers level rest
end

/-- The indented text of a value. -/
def pretty (value : Json) : String := value.indented 0

end Json

end Entitlement
