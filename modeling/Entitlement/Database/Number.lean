import Entitlement.Binary64

/-!
# Numbers of the record database

Where the record database expects a number, a text that is written like one counts as
that number: digits with a sign, a fraction and an exponent, and spacing around them.
Whole numbers of 64 bits are exact.  Any other number becomes a binary one, and if that is
whole and within 64 bits but for the greatest number, it is one of the exact ones again.

The binary number is near the decimal one, but not always the nearest.  The digits count
as long as they form a number of about 64 bits.  That number is multiplied by powers of
ten, with 64 binary digits kept of each product, and rounded in the end.
-/

namespace Entitlement.Database

/-- A number.  One that is whole and could be exact is. -/
inductive Number where
  | whole (value : Int)
  | binary (value : Binary64)
  | infinite (negative : Bool)
  deriving DecidableEq, Repr

/-- The least exact number. -/
def leastWhole : Int := -Int.pow 2 63

/-- The greatest exact number. -/
def greatestWhole : Int := Int.pow 2 63 - 1

/-! ## Notation -/

/-- A number as it is written: its digits, how many of them are a fraction, and its
exponent; a number with a fraction or an exponent is not written as a whole one. -/
structure Decimal where
  negative : Bool
  digits : List Char
  places : Nat
  exponent : Int
  whole : Bool

namespace Decimal

/-- Whether a character is spacing. -/
def isSpace (c : Char) : Bool := c = ' ' || ('\t' ≤ c && c ≤ '\r')

/-- A sign, which may be left out, and what follows. -/
def sign : List Char → Bool × List Char
  | '-' :: rest => (true, rest)
  | '+' :: rest => (false, rest)
  | chars => (false, chars)

/-- The digits of a fraction after a point, if there is one, and what follows. -/
def fraction? : List Char → Option (List Char) × List Char
  | '.' :: rest => (some (rest.takeWhile Char.isDigit), rest.dropWhile Char.isDigit)
  | chars => (none, chars)

/-- The number that digits denote. -/
def value (digits : List Char) : Nat := Nat.ofDigitChars 10 digits 0

/-- The number that the digits of an exponent denote; it does not grow any more once it has
five digits. -/
def exponentValue (digits : List Char) : Nat :=
  digits.foldl
    (fun number digit => if number < 10000 then number * 10 + value [digit] else 10000) 0

/-- An exponent; nothing inside for none at all. -/
def exponent? : List Char → Option (Option Int)
  | [] => some none
  | mark :: rest =>
      let (negative, digits) := sign rest
      if (mark = 'e' || mark = 'E') && !digits.isEmpty && digits.all Char.isDigit then
        some (some (if negative then -(exponentValue digits : Int) else exponentValue digits))
      else none

/-- Reads a number. -/
def ofText? (text : String) : Option Decimal := do
  let chars := ((text.toList.dropWhile isSpace).reverse.dropWhile isSpace).reverse
  let (negative, chars) := sign chars
  let (fraction, rest) := fraction? (chars.dropWhile Char.isDigit)
  let exponent ← exponent? rest
  let digits := chars.takeWhile Char.isDigit ++ fraction.getD []
  if digits.isEmpty then none
  else
    return ⟨negative, digits, (fraction.getD []).length, exponent.getD 0,
      fraction.isNone && exponent.isNone⟩

/-! ### Exact numbers -/

/-- The exact number that is written. -/
def wholeValue? (decimal : Decimal) : Option Int :=
  let magnitude : Int := value decimal.digits
  let number := if decimal.negative then -magnitude else magnitude
  if decimal.whole && leastWhole ≤ number && number ≤ greatestWhole then some number else none

/-! ### Binary numbers -/

/-- From this number on no further digits count. -/
def enough : Nat := (Nat.pow 2 64 - 10) / 10

/-- The number of the digits that count, after a number, and how many digits are left. -/
def leading (number : Nat) : List Char → Nat × Nat
  | [] => (number, 0)
  | digit :: rest =>
      if number < enough then leading (number * 10 + value [digit]) rest
      else (number, rest.length + 1)

/-- A number that takes in places of ten as long as it stays within 64 bits, and the places
that are left. -/
def takeIn (number : Nat) : Nat → Nat × Nat
  | 0 => (number, 0)
  | places + 1 =>
      if number < (Nat.pow 2 64 - 1) / 10 then takeIn (number * 10) places else (number, places + 1)

/-- A number that gives away its last places as long as they are zeros and places are
wanted, and the places that are wanted still. -/
def giveAway (number : Nat) : Nat → Nat × Nat
  | 0 => (number, 0)
  | places + 1 =>
      if number % 10 = 0 then giveAway (number / 10) places else (number, places + 1)

/-- `number * 10 ^ places` with the places as near to zero as the number allows. -/
def balance (number : Nat) (places : Int) : Nat × Int :=
  if 0 ≤ places then
    let (number, left) := takeIn number places.toNat
    (number, left)
  else
    let (number, left) := giveAway number (-places).toNat
    (number, -(left : Int))

/-- The binary number for a decimal one, unless it is too large. -/
def binary? (decimal : Decimal) : Option Binary64 :=
  let (number, left) := leading 0 decimal.digits
  if number = 0 then some (.zero decimal.negative)
  else
    let (number, places) := balance number (decimal.exponent - decimal.places + left)
    if places = 0 then Binary64.ofRatio decimal.negative number 1
    else ((Extended.mk number 0).shiftDecimal places).toBinary64? decimal.negative

end Decimal

/-! ## Values -/

namespace Number

/-- The whole number that a binary one is. -/
def wholeOf? (x : Binary64) : Option Int :=
  let (num, den) := x.ratio
  if num % den = 0 then some (if x.negative then -((num / den : Nat) : Int) else (num / den : Nat))
  else none

/-- A binary number as an exact one where it can be. -/
def ofBinary (x : Binary64) : Number :=
  match wholeOf? x with
  | some value => if leastWhole ≤ value && value < greatestWhole then .whole value else .binary x
  | none => .binary x

/-- The number that a decimal one is. -/
def ofDecimal (decimal : Decimal) : Number :=
  match decimal.wholeValue? with
  | some value => .whole value
  | none =>
      match decimal.binary? with
      | some x => ofBinary x
      | none => .infinite decimal.negative

/-- The number that a text is written like. -/
def ofText? (text : String) : Option Number := (Decimal.ofText? text).map ofDecimal

/-- The number of a row that a text is written like.  The least one has to be written as a
whole number. -/
def rowNumber? (text : String) : Option Int := do
  let decimal ← Decimal.ofText? text
  match decimal.wholeValue?, ofDecimal decimal with
  | some value, _ => return value
  | none, .whole value => if leastWhole < value then return value else none
  | none, _ => none

end Number

end Entitlement.Database
