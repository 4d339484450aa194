/-!
# Record identifiers

Identifiers of 128 bits, written as 32 hexadecimal digits in groups of 8, 4, 4,
4 and 12 with hyphens between.  Four spellings are read: the grouped one, the
bare digits, the grouped one in braces, and the grouped one after `urn:uuid:`;
all letters may be of either case.
-/

namespace Entitlement

/-- An identifier, as its hexadecimal digits. -/
structure Uuid where
  digits : List (Fin 16)
  length_digits : digits.length = 32
  deriving DecidableEq

namespace Uuid

/-- The lower-case character of a hexadecimal digit. -/
def digitChar (digit : Fin 16) : Char :=
  if digit.val < 10 then Char.ofNat (0x30 + digit.val) else Char.ofNat (0x57 + digit.val)

/-- The digit that a character of either case stands for. -/
def charDigit? (c : Char) : Option (Fin 16) :=
  if '0' ≤ c ∧ c ≤ '9' then some (Fin.ofNat 16 (c.toNat - 0x30))
  else if 'a' ≤ c ∧ c ≤ 'f' then some (Fin.ofNat 16 (c.toNat - 0x57))
  else if 'A' ≤ c ∧ c ≤ 'F' then some (Fin.ofNat 16 (c.toNat - 0x37))
  else none

/-- The sizes of the groups. -/
def groupSizes : List Nat := [8, 4, 4, 4, 12]

/-- Characters with a hyphen after each group but the last. -/
def group : List Nat → List Char → List Char
  | size :: next :: sizes, chars =>
      chars.take size ++ '-' :: group (next :: sizes) (chars.drop size)
  | _, chars => chars

/-- Characters without the hyphens that stand after each group but the last. -/
def ungroup? : List Nat → List Char → Option (List Char)
  | size :: next :: sizes, chars =>
      match chars.drop size with
      | '-' :: rest => (ungroup? (next :: sizes) rest).map (chars.take size ++ ·)
      | _ => none
  | _, chars => some chars

/-- The text of an identifier: lower case, grouped by hyphens. -/
def text (id : Uuid) : String := String.ofList (group groupSizes (id.digits.map digitChar))

instance : ToString Uuid := ⟨text⟩

/-- The identifier with the given digits, if there are 32. -/
def ofDigits? (digits : List (Fin 16)) : Option Uuid :=
  if hlength : digits.length = 32 then some ⟨digits, hlength⟩ else none

/-- Reads bare digits. -/
def ofBare? (chars : List Char) : Option Uuid := (chars.mapM charDigit?).bind ofDigits?

/-- Reads grouped digits. -/
def ofGrouped? (chars : List Char) : Option Uuid := (ungroup? groupSizes chars).bind ofBare?

/-- The characters between an opening and a closing brace. -/
def unbrace? : List Char → Option (List Char)
  | '\x7b' :: rest => if rest.getLast? = some '\x7d' then some rest.dropLast else none
  | _ => none

/-- The characters after the name of the identifier scheme. -/
def dropScheme? (chars : List Char) : Option (List Char) :=
  let scheme := "urn:uuid:".toList
  if (chars.take scheme.length).map Char.toLower = scheme then some (chars.drop scheme.length)
  else none

/-- Reads an identifier in any of its four spellings. -/
def parse? (text : String) : Option Uuid :=
  let chars := text.toList
  ofBare? chars <|> ofGrouped? chars <|> (unbrace? chars).bind ofGrouped? <|>
    (dropScheme? chars).bind ofGrouped?

end Uuid

end Entitlement
