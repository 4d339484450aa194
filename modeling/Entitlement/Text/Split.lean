/-!
# Taking texts apart

Splitting a text at a separator, and undoing the percent encoding of an address.  Splitting
loses nothing: the pieces joined by the separator are the text.
-/

namespace Entitlement.Text

/-! ## Pieces

The pieces of a text between the occurrences of a character.  There is always
one piece more than there are occurrences, so the empty text has one piece, the
empty one, and joining the pieces gives the text back. -/

/-- The pieces of a list of characters between the occurrences of a separator. -/
def pieces (separator : Char) : List Char → List (List Char)
  | [] => [[]]
  | c :: rest =>
      if c = separator then [] :: pieces separator rest
      else
        match pieces separator rest with
        | [] => [[c]]
        | first :: more => (c :: first) :: more

/-- Pieces with a separator between each two. -/
def joinPieces (separator : Char) : List (List Char) → List Char
  | [] => []
  | [piece] => piece
  | piece :: next :: more => piece ++ separator :: joinPieces separator (next :: more)

/-- The pieces of a text. -/
def split (separator : Char) (text : String) : List String :=
  (pieces separator text.toList).map String.ofList

/-- The parts before and after the first occurrence of a separator. -/
def splitOnce? (separator : Char) : List Char → Option (List Char × List Char)
  | [] => none
  | c :: rest =>
      if c = separator then some ([], rest)
      else (splitOnce? separator rest).map fun parts => (c :: parts.1, parts.2)

/-- Whether the characters occur somewhere in others, one after the other. -/
def occursIn (wanted : List Char) : List Char → Bool
  | [] => wanted.isEmpty
  | c :: rest => wanted.isPrefixOf (c :: rest) || occursIn wanted rest

theorem pieces_ne_nil (separator : Char) (chars : List Char) : pieces separator chars ≠ [] := by
  cases chars with
  | nil => simp [pieces]
  | cons c rest =>
      simp only [pieces]
      split
      · simp
      · split <;> simp

theorem joinPieces_pieces (separator : Char) (chars : List Char) :
    joinPieces separator (pieces separator chars) = chars := by
  induction chars with
  | nil => rfl
  | cons c rest ih =>
      simp only [pieces]
      split
      · rename_i heq
        subst heq
        cases hrest : pieces c rest with
        | nil => exact absurd hrest (pieces_ne_nil c rest)
        | cons first more => simp only [joinPieces, List.nil_append]; rw [← hrest, ih]
      · cases hrest : pieces separator rest with
        | nil => exact absurd hrest (pieces_ne_nil separator rest)
        | cons first more =>
            rw [hrest] at ih
            cases more with
            | nil => simpa [joinPieces] using ih
            | cons next more => simpa [joinPieces] using ih

/-! ## Percent encoding

In an address a byte may stand as a percent sign with two hexadecimal digits.  A
percent sign that no two such digits follow stands for itself. -/

/-- The bytes of a text. -/
def bytes (text : String) : List UInt8 := text.toUTF8.toList

/-- The text of bytes. -/
def ofBytes? (bytes : List UInt8) : Option String := String.fromUTF8? ⟨bytes.toArray⟩

/-- The value of a hexadecimal digit. -/
def hexValue? (byte : UInt8) : Option UInt8 :=
  if 0x30 ≤ byte && byte ≤ 0x39 then some (byte - 0x30)
  else if 0x41 ≤ byte && byte ≤ 0x46 then some (byte - 0x37)
  else if 0x61 ≤ byte && byte ≤ 0x66 then some (byte - 0x57)
  else none

/-- Bytes with every percent sign and the two digits after it replaced by the byte
that they stand for. -/
def decodeBytes : List UInt8 → List UInt8
  | 0x25 :: high :: low :: rest =>
      match hexValue? high, hexValue? low with
      | some a, some b => (a * 16 + b) :: decodeBytes rest
      | _, _ => 0x25 :: decodeBytes (high :: low :: rest)
  | byte :: rest => byte :: decodeBytes rest
  | [] => []

/-- Bytes up to the first that is zero. -/
def beforeZero (bytes : List UInt8) : List UInt8 := bytes.takeWhile (· != 0)

end Entitlement.Text
