import Entitlement.Json.Reader
import Entitlement.Text.Quoted
import Entitlement.Uuid

/-!
# Decoding documents

A decoder reads a value of some type from a document, or tells the first fault in the order of
the document: what does not fit, and where.

Records come in two forms: an object with a member for each field, in any order and possibly
among other members, or a list of the fields in their declared order.  A record's decoder is
composed field by field; every field reports the place in the document at which it fails, and
the fault at the earliest place counts.  A field that is missing fails at the end of the
document.

There is one decoder for both sources.  A value at hand is decoded as the document that lists it,
and a text as the document that it spells; a text may moreover nest only so deep, and `room` is
what is left of this.  A fault is a cause together with the steps that lead to its place.  It
is worded differently for the two: of a value the message tells what does not fit
(`Misfit.message`), of a text also where (`Fault.textMessage`).
-/

namespace Entitlement

/-! ## Why a document is no record

A fault says what is wrong with a document and where: a misfit, and the steps
from the whole document to the part that does not fit. -/

namespace Decode

/-- One step into a document. -/
inductive Step where
  | field (name : String)
  | index (index : Nat)
  deriving DecidableEq, Repr

/-- What a decoder expects to find. -/
inductive Wanted where
  | text
  | identifier
  | time
  | count
  | nothing
  | variant
  | sequence
  | map
  | record (name : String)

/-- How a part of a document fails to fit. -/
inductive Misfit where
  /-- The part denotes no value, or nests too deep. -/
  | malformed
  | wrongKind (found : Document) (wanted : Wanted)
  | badIdentifier
  | missing (field : String)
  | repeated (field : String)
  /-- A record given as a list ends before the field at an index. -/
  | short (index : Nat) (record : String) (size : Nat)
  /-- A record given as a list has more items than fields. -/
  | surplus (length : Nat)
  | unknownVariant (name : String) (known : List String)
  /-- An object stands for a variant but does not have exactly one key. -/
  | manyVariants
  | negative (value : Int)

/-- A misfit and the steps that lead to it. -/
structure Fault where
  path : List Step
  misfit : Misfit

/-- A fault at the place itself. -/
def Fault.here (misfit : Misfit) : Fault := ⟨[], misfit⟩

/-- A fault seen from one step further out. -/
def Fault.under (step : Step) (fault : Fault) : Fault := ⟨step :: fault.path, fault.misfit⟩

/-! ### Wording -/

/-- A text between backticks. -/
def ticked (text : String) : String := "`" ++ text ++ "`"

/-- What a document is, in a message. -/
def describe : Document → String
  | .null => "null"
  | .bool true => "boolean `true`"
  | .bool false => "boolean `false`"
  | .num (some (.int n)) => "integer " ++ ticked (toString n)
  | .num (some (.float x)) => "floating point " ++ ticked (Json.Number.floatText x)
  | .num none => "number"
  | .str text => "string " ++ Text.quoted (text.getD "")
  | .arr _ => "sequence"
  | .obj _ => "map"

/-- What is expected, in a message. -/
def Wanted.phrase : Wanted → String
  | .text => "a string"
  | .identifier => "a formatted UUID string"
  | .time => "an RFC 3339 formatted date and time string"
  | .count => "usize"
  | .nothing => "unit"
  | .variant => "string or map"
  | .sequence => "a sequence"
  | .map => "a map"
  | .record name => "struct " ++ name

/-- The choice between names, in a message. -/
def oneOf : List String → String
  | [name] => ticked name
  | [name, other] => ticked name ++ " or " ++ ticked other
  | names => "one of " ++ String.intercalate ", " (names.map ticked)

/-- The message of a misfit in a value. -/
def Misfit.message : Misfit → String
  | .malformed => "syntax"
  | .wrongKind found wanted => "invalid type: " ++ describe found ++ ", expected " ++ wanted.phrase
  | .badIdentifier => "UUID parsing failed"
  | .missing field => "missing field " ++ ticked field
  | .repeated field => "duplicate field " ++ ticked field
  | .short index record size =>
      "invalid length " ++ toString index ++ ", expected struct " ++ record ++ " with " ++
        toString size ++ " elements"
  | .surplus length =>
      "invalid length " ++ toString length ++ ", expected fewer elements in array"
  | .unknownVariant name known =>
      "unknown variant " ++ ticked name ++ ", expected " ++ oneOf known
  | .manyVariants => "invalid value: map, expected map with a single key"
  | .negative value => "invalid value: integer " ++ ticked (toString value) ++ ", expected usize"

/-- The message of a misfit in a text, where the items of a list are not counted
ahead. -/
def Misfit.textMessage : Misfit → String
  | .surplus _ => "trailing characters"
  | misfit => misfit.message

/-- The steps after the first one. -/
def laterSteps : List Step → String
  | [] => ""
  | .field name :: rest => "." ++ name ++ laterSteps rest
  | .index index :: rest => "[" ++ toString index ++ "]" ++ laterSteps rest

/-- The steps as a path; a dot alone is the whole document. -/
def pathText : List Step → String
  | [] => "."
  | .field name :: rest => name ++ laterSteps rest
  | steps => laterSteps steps

/-- The message of a fault in a text. -/
def Fault.textMessage (fault : Fault) : String :=
  fault.misfit.textMessage ++ " at " ++ ticked (pathText fault.path)

end Decode

/-! ## Decoders -/

/-- Reads a value from a document; `room` is how deep the document may nest, and
absent where depth does not matter. -/
def Decoder (α : Type) := (room : Option Nat) → Document → Except Decode.Fault α

namespace Decode

/-- The room within an array or object. -/
def inner (room : Option Nat) : Option Nat := room.map (· - 1)

/-- The failure of a document that is not what is wanted. -/
def wrong {α : Type} (found : Document) (wanted : Wanted) : Except Fault α :=
  .error (.here (.wrongKind found wanted))

/-- The failure of a document that denotes no value. -/
def malformed {α : Type} : Except Fault α := .error (.here .malformed)

/-! ### Scalars -/

/-- Any value. -/
def anything : Decoder Json := fun room document =>
  match document.value? with
  | some value => if room.all (document.depth ≤ ·) then .ok value else malformed
  | none => malformed

/-- A string. -/
def text : Decoder String := fun _ document =>
  match document with
  | .str (some text) => .ok text
  | .str none => malformed
  | found => wrong found .text

/-- An identifier in any of its spellings. -/
def identifier : Decoder Uuid := fun _ document =>
  match document with
  | .str (some text) =>
      match Uuid.parse? text with
      | some id => .ok id
      | none => .error (.here .badIdentifier)
  | .str none => malformed
  | found => wrong found .identifier

/-- A point in time, kept as it is written. -/
def time : Decoder String := fun _ document =>
  match document with
  | .str (some text) => .ok text
  | .str none => malformed
  | found => wrong found .time

/-- A count. -/
def count : Decoder Nat := fun _ document =>
  match document with
  | .num (some (.int n)) => if n < 0 then .error (.here (.negative n)) else .ok n.toNat
  | found => wrong found .count

/-- One of several named values: its name, or an object with its name as the only
key and nothing under it. -/
def variant {α : Type} (known : List (String × α)) : Decoder α := fun _ document =>
  let named (name : String) : Except Fault α :=
    match known.lookup name with
    | some value => .ok value
    | none => .error (.here (.unknownVariant name (known.map (·.1))))
  match document with
  | .str (some name) => named name
  | .str none => malformed
  | .obj [(some name, content)] => do
      let value ← named name
      match content with
      | .null => .ok value
      | found => wrong found .nothing
  | .obj _ => .error (.here .manyVariants)
  | found => wrong found .variant

/-! ### Composed values -/

/-- The decoder followed by a function. -/
def mapped {α β : Type} (f : α → β) (decoder : Decoder α) : Decoder β :=
  fun room document => (decoder room document).map f

/-- A value, or null for none. -/
def nullable {α : Type} (decoder : Decoder α) : Decoder (Option α) := fun room document =>
  match document with
  | .null => .ok none
  | found => (decoder room found).map some

/-- The values of items, the first of them at an index. -/
def itemsFrom {α : Type} (decoder : Decoder α) (room : Option Nat) :
    Nat → List Document → Except Fault (List α)
  | _, [] => .ok []
  | index, item :: rest => do
      let value ← (decoder room item).mapError (Fault.under (.index index))
      let values ← itemsFrom decoder room (index + 1) rest
      return value :: values

/-- An array of values. -/
def listOf {α : Type} (decoder : Decoder α) : Decoder (List α) := fun room document =>
  match document with
  | .arr items => itemsFrom decoder (inner room) 0 items
  | found => wrong found .sequence

/-- The members of an object with their values. -/
def membersFrom {α : Type} (decoder : Decoder α) (room : Option Nat) :
    List (Option String × Document) → Except Fault (List (String × α))
  | [] => .ok []
  | (none, _) :: _ => malformed
  | (some key, member) :: rest => do
      let value ← (decoder room member).mapError (Fault.under (.field key))
      let values ← membersFrom decoder room rest
      return (key, value) :: values

/-- An object as a dictionary. -/
def dictOf {α : Type} (decoder : Decoder α) : Decoder (Dict α) := fun room document =>
  match document with
  | .obj members => (membersFrom decoder (inner room) members).map Dict.ofList
  | found => wrong found .map

/-! ### Records -/

/-- What a field of a record delivers: a value, or a fault together with the
place at which it comes to light. -/
abbrev Part (α : Type) := Except (Nat × Fault) α

/-- Two parts together; of two faults the earlier one counts. -/
def Part.both {α β : Type} : Part (α → β) → Part α → Part β
  | .ok f, .ok value => .ok (f value)
  | .ok _, .error late => .error late
  | .error early, .ok _ => .error early
  | .error first, .error second => .error (if second.1 < first.1 then second else first)

/-- Fields of a record in their declared order. -/
structure Fields (α : Type) where
  count : Nat
  /-- Reads the fields from the members of an object. -/
  named : Option Nat → List (Option String × Document) → Part α
  /-- Reads the fields from the items of a list, the first field from an index
  on.  The fault of a list that ends before an index is given. -/
  listed : (Nat → Misfit) → Option Nat → Nat → List Document → Part α

instance : Applicative Fields where
  pure value := ⟨0, fun _ _ => .ok value, fun _ _ _ _ => .ok value⟩
  seq fields later :=
    let others := later ()
    { count := fields.count + others.count
      named := fun room members => (fields.named room members).both (others.named room members)
      listed := fun short room start items =>
        (fields.listed short room start items).both
          (others.listed short room (start + fields.count) items) }

/-- The place and value of the first member with a key at or after a place, and
the place of the second such member. -/
def findMember (key : String) (place : Nat) :
    List (Option String × Document) → Option (Nat × Document × Option Nat)
  | [] => none
  | (name, member) :: rest =>
      if name = some key then
        some (place, member, (findMember key (place + 1) rest).map (·.1))
      else findMember key (place + 1) rest

/-- Reads a field from the members of an object; `absent` is what its absence
amounts to. -/
def namedField {α : Type} (name : String) (decoder : Decoder α) (absent : Except Misfit α)
    (room : Option Nat) (members : List (Option String × Document)) : Part α :=
  match findMember name 0 members with
  | none => absent.mapError fun misfit => (members.length, .here misfit)
  | some (place, member, again) =>
      match decoder room member, again with
      | .error fault, _ => .error (place, fault.under (.field name))
      | .ok _, some again => .error (again, .here (.repeated name))
      | .ok value, none => .ok value

/-- Reads a field from an item of a list; `absent` is what its absence amounts
to. -/
def listedField {α : Type} (decoder : Decoder α) (absent : Except Misfit α)
    (room : Option Nat) (index : Nat) (items : List Document) : Part α :=
  match items[index]? with
  | none => absent.mapError fun misfit => (index, .here misfit)
  | some item => (decoder room item).mapError fun fault => (index, fault.under (.index index))

/-- A field that has to be there. -/
def required {α : Type} (name : String) (decoder : Decoder α) : Fields α where
  count := 1
  named := namedField name decoder (.error (.missing name))
  listed short room start items := listedField decoder (.error (short start)) room start items

/-- A field that has a value of its own when it is not there. -/
def defaulting {α : Type} (name : String) (decoder : Decoder α) (default : α) : Fields α where
  count := 1
  named := namedField name decoder (.ok default)
  listed _ := listedField decoder (.ok default)

/-- A field that may be null, and that an object may leave out. -/
def optional {α : Type} (name : String) (decoder : Decoder α) : Fields (Option α) where
  count := 1
  named := namedField name (nullable decoder) (.ok none)
  listed short room start items :=
    listedField (nullable decoder) (.error (short start)) room start items

/-- A record in either of its forms. -/
def record {α : Type} (name : String) (fields : Fields α) : Decoder α := fun room document =>
  match document with
  | .obj members =>
      if members.any (·.1.isNone) then malformed
      else (fields.named (inner room) members).mapError (·.2)
  | .arr items =>
      match fields.listed (Misfit.short · name fields.count) (inner room) 0 items with
      | .error fault => .error fault.2
      | .ok value =>
          if items.length ≤ fields.count then .ok value
          else .error (.here (.surplus items.length))
  | found => wrong found (.record name)

end Decode

/-- Decodes a value that is at hand. -/
def Decoder.ofJson {α : Type} (decoder : Decoder α) (value : Json) : Except Decode.Misfit α :=
  (decoder none (Document.ofJson value)).mapError (·.misfit)

/-- Decodes the document at the front of a text and ignores what follows it. -/
def Decoder.ofText {α : Type} (decoder : Decoder α) (text : String) : Except Decode.Fault α :=
  match Document.readFront? text with
  | none => .error (.here .malformed)
  | some (document, _) =>
      match decoder (some Json.maxDepth) document with
      | .ok value => .ok value
      | .error fault =>
          if document.shallowValue?.isSome then .error fault else .error (.here .malformed)

end Entitlement
