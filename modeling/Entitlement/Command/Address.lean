import Entitlement.Text.Split

/-!
# Addresses of databases

The address of a database is a name, possibly after `sqlite://` or `sqlite:` and possibly with
parameters after a question mark.  The name may have characters in percent encoding.  It is the
path of a file, or a file address in its own right, which the database engine reads by rules of
its own; `:memory:` and the empty name are no file but memory.

What comes out is an `Opening`: which file to open, how, and by which layer of the engine.

Three languages meet in an address, and a text that one of them refuses is refused.

* The prefix is taken off, as often as it is there.  The first question mark ends the name.
* The parameters behind it are those of the address.  Only a few names and values are known.  Some
  of them restrict how the file is opened, and two make a file address of the name.
* A file address has a host, a path and options, with rules of its own for encoded characters: a
  zero byte hides the rest of a part.  Its options cannot open a file in a way that the
  parameters do not allow, unless they ask for memory first.
-/

namespace Entitlement.Command

/-! ## Opening files

How the file of a database is opened, and by which layer of the database engine.
Most layers differ only in how they lock a file; one keeps everything in memory and
touches no file at all. -/

/-- How a file is opened. -/
inductive Opening where
  | readOnly
  /-- For reading and writing, if the file is there. -/
  | readWrite
  /-- For reading and writing; a file that is missing is created. -/
  | create
  deriving DecidableEq, Repr

namespace Opening

/-- The place among the openings by what they allow. -/
def rank : Opening → Nat
  | .readOnly => 0
  | .readWrite => 1
  | .create => 2

/-- Whether an opening allows nothing that another does not. -/
def within (opening limit : Opening) : Bool := opening.rank ≤ limit.rank

/-- An opening by its name. -/
def ofName? : String → Option Opening
  | "ro" => some .readOnly
  | "rw" => some .readWrite
  | "rwc" => some .create
  | _ => none

end Opening

/-- How a database is opened: as a file, or in memory, where it may be only read. -/
inductive Access where
  | memory (readOnly : Bool)
  | file (opening : Opening)
  deriving DecidableEq, Repr

/-- Whether an access leaves it open to open a file in some way.  In memory nothing is
kept from it. -/
def Access.admits : Access → Opening → Bool
  | .memory _, _ => true
  | .file limit, opening => opening.within limit

/-- The layers that handle files. -/
inductive Layer where
  | files
  | memory
  deriving DecidableEq, Repr

/-- A layer by its name. -/
def Layer.ofName? : String → Option Layer
  | "unix" => some .files
  | "unix-none" => some .files
  | "unix-dotfile" => some .files
  | "unix-excl" => some .files
  | "memdb" => some .memory
  | _ => none

/-! ## File addresses

The name of a database that starts with `file:` is an address that the database
engine reads by rules of its own: an optional host after two slashes, which must be
empty or `localhost`, a path, options after a question mark, and after a number
sign anything at all.

Path and options are percent-encoded; an encoded zero byte hides what follows it in
the same part.  Options without a name are passed over, and so are unknown ones.
`mode` may not allow more than is allowed already, except that `memory` puts the
database into memory and lifts the limit for a later `mode`. -/

/-- What a file address says. -/
structure FileAddress where
  path : List UInt8
  /-- Options by name, in order. -/
  options : List (List UInt8 × List UInt8)

namespace FileAddress

/-- The parts before and after the first occurrence of a byte; without one, all is
before it. -/
def cut (separator : UInt8) : List UInt8 → List UInt8 × List UInt8
  | [] => ([], [])
  | byte :: rest =>
      if byte = separator then ([], rest)
      else
        let (before, after) := cut separator rest
        (byte :: before, after)

/-- The pieces between the occurrences of a byte. -/
def piecesAt (separator : UInt8) : List UInt8 → List (List UInt8)
  | [] => [[]]
  | byte :: rest =>
      if byte = separator then [] :: piecesAt separator rest
      else
        match piecesAt separator rest with
        | [] => [[byte]]
        | piece :: more => (byte :: piece) :: more

/-- A part without its encoding, up to a zero byte. -/
def plainPart (part : List UInt8) : List UInt8 := Text.beforeZero (Text.decodeBytes part)

/-- An address without its host. -/
def dropHost? : List UInt8 → Option (List UInt8)
  | 0x2f :: 0x2f :: rest =>
      let host := rest.takeWhile (· != 0x2f)
      if host.isEmpty || host == Text.bytes "localhost" then some (rest.drop host.length)
      else none
  | bytes => some bytes

/-- An option, if it has a name. -/
def option? (piece : List UInt8) : Option (List UInt8 × List UInt8) :=
  let (name, value) := cut 0x3d piece
  if (plainPart name).isEmpty then none else some (plainPart name, plainPart value)

/-- The options after the question mark. -/
def optionsOf (bytes : List UInt8) : List (List UInt8 × List UInt8) :=
  (piecesAt 0x26 (cut 0x23 bytes).1).filterMap option?

/-- Reads an address after `file:`. -/
def ofBytes? (bytes : List UInt8) : Option FileAddress := do
  let (address, _) := cut 0x23 (← dropHost? bytes)
  let (path, options) := cut 0x3f address
  return ⟨plainPart path, optionsOf options⟩

/-! ### Options -/

/-- The value of the first option of a name. -/
def first? (address : FileAddress) (name : String) : Option (List UInt8) :=
  address.options.lookup (Text.bytes name)

/-- The value of the last option of a name. -/
def last? (address : FileAddress) (name : String) : Option (List UInt8) :=
  address.options.reverse.lookup (Text.bytes name)

/-- How the database is opened after options. -/
def accessAfter? (held : Access) : List (List UInt8 × List UInt8) → Option Access
  | [] => some held
  | (name, value) :: rest =>
      if name = Text.bytes "mode" then
        if value = Text.bytes "memory" then accessAfter? (.memory false) rest
        else do
          let opening ← (Text.ofBytes? value).bind Opening.ofName?
          if held.admits opening then accessAfter? (.file opening) rest else none
      else if name = Text.bytes "cache" then
        if value = Text.bytes "shared" || value = Text.bytes "private" then
          accessAfter? held rest
        else none
      else accessAfter? held rest

/-- The layer that the last option for it names. -/
def layer? (address : FileAddress) : Option Layer :=
  match address.last? "vfs" with
  | none => some .files
  | some name => (Text.ofBytes? name).bind Layer.ofName?

/-! ### Truth values -/

/-- The value of a digit in a base. -/
def digit? (base : Nat) (byte : UInt8) : Option Nat :=
  ((Text.hexValue? byte).map UInt8.toNat).filter (· < base)

/-- The number of the digits in a base at the beginning of bytes; nothing without any. -/
def leadingNumber? (base : Nat) (bytes : List UInt8) : Option Nat :=
  match bytes.head?.bind (digit? base) with
  | none => none
  | some _ =>
      some ((bytes.takeWhile fun byte => (digit? base byte).isSome).foldl
        (fun number byte => number * base + (digit? base byte).getD 0) 0)

/-- The number at the beginning of bytes, which is hexadecimal after `0x`. -/
def number? : List UInt8 → Option Nat
  | 0x30 :: 0x78 :: rest => (leadingNumber? 16 rest).or (some 0)
  | 0x30 :: 0x58 :: rest => (leadingNumber? 16 rest).or (some 0)
  | bytes => leadingNumber? 10 bytes

/-- Whether the value of an option says yes: by a word, or by a number below `2^31` whose
lowest byte is not zero. -/
def isYes (value : List UInt8) : Bool :=
  match number? value with
  | some number => number < Nat.pow 2 31 && number % 256 != 0
  | none => ((Text.ofBytes? value).map String.toLower).any ["yes", "true", "on"].contains

/-- Whether the file is declared never to change. -/
def isImmutable (address : FileAddress) : Bool := (address.first? "immutable").any isYes

end FileAddress

/-! ## The address as a whole

The parameters say how to open the file: `mode` may be `ro`, `rw`, `rwc` or `memory`, `cache`
may be `private` or `shared`, `immutable` is a truth value, and `vfs` names a layer.  Any other
parameter makes the address invalid.

A layer or an immutable file turn the whole into a file address.  The name is its path then,
even if it looks like a file address itself, and ends before a zero byte.  What names the layer
becomes part of the options as it is, so more options may follow in it.  Anywhere else a zero
byte makes the address invalid. -/

/-- Where a database is, and how it is opened.  An immutable file is created when it
is missing and may be, but nothing is written to it.  There may be another file whose
permissions a file takes that is created; that one has to be there in any case. -/
inductive Address where
  | memory (readOnly : Bool)
  | file (path : List UInt8) (opening : Opening) (immutable : Bool)
      (modeOf : Option (List UInt8))
  deriving DecidableEq, Repr

namespace Address

/-- Characters without any number of repetitions of a beginning. -/
def trimLeading (beginning chars : List Char) : List Char :=
  if beginning.isEmpty then chars
  else if beginning.isPrefixOf chars then trimLeading beginning (chars.drop beginning.length)
  else chars
termination_by chars.length
decreasing_by
  rename_i hbeginning hstarts
  have hlength := (List.isPrefixOf_iff_prefix.mp hstarts).length_le
  have : beginning.length ≠ 0 := by simpa using hbeginning
  simp only [List.length_drop]
  omega

/-! ### Places -/

/-- The greatest length of a path in the layer for memory. -/
def longestMemoryPath : Nat := 1016

/-- What a file address stands for, where it is clear how to open it. -/
def ofOpening? (opening : Opening) (address : FileAddress) : Option Address := do
  let layer ← address.layer?
  let immutable := address.isImmutable
  if address.path.isEmpty || address.path == Text.bytes ":memory:" then
    return .memory (opening == .readOnly)
  else
    match layer with
    | .files => return .file address.path opening immutable (address.first? "modeof")
    | .memory =>
        if address.path.length ≤ longestMemoryPath then
          return .memory (opening == .readOnly || immutable)
        else none

/-- What a file address stands for, where an access is the limit. -/
def ofFileAddress? (limit : Access) (address : FileAddress) : Option Address := do
  match ← FileAddress.accessAfter? limit address.options with
  | .file opening => ofOpening? opening address
  | .memory readOnly => do
      let _ ← address.layer?
      return .memory readOnly

/-- What a name stands for without a layer. -/
def ofName? (access : Access) (name : List UInt8) : Option Address :=
  let scheme := Text.bytes "file:"
  if name.contains 0 then none
  else if scheme.isPrefixOf name then
    (FileAddress.ofBytes? (name.drop scheme.length)).bind (ofFileAddress? access)
  else ofFileAddress? access ⟨name, []⟩

/-! ### Parameters -/

/-- What the parameters of an address ask for. -/
structure Request where
  inMemory : Bool
  readOnly : Bool
  immutable : Bool
  /-- What names a layer. -/
  layer : Option (List UInt8)

/-- A request after one more parameter. -/
def Request.add? (request : Request) (name : String) (value : List UInt8) : Option Request :=
  match name, Text.ofBytes? value with
  | "mode", some "ro" => some { request with readOnly := true }
  | "mode", some "rw" => some request
  | "mode", some "rwc" => some request
  | "mode", some "memory" => some { request with inMemory := true }
  | "cache", some "private" => some request
  | "cache", some "shared" => some request
  | "immutable", some "true" => some { request with immutable := true }
  | "immutable", some "1" => some { request with immutable := true }
  | "immutable", some "false" => some { request with immutable := false }
  | "immutable", some "0" => some { request with immutable := false }
  | "vfs", _ => some { request with layer := some value }
  | _, _ => none

/-- Part of a parameter without its encoding, in which a plus sign stands for a space. -/
def plainParameter (text : List Char) : List UInt8 :=
  Text.decodeBytes ((Text.bytes (String.ofList text)).map fun byte =>
    if byte = 0x2b then 0x20 else byte)

/-- A request after parameters; those without any character are passed over. -/
def Request.addAll? (request : Request) : List (List Char) → Option Request
  | [] => some request
  | [] :: rest => request.addAll? rest
  | parameter :: rest => do
      let (name, value) := (Text.splitOnce? '=' parameter).getD (parameter, [])
      let name ← Text.ofBytes? (plainParameter name)
      (← request.add? name (plainParameter value)).addAll? rest

/-- How the database is opened on a request. -/
def Request.access (request : Request) : Access :=
  if request.inMemory then .memory request.readOnly
  else .file (if request.readOnly then .readOnly else .create)

/-- The options that a request makes of a layer and of an immutable file, as they are
written. -/
def Request.options (request : Request) : List UInt8 :=
  (if request.immutable then Text.bytes "immutable=true&" else []) ++
    ((request.layer.map fun layer => Text.bytes "vfs=" ++ layer).getD [])

/-- The address that a name has on a request. -/
def Request.address? (request : Request) (name : List UInt8) : Option Address :=
  let options := request.options
  if options.isEmpty then ofName? request.access name
  else if options.contains 0 then none
  else ofFileAddress? request.access ⟨Text.beforeZero name, FileAddress.optionsOf options⟩

/-- A name without percent encoding, if it is a text then.  Memory goes by a name of its
own. -/
def plainName? (name : List Char) : Option (List UInt8) :=
  if name = ":memory:".toList then some (Text.bytes "file:memory")
  else
    let plain := Text.decodeBytes (Text.bytes (String.ofList name))
    (Text.ofBytes? plain).map fun _ => plain

/-- The address that a text gives. -/
def ofText? (text : String) : Option Address := do
  let chars := trimLeading "sqlite:".toList (trimLeading "sqlite://".toList text.toList)
  let (name, parameters) := (Text.splitOnce? '?' chars).getD (chars, [])
  let request ← Request.addAll? ⟨name == ":memory:".toList, false, false, none⟩
    (Text.pieces '&' parameters)
  request.address? (← plainName? name)

end Address

end Entitlement.Command
