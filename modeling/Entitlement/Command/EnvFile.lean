import Entitlement.Text.Character

/-!
# Environment files

A file of lines `NAME=value` that adds settings to those of the environment.  A
line may start with `export`; a comment starts at a line's beginning or after
white space.

In a value, single quotes keep everything as it is; double quotes keep white
space; a backslash outside single quotes escapes a quotation mark, a backslash, a
dollar sign, a space, or stands with `n` for a line break.  `$NAME`, where the
name ends before the first character that is neither a letter nor a digit of any
script, and `$` with a name in braces insert a setting.  Quoted values and escapes
may go on over line breaks.

Reading stops at the first faulty line; the settings before it remain.  A setting
that is there already is not changed.  One that is not there, and whose value has a
zero character, cannot be added at all.
-/

namespace Entitlement.EnvFile

/-! ## Settings -/

/-- Settings by name, in the order in which they are searched. -/
abbrev Settings := List (String × String)

/-- What follows a beginning. -/
def after? : List Char → List Char → Option (List Char)
  | [], chars => some chars
  | _ :: _, [] => none
  | c :: beginning, d :: chars => if c = d then after? beginning chars else none

/-- The value that a setting gives to a name.  The setting is looked at as it is written,
so a name may have an equals sign and the beginning of the value as well. -/
def valueFor? (name : String) (setting : String × String) : Option String :=
  (after? (name ++ "=").toList (setting.1 ++ "=" ++ setting.2).toList).map String.ofList

/-- The value of a name, which is not empty. -/
def Settings.get? (settings : Settings) (name : String) : Option String :=
  if name.isEmpty then none else settings.findSome? (valueFor? name)

/-! ## Lines -/

/-- Where in a value a line stands between two characters. -/
inductive Posture where
  | plain
  | escape
  | strong
  | strongEscape
  | weak
  | weakEscape
  | space

/-- The posture after a character; nothing when a comment starts with it. -/
def Posture.next? (posture : Posture) (c : Char) : Option Posture :=
  match posture with
  | .space =>
      if c = '#' then none
      else if c = '\\' then some .escape
      else if c = '"' then some .weak
      else if c = '\'' then some .strong
      else some .plain
  | .plain =>
      if Text.isBlank c && c != '\n' && c != '\r' then some .space
      else if c = '\\' then some .escape
      else if c = '"' then some .weak
      else if c = '\'' then some .strong
      else some .plain
  | .escape => some .plain
  | .strong =>
      if c = '\\' then some .strongEscape else if c = '\'' then some .plain else some .strong
  | .strongEscape => some .strong
  | .weak => if c = '\\' then some .weakEscape else if c = '"' then some .plain else some .weak
  | .weakEscape => some .weak

/-- The characters of a line up to a comment, and the posture after them, which is
absent when a comment follows. -/
def scanLine (posture : Posture) : List Char → List Char × Option Posture
  | [] => ([], some posture)
  | c :: rest =>
      match posture.next? c with
      | none => ([], none)
      | some next =>
          let (taken, after) := scanLine next rest
          (c :: taken, after)

/-- The physical lines of a text, each with its line break. -/
def physicalLines : List Char → List (List Char)
  | [] => []
  | '\n' :: rest => ['\n'] :: physicalLines rest
  | c :: rest =>
      match physicalLines rest with
      | [] => [[c]]
      | line :: lines => (c :: line) :: lines

/-- Whether a line is nothing but a comment. -/
def isComment (line : List Char) : Bool := (line.dropWhile Text.isBlank).head? == some '#'

/-- A line without its line break. -/
def dropLineBreak (line : List Char) : List Char :=
  match line.reverse with
  | '\n' :: '\r' :: rest => rest.reverse
  | '\n' :: rest => rest.reverse
  | _ => line

/-- The lines of a file, where a value that goes on over line breaks makes one
line; nothing stands for a value that never ends. -/
def logicalLines (posture : Posture) (taken : List Char) :
    List (List Char) → List (Option (List Char))
  | [] =>
      match posture with
      | .plain => []
      | _ => [none]
  | line :: lines =>
      if isComment (taken ++ line) then logicalLines .plain [] lines
      else
        let (kept, after) := scanLine posture line
        match after with
        | none => some (taken ++ kept) :: logicalLines .plain [] lines
        | some .plain => some (dropLineBreak (taken ++ line)) :: logicalLines .plain [] lines
        | some unfinished => logicalLines unfinished (taken ++ line) lines

/-! ## Values -/

/-- How far a value has been read. -/
inductive Mode where
  | plain
  | escaped (weak : Bool)
  | strong
  | weak
  /-- After a dollar sign and the characters of a name. -/
  | named (weak : Bool) (name : List Char)
  /-- After a dollar sign, a brace and the characters of a name. -/
  | braced (weak : Bool) (name : List Char)
  /-- After the value; only white space and a comment may follow. -/
  | ended

/-- The mode inside or outside double quotes. -/
def Mode.resume (weak : Bool) : Mode := if weak then .weak else .plain

/-- The character that an escape stands for. -/
def escaped? (c : Char) : Option Char :=
  if c = 'n' then some '\n'
  else if ['\\', '\'', '"', '$', ' '].contains c then some c
  else none

/-- Whether a name after a dollar sign goes on with a character. -/
def isNameChar (c : Char) : Bool := Text.isAlphanumeric c

/-- Reads a value, after the part that has been read already. -/
def readValue (setting : String → String) (mode : Mode) (read : List Char) :
    List Char → Option (List Char)
  | [] =>
      match mode with
      | .strong => none
      | .weak => none
      | .braced _ _ => none
      | .escaped true => none
      | .named true _ => none
      | .named false name => some (read ++ (setting (String.ofList name)).toList)
      | _ => some read
  | c :: rest =>
      match mode with
      | .ended =>
          if c = ' ' || c = '\t' then readValue setting .ended read rest
          else if c = '#' then some read
          else none
      | .escaped weak =>
          match escaped? c with
          | some c => readValue setting (.resume weak) (read ++ [c]) rest
          | none => none
      | .strong =>
          if c = '\'' then readValue setting .plain read rest
          else readValue setting .strong (read ++ [c]) rest
      | .named weak name =>
          if isNameChar c then readValue setting (.named weak (name ++ [c])) read rest
          else if c = '\x7b' && name.isEmpty then readValue setting (.braced weak []) read rest
          else
            let inserted := read ++ (setting (String.ofList name)).toList
            if c = '$' then readValue setting (.named weak []) inserted rest
            else readValue setting (.resume weak) (inserted ++ [c]) rest
      | .braced weak name =>
          if c = '\x7d' then
            readValue setting (.resume weak) (read ++ (setting (String.ofList name)).toList) rest
          else readValue setting (.braced weak (name ++ [c])) read rest
      | .weak =>
          if c = '$' then readValue setting (.named true []) read rest
          else if c = '"' then readValue setting .plain read rest
          else if c = '\\' then readValue setting (.escaped true) read rest
          else readValue setting .weak (read ++ [c]) rest
      | .plain =>
          if c = '$' then readValue setting (.named false []) read rest
          else if c = '\'' then readValue setting .strong read rest
          else if c = '"' then readValue setting .weak read rest
          else if c = '\\' then readValue setting (.escaped false) read rest
          else if c = ' ' || c = '\t' then readValue setting .ended read rest
          else readValue setting .plain (read ++ [c]) rest

/-! ## Assignments -/

/-- Drops white space. -/
def skipBlank (chars : List Char) : List Char := chars.dropWhile Text.isBlank

/-- Whether a name may start with a character. -/
def startsName (c : Char) : Bool := c.isAlpha || c == '_'

/-- Whether a name may go on with a character. -/
def continuesName (c : Char) : Bool := c.isAlphanum || c == '_' || c == '.'

/-- Reads a name and the white space after it. -/
def readName (chars : List Char) : Option (String × List Char) :=
  match chars with
  | [] => none
  | c :: _ =>
      if startsName c then
        some (String.ofList (chars.takeWhile continuesName),
          skipBlank (chars.dropWhile continuesName))
      else none

/-- Reads an equals sign. -/
def readEquals : List Char → Option (List Char)
  | '=' :: rest => some rest
  | _ => none

/-- Reads the name of a setting and the equals sign after it, and `export` before
it; `export` may also be a name itself. -/
def readAssigned (chars : List Char) : Option (String × List Char) := do
  let (name, rest) ← readName chars
  match readEquals rest with
  | some rest => return (name, rest)
  | none =>
      if name = "export" then do
        let (name, rest) ← readName rest
        return (name, ← readEquals rest)
      else none

/-- Reads a line; inside the result, nothing stands for a line without a setting. -/
def readLine (setting : String → String) (line : List Char) :
    Option (Option (String × String)) :=
  let chars := skipBlank (line.reverse.dropWhile Text.isBlank).reverse
  if chars.isEmpty || isComment chars then some none
  else do
    let (name, rest) ← readAssigned chars
    let chars := skipBlank rest
    if chars.isEmpty || isComment chars then return some (name, "")
    else return some (name, String.ofList (← readValue setting .plain [] chars))

/-- The settings of lines, after those that have been read; nothing if one cannot be
added.  A value refers to the environment first, and then to the lines above. -/
def readLines? (environment : String → Option String) (read : Settings) :
    List (Option (List Char)) → Option Settings
  | [] => some read
  | none :: _ => some read
  | some line :: lines =>
      let setting? (name : String) : Option String := (environment name).or (read.get? name)
      match readLine (fun name => (setting? name).getD "") line with
      | none => some read
      | some none => readLines? environment read lines
      | some (some (name, value)) =>
          if (setting? name).isSome then readLines? environment read lines
          else if value.contains '\x00' then none
          else readLines? environment (read ++ [(name, value)]) lines

/-- A text without the mark of its byte order. -/
def dropByteOrderMark : List Char → List Char
  | '\ufeff' :: rest => rest
  | chars => chars

/-- The settings of a file that an environment does not have. -/
def settings? (environment : String → Option String) (text : String) : Option Settings :=
  readLines? environment []
    (logicalLines .plain [] (physicalLines (dropByteOrderMark text.toList)))

/-- An environment with the settings of a file added. -/
def extend? (environment : String → Option String) (text : String) :
    Option (String → Option String) := do
  let added ← settings? environment text
  return fun name => (environment name).or (added.get? name)

end Entitlement.EnvFile
