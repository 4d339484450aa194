import Entitlement.Json.Reader
import Entitlement.Text.Character
import Entitlement.Text.Split
import Entitlement.Uuid

/-!
# The command line

The first argument names a command; options and operands follow.  An option is written
`--name value` or `--name=value` and may occur once, except `--attr`.  An argument that starts
with a hyphen is never a value, unless it is the hyphen alone; after `--` all arguments are
operands.

The program tells about its use when it is asked to, with a text for each command.

Arguments are read from left to right.  What has been read but might go on is pending, and it is
settled by the next option or operand, or by the end; so a fault in the value of an option comes
after a fault in the argument behind it, unless the value stands behind an equals sign.  When help
is asked for, what is pending is settled first, and its fault counts.
-/

namespace Entitlement.Command

/-! ## Arguments

Arguments are read from left to right.  An option whose value is an argument of its own is
settled only when the next option or operand shows that it is complete, so that an unknown
option is reported rather than a bad value before it.

`--help` and `-h` ask for help with the command, or with the program before any command; so
does the word `help` with the name of a command or without.  A bad value before such an option
is still reported, while whatever comes after it is not read.  `--version` and `-V` ask for the
version before any command. -/

/-- What is wrong with the value of `--attr`. -/
inductive AttributeFault where
  | noSeparator (raw : String)
  | noName (raw : String)
  deriving DecidableEq, Repr

/-- The message of a fault. -/
def AttributeFault.message : AttributeFault → String
  | .noSeparator raw => "expected key=value, got `" ++ raw ++ "`"
  | .noName raw => "empty attribute name in `" ++ raw ++ "`"

/-- What help can be asked for. -/
inductive Topic where
  | program
  | check
  | summarize
  | flatten
  | migrate
  | help
  deriving DecidableEq, Repr

/-- Why arguments give nothing to run. -/
inductive Stop where
  | badAttribute (fault : AttributeFault)
  | badArguments
  | help (topic : Topic)
  | version
  deriving DecidableEq, Repr

/-- The value of `--attr`: a name and a value, which is read as JSON when it is
JSON and is a text otherwise. -/
def readAttribute (raw : String) : Except AttributeFault (String × Json) :=
  match Text.splitOnce? '=' raw.toList with
  | none => .error (.noSeparator raw)
  | some (name, value) =>
      let name := Text.trim (String.ofList name)
      let value := String.ofList value
      if name.isEmpty then .error (.noName raw)
      else .ok (name, (Json.parse? value).getD (.str value))

/-! ### Options -/

/-- The options. -/
inductive Flag where
  | fixture
  | actor
  | action
  | subject
  | attr
  | field
  deriving DecidableEq, Repr

/-- The name of an option. -/
def Flag.name : Flag → String
  | .fixture => "fixture"
  | .actor => "actor"
  | .action => "action"
  | .subject => "subject"
  | .attr => "attr"
  | .field => "field"

/-- What has been read from arguments. -/
structure Settings where
  fixture : Option String
  actor : Option Uuid
  action : Option String
  subject : Option String
  attributes : List (String × Json)
  field : Option String
  operand : Option String

namespace Settings

/-- The settings before any argument. -/
def empty : Settings := ⟨none, none, none, none, [], none, none⟩

/-- Refuses arguments when an option has occurred before. -/
def once {α : Type} (held : Option α) : Except Stop Unit :=
  if held.isSome then .error .badArguments else .ok ()

/-- A path, which must not be empty. -/
def readPath (raw : String) : Except Stop String :=
  if raw.isEmpty then .error .badArguments else .ok raw

/-- The settings with the value of an option. -/
def set (settings : Settings) (flag : Flag) (raw : String) : Except Stop Settings :=
  match flag with
  | .fixture => do
      once settings.fixture
      return { settings with fixture := some (← readPath raw) }
  | .actor => do
      once settings.actor
      match Uuid.parse? raw with
      | some id => return { settings with actor := some id }
      | none => throw .badArguments
  | .action => do
      once settings.action
      return { settings with action := some raw }
  | .subject => do
      once settings.subject
      return { settings with subject := some raw }
  | .attr =>
      match readAttribute raw with
      | .ok pair => return { settings with attributes := settings.attributes ++ [pair] }
      | .error fault => throw (.badAttribute fault)
  | .field => do
      once settings.field
      return { settings with field := some raw }

/-- The settings with an operand. -/
def setOperand (settings : Settings) (raw : String) : Except Stop Settings := do
  return { settings with operand := some (← readPath raw) }

end Settings

/-! ### Reading -/

/-- What a command takes, and the help with it. -/
structure Form where
  topic : Topic
  flags : List Flag
  takesOperand : Bool

/-- What is still to be settled. -/
inductive Pending where
  | nothing
  /-- An option without its value. -/
  | awaiting (flag : Flag)
  | option (flag : Flag) (raw : String)
  | operand (raw : String)

/-- The settings with what was pending. -/
def Pending.settle (pending : Pending) (settings : Settings) : Except Stop Settings :=
  match pending with
  | .nothing => .ok settings
  | .awaiting _ => .error .badArguments
  | .option flag raw => settings.set flag raw
  | .operand raw => settings.setOperand raw

/-- A kind of argument. -/
inductive Argument where
  | endOfOptions
  | long (name : String) (value : Option String)
  /-- One hyphen, a letter and the letters after it. -/
  | short (letter : Char)
  | plain (raw : String)

/-- The kind of an argument. -/
def Argument.ofText (raw : String) : Argument :=
  match raw.toList with
  | ['-', '-'] => .endOfOptions
  | '-' :: '-' :: rest =>
      match Text.splitOnce? '=' rest with
      | none => .long (String.ofList rest) none
      | some (name, value) => .long (String.ofList name) (some (String.ofList value))
  | '-' :: letter :: _ => .short letter
  | _ => .plain raw

/-- Whether one more operand is admitted. -/
def Form.admitsOperand (form : Form) (pending : Pending) (settings : Settings) : Bool :=
  form.takesOperand && settings.operand.isNone &&
    match pending with
    | .operand _ => false
    | _ => true

/-- Stops for help, unless what was pending is faulty. -/
def Form.showHelp (form : Form) (pending : Pending) (settings : Settings) :
    Except Stop Settings := do
  let _ ← pending.settle settings
  throw (.help form.topic)

/-- Reads operands, after the end of options. -/
def readOperands (form : Form) (pending : Pending) (settings : Settings) :
    List String → Except Stop Settings
  | [] => pending.settle settings
  | raw :: rest =>
      if form.admitsOperand pending settings then do
        let settings ← pending.settle settings
        readOperands form (.operand raw) settings rest
      else .error .badArguments

/-- Reads arguments, after those that have been settled or are pending. -/
def readArguments (form : Form) (pending : Pending) (settings : Settings) :
    List String → Except Stop Settings
  | [] => pending.settle settings
  | raw :: rest =>
      match Argument.ofText raw with
      | .endOfOptions => readOperands form pending settings rest
      | .short 'h' => form.showHelp pending settings
      | .short _ => .error .badArguments
      | .long "help" none => form.showHelp pending settings
      | .long name value =>
          match form.flags.find? (·.name == name) with
          | none => .error .badArguments
          | some flag => do
              let settings ← pending.settle settings
              match value with
              | some value => do
                  let settings ← settings.set flag value
                  readArguments form .nothing settings rest
              | none => readArguments form (.awaiting flag) settings rest
      | .plain raw =>
          match pending with
          | .awaiting flag => readArguments form (.option flag raw) settings rest
          | pending =>
              if form.admitsOperand pending settings then do
                let settings ← pending.settle settings
                readArguments form (.operand raw) settings rest
              else .error .badArguments

/-! ### Commands -/

/-- What the program is asked to do. -/
inductive Invocation where
  | check (fixture : Option String) (actor : Uuid) (action subject : String)
      (attributes : List (String × Json)) (field : Option String)
  | summarize (fixture : Option String) (actor : Uuid)
  | flatten (path : String)
  | migrate

/-- A value that has to be given. -/
def given {α : Type} (value : Option α) : Except Stop α :=
  match value with
  | some value => .ok value
  | none => .error .badArguments

/-- The topic that a word after `help` names. -/
def Topic.ofWord? : String → Option Topic
  | "check" => some .check
  | "summarize" => some .summarize
  | "flatten" => some .flatten
  | "migrate" => some .migrate
  | "help" => some .help
  | _ => none

/-- What an argument before any command asks for. -/
def Argument.stop : Argument → Stop
  | .short 'h' => .help .program
  | .long "help" none => .help .program
  | .short 'V' => .version
  | .long "version" none => .version
  | _ => .badArguments

/-- Reads the arguments of the program. -/
def Invocation.ofArguments : List String → Except Stop Invocation
  | [] => .error .badArguments
  | "check" :: rest => do
      let settings ← readArguments
        ⟨.check, [.fixture, .actor, .action, .subject, .attr, .field], false⟩
        .nothing .empty rest
      return .check settings.fixture (← given settings.actor) (← given settings.action)
        (← given settings.subject) settings.attributes settings.field
  | "summarize" :: rest => do
      let settings ← readArguments ⟨.summarize, [.fixture, .actor], false⟩
        .nothing .empty rest
      return .summarize settings.fixture (← given settings.actor)
  | "flatten" :: rest => do
      let settings ← readArguments ⟨.flatten, [], true⟩ .nothing .empty rest
      return .flatten (← given settings.operand)
  | "migrate" :: rest => do
      let _ ← readArguments ⟨.migrate, [], false⟩ .nothing .empty rest
      return .migrate
  | ["help"] => .error (.help .program)
  | ["help", word] => .error (((Topic.ofWord? word).map Stop.help).getD .badArguments)
  | "help" :: _ => .error .badArguments
  | raw :: _ => .error (Argument.ofText raw).stop

/-! ## Help

What the program tells about its use.  Each command has a text of its own: what it
does, how it is written, and what its operands and options are. -/

/-- The name and version of the program. -/
def versionText : String := "review-authz 0.1.0\n"

/-- The lines of help with a topic. -/
def Topic.lines : Topic → List String
  | .program => [
      "review authorization toolkit",
      "",
      "Usage: authzctl <COMMAND>",
      "",
      "Commands:",
      "  check      Answer a single \"can <actor> <action> <subject>\" query",
      "  summarize  Print the flat permission summary of an actor as JSON",
      "  flatten    Print the flattened leaves of a permission tree file",
      "  migrate    Apply the bundled migrations to DATABASE_URL",
      "  help       Print this message or the help of the given subcommand(s)",
      "",
      "Options:",
      "  -h, --help     Print help",
      "  -V, --version  Print version"]
  | .check => [
      "Answer a single \"can <actor> <action> <subject>\" query",
      "",
      "Usage: authzctl check [OPTIONS] --actor <ACTOR> --action <ACTION> --subject <SUBJECT>",
      "",
      "Options:",
      "      --fixture <FIXTURE>  Read roles, groups and users from a JSON fixture " ++
        "instead of DATABASE_URL",
      "      --actor <ACTOR>      ",
      "      --action <ACTION>    ",
      "      --subject <SUBJECT>  ",
      "      --attr <ATTRS>       Resource attribute as key=value; " ++
        "the value is parsed as JSON when possible",
      "      --field <FIELD>      ",
      "  -h, --help               Print help"]
  | .summarize => [
      "Print the flat permission summary of an actor as JSON",
      "",
      "Usage: authzctl summarize [OPTIONS] --actor <ACTOR>",
      "",
      "Options:",
      "      --fixture <FIXTURE>  Read roles, groups and users from a JSON fixture " ++
        "instead of DATABASE_URL",
      "      --actor <ACTOR>      ",
      "  -h, --help               Print help"]
  | .flatten => [
      "Print the flattened leaves of a permission tree file",
      "",
      "Usage: authzctl flatten <TREE>",
      "",
      "Arguments:",
      "  <TREE>  ",
      "",
      "Options:",
      "  -h, --help  Print help"]
  | .migrate => [
      "Apply the bundled migrations to DATABASE_URL",
      "",
      "Usage: authzctl migrate",
      "",
      "Options:",
      "  -h, --help  Print help"]
  | .help => [
      "Print this message or the help of the given subcommand(s)",
      "",
      "Usage: authzctl help [COMMAND]...",
      "",
      "Arguments:",
      "  [COMMAND]...  Print help for the subcommand(s)"]

/-- The help with a topic. -/
def Topic.text (topic : Topic) : String := String.join (topic.lines.map (· ++ "\n"))

end Entitlement.Command
