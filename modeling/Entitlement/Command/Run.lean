import Entitlement.Archive
import Entitlement.Command.Address
import Entitlement.Command.Arguments
import Entitlement.Command.EnvFile
import Entitlement.Config
import Entitlement.Resolution

/-!
# The commands

What each command answers in given surroundings.  The file `.env` is read first, then
the arguments, then the settings, and only then does the command look at any records;
the first thing that goes wrong decides.
-/

namespace Entitlement.Command

/-! ## Surroundings -/

/-- What is found at the path of a database. -/
inductive Connection where
  /-- No database can be opened there. -/
  | refused
  /-- A file in which no tables have been created yet; whether none can be, because it
  is only read or holds something else. -/
  | withoutTables (fixed : Bool)
  | tables (held : Archive)

/-- What the program finds around it. -/
structure World where
  environment : String → Option String
  /-- The text of a file, or the reason why it cannot be read. -/
  file : String → Except String String
  /-- Whether anything is found at a path. -/
  present : List UInt8 → Bool
  /-- The database at a path, opened in some way, and whether it is declared never to
  change. -/
  connect : List UInt8 → Opening → Bool → Connection
  /-- The time, as it is written. -/
  now : String

/-- The settings of the surroundings, those of the file `.env` included; nothing if
they cannot be added. -/
def World.settings? (world : World) : Option (String → Option String) :=
  match world.file ".env" with
  | .ok text => EnvFile.extend? world.environment text
  | .error _ => some world.environment

/-! ## Failures -/

/-- Why a command fails. -/
inductive Failure where
  | error (cause : Error)
  | noDatabase
  | unreadableTree (path : String)
  | invalidTree

/-- The message of a failure. -/
def Failure.message : Failure → String
  | .error cause => cause.message
  | .noDatabase => "DATABASE_URL must be set (or pass --fixture)"
  | .unreadableTree path => "failed to read " ++ path
  | .invalidTree => "tree file is not valid JSON"

/-- The result of an outcome, as a command has it. -/
def settled {α : Type} (outcome : Outcome α) : Except Failure α :=
  outcome.result.mapError .error

/-! ## Stores -/

/-- The database that is configured. -/
def openDatabase (world : World) (config : Config) : Except Failure Connection :=
  match config.databaseUrl with
  | none => .error .noDatabase
  | some url =>
      match Address.ofText? url with
      | none => .error (.error .database)
      | some (.memory readOnly) => .ok (.withoutTables readOnly)
      | some (.file path opening immutable modeOf) =>
          let found :=
            if modeOf.all world.present then world.connect path opening immutable else .refused
          match found with
          | .refused => .error (.error .database)
          | .withoutTables fixed =>
              .ok (.withoutTables (fixed || opening == .readOnly || immutable))
          | .tables held => .ok (.tables held)

/-- The store of a connection. -/
def Connection.store : Connection → Store
  | .tables held => held.store
  | _ => .withoutTables

/-- Creates the tables of a connection where there are none, and checks the log of
migrations where there are. -/
def Connection.migrate : Connection → Except Failure Unit
  | .withoutTables true => .error (.error .migration)
  | .tables held => (held.migrate.mapError Failure.error).map fun _ => ()
  | _ => .ok ()

/-- The records of a fixture file. -/
def readFixture (world : World) (path : String) : Except Failure Directory :=
  match world.file path with
  | .error reason => .error (.error (.unreadableFixture path reason))
  | .ok text =>
      match Fixture.decoder.ofText text with
      | .ok fixture => .ok (.ofFixture fixture)
      | .error fault => .error (.error (.badFixture fault))

/-- The store that a command reads from: a fixture if it names one, and the
configured database otherwise. -/
def openStore (world : World) (config : Config) (fixture : Option String) :
    Except Failure Store :=
  match fixture with
  | some path => (readFixture world path).map Directory.store
  | none => (openDatabase world config).map Connection.store

/-! ## Answers -/

/-- The context of a query by an actor, with attributes given one by one; the last
one of a name counts. -/
def contextOf (actor : Actor) (attributes : List (String × Json)) (field : Option String) :
    Context :=
  ⟨some (.ofActor actor), Dict.ofList attributes, field⟩

/-- Whether an actor may do something.  Somebody without a record may do nothing. -/
def permits (authorizer : Authorizer) (id : Uuid) (action : Action) (subject : Subject)
    (attributes : List (String × Json)) (field : Option String) : Outcome Bool := do
  match ← authorizer.store.actor id with
  | none => return false
  | some actor => do
      let policy ← authorizer.resolve actor
      policy.can ⟨action, subject, contextOf actor attributes field⟩

/-- A line of a flattened tree. -/
def grantLine (grant : Grant) : String := grant.path ++ "\t" ++ grant.leaf.text ++ "\n"

/-- What a command prints. -/
def Invocation.output (world : World) (config : Config) : Invocation → Except Failure String
  | .check fixture actor action subject attributes field => do
      let store ← openStore world config fixture
      let allowed ← settled (permits ⟨store, config.strictLevels⟩ actor (.ofName action)
        (.ofName subject) attributes field)
      return if allowed then "allow\n" else "deny\n"
  | .summarize fixture actor => do
      let store ← openStore world config fixture
      let summary ← settled (Authorizer.summarizeById ⟨store, config.strictLevels⟩ actor)
      return (summary.toJson world.now).pretty ++ "\n"
  | .flatten path =>
      match world.file path with
      | .error _ => throw (.unreadableTree path)
      | .ok text =>
          match Json.parse? text with
          | none => throw .invalidTree
          | some value => return String.join ((Tree.ofJson value).flatten.map grantLine)
  | .migrate => do
      (← openDatabase world config).migrate
      return "Migrations applied\n"

/-- How a run of the program ends. -/
inductive Ending where
  /-- The settings of the file `.env` cannot be added. -/
  | aborted
  /-- The arguments are not in order; the report is about a value of `--attr`, if one
  is to blame. -/
  | misused (report : Option String)
  | failed (failure : Failure)
  | printed (output : String)

/-- What follows the message of a report about arguments.  It has an option in bold. -/
def pointer : String := "\n\nFor more information, try '\x1b[1m--help\x1b[0m'.\n"

/-- How a run ends whose arguments give nothing to run. -/
def Stop.ending : Stop → Ending
  | .badAttribute fault => .misused (some (Text.withoutControls (fault.message ++ pointer)))
  | .badArguments => .misused none
  | .help topic => .printed topic.text
  | .version => .printed versionText

/-- Runs the program with arguments, in a world with settings. -/
def runWith (world : World) (settings : String → Option String) (arguments : List String) :
    Ending :=
  match Invocation.ofArguments arguments with
  | .error stop => stop.ending
  | .ok invocation =>
      match (Config.ofSettings settings).mapError Failure.error with
      | .error failure => .failed failure
      | .ok config =>
          match invocation.output world config with
          | .ok output => .printed output
          | .error failure => .failed failure

/-- Runs the program with arguments. -/
def run (world : World) (arguments : List String) : Ending :=
  match world.settings? with
  | none => .aborted
  | some settings => runWith world settings arguments

end Entitlement.Command
