import Entitlement.Store.Database

/-!
# Archives

An archive is what a database file holds: the records and the log of migrations.  Statements
speak of both by the names of their tables.  As a store it is its records, except that it cannot
look up any number of them at once.
-/

namespace Entitlement

/-! ## The log of migrations

A database keeps a log of how its tables came about, as a table of its own.  It has one
entry, for the one migration there is.  Statements may change it like any other table.

To migrate once more does nothing while the log has its entry, and writes the entry again
when the log is empty.  An entry that a statement has put in belongs to no known
migration, for nothing that is given can equal the checksum of one; with such an entry a
migration fails. -/

namespace Database

/-- The log of migrations. -/
structure Log where
  rows : List Row

namespace Log

/-- The name of the log as a table. -/
def name : String := "_sqlx_migrations"

/-- The columns of the log; `version` is the key, but it may be left empty. -/
def columns : List Column :=
  [⟨"version", .number, true, .null, none⟩, .filled "description" .text,
    .timestamp "installed_on" .number, .filled "success" .number, .filled "checksum" .any,
    .filled "execution_time" .number]

/-- The entry of the migration that creates the tables. -/
def entry : Row where
  number := 1
  cells :=
    [("version", .number (.whole 20261017000001)), ("description", .text "access schema"),
      ("installed_on", .generated), ("success", .number (.whole 1)), ("checksum", .generated),
      ("execution_time", .generated)]

/-- The log after the migration. -/
def initial : Log := ⟨[entry]⟩

/-- Whether the log has a row with the number or the version of another. -/
def clashes (log : Log) (row : Row) : Bool :=
  log.rows.any fun held =>
    held.number == row.number || held.has "version" (row.cell "version")

/-- Puts a row with the given cells into the log. -/
def insert (log : Log) (given : Cells) : Except Error Log :=
  match numberFor? log.rows given with
  | none => .error .database
  | some number =>
      let row : Row := ⟨number, complete columns (held columns given)⟩
      if knows columns given && !leavesGap columns row && !log.clashes row then
        .ok ⟨insertRow row log.rows⟩
      else .error .database

/-- Removes the rows of the log that hold the given cells; the number of removed rows. -/
def delete (log : Log) (given : Cells) : Except Error (Log × Nat) :=
  if knows columns given && !given.isEmpty then
    let removed (row : Row) : Bool := row.holds (held columns given)
    .ok (⟨log.rows.filter fun row => !removed row⟩, (log.rows.filter removed).length)
  else .error .database

/-- The log after one more migration. -/
def migrate (log : Log) : Except Error Log :=
  if log.rows.isEmpty then .ok initial
  else if log.rows.all fun row => row.cell "checksum" == .generated then .ok log
  else .error .migration

end Log

end Database

/-! ## Records and log together -/

/-- The records and the log of migrations. -/
structure Archive where
  records : Database
  log : Database.Log

namespace Archive

/-- The archive without records. -/
def empty (foreignKeys : Bool) : Archive := ⟨.empty foreignKeys, .initial⟩

/-- Puts a row into the table of a name, which may have capitals. -/
def insertInto (archive : Archive) (name : String) (given : Database.Cells) :
    Except Error Archive :=
  if name.toLower = Database.Log.name then
    (archive.log.insert given.lowered).map ({ archive with log := · })
  else (archive.records.insertInto name given).map ({ archive with records := · })

/-- Removes rows from the table of a name, which may have capitals; their number. -/
def deleteFrom (archive : Archive) (name : String) (given : Database.Cells) :
    Except Error (Archive × Nat) :=
  if name.toLower = Database.Log.name then
    (archive.log.delete given.lowered).map fun (log, count) => ({ archive with log }, count)
  else
    (archive.records.deleteFrom name given).map fun (records, count) =>
      ({ archive with records }, count)

/-- The archive after one more migration. -/
def migrate (archive : Archive) : Except Error Archive :=
  archive.log.migrate.map ({ archive with log := · })

/-- How many records can be looked up at once. -/
def longestLookup : Nat := 32766

/-- The archive as a store. -/
def store (archive : Archive) : Store := archive.records.store.limited longestLookup

end Archive

end Entitlement
