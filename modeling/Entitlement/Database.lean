import Entitlement.Database.Number
import Entitlement.Traced

/-!
# The record database

Six tables hold the records: three for the records themselves, each with an `id` as its key,
and three that link them pairwise.  There are two ways to change their rows, and a statement
that the schema does not admit changes nothing and fails.  `Database.Sound` says what the schema
admits; both statements keep it.

References can be left unchecked.  Links may then refer to records that do not exist, and the
deletion of a record leaves its links.

A table is a list of rows that ascend by number.  The number is no column of the schema, but
statements may name it, and a row without one gets the number after the last.  Links therefore
come in the order in which they were put in, unless a statement says otherwise.

Cells go in nearly as they are given: a column for text turns whole numbers into text, one for
numbers turns texts that are written like numbers into numbers, and neither turns anything away.
So a column for text may hold something else, and only whoever reads it finds out.
-/

namespace Entitlement

/-! ## The schema

Every column is meant for text.  A link refers to the records that it links and goes when one of
them goes.

The names of tables and columns are written in lower case here.  A statement may write them in
capitals as well.

Every row has a number besides, by which the rows of a table are in order.  A statement may
speak of it like of a column, under one of three names. -/

namespace Database

/-- What a row holds in a column, or a statement gives for one.  A blob is kept as it is
and cannot be read as text. -/
inductive Cell where
  | null
  | text (text : String)
  | blob (text : String)
  | number (value : Number)
  /-- What goes in by itself, such as the time.  It is equal to nothing that is given. -/
  | generated
  deriving DecidableEq, Repr

namespace Cell

/-- A cell where text is expected.  A whole number is there as it is written. -/
def asText : Cell → Cell
  | .number (.whole value) => .text (toString value)
  | cell => cell

/-- A cell where a number is expected.  A text that is written like one is that number. -/
def asNumber : Cell → Cell
  | .text written => ((Number.ofText? written).map .number).getD (.text written)
  | cell => cell

/-- The number that a cell is where the number of a row is expected. -/
def rowNumber? : Cell → Option Int
  | .number (.whole value) => some value
  | .text written => Number.rowNumber? written
  | _ => none

end Cell

/-- Whether a name is one of those for the number of a row. -/
def isRowNumber (name : String) : Bool := ["rowid", "oid", "_rowid_"].contains name

/-- The tables. -/
inductive Table where
  | users
  | roles
  | userGroups
  | userRoles
  | groupRoles
  | groupMembers
  deriving DecidableEq, Repr

/-- What is expected in a column; other cells go in as well. -/
inductive Kind where
  | text
  | number
  /-- Anything, as it is given. -/
  | any
  deriving DecidableEq, Repr

/-- A cell as a column of a kind holds it. -/
def Kind.held : Kind → Cell → Cell
  | .text, cell => cell.asText
  | .number, cell => cell.asNumber
  | .any, cell => cell

/-- A column.  A row that does not mention it gets the initial cell. -/
structure Column where
  name : String
  kind : Kind
  nullable : Bool
  initial : Cell
  /-- The table to whose `id` the column refers. -/
  references : Option Table

namespace Column

/-- A column of a kind that every row has to fill. -/
def filled (name : String) (kind : Kind) : Column := ⟨name, kind, false, .null, none⟩

/-- A column that every row has to fill with the `id` of a record. -/
def link (name : String) (table : Table) : Column := ⟨name, .text, false, .null, some table⟩

/-- A column of a kind that holds a time of change, which goes in by itself. -/
def timestamp (name : String) (kind : Kind) : Column := ⟨name, kind, false, .generated, none⟩

end Column

namespace Table

/-- Every table. -/
def all : List Table := [.users, .roles, .userGroups, .userRoles, .groupRoles, .groupMembers]

/-- The name of a table. -/
def name : Table → String
  | .users => "users"
  | .roles => "roles"
  | .userGroups => "user_groups"
  | .userRoles => "user_roles"
  | .groupRoles => "group_roles"
  | .groupMembers => "group_members"

/-- The table of a name, which may have capitals. -/
def ofName? (name : String) : Option Table := all.find? (·.name == name.toLower)

/-- The columns of a table. -/
def columns : Table → List Column
  | .users =>
      [.filled "id" .text, .filled "email" .text, .filled "domain" .text,
        .filled "department" .text, .timestamp "created_at" .text]
  | .roles =>
      [.filled "id" .text, .filled "domain" .text, .filled "department" .text,
        .filled "role_name" .text,
        ⟨"permission_tree", .text, false, .text "\x7b\x7d", none⟩,
        .timestamp "created_at" .text, .timestamp "updated_at" .text]
  | .userGroups =>
      [.filled "id" .text, ⟨"name", .text, true, .null, none⟩, .timestamp "created_at" .text]
  | .userRoles => [.link "user_id" .users, .link "role_id" .roles]
  | .groupRoles => [.link "group_id" .userGroups, .link "role_id" .roles]
  | .groupMembers => [.link "group_id" .userGroups, .link "user_id" .users]

/-- The columns by which the rows of a table differ. -/
def key : Table → List String
  | .users => ["id"]
  | .roles => ["id"]
  | .userGroups => ["id"]
  | .userRoles => ["user_id", "role_id"]
  | .groupRoles => ["group_id", "role_id"]
  | .groupMembers => ["group_id", "user_id"]

end Table

end Database

/-! ## Rows

A row has a number and a cell for each column.  The rows of a table stand in the order of
their numbers.  A row gets the number after the last one unless a statement gives it
another. -/

namespace Database

/-- Cells by the names of their columns, as a statement gives them. -/
abbrev Cells := List (String × Cell)

/-- Cells with the names of their columns in lower case. -/
def Cells.lowered (cells : Cells) : Cells := cells.map fun entry => (entry.1.toLower, entry.2)

/-- A row: its number and the cell of each column. -/
structure Row where
  number : Int
  cells : Cells

namespace Row

/-- The cell of a column. -/
def cell (row : Row) (column : String) : Cell := (List.lookup column row.cells).getD .null

/-- The cells of some columns. -/
def cellsOf (row : Row) (columns : List String) : List Cell := columns.map row.cell

/-- Whether a row has a cell under a name.  Null is equal to no cell. -/
def has (row : Row) (name : String) (cell : Cell) : Bool :=
  if isRowNumber name then cell.rowNumber? == some row.number
  else cell != .null && row.cell name == cell

/-- Whether a row holds the given cells. -/
def holds (row : Row) (given : Cells) : Bool := given.all fun entry => row.has entry.1 entry.2

end Row

/-! ### Rows in order -/

/-- Rows with one more, at its place by number. -/
def insertRow (row : Row) : List Row → List Row
  | [] => [row]
  | first :: rest =>
      if row.number < first.number then row :: first :: rest else first :: insertRow row rest

theorem mem_insertRow {row other : Row} {rows : List Row} :
    other ∈ insertRow row rows ↔ other = row ∨ other ∈ rows := by
  induction rows with
  | nil => simp [insertRow]
  | cons first rest ih =>
      simp only [insertRow]
      split
      · simp
      · simp only [List.mem_cons, ih]
        constructor
        · rintro (rfl | rfl | hrest) <;> simp_all
        · rintro (rfl | rfl | hrest) <;> simp_all

/-- The rows of a table ascend by number. -/
def InOrder (rows : List Row) : Prop :=
  rows.Pairwise fun earlier later => earlier.number < later.number

theorem InOrder.insertRow {row : Row} {rows : List Row} (hrows : InOrder rows)
    (hnew : ∀ other ∈ rows, other.number ≠ row.number) : InOrder (insertRow row rows) := by
  induction rows with
  | nil => simp [InOrder, Database.insertRow]
  | cons first rest ih =>
      simp only [InOrder, List.pairwise_cons] at hrows
      obtain ⟨hfirst, hrest⟩ := hrows
      simp only [Database.insertRow]
      split
      · -- The row comes before all others.
        rename_i hbefore
        simp only [InOrder, List.pairwise_cons]
        refine ⟨fun other hother => ?_, hfirst, hrest⟩
        rcases List.mem_cons.mp hother with rfl | hother
        · exact hbefore
        · have := hfirst other hother
          omega
      · -- The row comes later, and its number is none of those that are held.
        rename_i hnotBefore
        simp only [InOrder, List.pairwise_cons]
        have hlater : ∀ other ∈ rest, other.number ≠ row.number :=
          fun other hother => hnew other (by simp [hother])
        refine ⟨fun other hother => ?_, ih hrest hlater⟩
        rcases mem_insertRow.mp hother with rfl | hother
        · have := hnew first (by simp)
          omega
        · exact hfirst other hother

/-! ### Putting rows in -/

/-- The greatest number among those that are taken at will once the last one is used. -/
def greatestSpare : Nat := Nat.pow 2 62

/-- The number of the next row: the one after the last, and a free one when there is none
after it. -/
def nextNumber (rows : List Row) : Int :=
  match rows.getLast? with
  | none => 1
  | some row =>
      if row.number < greatestWhole then row.number + 1
      else
        -- One of these numbers is free, since there are more of them than rows.
        let spare := (List.range (rows.length + 1)).map fun n => ((greatestSpare - n : Nat) : Int)
        (spare.find? fun number => rows.all (·.number != number)).getD 0

/-- The number for a row with given cells.  Of several that are given the last counts,
and null is the same as none. -/
def numberFor? (rows : List Row) (given : Cells) : Option Int :=
  match (given.filter fun entry => isRowNumber entry.1).getLast? with
  | none => some (nextNumber rows)
  | some (_, .null) => some (nextNumber rows)
  | some (_, cell) => cell.rowNumber?

/-- Given cells as the columns hold them. -/
def held (columns : List Column) (given : Cells) : Cells :=
  given.map fun (name, cell) =>
    (name, ((columns.find? (·.name == name)).map fun column => column.kind.held cell).getD cell)

/-- The given cells of columns, and the initial ones where none is given.  Of several for
one column the first counts. -/
def complete (columns : List Column) (given : Cells) : Cells :=
  columns.map fun column => (column.name, (List.lookup column.name given).getD column.initial)

/-- Whether a row leaves a column empty that has to be filled. -/
def leavesGap (columns : List Column) (row : Row) : Bool :=
  columns.any fun column => !column.nullable && row.cell column.name == .null

/-- Whether a statement about columns knows the names of all cells. -/
def knows (columns : List Column) (given : Cells) : Bool :=
  given.all fun entry => isRowNumber entry.1 || columns.any (·.name == entry.1)

end Database

/-! ## Statements -/

open Database

/-- The rows of all tables. -/
structure Database where
  users : List Row
  roles : List Row
  userGroups : List Row
  userRoles : List Row
  groupRoles : List Row
  groupMembers : List Row
  /-- Whether references are checked. -/
  foreignKeys : Bool

namespace Database

/-- The database without rows. -/
def empty (foreignKeys : Bool) : Database := ⟨[], [], [], [], [], [], foreignKeys⟩

/-- The rows of a table. -/
def rows (database : Database) : Table → List Row
  | .users => database.users
  | .roles => database.roles
  | .userGroups => database.userGroups
  | .userRoles => database.userRoles
  | .groupRoles => database.groupRoles
  | .groupMembers => database.groupMembers

/-- The database with other rows in a table. -/
def setRows (database : Database) (table : Table) (rows : List Row) : Database :=
  match table with
  | .users => { database with users := rows }
  | .roles => { database with roles := rows }
  | .userGroups => { database with userGroups := rows }
  | .userRoles => { database with userRoles := rows }
  | .groupRoles => { database with groupRoles := rows }
  | .groupMembers => { database with groupMembers := rows }

theorem rows_setRows_self (database : Database) (table : Table) (rows : List Row) :
    (database.setRows table rows).rows table = rows := by
  cases table <;> rfl

theorem rows_setRows_of_ne (database : Database) {table other : Table} (hne : other ≠ table)
    (rows : List Row) : (database.setRows table rows).rows other = database.rows other := by
  cases table <;> cases other <;> first | rfl | exact absurd rfl hne

/-! ### What the schema admits -/

/-- The record to which a cell refers exists. -/
def Refers (database : Database) (table : Table) (cell : Cell) : Prop :=
  ∃ row ∈ database.rows table, row.cell "id" = cell

/-- The schema admits the rows. -/
structure Sound (database : Database) : Prop where
  order : ∀ table, InOrder (database.rows table)
  columns : ∀ table, ∀ row ∈ database.rows table,
    row.cells.map (·.1) = table.columns.map (·.name)
  filled : ∀ table, ∀ row ∈ database.rows table, ∀ column ∈ table.columns,
    column.nullable = false → row.cell column.name ≠ .null
  keys : ∀ table, (database.rows table).Pairwise fun earlier later =>
    earlier.cellsOf table.key ≠ later.cellsOf table.key
  references : database.foreignKeys = true →
    ∀ table, ∀ row ∈ database.rows table, ∀ column ∈ table.columns,
      ∀ target, column.references = some target →
        database.Refers target (row.cell column.name)

/-! ### Insertion -/

/-- Whether a table has a row with the number or the key of another. -/
def clashes (database : Database) (table : Table) (row : Row) : Bool :=
  (database.rows table).any fun held =>
    held.number == row.number || held.cellsOf table.key == row.cellsOf table.key

/-- Whether every record to which a row refers exists. -/
def refersToRecords (database : Database) (table : Table) (row : Row) : Bool :=
  table.columns.all fun column =>
    match column.references with
    | none => true
    | some target =>
        (database.rows target).any fun held => held.cell "id" == row.cell column.name

/-- Puts a row with the given cells into a table. -/
def insert (database : Database) (table : Table) (given : Cells) : Except Error Database :=
  match numberFor? (database.rows table) given with
  | none => .error .database
  | some number =>
      let row : Row := ⟨number, complete table.columns (held table.columns given)⟩
      if knows table.columns given && !leavesGap table.columns row &&
          !database.clashes table row &&
          (!database.foreignKeys || database.refersToRecords table row) then
        .ok (database.setRows table (insertRow row (database.rows table)))
      else .error .database

/-- Puts a row into the table of a name. -/
def insertInto (database : Database) (name : String) (given : Cells) : Except Error Database :=
  match Table.ofName? name with
  | some table => database.insert table given.lowered
  | none => .error .database

/-! ### Deletion -/

/-- The rows of a table that refer to none of the given records. -/
def withoutLinks (table target : Table) (ids : List Cell) (rows : List Row) : List Row :=
  rows.filter fun row =>
    table.columns.all fun column =>
      column.references != some target || !ids.contains (row.cell column.name)

/-- The database without the links to the given records. -/
def dropLinks (database : Database) (target : Table) (ids : List Cell) : Database :=
  Table.all.foldl
    (fun database table =>
      database.setRows table (withoutLinks table target ids (database.rows table)))
    database

/-- Removes the rows of a table that hold the given cells, and the links to them;
the number of removed rows, links not counted. -/
def delete (database : Database) (table : Table) (given : Cells) : Except Error (Database × Nat) :=
  if knows table.columns given then
    let given := held table.columns given
    let removed := (database.rows table).filter (·.holds given)
    let kept :=
      database.setRows table ((database.rows table).filter fun row => !row.holds given)
    let remaining :=
      if database.foreignKeys then kept.dropLinks table (removed.map (·.cell "id")) else kept
    .ok (remaining, removed.length)
  else .error .database

/-- Removes rows from the table of a name.  Without any cell there is no condition to
state, and the statement fails. -/
def deleteFrom (database : Database) (name : String) (given : Cells) :
    Except Error (Database × Nat) :=
  match Table.ofName? name with
  | some table =>
      if given.isEmpty then .error .database else database.delete table given.lowered
  | none => .error .database

end Database

end Entitlement
