import Entitlement.Proofs.Database.Sound
import Entitlement.Proofs.Store.Lookup

/-!
# Databases to which the records of others come

A database grows by rows of other users: users themselves, their roles and their memberships
(`AddsOthers`).  What one user looks up changes little by this.  Lookups by the user's own
identifier do not see the new rows (`Grows.filter_eq`).  Lookups of roles and groups do, since a
role comes with the users who have it and a group with its members; they deliver the same up to
these users, as long as every new row that they meet can be read
(`Grows.related_mapM_filter`).

New rows may have any numbers, so they come between the old ones and not behind them.  `Grows`
is the relation that describes this, one row at a time; that two ordered tables of which one holds
the other's rows stand in it is `Grows.of_inOrder`.

Which columns tell whose a row is depends on the table (`Table.ownerColumn?`), and three tables
have none, so these do not change at all (`AddsOthers.rows_eq`).  A new row matters to a user in
one case only: it says that someone else has one of the user's roles or is in one of the user's
groups (`Shares`).  If besides it cannot be read, it `Disturbs` the user.
-/

namespace Entitlement.Database

variable {database other : Database} {rows others : List Row} {new : Row → Prop}
  {excused : Error → Prop} {column : String} {user : Uuid} {ids : List Uuid} {α : Type}

/-! ## Rows that come in -/

/-- Rows to which new ones come, each at any place. -/
inductive Grows (new : Row → Prop) : List Row → List Row → Prop where
  | nil : Grows new [] []
  | keep (row : Row) {rows others : List Row} (hgrows : Grows new rows others) :
      Grows new (row :: rows) (row :: others)
  | add {row : Row} {rows others : List Row} (hnew : new row) (hgrows : Grows new rows others) :
      Grows new rows (row :: others)

theorem InOrder.head_not_mem {row : Row} (hrows : InOrder (row :: rows)) : row ∉ rows :=
  fun hrow => Int.lt_irrefl _ ((List.pairwise_cons.mp hrows).1 row hrow)

/-- The first of all rows is the first of those among which it is. -/
theorem InOrder.exists_eq_cons {row : Row} (hrows : InOrder rows)
    (hothers : InOrder (row :: others)) (hkept : ∀ held ∈ rows, held ∈ row :: others)
    (hrow : row ∈ rows) : ∃ more, rows = row :: more := by
  cases rows with
  | nil => contradiction
  | cons first more =>
      rcases List.mem_cons.mp (hkept first (List.mem_cons_self ..)) with rfl | hfirst
      · exact ⟨more, rfl⟩
      · -- Otherwise the first of the rows would come both behind and before this one.
        have hlater : row.number < first.number := (List.pairwise_cons.mp hothers).1 first hfirst
        rcases List.mem_cons.mp hrow with rfl | hmore
        · exact ⟨more, rfl⟩
        · have hbefore := (List.pairwise_cons.mp hrows).1 row hmore
          omega

/-- Rows that ascend by number keep their order where others come between them. -/
theorem Grows.of_inOrder (hrows : InOrder rows) (hothers : InOrder others)
    (hkept : ∀ row ∈ rows, row ∈ others) (hnew : ∀ row ∈ others, row ∉ rows → new row) :
    Grows new rows others := by
  induction others generalizing rows with
  | nil =>
      rw [List.eq_nil_iff_forall_not_mem.mpr fun row hrow => List.not_mem_nil (hkept row hrow)]
      exact .nil
  | cons row rest ih =>
      have hrest : InOrder rest := (List.pairwise_cons.mp hothers).2
      -- The first row of the larger list was there, and then it was the first, or it is new.
      by_cases hrow : row ∈ rows
      · obtain ⟨more, rfl⟩ := hrows.exists_eq_cons hothers hkept hrow
        refine .keep row (ih (List.pairwise_cons.mp hrows).2 hrest ?_ ?_)
        · intro held hheld
          have hne : held ≠ row := ne_of_mem_of_not_mem hheld hrows.head_not_mem
          exact List.mem_of_ne_of_mem hne (hkept held (List.mem_cons_of_mem _ hheld))
        · intro held hheld hnot
          have hne : held ≠ row := ne_of_mem_of_not_mem hheld hothers.head_not_mem
          refine hnew held (List.mem_cons_of_mem _ hheld) ?_
          exact List.not_mem_cons_of_ne_of_not_mem hne hnot
      · refine .add (hnew row (List.mem_cons_self ..) hrow) (ih hrows hrest ?_ ?_)
        · intro held hheld
          have hne : held ≠ row := ne_of_mem_of_not_mem hheld hrow
          exact List.mem_of_ne_of_mem hne (hkept held hheld)
        · intro held hheld hnot
          exact hnew held (List.mem_cons_of_mem _ hheld) hnot

/-- Where no new row is kept, the same rows are. -/
theorem Grows.filter_eq {keep : Row → Bool} (hgrows : Grows new rows others)
    (hnew : ∀ row, new row → keep row = false) : others.filter keep = rows.filter keep := by
  induction hgrows with
  | nil => rfl
  | keep row _ ih => rw [List.filter_cons, List.filter_cons, ih]
  | add hrow _ ih => rw [List.filter_cons_of_neg (by simp [hnew _ hrow]), ih]

theorem Grows.eq_of_not_new (hgrows : Grows new rows others) (hnew : ∀ row, ¬ new row) :
    others = rows := by
  have hsame : (others.filter fun _ => true) = rows.filter fun _ => true :=
    hgrows.filter_eq fun row hrow => absurd hrow (hnew row)
  rwa [List.filter_true, List.filter_true] at hsame

/-- Where new rows are kept, the rows are read as before unless one of the new ones fails. -/
theorem Grows.related_mapM_filter {keep : Row → Bool} {read : Row → Except Error α}
    (hgrows : Grows new rows others)
    (hnew : ∀ row, new row → keep row = true → ∀ error, read row = .error error →
      excused error) :
    Related excused (fun _ _ => True) ((rows.filter keep).mapM read)
      ((others.filter keep).mapM read) := by
  induction hgrows with
  | nil => exact .ok trivial
  | keep row _ ih =>
      rw [List.filter_cons, List.filter_cons]
      split
      · rw [List.mapM_cons, List.mapM_cons]
        exact .bind_same _ fun _ => ih.bind fun _ _ _ _ _ => .ok trivial
      · exact ih
  | @add row rows others hrow _ ih =>
      rw [List.filter_cons]
      split
      · rename_i hkept
        rw [List.mapM_cons]
        -- A new row that can be read only adds to what is read; one that fails is excused.
        cases hread : read row with
        | error error => exact .excused (hnew row hrow hkept error hread)
        | ok value =>
            -- Of the others it only matters whether they can be read.
            generalize (rows.filter keep).mapM read = first at ih ⊢
            generalize (others.filter keep).mapM read = second at ih ⊢
            cases ih with
            | ok _ => exact .ok trivial
            | error error => exact .error error
            | excused hexcused => exact .excused hexcused
      · exact ih

/-! ## Rows of other users -/

/-- The column that tells whose a row is, in the tables that say something of single users. -/
def Table.ownerColumn? : Table → Option String
  | .users => some "id"
  | .userRoles => some "user_id"
  | .groupMembers => some "user_id"
  | .roles => none
  | .userGroups => none
  | .groupRoles => none

/-- A row is in the second database only. -/
def Comes (database other : Database) (table : Table) (row : Row) : Prop :=
  row ∈ other.rows table ∧ row ∉ database.rows table

/-- All rows are kept, and those that come in are of other users. -/
structure AddsOthers (user : Uuid) (database other : Database) : Prop where
  kept : ∀ table, ∀ row ∈ database.rows table, row ∈ other.rows table
  others : ∀ table row, Comes database other table row →
    ∃ column, table.ownerColumn? = some column ∧ row.cell column ≠ .text user.text

/-- All rows are kept, and other users come in with their links. -/
structure AddsUsers (user : Uuid) (database other : Database) : Prop
    extends AddsOthers user database other where
  newcomers : ∀ table row, table ≠ .users → Comes database other table row →
    ∃ held, Comes database other .users held ∧ row.cell "user_id" = held.cell "id"

/-- A row that comes in says that someone else has a role which the user reaches, or is in a
group of the user. -/
inductive Shares (user : Uuid) (database other : Database) (row : Row) : Prop where
  | role (role : Uuid) (hcomes : Comes database other .userRoles row)
      (hreaches : database.Reaches user role) (hcell : row.cell "role_id" = .text role.text)
  | group (group : Uuid) (hcomes : Comes database other .groupMembers row)
      (hmember : Leads database.groupMembers "user_id" "group_id" user group)
      (hcell : row.cell "group_id" = .text group.text)

/-- A row disturbs a user who has a record: someone shares a role or a group with the user, and
reading who that is fails. -/
structure Disturbs (user : Uuid) (database other : Database) (row : Row) (error : Error) :
    Prop where
  known : ∃ held ∈ database.users, held.cell "id" = .text user.text
  shares : Shares user database other row
  unreadable : readId row "user_id" = .error error

/-- Rows of others that are put after the ones that there are. -/
theorem AddsOthers.of_append {added : Table → List Row}
    (hrows : ∀ table, other.rows table = database.rows table ++ added table)
    (hothers : ∀ table, ∀ row ∈ added table,
      ∃ column, table.ownerColumn? = some column ∧ row.cell column ≠ .text user.text) :
    AddsOthers user database other where
  kept table row hrow := by
    rw [hrows]
    exact List.mem_append_left _ hrow
  others table row hcomes := by
    obtain ⟨hrow, hnot⟩ := hcomes
    rw [hrows] at hrow
    exact hothers table row ((List.mem_append.mp hrow).resolve_left hnot)

section AddsOthers

variable (hadds : AddsOthers user database other)
include hadds

theorem AddsOthers.cell_ne {table : Table} (hcolumn : table.ownerColumn? = some column) {row : Row}
    (hcomes : Comes database other table row) : row.cell column ≠ .text user.text := by
  obtain ⟨owner, howner, hcell⟩ := hadds.others table row hcomes
  obtain rfl : column = owner := Option.some.inj (hcolumn.symm.trans howner)
  exact hcell

theorem AddsOthers.leads (table : Table) {id linked : Uuid} {first second : String}
    (hleads : Leads (database.rows table) first second id linked) :
    Leads (other.rows table) first second id linked := by
  obtain ⟨row, hrow, hcells⟩ := hleads
  exact ⟨row, hadds.kept table row hrow, hcells⟩

/-- What is reached is still reached. -/
theorem AddsOthers.reaches {role : Uuid} (hreaches : database.Reaches user role) :
    other.Reaches user role := by
  cases hreaches with
  | direct hlink => exact .direct (hadds.leads .userRoles hlink)
  | viaGroup group hmember hgroup hshare =>
      obtain ⟨row, hrow, hcell⟩ := hgroup
      exact .viaGroup group (hadds.leads .groupMembers hmember)
        ⟨row, hadds.kept .userGroups row hrow, hcell⟩
        (hadds.leads .groupRoles hshare)

variable (hsound : database.Sound) (hother : other.Sound)
include hsound hother

theorem AddsOthers.grows (table : Table) :
    Grows (Comes database other table) (database.rows table) (other.rows table) :=
  .of_inOrder (hsound.order table) (hother.order table) (hadds.kept table)
    fun _ hrow hnot => ⟨hrow, hnot⟩

/-- Tables that say nothing of single users are as they were. -/
theorem AddsOthers.rows_eq (table : Table) (hshared : table.ownerColumn? = none) :
    other.rows table = database.rows table := by
  refine (hadds.grows hsound hother table).eq_of_not_new fun row hcomes => ?_
  obtain ⟨column, hcolumn, _⟩ := hadds.others table row hcomes
  rw [hshared] at hcolumn
  contradiction

/-- The links of the user are its own rows, which are as they were. -/
theorem AddsOthers.links_own (table : Table) (hcolumn : table.ownerColumn? = some column)
    (linked : String) :
    links (other.rows table) column linked [user] =
      links (database.rows table) column linked [user] := by
  have hrows : (other.rows table).filter (holdsOneOf · column [user]) =
      (database.rows table).filter (holdsOneOf · column [user]) := by
    refine (hadds.grows hsound hother table).filter_eq fun row hcomes => ?_
    simpa [holdsOneOf] using hadds.cell_ne hcolumn hcomes
  rw [links, links, hrows]

theorem AddsOthers.rowOf?_own : rowOf? other.users user = rowOf? database.users user := by
  have hrows : other.users.filter (fun row => row.cell "id" == .text user.text) =
      database.users.filter fun row => row.cell "id" == .text user.text := by
    refine (hadds.grows hsound hother .users).filter_eq fun row hcomes => ?_
    simpa using hadds.cell_ne rfl hcomes
  rw [rowOf?, rowOf?, ← List.head?_filter, ← List.head?_filter, hrows]

/-- The record of the user is as it was. -/
theorem AddsOthers.result_actor_eq :
    (other.store.actor user).result = (database.store.actor user).result := by
  have hroles : links other.userRoles "user_id" "role_id" [user] =
      links database.userRoles "user_id" "role_id" [user] :=
    hadds.links_own hsound hother .userRoles rfl "role_id"
  have hgroups : links other.groupMembers "user_id" "group_id" [user] =
      links database.groupMembers "user_id" "group_id" [user] :=
    hadds.links_own hsound hother .groupMembers rfl "group_id"
  have hrow := hadds.rowOf?_own hsound hother
  show other.readActor user = database.readActor user
  cases hfound : rowOf? database.users user with
  | none => rw [readActor_of_none hfound, readActor_of_none (hrow.trans hfound)]
  | some row =>
      rw [readActor_of_rowOf? hfound, readActor_of_rowOf? (hrow.trans hfound), hroles, hgroups]

/-- Links of several records to users are fetched as before, unless one that comes in cannot be
read. -/
theorem AddsOthers.related_links (table : Table)
    (hexcused : ∀ row, Comes database other table row → ∀ id ∈ ids,
      row.cell column = .text id.text → ∀ error, readId row "user_id" = .error error →
        excused error) :
    Related excused (fun _ _ => True) (links (database.rows table) column "user_id" ids)
      (links (other.rows table) column "user_id" ids) := by
  refine (hadds.grows hsound hother table).related_mapM_filter ?_
  intro row hcomes hheld error hread
  -- The record that the row is about is there in written form, so only the user can fail.
  obtain ⟨id, hid, hcell⟩ := List.any_eq_true.mp hheld
  have hcell : row.cell column = .text id.text := by simpa using hcell
  refine hexcused row hcomes id hid hcell error ?_
  rw [readId_of_cell hcell] at hread
  cases huser : readId row "user_id" with
  | ok linked =>
      rw [huser] at hread
      contradiction
  | error reason =>
      rw [huser] at hread
      obtain rfl : reason = error := Except.error.inj hread
      rfl

end AddsOthers

end Entitlement.Database
