import Entitlement.Database
import Mathlib.Data.List.Perm.Basic

/-!
# What the schema admits is kept

A statement that is carried out leaves rows that the schema admits.  Hence every database that
statements build from the empty one is `Sound` (`Built.sound`).

* An insertion checks the one row that comes in: its number, its key, its gaps and its
  references (`of_insert`).  Rows that were there before are still there, so what they refer to
  is too.
* A deletion only takes rows away, so all that is said about single rows and pairs of rows is kept
  (`Sound.of_sublist`).  References are what is in danger.  Where they are checked, all links to a
  record that goes are deleted with it; links refer to records and to nothing else, and no
  link refers to a link, so this is the end of it (`withoutLinks_of_referred`).

Beside the schema there is the order of the rows.  Nothing else depends on the place at which a
row is put in, since the rows with one more are the row and those that were there, in some order
(`insertRow_perm`).
-/

namespace Entitlement.Database

variable {database after : Database} {table : Table} {given : Cells} {row : Row} {rows : List Row}

/-! ## Rows that come in -/

theorem insertRow_perm (row : Row) (rows : List Row) : (insertRow row rows).Perm (row :: rows) := by
  induction rows with
  | nil => exact .refl _
  | cons first rest ih =>
      rw [insertRow]
      split
      · exact .refl _
      · exact (ih.cons first).trans (.swap row first rest)

theorem keys_insertRow {key : List String}
    (hnew : ∀ held ∈ rows, held.cellsOf key ≠ row.cellsOf key)
    (hkeys : rows.Pairwise fun earlier later => earlier.cellsOf key ≠ later.cellsOf key) :
    (insertRow row rows).Pairwise fun earlier later => earlier.cellsOf key ≠ later.cellsOf key := by
  refine ((insertRow_perm row rows).pairwise_iff fun hne => hne.symm).mpr ?_
  exact List.pairwise_cons.mpr ⟨fun held hheld => (hnew held hheld).symm, hkeys⟩

theorem sound_empty (foreignKeys : Bool) : (empty foreignKeys).Sound := by
  have hnone : ∀ table, (empty foreignKeys).rows table = [] := by
    intro table
    cases table <;> rfl
  constructor
  · intro table
    rw [hnone]
    exact List.Pairwise.nil
  · intro table row hrow
    rw [hnone] at hrow
    contradiction
  · intro table row hrow
    rw [hnone] at hrow
    contradiction
  · intro table
    rw [hnone]
    exact List.Pairwise.nil
  · intro _ table row hrow
    rw [hnone] at hrow
    contradiction

/-- What an insertion that succeeds has checked, and what it does. -/
theorem of_insert (hinsert : database.insert table given = .ok after) :
    ∃ row : Row, row.cells.map (·.1) = table.columns.map (·.name) ∧
      (∀ column ∈ table.columns, column.nullable = false → row.cell column.name ≠ .null) ∧
      (∀ held ∈ database.rows table,
        held.number ≠ row.number ∧ held.cellsOf table.key ≠ row.cellsOf table.key) ∧
      (database.foreignKeys = true → ∀ column ∈ table.columns, ∀ target,
        column.references = some target → database.Refers target (row.cell column.name)) ∧
      after = database.setRows table (insertRow row (database.rows table)) := by
  unfold insert at hinsert
  split at hinsert
  · contradiction
  · rename_i number _
    simp only at hinsert
    split at hinsert
    · rename_i hchecked
      -- The checks, in their order: the columns, the gaps, the key and the references.
      simp only [Bool.and_eq_true, Bool.or_eq_true, Bool.not_eq_true'] at hchecked
      obtain ⟨⟨⟨_, hgap⟩, hclash⟩, hrefers⟩ := hchecked
      refine ⟨⟨number, complete table.columns (held table.columns given)⟩, ?_, ?_, ?_, ?_,
        (Except.ok.inj hinsert).symm⟩
      · simp [complete]
      · intro column hcolumn hfilled hnull
        have hany := List.any_eq_false.mp hgap column hcolumn
        simp [hfilled, hnull] at hany
      · intro held hheld
        have hany := List.any_eq_false.mp hclash held hheld
        simpa using hany
      · intro hforeign column hcolumn target htarget
        have hrefers := hrefers.resolve_left (by simp [hforeign])
        have hcolumn := List.all_eq_true.mp hrefers column hcolumn
        rw [htarget] at hcolumn
        obtain ⟨held, hheld, hsame⟩ := List.any_eq_true.mp hcolumn
        exact ⟨held, hheld, by simpa using hsame⟩
    · contradiction

@[simp] theorem foreignKeys_setRows (database : Database) (table : Table) (rows : List Row) :
    (database.setRows table rows).foreignKeys = database.foreignKeys := by
  cases table <;> rfl

theorem mem_rows_insertRow {other : Table} {held : Row} :
    held ∈ (database.setRows table (insertRow row (database.rows table))).rows other ↔
      (other = table ∧ held = row) ∨ held ∈ database.rows other := by
  by_cases htable : other = table
  · subst htable
    rw [rows_setRows_self, mem_insertRow]
    simp
  · rw [rows_setRows_of_ne _ htable]
    simp [htable]

/-- An insertion keeps what the schema admits. -/
theorem Sound.insert (hsound : database.Sound) (hinsert : database.insert table given = .ok after) :
    after.Sound := by
  obtain ⟨row, hcolumns, hfilled, hfresh, hrefers, rfl⟩ := of_insert hinsert
  -- Only the new row has to be looked at: the rows that were there were admitted before it came.
  constructor
  · intro other
    by_cases htable : other = table
    · subst htable
      rw [rows_setRows_self]
      exact (hsound.order other).insertRow fun held hheld => (hfresh held hheld).1
    · rw [rows_setRows_of_ne _ htable]
      exact hsound.order other
  · intro other held hheld
    rcases mem_rows_insertRow.mp hheld with ⟨rfl, rfl⟩ | hold
    · exact hcolumns
    · exact hsound.columns other held hold
  · intro other held hheld
    rcases mem_rows_insertRow.mp hheld with ⟨rfl, rfl⟩ | hold
    · exact hfilled
    · exact hsound.filled other held hold
  · intro other
    by_cases htable : other = table
    · subst htable
      rw [rows_setRows_self]
      exact keys_insertRow (fun held hheld => (hfresh held hheld).2) (hsound.keys other)
    · rw [rows_setRows_of_ne _ htable]
      exact hsound.keys other
  · intro hforeign other held hheld column hcolumn target htarget
    rw [foreignKeys_setRows] at hforeign
    have hbefore : database.Refers target (held.cell column.name) := by
      rcases mem_rows_insertRow.mp hheld with ⟨rfl, rfl⟩ | hold
      · exact hrefers hforeign column hcolumn target htarget
      · exact hsound.references hforeign other held hold column hcolumn target htarget
    -- A record that a row names stays, since an insertion takes no row away.
    obtain ⟨record, hrecord, hsame⟩ := hbefore
    exact ⟨record, mem_rows_insertRow.mpr (Or.inr hrecord), hsame⟩

/-! ## Rows that go -/

theorem rows_dropLinks (database : Database) (target : Table) (ids : List Cell) (table : Table) :
    (database.dropLinks target ids).rows table =
      withoutLinks table target ids (database.rows table) := by
  cases table <;> rfl

/-- A table to which links refer has no links of its own. -/
theorem withoutLinks_of_referred {column : Column} {target : Table}
    (hcolumn : column ∈ table.columns) (htarget : column.references = some target) (other : Table)
    (ids : List Cell) (rows : List Row) : withoutLinks target other ids rows = rows := by
  -- Links stand one deep in the schema: a table that is referred to refers to none.
  have hall : ∀ table : Table, (table.columns.all fun column => column.references.all fun target =>
      target.columns.all fun own => own.references == none) = true := by
    intro table
    cases table <;> decide
  have hnone : ∀ own ∈ target.columns, own.references = none := by
    have hchecked := List.all_eq_true.mp (hall table) column hcolumn
    rw [htarget] at hchecked
    simpa using hchecked
  refine List.filter_eq_self.mpr fun row _ => List.all_eq_true.mpr fun own hown => ?_
  rw [hnone own hown]
  rfl

/-- What a deletion that succeeds leaves: the rows that it does not remove, without the links
to those that it does where references are checked. -/
theorem of_delete {count : Nat} (hdelete : database.delete table given = .ok (after, count)) :
    ∃ (removed : Row → Bool) (kept : Database),
      kept = database.setRows table ((database.rows table).filter fun row => !removed row) ∧
        after = if database.foreignKeys then
            kept.dropLinks table (((database.rows table).filter removed).map (·.cell "id"))
          else kept := by
  unfold delete at hdelete
  split at hdelete
  · obtain ⟨hafter, _⟩ := Prod.mk.inj (Except.ok.inj hdelete)
    exact ⟨_, _, rfl, hafter.symm⟩
  · contradiction

/-- Taking rows away leaves all that is said about single rows and pairs of rows. -/
theorem Sound.of_sublist (hsound : database.Sound)
    (hrows : ∀ table, (after.rows table).Sublist (database.rows table))
    (hreferences : after.foreignKeys = true → ∀ table, ∀ row ∈ after.rows table,
      ∀ column ∈ table.columns, ∀ target, column.references = some target →
        after.Refers target (row.cell column.name)) : after.Sound where
  order table := (hsound.order table).sublist (hrows table)
  columns table row hrow := hsound.columns table row ((hrows table).subset hrow)
  filled table row hrow := hsound.filled table row ((hrows table).subset hrow)
  keys table := (hsound.keys table).sublist (hrows table)
  references := hreferences

/-- A deletion keeps what the schema admits. -/
theorem Sound.delete {count : Nat} (hsound : database.Sound)
    (hdelete : database.delete table given = .ok (after, count)) : after.Sound := by
  obtain ⟨removed, kept, hkept, rfl⟩ := of_delete hdelete
  -- The table itself only loses rows, and so do the tables of the links.
  have hkeptRows : ∀ other, (kept.rows other).Sublist (database.rows other) := by
    intro other
    rw [hkept]
    by_cases htable : other = table
    · subst htable
      rw [rows_setRows_self]
      exact List.filter_sublist
    · rw [rows_setRows_of_ne _ htable]
  have hkeptKeys : kept.foreignKeys = database.foreignKeys := by rw [hkept, foreignKeys_setRows]
  cases hforeign : database.foreignKeys with
  | false =>
      -- Where references are not checked, there is nothing to show of them afterwards.
      refine hsound.of_sublist hkeptRows fun htrue => ?_
      rw [if_neg (by simp), hkeptKeys, hforeign] at htrue
      contradiction
  | true =>
      rw [if_pos rfl]
      refine hsound.of_sublist (fun other => ?_)
        fun _ other row hrow column hcolumn target htarget => ?_
      · rw [rows_dropLinks]
        exact List.filter_sublist.trans (hkeptRows other)
      · rw [rows_dropLinks] at hrow
        obtain ⟨hrow, hfree⟩ := List.mem_filter.mp hrow
        -- The record that a remaining link names was there before, and it is still.
        obtain ⟨held, hheld, hsame⟩ := hsound.references hforeign other row
          ((hkeptRows other).subset hrow) column hcolumn target htarget
        refine ⟨held, ?_, hsame⟩
        rw [rows_dropLinks, withoutLinks_of_referred hcolumn htarget, hkept]
        by_cases htable : target = table
        · -- Had the record been removed, the link would have gone with it.
          subst htable
          rw [rows_setRows_self, List.mem_filter]
          refine ⟨hheld, ?_⟩
          have hnot := List.all_eq_true.mp hfree column hcolumn
          simp only [htarget, bne_self_eq_false, Bool.false_or, Bool.not_eq_true',
            List.contains_eq_mem, decide_eq_false_iff_not] at hnot
          by_contra hremoved
          have hgone : held ∈ (database.rows target).filter removed :=
            List.mem_filter.mpr ⟨hheld, by simpa using hremoved⟩
          exact hnot (List.mem_map.mpr ⟨held, hgone, hsame⟩)
        · rw [rows_setRows_of_ne _ htable]
          exact hheld

/-! ## Databases that statements build -/

/-- The databases that statements build from the empty one. -/
inductive Built (foreignKeys : Bool) : Database → Prop where
  | empty : Built foreignKeys (Database.empty foreignKeys)
  | insert {database after : Database} {table : Table} {given : Cells} :
      Built foreignKeys database → database.insert table given = .ok after → Built foreignKeys after
  | delete {database after : Database} {table : Table} {given : Cells} {count : Nat} :
      Built foreignKeys database → database.delete table given = .ok (after, count) →
        Built foreignKeys after

/-- **What statements build is sound.** -/
theorem Built.sound {foreignKeys : Bool} (hbuilt : Built foreignKeys database) :
    database.Sound := by
  induction hbuilt with
  | empty => exact sound_empty foreignKeys
  | insert _ hinsert ih => exact ih.insert hinsert
  | delete _ hdelete ih => exact ih.delete hdelete

/-- The database with rows put in one after the other, if all of them are admitted. -/
def ofRows (foreignKeys : Bool) (given : List (Table × Cells)) : Except Error Database :=
  given.foldlM (fun database entry => database.insert entry.1 entry.2) (empty foreignKeys)

theorem Built.of_ofRows {foreignKeys : Bool} {given : List (Table × Cells)}
    (hrows : ofRows foreignKeys given = .ok database) : Built foreignKeys database := by
  -- The induction is on the rows, so what they are put into has to vary.
  have hfold : ∀ (given : List (Table × Cells)) (start : Database), Built foreignKeys start →
      given.foldlM (fun database entry => database.insert entry.1 entry.2) start =
        .ok database → Built foreignKeys database := by
    intro given
    induction given with
    | nil =>
        intro start hstart hdone
        obtain rfl := Except.ok.inj hdone
        exact hstart
    | cons entry rest ih =>
        intro start hstart hdone
        rw [List.foldlM_cons] at hdone
        cases hinsert : start.insert entry.1 entry.2 with
        | error error =>
            rw [hinsert] at hdone
            contradiction
        | ok next =>
            rw [hinsert] at hdone
            exact ih next (hstart.insert hinsert) hdone
  exact hfold given _ .empty hrows

end Entitlement.Database
