import Mathlib.Logic.Function.Basic
import Sake.Lib.Runs

namespace Sake.Lib.Sql

variable {C : Type}

inductive Value
  | null
  | int (n : Int)
  | text (s : String)
  | blob (bytes : List Nat)
  deriving Repr, DecidableEq

def Value.isInt : Value → Bool
  | .int _ => true
  | _ => false

/-- A row gives a value to every column name; only the columns of its table count. -/
abbrev Row (C : Type) := C → Value

/-- What the tables hold. -/
abbrev Rows (T C : Type) := T → List (Row C)

inductive ColumnType
  | integer
  | text
  | varchar (n : Nat)
  | blob
  | boolean
  | timestamp
  deriving Repr, DecidableEq

structure Column (C : Type) where
  name : C
  type : ColumnType
  notNull : Bool
  default : Value
  deriving DecidableEq

section

/-- A row by position: each value goes to the column in its place. -/
def Row.of [DecidableEq C] (columns : List C) (values : List Value) : Row C :=
  fun c => ((columns.zip values).lookup c).getD .null

def column (type : ColumnType) (name : C) : Column C := ⟨name,type,false,.null⟩

def Column.required (c : Column C) : Column C := { c with notNull := true }

def Column.defaulting (c : Column C) (v : Value) : Column C := { c with default := v }

/-- The rows agree on `u` and none of the values is NULL, which is never equal to itself. -/
def Clash (u : List C) (r q : Row C) : Prop := ∀ c ∈ u, r c ≠ .null ∧ r c = q c

instance (u : List C) (r q : Row C) : Decidable (Clash u r q) :=
  inferInstanceAs (Decidable (∀ c ∈ u, r c ≠ .null ∧ r c = q c))

end

/-- `FOREIGN KEY(column) REFERENCES parent(key)`, with `ON DELETE CASCADE` or without an action. -/
structure ForeignKey (T C : Type) where
  column : C
  parent : T
  key : C
  cascade : Bool
  deriving DecidableEq

/-- The columns that tie the rows of one table to those of another. -/
structure Link (T C : Type) where
  child : T
  column : C
  parent : T
  key : C
  deriving DecidableEq

/-- A table's `key` is its INTEGER PRIMARY KEY, or the implicit rowid. -/
structure TableDef (T C : Type) where
  name : T
  key : C
  columns : List (Column C)
  foreignKeys : List (ForeignKey T C) := []
  unique : List (List C) := []

structure Index (T C I : Type) where
  name : I
  table : T
  columns : List C
  deriving DecidableEq

/-- A full text index over one column of a table, with the triggers that keep it. -/
structure Search (T C : Type) where
  name : T
  content : T
  column : C
  deriving DecidableEq

structure Schema (T C I : Type) where
  tables : List (TableDef T C)
  indexes : List (Index T C I)
  searches : List (Search T C)

section
variable {T I : Type}

def Link.refers (l : Link T C) (r q : Row C) : Prop := r l.column ≠ .null ∧ r l.column = q l.key

instance (l : Link T C) (r q : Row C) : Decidable (l.refers r q) :=
  inferInstanceAs (Decidable (_ ∧ _))

/-- Every reference finds a row of the parent table. -/
def Link.Holds (l : Link T C) (rows : Rows T C) : Prop :=
  ∀ r ∈ rows l.child, r l.column ≠ .null → ∃ q ∈ rows l.parent, r l.column = q l.key

instance (l : Link T C) (rows : Rows T C) : Decidable (l.Holds rows) :=
  inferInstanceAs (Decidable (∀ r ∈ rows l.child, _))

/-- The NOT NULL, PRIMARY KEY and UNIQUE constraints of a table. -/
def TableDef.Accepts (d : TableDef T C) (rs : List (Row C)) : Prop :=
  (∀ c ∈ d.columns, c.notNull = true → ∀ r ∈ rs, r c.name ≠ .null) ∧
  (∀ r ∈ rs, (r d.key).isInt = true) ∧
  ∀ u ∈ [d.key] :: d.unique, rs.Pairwise fun r q => ¬ Clash u r q

instance (d : TableDef T C) (rs : List (Row C)) : Decidable (d.Accepts rs) :=
  inferInstanceAs (Decidable (_ ∧ _ ∧ _))

def ForeignKey.link (k : ForeignKey T C) (child : T) : Link T C := ⟨child,k.column,k.parent,k.key⟩

def TableDef.links (d : TableDef T C) : List (Link T C) := d.foreignKeys.map fun k => k.link d.name

def Schema.links (s : Schema T C I) : List (Link T C) := s.tables.flatMap TableDef.links

/-- The links along which a delete takes the referring rows with it. -/
def Schema.cascades (s : Schema T C I) : List (Link T C) :=
  s.tables.flatMap fun d => (d.foreignKeys.filter (·.cascade)).map fun k => k.link d.name

/-- The rows meet every constraint of the schema. -/
def Valid (s : Schema T C I) (rows : Rows T C) : Prop :=
  (∀ d ∈ s.tables, d.Accepts (rows d.name)) ∧ ∀ l ∈ s.links, l.Holds rows

instance (s : Schema T C I) (rows : Rows T C) : Decidable (Valid s rows) :=
  inferInstanceAs (Decidable (_ ∧ _))

variable [DecidableEq T] [DecidableEq C] [DecidableEq I]

def Schema.has (s : Schema T C I) (t : T) : Bool := s.tables.any fun d => d.name = t

/-- The columns a table's definition speaks of. -/
def TableDef.mentions (d : TableDef T C) : List C :=
  d.key :: d.columns.map (·.name) ++ d.foreignKeys.map (·.column) ++ d.unique.flatten

def TableDef.addColumn (d : TableDef T C) (c : Column C) (k : Option (ForeignKey T C)) : TableDef T C :=
  { d with columns := d.columns ++ [c], foreignKeys := d.foreignKeys ++ k.toList }

def ForeignKey.rename (k : ForeignKey T C) (table new : T) : ForeignKey T C :=
  if k.parent = table then { k with parent := new } else k

def TableDef.rename (d : TableDef T C) (table new : T) : TableDef T C :=
  { d with
    name := if d.name = table then new else d.name
    foreignKeys := d.foreignKeys.map (·.rename table new) }

inductive Stmt (T C I : Type)
  | createTable (d : TableDef T C)
  | addColumn (table : T) (c : Column C) (reference : Option (ForeignKey T C))
  | dropTable (table : T)
  | renameTable (table new : T)
  | createIndex (i : Index T C I)
  | createSearch (s : Search T C)
  | insert (table : T) (query : Rows T C → List (Row C))
  | update (table : T) (column : C) (value : Rows T C → Row C → Value)
  | delete (table : T) (condition : Rows T C → Row C → Bool)

/-- A table made anew under another name and filled from the old one, which it then replaces. -/
def rebuild (table : T) (d : TableDef T C) (query : Rows T C → List (Row C)) : List (Stmt T C I) :=
  [.createTable d,.insert d.name query,.dropTable table,.renameTable d.name table]

/-- What may be added to a table: a new column, with a default if it is required and with none
if it refers to another table. -/
def Schema.mayAdd (s : Schema T C I) (table : T) (c : Column C) (k : Option (ForeignKey T C)) : Bool :=
  s.has table && s.tables.all (fun d => d.name ≠ table || c.name ∉ d.mentions) &&
    s.links.all (fun l => l.parent ≠ table || l.key ≠ c.name) &&
    (!c.notNull || c.default ≠ .null) && (k.isNone || c.default = .null) &&
    k.all (fun k => k.column = c.name)

/-- What a statement does to the schema, whatever the tables hold. -/
def Schema.alter (s : Schema T C I) : Stmt T C I → Option (Schema T C I)
  | .createTable d => if s.has d.name then none else some { s with tables := s.tables ++ [d] }
  | .addColumn table c k =>
    if s.mayAdd table c k then
      some { s with tables := s.tables.map fun d => if d.name = table then d.addColumn c k else d }
    else none
  | .dropTable table =>
    if s.has table then
      some { s with
        tables := s.tables.filter fun d => d.name ≠ table
        indexes := s.indexes.filter fun i => i.table ≠ table }
    else none
  | .renameTable table new =>
    if s.has table && !s.has new then
      some { s with
        tables := s.tables.map (·.rename table new)
        indexes := s.indexes.map fun i => if i.table = table then { i with table := new } else i }
    else none
  | .createIndex i =>
    if s.has i.table && s.indexes.all (fun j => j.name ≠ i.name) then
      some { s with indexes := s.indexes ++ [i] }
    else none
  | .createSearch f =>
    if s.has f.name || s.searches.any (fun g => g.name = f.name) then none
    else some { s with searches := s.searches ++ [f] }
  | .insert table _ | .update table _ _ | .delete table _ => if s.has table then some s else none

/-- What a list of statements makes of a schema. -/
def Schema.alters (s : Schema T C I) (stmts : List (Stmt T C I)) : Option (Schema T C I) :=
  Runs.run Schema.alter s stmts

/-- The rows a delete takes with it, after `n` rounds of cascading. -/
def doomed (links : List (Link T C)) (rows : Rows T C) (table : T) (condition : Row C → Bool) : Nat → T → Row C → Bool
  | 0, t, r => t = table && condition r
  | n + 1, t, r => doomed links rows table condition n t r ||
      links.any fun l => l.child = t &&
        (rows l.parent).any fun q => doomed links rows table condition n l.parent q && l.refers r q

/-- What a statement does to the rows. Deletes cascade as often as there are tables, which is
enough where the foreign keys have no cycle. -/
def Schema.move (s : Schema T C I) (rows : Rows T C) : Stmt T C I → Rows T C
  | .createTable _ | .createIndex _ | .createSearch _ => rows
  | .addColumn table c _ =>
    Function.update rows table ((rows table).map fun r => Function.update r c.name c.default)
  | .dropTable table => Function.update rows table []
  | .renameTable table new => Function.update (Function.update rows new (rows table)) table []
  | .insert table query => Function.update rows table (rows table ++ query rows)
  | .update table c value =>
    Function.update rows table ((rows table).map fun r => Function.update r c (value rows r))
  | .delete table condition =>
    fun t => (rows t).filter fun r =>
      !doomed s.cascades rows table (condition rows) s.tables.length t r

structure State (T C I : Type) where
  schema : Schema T C I
  rows : Rows T C

/-- The schema a statement is checked under: a table goes only after its rows could go. -/
def Stmt.checked (stmt : Stmt T C I) (before after : Schema T C I) : Schema T C I :=
  match stmt with
  | .dropTable _ => before
  | _ => after

/-- A statement fails if it cannot alter the schema so, or if a constraint is violated at its
conclusion; it then has no effect. -/
def State.exec (db : State T C I) (stmt : Stmt T C I) : Option (State T C I) :=
  (db.schema.alter stmt).bind fun schema =>
    if Valid (stmt.checked db.schema schema) (db.schema.move db.rows stmt) then
      some ⟨schema,db.schema.move db.rows stmt⟩
    else none

/-- The statements of one transaction, which fails with the first of them. -/
def State.transaction (db : State T C I) (stmts : List (Stmt T C I)) : Option (State T C I) :=
  Runs.run State.exec db stmts

/-- The constraints hold, and there are rows in the tables of the schema only. -/
structure State.Sound (db : State T C I) : Prop where
  valid : Valid db.schema db.rows
  absent : ∀ t, db.schema.has t = false → db.rows t = []

/-- A database as its constraints allow it. -/
structure Database (T C I : Type) [DecidableEq T] [DecidableEq C] extends State T C I where
  sound : toState.Sound

end

end Sake.Lib.Sql
