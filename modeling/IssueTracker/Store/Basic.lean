import IssueTracker.Comment
import IssueTracker.Issue.Basic
import IssueTracker.Project
import IssueTracker.Store.Affinity
import IssueTracker.Store.Statement
import IssueTracker.Target

/-! The store: seven tables of rows, in the order of their numbers, which is that in
which they were inserted. A cell may also have been written by hand; its text is
then kept beside the row in `edits`, and decides what the row reads as. A row may be
given another number by hand, a table another name, and the whole store may be
closed. A store that only the service has written to has no edits, no renamed tables
and is open, and every new row has the greatest number of its table. -/

namespace IssueTracker

inductive Table where
  | users
  | tokens
  | projects
  | members
  | targets
  | issues
  | comments
  /-- The versions of the schema that were put in place. -/
  | versions
  deriving DecidableEq

namespace Table

/-- The tables of the service. -/
def all : List Table :=
  [.users, .tokens, .projects, .members, .targets, .issues, .comments]

def name : Table → String
  | .users => "users"
  | .tokens => "api_tokens"
  | .projects => "projects"
  | .members => "project_members"
  | .targets => "targets"
  | .issues => "issues"
  | .comments => "comments"
  | .versions => "_sqlx_migrations"

/-- A name in lower case; the names of tables and columns are read in either. -/
def folded (name : String) : String :=
  String.ofList (name.toList.map Char.toLower)

end Table

/-- The digest of a token and the user it stands for. -/
structure ApiToken where
  digest : String
  user : Uuid
  created : Timestamp
  deriving DecidableEq

structure Member where
  project : Uuid
  user : Uuid
  deriving DecidableEq

/-- The text of a cell that was written by hand. -/
structure Edit where
  table : Table
  row : Uuid
  column : String
  text : String
  deriving DecidableEq

/-- The number of a row within its table. -/
structure RowNumber where
  table : Table
  row : Uuid
  number : Int
  deriving DecidableEq

structure Store where
  users : List User := []
  tokens : List ApiToken := []
  projects : List Project := []
  members : List Member := []
  targets : List Target := []
  issues : List Issue := []
  comments : List Comment := []
  numbers : List RowNumber := []
  edits : List Edit := []
  /-- The tables in which the greatest of all numbers was given to a row by hand. -/
  full : List Table := []
  /-- The names of the tables that were given another. -/
  renamed : List (Table × String) := []
  closed : Bool := false
  deriving DecidableEq

/-- Why a statement fails. -/
inductive DbError where
  | closed
  | statement (e : StatementError)
  | noTable (name : String)
  | noColumn (name : String)
  /-- A table of the database's own, whose rows cannot be changed. -/
  | fixedRows (table : String)
  /-- A table of the database's own, whose name cannot be changed. -/
  | fixedName (table : String)
  /-- A table or an index has this name already. -/
  | nameTaken (name : String)
  /-- The database keeps such names for itself. -/
  | nameReserved (name : String)
  | tooManyTerms
  | foreignKey
  /-- A row with this primary key is there already. -/
  | sameKey (columns : String)
  /-- A row with the same values in these columns is there already. -/
  | notUnique (columns : String)
  /-- A row with this number is there already. -/
  | sameNumber (column : String)
  /-- The number of a row is no integer. -/
  | noNumber
  /-- A cell does not read as a value of its column. -/
  | undecodable
  deriving DecidableEq

namespace DbError

def statementText : StatementError → String
  | .near token => "near \"" ++ token ++ "\": syntax error"
  | .unfinished => "incomplete input"
  | .unrecognized token => "unrecognized token: \"" ++ token ++ "\""
  | .oneValue n => Decimal.text n ++ " columns assigned 1 values"

/-- The number and the text of an error that the database itself reports. -/
def report? : DbError → Option (Nat × String)
  | .statement e => some (1, statementText e)
  | .noTable name => some (1, "no such table: " ++ name)
  | .noColumn name => some (1, "no such column: " ++ name)
  | .fixedRows table => some (1, "table " ++ table ++ " may not be modified")
  | .fixedName table => some (1, "table " ++ table ++ " may not be altered")
  | .nameTaken name =>
    some (1, "there is already another table or index with this name: " ++ name)
  | .nameReserved name => some (1, "object name reserved for internal use: " ++ name)
  | .tooManyTerms => some (1, "too many terms in ORDER BY clause")
  | .foreignKey => some (787, "FOREIGN KEY constraint failed")
  | .sameKey columns => some (1555, "UNIQUE constraint failed: " ++ columns)
  | .notUnique columns => some (2067, "UNIQUE constraint failed: " ++ columns)
  | .sameNumber column => some (2579, "UNIQUE constraint failed: " ++ column)
  | .noNumber => some (20, "datatype mismatch")
  | .closed => none
  | .undecodable => none

/-- The text of an error, for the errors whose text is settled. -/
def message? (e : DbError) : Option String :=
  match e with
  | .closed => some "attempted to acquire a connection on a closed pool"
  | .undecodable => none
  | _ =>
    e.report?.map fun r =>
      "error returned from database: (code: " ++ Decimal.text r.1 ++ ") " ++ r.2

def isDuplicate : DbError → Bool
  | .sameKey _ => true
  | .notUnique _ => true
  | _ => false

end DbError

namespace Store

/-- The hand-written text of a cell. -/
def edited (s : Store) (t : Table) (row : Uuid) (column : String) : Option String :=
  (s.edits.find? fun e => e.table == t && e.row == row && e.column == column).map Edit.text

def editsOf (s : Store) (t : Table) (row : Uuid) : List Edit :=
  s.edits.filter fun e => e.table == t && e.row == row

/-- Forgets the edits of these columns of a row. -/
def forgetCells (s : Store) (t : Table) (row : Uuid) (columns : List String) : Store :=
  { s with
    edits := s.edits.filter fun e => !(e.table == t && e.row == row && columns.contains e.column) }

/-- Forgets the numbers and the edits of the rows that `gone` holds for. -/
def forgetRows (s : Store) (t : Table) (gone : Uuid → Bool) : Store :=
  { s with
    numbers := s.numbers.filter fun n => !(n.table == t && gone n.row)
    edits := s.edits.filter fun e => !(e.table == t && gone e.row) }

/-- The numbers of the rows of a table. -/
def numbersOf (s : Store) (t : Table) : List Int :=
  (s.numbers.filter fun n => n.table == t).map RowNumber.number

/-- The number of a new row: one more than the greatest in its table. -/
def nextNumber (s : Store) (t : Table) : Int :=
  match s.numbersOf t with
  | [] => 1
  | n :: r => r.foldl (fun a b => if a < b then b else a) n + 1

/-- The number of a row. -/
def numberOf (s : Store) (t : Table) (id : Uuid) : Int :=
  ((s.numbers.find? fun n => n.table == t && n.row == id).map RowNumber.number).getD 0

/-- Puts the rows of a table in the order of their numbers. -/
def arrange (s : Store) (t : Table) : Store :=
  let le := fun a b => decide (s.numberOf t a ≤ s.numberOf t b)
  match t with
  | .users => { s with users := s.users.mergeSort fun a b => le a.id b.id }
  | .projects => { s with projects := s.projects.mergeSort fun a b => le a.id b.id }
  | .targets => { s with targets := s.targets.mergeSort fun a b => le a.id b.id }
  | .issues => { s with issues := s.issues.mergeSort fun a b => le a.id b.id }
  | .comments => { s with comments := s.comments.mergeSort fun a b => le a.id b.id }
  | .tokens | .members | .versions => s

/-- The greatest number of a row. -/
def lastNumber : Int := 9223372036854775807

/-- Where numbers are looked for when the last one was given away by hand. -/
def spareNumbers : Int := 2305843009213693952

/-- A number that is far from both ends and not taken. -/
def spareNumber (s : Store) (t : Table) : Int :=
  ((s.numbersOf t).filter fun n => spareNumbers ≤ n && n < lastNumber).foldl
    (fun a n => if a ≤ n then n + 1 else a) spareNumbers

/-- Numbers a new row, and puts it in its place if that is not the last. -/
def enrol (s : Store) (t : Table) (id : Uuid) : Store :=
  if s.full.contains t && (s.numbersOf t).contains lastNumber then
    let placed : Store := { s with numbers := s.numbers ++ [⟨t, id, s.spareNumber t⟩] }
    placed.arrange t
  else { s with numbers := s.numbers ++ [⟨t, id, s.nextNumber t⟩] }

/-- The name of a table. -/
def nameOf (s : Store) (t : Table) : String :=
  (s.renamed.lookup t).getD t.name

/-- A column with the name of its table. -/
def columnOf (s : Store) (t : Table) (column : String) : String :=
  s.nameOf t ++ "." ++ column

/-- The table has the name by which the service asks for it. -/
def inPlace (s : Store) (t : Table) : Bool :=
  Table.folded (s.nameOf t) == t.name

/-- Fails for the first of these tables that is not in its place. -/
def need (s : Store) (ts : List Table) : Except DbError Unit :=
  match ts.find? fun t => !s.inPlace t with
  | some t => .error (.noTable t.name)
  | none => .ok ()

/-- What a row reads as: its own values, under the edits of its cells. -/
def view {ρ : Type} (s : Store) (t : Table) (id : Uuid) (set : ρ → String → String → Option ρ)
    (row : ρ) : Except DbError ρ :=
  match (s.editsOf t id).foldlM (fun r e => set r e.column e.text) row with
  | some r => .ok r
  | none => .error .undecodable

end Store

/-- A statement: an answer or an error, and the store after it. -/
abbrev Query (α : Type) := Store → Except DbError α × Store

namespace Query

variable {α β : Type}

/-- A statement that only reads. -/
def read (f : Store → Except DbError α) : Query α :=
  fun s => (f s, s)

/-- A statement that changes the store, unless it fails. -/
def write (f : Store → Except DbError (α × Store)) : Query α :=
  fun s =>
    match f s with
    | .ok (a, s') => (.ok a, s')
    | .error e => (.error e, s)

/-- Leasing a connection. -/
def acquire : Query Unit :=
  read fun s => if s.closed then .error .closed else .ok ()

/-- A statement on a connection leased for it alone. -/
def pooled (q : Query α) : Query α :=
  fun s => if s.closed then (.error .closed, s) else q s

end Query

/-- A hand-written integer that stands for a truth value. -/
def flag? (text : String) : Option Bool :=
  (Affinity.integer? text).map fun n => n != 0

end IssueTracker
