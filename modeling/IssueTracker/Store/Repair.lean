import IssueTracker.Sha256
import IssueTracker.Store.Comments
import IssueTracker.Store.Summaries

/-! Work on the store by hand: counting and removing rows, writing a cell, moving
a table out of the way and back, and closing the store. These go past the
service; only the schema still holds. -/

namespace IssueTracker

namespace Table

/-- The columns of a table, its id first if it has one. -/
def columns : Table → List String
  | .users => ["id", "email", "nickname", "admin"]
  | .tokens => ["token_hash", "user_id", "created"]
  | .projects => ["id", "name", "owner_id", "created"]
  | .members => ["project_id", "user_id"]
  | .targets => ["id", "project_id", "name", "summary", "created", "updated"]
  | .issues => ["id", "project_id", "target_id", "uniq_id", "summary", "description", "severity",
      "urls", "extras", "reference_links", "confirmed", "false_positive", "muted", "resolved",
      "activities", "created", "updated"]
  | .comments => ["id", "owner_id", "link_type", "link_id", "text", "created", "updated"]
  | .versions => ["version", "description", "installed_on", "success", "checksum", "execution_time"]

/-- The table whose rows a column refers to. -/
def parent? : Table → String → Option Table
  | .projects, "owner_id" => some .users
  | .targets, "project_id" => some .projects
  | .issues, "project_id" => some .projects
  | .issues, "target_id" => some .targets
  | .comments, "owner_id" => some .users
  | _, _ => none

def hasId (t : Table) : Bool :=
  t.columns.contains "id"

/-- The column with this name. -/
def column? (t : Table) (name : String) : Option String :=
  t.columns.find? fun c => c == folded name

/-- The names by which the number of a row is written. -/
def isNumberName (name : String) : Bool :=
  ["rowid", "oid", "_rowid_"].contains (folded name)

end Table

namespace Store

/-- What a statement names as a table. -/
inductive Named where
  | table (t : Table)
  /-- A table of the database's own. -/
  | own (name : String)

/-- Where the names of all tables and of those for the time being stand. -/
def masterNames : List String := ["sqlite_master", "sqlite_schema"]

def passingNames : List String := ["sqlite_temp_master", "sqlite_temp_schema"]

/-- Tables that are computed when they are read. -/
def computedNames : List String := ["json_each", "json_tree", "dbstat"]

def lasting? (s : Store) (name : String) : Option Named :=
  let tables := Table.all ++ [Table.versions]
  match tables.find? fun t => Table.folded (s.nameOf t) == Table.folded name with
  | some t => some (.table t)
  | none => if masterNames.contains (Table.folded name) then some (.own "sqlite_master") else none

def passing? (names : List String) (name : String) : Option Named :=
  if names.contains (Table.folded name) then some (.own "sqlite_temp_master") else none

def computed? (name : String) : Option Named :=
  (computedNames.find? fun n => n == Table.folded name).map .own

/-- The table that a statement names. -/
def named (s : Store) (n : TableName) : Except DbError Named :=
  let found : Option Named :=
    match n.part.map Table.folded with
    | none => (s.lasting? n.name).or (passing? passingNames n.name)
    | some "main" => s.lasting? n.name
    | some "temp" => passing? (masterNames ++ passingNames) n.name
    | some _ => none
  match found.or (computed? n.name) with
  | some t => .ok t
  | none => .error (.noTable n.text)

/-- The table whose rows a statement changes. -/
def changeable (s : Store) (n : TableName) : Except DbError Table := do
  match ← s.named n with
  | .table t => return t
  | .own name => throw (.fixedRows name)

def rowCount (s : Store) : Table → Nat
  | .users => s.users.length
  | .tokens => s.tokens.length
  | .projects => s.projects.length
  | .members => s.members.length
  | .targets => s.targets.length
  | .issues => s.issues.length
  | .comments => s.comments.length
  | .versions => 1

def countRows (t : Table) : Query Nat :=
  .read fun s => do
    s.need [t]
    return s.rowCount t

/-- The ids in a table. -/
def ids (s : Store) : Table → List Uuid
  | .users => s.users.map User.id
  | .projects => s.projects.map Project.id
  | .targets => s.targets.map Target.id
  | .issues => s.issues.map Issue.id
  | .comments => s.comments.map Comment.id
  | _ => []

/-- Rows that may not lose the row of this id. -/
def dependents (s : Store) (t : Table) (id : Uuid) : Bool :=
  match t with
  | .users => s.projects.any (fun p => p.owner == id) || s.comments.any fun c => c.owner == id
  | _ => false

/-- Some row refers to the row of this id. -/
def referred (s : Store) (t : Table) (id : Uuid) : Bool :=
  match t with
  | .users => s.dependents .users id || s.tokens.any (fun k => k.user == id)
      || s.members.any fun m => m.user == id
  | .projects => s.members.any (fun m => m.project == id)
      || s.targets.any (fun t => t.project == id) || s.issues.any fun i => i.project == id
  | .targets => s.issues.any fun i => i.target == id
  | _ => false

def dropIssues (s : Store) (gone : Issue → Bool) : Store :=
  let ids := (s.issues.filter gone).map Issue.id
  { s with issues := s.issues.filter fun i => !gone i }.forgetRows .issues ids.contains

def dropTargets (s : Store) (gone : Target → Bool) : Store :=
  let ids := (s.targets.filter gone).map Target.id
  { s with targets := s.targets.filter fun t => !gone t }.forgetRows .targets ids.contains

/-- Removes one row and nothing else. -/
def dropRow (s : Store) (t : Table) (id : Uuid) : Store :=
  match t with
  | .users => { s with users := s.users.filter fun u => u.id != id }.forgetRows .users (· == id)
  | .projects =>
    { s with projects := s.projects.filter fun p => p.id != id }.forgetRows .projects (· == id)
  | .targets => s.dropTargets fun t => t.id == id
  | .issues => s.dropIssue id
  | .comments => s.dropComments fun c => c.id == id
  | .tokens | .members | .versions => s

/-- Removes what goes with the row of this id. -/
def dropFollowers (s : Store) (t : Table) (id : Uuid) : Store :=
  match t with
  | .users =>
    { s with
      tokens := s.tokens.filter fun k => k.user != id
      members := s.members.filter fun m => m.user != id }
  | .projects =>
    let targets := (s.targets.filter fun t => t.project == id).map Target.id
    ({ s with members := s.members.filter fun m => m.project != id }.dropIssues fun i =>
      i.project == id || targets.contains i.target).dropTargets fun t => t.project == id
  | .targets => s.dropIssues fun i => i.target == id
  | _ => s

/-- Removes a row, with the rows that go with it if references are enforced; says
how many rows of the table itself were removed. -/
def remove (n : TableName) (id : Uuid) (enforce : Bool) (s : Store) :
    Except DbError (Nat × Store) := do
  let t ← s.changeable n
  if !t.hasId then throw (.noColumn "id")
  if !(s.ids t).contains id then return (0, s)
  if enforce then
    if s.dependents t id then throw .foreignKey
    return (1, (s.dropFollowers t id).dropRow t id)
  else return (1, s.dropRow t id)

/-- Another issue has the unique id of this one within its target. -/
def uniqIdClash (s : Store) (id : Uuid) : Bool :=
  (s.issues.filter fun i => i.id == id).any fun i =>
    s.issues.any fun o => o.id != id && i.clashes o

/-- Writes a cell whose text is its value; `none` if the cell is of another kind. -/
def putText (s : Store) (t : Table) (id : Uuid) (column text : String) :
    Option (Except DbError Store) :=
  match t, column with
  | .users, "email" =>
    if s.users.any fun u => u.id != id && u.email == text then
      some (.error (.notUnique (s.columnOf .users "email")))
    else
      some (.ok { s with
        users := s.users.map fun u => if u.id == id then { u with email := text } else u })
  | .users, "nickname" =>
    some (.ok { s with
      users := s.users.map fun u => if u.id == id then { u with nickname := text } else u })
  | .projects, "name" =>
    some (.ok { s with
      projects := s.projects.map fun p => if p.id == id then { p with name := text } else p })
  | .targets, "name" =>
    some (.ok { s with
      targets := s.targets.map fun t => if t.id == id then { t with name := text } else t })
  | .issues, "summary" =>
    some (.ok { s with
      issues := s.issues.map fun i => if i.id == id then { i with summary := text } else i })
  | .issues, "description" =>
    some (.ok { s with
      issues := s.issues.map fun i => if i.id == id then { i with desc := text } else i })
  | .issues, "uniq_id" =>
    let s' := { s with
      issues := s.issues.map fun i => if i.id == id then { i with uniqId := some text } else i }
    if s'.uniqIdClash id then some (.error (.notUnique s.uniqIdColumns)) else some (.ok s')
  | .comments, "text" =>
    some (.ok { s with
      comments := s.comments.map fun c => if c.id == id then { c with text := text } else c })
  | _, _ => none

/-- The id of a row in whose id a text was written, by which nobody asks for it: the
last 128 bits of the text's digest. -/
def standIn (text : String) : Uuid :=
  let digest := Sha256.digest (Utf8.encode text.toList)
  Uuid.ofNat (digest.words.foldl (fun n w => n * UInt32.size + w.toNat) 0)

/-- Gives a row another id, under which its number and its edits are found too. -/
def renameRow (s : Store) (t : Table) (id new : Uuid) : Store :=
  let s := { s with
    numbers := s.numbers.map fun n =>
      if n.table == t && n.row == id then { n with row := new } else n
    edits := s.edits.map fun e => if e.table == t && e.row == id then { e with row := new } else e }
  match t with
  | .users =>
    { s with users := s.users.map fun u => if u.id == id then { u with id := new } else u }
  | .projects =>
    { s with projects := s.projects.map fun p => if p.id == id then { p with id := new } else p }
  | .targets =>
    { s with targets := s.targets.map fun t => if t.id == id then { t with id := new } else t }
  | .issues =>
    { s with issues := s.issues.map fun i => if i.id == id then { i with id := new } else i }
  | .comments =>
    { s with comments := s.comments.map fun c => if c.id == id then { c with id := new } else c }
  | .tokens | .members | .versions => s

/-- Writes a text where a row's id stands. The row cannot be found by an id any more,
not even by the one that it reads as, and no two rows of a table have the same text
there. -/
def putId (s : Store) (t : Table) (id : Uuid) (text : String) : Except DbError Store :=
  if s.edits.any fun e => e.table == t && e.column == "id" && e.text == text then
    .error (.sameKey (s.columnOf t "id"))
  else if s.referred t id then .error .foreignKey
  else
    let s' := s.renameRow t id (standIn text)
    .ok { s' with edits := s'.edits ++ [⟨t, standIn text, "id", text⟩] }

/-- Writes a text into any other cell. -/
def putCell (s : Store) (t : Table) (id : Uuid) (column text : String) : Except DbError Store :=
  match s.putText t id column text with
  | some r => r
  | none =>
    let s' := s.forgetCells t id [column]
    .ok { s' with edits := s'.edits ++ [⟨t, id, column, text⟩] }

/-- The row in whose id this text was written. -/
def rowOfText (s : Store) (t : Table) (text : String) : Option Uuid :=
  (s.edits.find? fun e => e.table == t && e.column == "id" && e.text == text).map Edit.row

/-- Makes a column of a row refer to another row. -/
def refer (s : Store) (t : Table) (id : Uuid) (column : String) (row : Uuid) : Store :=
  match t, column with
  | .projects, "owner_id" =>
    { s with
      projects := s.projects.map fun p => if p.id == id then { p with owner := row } else p }
  | .targets, "project_id" =>
    { s with
      targets := s.targets.map fun t => if t.id == id then { t with project := row } else t }
  | .issues, "project_id" =>
    { s with issues := s.issues.map fun i => if i.id == id then { i with project := row } else i }
  | .issues, "target_id" =>
    { s with issues := s.issues.map fun i => if i.id == id then { i with target := row } else i }
  | .comments, "owner_id" =>
    { s with
      comments := s.comments.map fun c => if c.id == id then { c with owner := row } else c }
  | _, _ => s

/-- Writes a text into a column that refers to a row: it has to be the text in the
id of one. -/
def putReference (s : Store) (t parent : Table) (id : Uuid) (column text : String) :
    Except DbError Store :=
  match s.rowOfText parent text with
  | none => .error .foreignKey
  | some row =>
    let s' := s.refer t id column row
    if t = .issues ∧ s'.uniqIdClash id then .error (.notUnique s.uniqIdColumns)
    else s'.putCell t id column text

/-- Gives a row the number that a text stands for. -/
def putNumber (s : Store) (t : Table) (id : Uuid) (text : String) : Except DbError Store :=
  match Affinity.integer? text with
  | none => .error .noNumber
  | some n =>
    if s.numbers.any fun m => m.table == t && m.row != id && m.number == n.toInt then
      .error (.sameNumber (s.columnOf t "rowid"))
    else
      let numbers := s.numbers.map fun m =>
        if m.table == t && m.row == id then { m with number := n.toInt } else m
      let full := if n.toInt = lastNumber then t :: s.full else s.full
      .ok ({ s with numbers := numbers, full := full }.arrange t)

/-- Writes a text into a column of a row. -/
def putColumn (s : Store) (t : Table) (id : Uuid) (column text : String) : Except DbError Store :=
  match t.parent? column with
  | some parent => s.putReference t parent id column text
  | none => if column == "id" then s.putId t id text else s.putCell t id column text

/-- Writes a cell by hand; says how many rows were written. -/
def write (n : TableName) (id : Uuid) (column text : String) (s : Store) :
    Except DbError (Nat × Store) := do
  let t ← s.changeable n
  let c := t.column? column
  if c.isNone && !Table.isNumberName column then throw (.noColumn column)
  if !t.hasId then throw (.noColumn "id")
  if !(s.ids t).contains id then return (0, s)
  match c with
  | some c => return (1, ← s.putColumn t id c text)
  | none => return (1, ← s.putNumber t id text)

/-- The names of the indexes. -/
def indexNames : List String :=
  ["issues_target_uniq_id", "issues_project_id", "comments_link"]

/-- Gives a table another name. -/
def rename (n : TableName) (newName : String) (s : Store) : Except DbError (Unit × Store) := do
  let found ← s.named n
  if (s.lasting? newName).isSome || indexNames.contains (Table.folded newName) then
    throw (.nameTaken newName)
  match found with
  | .own name => throw (.fixedName name)
  | .table t =>
    if "sqlite_".toList.isPrefixOf (Table.folded newName).toList then throw (.nameReserved newName)
    return ((), { s with renamed := (t, newName) :: s.renamed.filter fun r => r.1 != t })

/-- Runs a statement that was read from text, if it could be. -/
def run {α σ : Type} (st : Except StatementError σ) (f : σ → Store → Except DbError (α × Store)) :
    Query α :=
  .write fun s =>
    match st with
    | .error e => .error (.statement e)
    | .ok st => f st s

/-- Moves a table out of the way. -/
def moveAway (table : String) : Query Unit :=
  run (Statement.moveAway table) fun st => rename st.1 st.2

/-- Moves a table back. -/
def moveBack (table : String) : Query Unit :=
  run (Statement.moveBack table) fun st => rename st.1 st.2

/-- Removes a row by hand; says how many were removed. -/
def removeRow (table : String) (id : Uuid) (enforce : Bool) : Query Nat :=
  run (Statement.removeRow table) fun n => remove n id enforce

/-- Writes a cell by hand; says how many rows were written. -/
def writeCell (table : String) (id : Uuid) (column text : String) : Query Nat :=
  run (Statement.writeCell table column) fun st => write st.1 id st.2 text

/-- Closes the store: no connection can be leased any more. -/
def close (s : Store) : Store :=
  { s with closed := true }

end Store
end IssueTracker
