import IssueTracker.Store.Projects

/-! Issues in the store: finding, adding, replacing and removing one. Within a
target no two issues have the same unique id. -/

namespace IssueTracker

namespace Issue

def setCell (i : Issue) (column text : String) : Option Issue :=
  match column with
  | "id" => (Uuid.ofRaw? text).map fun v => { i with id := v }
  | "project_id" => (Uuid.ofRaw? text).map fun v => { i with project := v }
  | "target_id" => (Uuid.ofRaw? text).map fun v => { i with target := v }
  | "severity" => (Severity.ofName? text).map fun v => { i with severity := v }
  | "urls" => ((Codec.list IssueUrl.codec).read? text).map fun v => { i with urls := v }
  | "extras" => ((Codec.list Extra.codec).read? text).map fun v => { i with extras := v }
  | "reference_links" =>
    ((Codec.list Reference.codec).read? text).map fun v => { i with references := v }
  | "confirmed" => (flag? text).map fun v => { i with confirmed := v }
  | "false_positive" => (flag? text).map fun v => { i with falsePositive := v }
  | "muted" => (flag? text).map fun v => { i with muted := v }
  | "resolved" => (flag? text).map fun v => { i with resolved := v }
  | "activities" => ((Codec.list Activity.codec).read? text).map fun v => { i with activities := v }
  | "created" => (Timestamp.ofStored? text).map fun v => { i with created := v }
  | "updated" => (Timestamp.ofStored? text).map fun v => { i with updated := v }
  | _ => none

/-- The columns that an update writes. -/
def mutableColumns : List String :=
  ["uniq_id", "summary", "description", "severity", "urls", "extras", "reference_links",
    "confirmed", "false_positive", "muted", "resolved", "activities", "updated"]

/-- The other issue holds the unique id of this one within the same target. -/
def clashes (i other : Issue) : Bool :=
  i.uniqId.isSome && i.target == other.target && i.uniqId == other.uniqId

/-- The row `old` with the fields that an update writes taken from `i`. -/
def written (i old : Issue) (now : Timestamp) : Issue :=
  { i with
    id := old.id
    project := old.project
    target := old.target
    created := old.created
    updated := now }

end Issue

namespace Store

/-- The columns that are unique together. -/
def uniqIdColumns (s : Store) : String :=
  s.columnOf .issues "target_id" ++ ", " ++ s.columnOf .issues "uniq_id"

/-- The row of an issue. A row in whose id a text was written is found by no id. -/
def findIssueRow (s : Store) (id : Uuid) : Option Issue :=
  s.issues.find? fun i => i.id == id && (s.edited .issues i.id "id").isNone

def viewIssue (s : Store) (i : Issue) : Except DbError Issue :=
  s.view .issues i.id Issue.setCell i

def findIssue (id : Uuid) : Query (Option Issue) :=
  .read fun s => do
    s.need [.issues]
    match s.findIssueRow id with
    | some i => return some (← s.viewIssue i)
    | none => return none

def addIssue (i : Issue) : Query Issue :=
  .write fun s => do
    s.need [.issues]
    if s.issues.any fun o => i.clashes o then throw (.notUnique s.uniqIdColumns)
    if (s.findIssueRow i.id).isSome then throw (.sameKey (s.columnOf .issues "id"))
    if (s.findProject i.project).isNone || (s.findTargetRow i.target).isNone then throw .foreignKey
    return (i, { s with issues := s.issues ++ [i] }.enrol .issues i.id)

/-- The store with the row of an issue replaced. -/
def putIssue (s : Store) (i : Issue) : Store :=
  { s with issues := s.issues.map fun o => if o.id == i.id then i else o }

/-- Writes the mutable fields of an issue and the time of the update; the answer
is the row read back, or nothing when there is none. -/
def updateIssue (i : Issue) (now : Timestamp) : Query (Option Issue) :=
  fun s =>
    match s.need [.issues] with
    | .error e => (.error e, s)
    | .ok () =>
      match s.findIssueRow i.id with
      | none => (.ok none, s)
      | some old =>
        let new := i.written old now
        if s.issues.any fun o => o.id != new.id && new.clashes o then
          (.error (.notUnique s.uniqIdColumns), s)
        else
          let s' := (s.putIssue new).forgetCells .issues new.id Issue.mutableColumns
          (((s'.viewIssue new).map some), s')

/-- The store without an issue. -/
def dropIssue (s : Store) (id : Uuid) : Store :=
  { s with issues := s.issues.filter fun i => i.id != id }.forgetRows .issues (· == id)

/-- Removes an issue; says whether there was one. -/
def removeIssue (id : Uuid) : Query Bool :=
  .write fun s => do
    s.need [.issues]
    return ((s.findIssueRow id).isSome, s.dropIssue id)

end Store
end IssueTracker
