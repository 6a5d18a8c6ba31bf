import IssueTracker.Store.Accounts

/-! Projects, their members and their targets, and who may see what: the owner
and the members of a project. -/

namespace IssueTracker
namespace Store

def findProject (s : Store) (id : Uuid) : Option Project :=
  s.projects.find? fun p => p.id == id

def addProject (p : Project) : Query Project :=
  .write fun s => do
    s.need [.projects]
    if (s.findProject p.id).isSome then throw (.sameKey (s.columnOf .projects "id"))
    if (s.findUser p.owner).isNone then throw .foreignKey
    return (p, { s with projects := s.projects ++ [p] }.enrol .projects p.id)

/-- Makes a user a member of a project; one who is a member already stays one. -/
def addMember (m : Member) : Query Unit :=
  .write fun s => do
    s.need [.members]
    if s.members.contains m then return ((), s)
    if (s.findProject m.project).isNone || (s.findUser m.user).isNone then throw .foreignKey
    return ((), { s with members := s.members ++ [m] })

/-- The user owns the project or is one of its members. -/
def grants (s : Store) (project user : Uuid) : Bool :=
  (s.projects.any fun p => p.id == project && p.owner == user)
    || s.members.any fun m => m.project == project && m.user == user

def hasAccess (project user : Uuid) : Query Bool :=
  .read fun s => do
    s.need [.members, .projects]
    return s.grants project user

/-- The projects that a user owns, and those the user is a member of. -/
def visibleProjects (s : Store) (user : Uuid) : List Uuid :=
  (s.projects.filter fun p => p.owner == user).map Project.id
    ++ (s.members.filter fun m => m.user == user).map Member.project

end Store

namespace Target

def setCell (t : Target) (column text : String) : Option Target :=
  match column with
  | "id" => (Uuid.ofRaw? text).map fun v => { t with id := v }
  | "project_id" => (Uuid.ofRaw? text).map fun v => { t with project := v }
  | "summary" => (Summary.codec.read? text).map fun v => { t with summary := v }
  | "created" => (Timestamp.ofStored? text).map fun v => { t with created := v }
  | "updated" => (Timestamp.ofStored? text).map fun v => { t with updated := v }
  | _ => none

end Target

namespace Store

def findTargetRow (s : Store) (id : Uuid) : Option Target :=
  s.targets.find? fun t => t.id == id

def viewTarget (s : Store) (t : Target) : Except DbError Target :=
  s.view .targets t.id Target.setCell t

def addTarget (t : Target) : Query Target :=
  .write fun s => do
    s.need [.targets]
    if (s.findTargetRow t.id).isSome then throw (.sameKey (s.columnOf .targets "id"))
    if (s.findProject t.project).isNone then throw .foreignKey
    return (t, { s with targets := s.targets ++ [t] }.enrol .targets t.id)

def findTarget (id : Uuid) : Query (Option Target) :=
  .read fun s => do
    s.need [.targets]
    match s.findTargetRow id with
    | some t => return some (← s.viewTarget t)
    | none => return none

end Store
end IssueTracker
