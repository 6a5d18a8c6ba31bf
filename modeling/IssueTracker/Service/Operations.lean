import IssueTracker.Issue.Validation
import IssueTracker.ListQuery
import IssueTracker.Listing
import IssueTracker.Service.Access
import IssueTracker.Store.Comments
import IssueTracker.Store.Selection

/-! The seven operations on issues. Each checks what it has to check in a fixed
order, reads and writes the store, and replies; the first check that fails
decides. -/

namespace IssueTracker
namespace Service

def validationRefusal (vs : List Violation) : Refusal :=
  .badRequest ("Validation error: " ++ Violation.report vs)

/-- The columns by which callers may sort. -/
def sortable : List String := ["created", "updated"]

/-- The term to look for: only where search is on, and not a blank one. -/
def searchTerm (config : Config) (q : ListQuery) : Option String :=
  q.search.filter fun t => config.textSearch && !(trim t.toList).isEmpty

def filterOf (config : Config) (user : User) (q : ListQuery) : IssueFilter where
  project := q.project
  target := q.target
  severity := q.severity
  confirmed := q.confirmed
  falsePositive := q.falsePositive
  muted := q.muted
  resolved := q.resolved
  search := searchTerm config q
  visibleTo := if user.admin then none else some user.id

def keysOf (q : ListQuery) : List SortKey :=
  match q.sort with
  | some raw => SortKey.parse sortable raw.toList
  | none => []

def listIssues : Handler := fun c => do
  Action.fetch Query.acquire
  let q ← Action.require (ListQuery.ofQuery? c.request.uri.query) (.badRequest "wrong query")
  match q.project with
  | some project => ensureAccess c.user project
  | none => pure ()
  let filter := filterOf c.config c.user q
  let page := c.config.pages.page q.skip q.limit
  let count ← Action.fetch (Store.countIssues filter)
  let results ← Action.fetch (Store.pageIssues filter (keysOf q) page)
  let links := page.links c.request.uri count
  let listing : IssueList := ⟨⟨count, links.1, links.2⟩, results⟩
  return ⟨200, some ((Listing.codec Issue.codec).encode listing), none⟩

/-- The target that a patch names. -/
def targetId? (p : Patch) : Option Uuid :=
  p.target.bind Uuid.ofString?

/-- The issue that a patch makes for a target. -/
def newIssue (p : Patch) (t : Target) (user : Uuid) (d : Draw) : Issue :=
  (p.apply (Issue.blank d.id t.project t.id d.now)).reportedBy user d.reported

def createIssue : Handler := fun c => do
  let patch ← Action.require (c.request.entity? Patch.codec) .wrongEntity
  let targetId ← Action.require (targetId? patch) (.badRequest "Target is wrong")
  if !patch.creationViolations.isEmpty then
    throw (validationRefusal patch.creationViolations)
  Action.fetch Query.acquire
  let target ← Action.require (← Action.fetch (Store.findTarget targetId))
    (.badRequest "Target not found")
  ensureAccess c.user target.project
  let issue ← Action.ask (Store.addIssue (newIssue patch target c.user.id c.draw))
    (.ofWrite "failed to create issue")
  return ⟨201, some (Issue.codec.encode issue), some issue.target⟩

def getIssue : Handler := fun c => do
  let issue ← guardIssue c
  return ⟨200, some (Issue.codec.encode issue), none⟩

def updateIssue : Handler := fun c => do
  let issue ← guardIssue c
  let patch ← Action.require (c.request.entity? Patch.codec) .wrongEntity
  if !patch.violations.isEmpty then
    throw (validationRefusal patch.violations)
  let stored ← Action.require
    (← Action.ask (Store.updateIssue (patch.apply issue) c.draw.now)
      (.ofWrite "failed to update issue"))
    .notFound
  let submit := if patch.affectsSummary issue then some stored.target else none
  return ⟨200, some (Issue.codec.encode stored), submit⟩

def deleteIssue : Handler := fun c => do
  let issue ← guardIssue c
  let refuse := Refusal.ofWrite "failed to delete issue"
  Action.begin
  let _ ← Action.ask (Store.removeComments .issue issue.id) refuse
  let found ← Action.ask (Store.removeIssue issue.id) refuse
  if !found then throw Refusal.notFound
  Action.commit refuse
  return ⟨204, none, some issue.target⟩

def listComments : Handler := fun c => do
  let issue ← guardIssue c
  let comments ← Action.fetch (Store.listComments .issue issue.id)
  return ⟨200, some ((Listing.codec Comment.codec).encode (Listing.whole comments)), none⟩

def newComment (draft : CommentDraft) (issue user : Uuid) (d : Draw) : Comment where
  id := d.id
  owner := user
  kind := .issue
  link := issue
  text := draft.text
  created := d.now
  updated := d.now

def addComment : Handler := fun c => do
  let issue ← guardIssue c
  let draft ← Action.require (c.request.entity? CommentDraft.codec) .wrongEntity
  if draft.text.isEmpty then
    throw (Refusal.badRequest "Text is required")
  let comment ← Action.ask (Store.addComment (newComment draft issue.id c.user.id c.draw))
    (.ofWrite "failed to add comment")
  return ⟨201, some (Comment.codec.encode comment), none⟩

/-- The operations on issues, with their paths and their documentation. -/
def issues : Resource Handler :=
  (({ typeName := "TargetIssue"
      base := "/api/v1/issues".toList
      param := "issueId".toList } : Resource Handler)
    |>.list "TargetIssueList" listIssues
    |>.create "TargetIssueEntity" createIssue
    |>.get getIssue
    |>.update "TargetIssueEntity" updateIssue
    |>.delete deleteIssue
    |>.subList "comments".toList "comments" "CommentList" listComments
    |>.subCreate "comments".toList "commentsAdd" "CommentEntity" "Comment" addComment)

end Service
end IssueTracker
