import IssueTracker.Sha256
import IssueTracker.Service.Basic
import IssueTracker.Store.Issues

/-! Who a request is from, and what that user may touch. Administrators may touch
every project, others the projects they own or are members of; a project that
does not exist is not told apart from one that is closed to the caller. -/

namespace IssueTracker
namespace Service

def tokenDigest (token : String) : String :=
  Sha256.hex (Utf8.encode token.toList)

/-- What is stored of a token. -/
def tokenRow (token : String) (user : Uuid) (now : Timestamp) : ApiToken :=
  ⟨tokenDigest token, user, now⟩

/-- The user whose token the request carries, if it carries one that is known. -/
def authenticate (r : Request) : Action (Option User) :=
  match r.bearer? with
  | none => pure none
  | some token => Action.fetch (Query.pooled (Store.userOfToken (tokenDigest token)))

/-- Refuses a user who may not touch a project. -/
def ensureAccess (u : User) (project : Uuid) : Action Unit := do
  if u.admin then return ()
  let allowed ← Action.fetch (Store.hasAccess project u.id)
  if !allowed then throw Refusal.forbidden

/-- The one captured segment as an id. -/
def pathId? (captures : List Capture) : Option Uuid :=
  match Capture.only captures with
  | .ok t => Uuid.ofChars? t
  | .error _ => none

/-- The issue that the path names, once the caller is known to have access to it. -/
def guardIssue (c : Context) : Action Issue := do
  let id ← Action.require (pathId? c.captures) (.badRequest "wrong id format")
  Action.fetch Query.acquire
  let issue ← Action.require (← Action.fetch (Store.findIssue id)) .notFound
  ensureAccess c.user issue.project
  return issue

end Service
end IssueTracker
