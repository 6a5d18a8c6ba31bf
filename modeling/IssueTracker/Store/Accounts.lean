import IssueTracker.Store.Basic

/-! Users, and the tokens by which they are known. Only the digest of a token is
stored. -/

namespace IssueTracker

namespace User

def setCell (u : User) (column text : String) : Option User :=
  match column with
  | "id" => (Uuid.ofRaw? text).map fun v => { u with id := v }
  | "admin" => (flag? text).map fun b => { u with admin := b }
  | _ => none

end User

namespace Store

def findUser (s : Store) (id : Uuid) : Option User :=
  s.users.find? fun u => u.id == id

def viewUser (s : Store) (u : User) : Except DbError User :=
  s.view .users u.id User.setCell u

/-- Adds a user; no two have the same address. -/
def addUser (u : User) : Query User :=
  .write fun s => do
    s.need [.users]
    if s.users.any fun v => v.email == u.email then throw (.notUnique (s.columnOf .users "email"))
    if s.users.any fun v => v.id == u.id then throw (.sameKey (s.columnOf .users "id"))
    return (u, { s with users := s.users ++ [u] }.enrol .users u.id)

/-- Gives a user a token. -/
def addToken (t : ApiToken) : Query Unit :=
  .write fun s => do
    s.need [.tokens]
    if s.tokens.any fun v => v.digest == t.digest then
      throw (.sameKey (s.columnOf .tokens "token_hash"))
    if (s.findUser t.user).isNone then throw .foreignKey
    return ((), { s with tokens := s.tokens ++ [t] })

/-- The user a token with this digest stands for. -/
def userOfToken (digest : String) : Query (Option User) :=
  .read fun s => do
    s.need [.tokens, .users]
    match (s.tokens.find? fun t => t.digest == digest).bind fun t => s.findUser t.user with
    | some u => return some (← s.viewUser u)
    | none => return none

end Store
end IssueTracker
