import IssueTracker.Json.Record
import IssueTracker.Timestamp.Reader
import IssueTracker.Uuid

/-! Projects and users. A project belongs to the user who owns it and is open to
its members; an administrator may see every project. -/

namespace IssueTracker

structure Project where
  id : Uuid
  name : String
  owner : Uuid
  created : Timestamp
  deriving DecidableEq

namespace Project

def record : Record Project :=
  ((Record.required "id" Uuid.codec).and
    ((Record.required "name" .text).and
    ((Record.required "owner" Uuid.codec).and
    (.required "created" Timestamp.codec)))).via
    (fun (i, n, o, c) => ⟨i, n, o, c⟩) (fun p => (p.id, p.name, p.owner, p.created))

def codec : Codec Project := record.codec

end Project

structure User where
  id : Uuid
  email : String
  nickname : String
  admin : Bool
  deriving DecidableEq

namespace User

def record : Record User :=
  ((Record.required "id" Uuid.codec).and
    ((Record.required "email" .text).and
    ((Record.required "nickname" .text).and
    (.required "admin" .bool)))).via
    (fun (i, e, n, a) => ⟨i, e, n, a⟩) (fun u => (u.id, u.email, u.nickname, u.admin))

def codec : Codec User := record.codec

end User
end IssueTracker
