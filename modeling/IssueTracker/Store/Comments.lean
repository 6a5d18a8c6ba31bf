import IssueTracker.Store.Accounts

/-! Comments in the store, by what they are linked to. -/

namespace IssueTracker

namespace Comment

def setCell (c : Comment) (column text : String) : Option Comment :=
  match column with
  | "id" => (Uuid.ofRaw? text).map fun v => { c with id := v }
  | "owner_id" => (Uuid.ofRaw? text).map fun v => { c with owner := v }
  | "created" => (Timestamp.ofStored? text).map fun v => { c with created := v }
  | "updated" => (Timestamp.ofStored? text).map fun v => { c with updated := v }
  | "link_type" => if text == c.kind.name then some c else none
  | _ => none

end Comment

namespace Store

def viewComment (s : Store) (c : Comment) : Except DbError Comment :=
  s.view .comments c.id Comment.setCell c

/-- The comment is linked to the object, as stored. -/
def linked (s : Store) (kind : CommentKind) (link : Uuid) (c : Comment) : Bool :=
  ((s.edited .comments c.id "link_type").getD c.kind.name == kind.name)
    && (s.edited .comments c.id "link_id").isNone
    && c.link == link

def createdText (s : Store) (c : Comment) : String :=
  (s.edited .comments c.id "created").getD c.created.stored

def addComment (c : Comment) : Query Comment :=
  .write fun s => do
    s.need [.comments]
    if s.comments.any fun o => o.id == c.id then throw (.sameKey (s.columnOf .comments "id"))
    if (s.findUser c.owner).isNone then throw .foreignKey
    return (c, { s with comments := s.comments ++ [c] }.enrol .comments c.id)

/-- The comments of an object, oldest first. -/
def commentsOf (s : Store) (kind : CommentKind) (link : Uuid) : List Comment :=
  (s.comments.filter (s.linked kind link)).mergeSort fun a b =>
    decide (s.createdText a ≤ s.createdText b)

def listComments (kind : CommentKind) (link : Uuid) : Query (List Comment) :=
  .read fun s => do
    s.need [.comments]
    (s.commentsOf kind link).mapM s.viewComment

/-- The store without the comments that `gone` holds for. -/
def dropComments (s : Store) (gone : Comment → Bool) : Store :=
  let ids := (s.comments.filter gone).map Comment.id
  { s with comments := s.comments.filter fun c => !gone c }.forgetRows .comments ids.contains

/-- Removes the comments of an object; says how many there were. -/
def removeComments (kind : CommentKind) (link : Uuid) : Query Nat :=
  .write fun s => do
    s.need [.comments]
    return ((s.comments.filter (s.linked kind link)).length, s.dropComments (s.linked kind link))

end Store
end IssueTracker
