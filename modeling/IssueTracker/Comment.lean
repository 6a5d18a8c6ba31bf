import IssueTracker.Json.Record
import IssueTracker.Timestamp.Reader
import IssueTracker.Uuid

/-! Comments, what they are linked to, and what callers write of them. -/

namespace IssueTracker

/-- The kind of object a comment is linked to. -/
inductive CommentKind where
  | issue
  deriving DecidableEq

namespace CommentKind

def all : List CommentKind := [.issue]

def name : CommentKind → String
  | .issue => "issue"

def codec : Codec CommentKind := Codec.enumeration all name

end CommentKind

structure Comment where
  id : Uuid
  owner : Uuid
  kind : CommentKind
  link : Uuid
  text : String
  created : Timestamp
  updated : Timestamp
  deriving DecidableEq

namespace Comment

def record : Record Comment :=
  ((Record.required "id" Uuid.codec).and
    ((Record.required "owner" Uuid.codec).and
    ((Record.required "type" CommentKind.codec).and
    ((Record.required "link" Uuid.codec).and
    ((Record.required "text" .text).and
    ((Record.required "created" Timestamp.codec).and
    (.required "updated" Timestamp.codec))))))).via
    (fun (i, o, k, l, t, c, u) => ⟨i, o, k, l, t, c, u⟩)
    (fun c => (c.id, c.owner, c.kind, c.link, c.text, c.created, c.updated))

def codec : Codec Comment := record.codec

end Comment

/-- The text of a new comment. -/
structure CommentDraft where
  text : String
  deriving DecidableEq

namespace CommentDraft

def record : Record CommentDraft :=
  (Record.defaulted "text" .text "").via (fun t => ⟨t⟩) (fun d => d.text)

def codec : Codec CommentDraft := record.codec

end CommentDraft
end IssueTracker
