import IssueTracker.Json.Record
import IssueTracker.Severity
import IssueTracker.Timestamp.Reader
import IssueTracker.Uuid

/-! Issues: findings filed against a target, and their JSON form. -/

namespace IssueTracker

structure IssueUrl where
  url : String
  method : Option String
  deriving DecidableEq

namespace IssueUrl

def record : Record IssueUrl :=
  ((Record.required "url" .text).and (.optional "method" .text)).via
    (fun p => ⟨p.1, p.2⟩) (fun u => (u.url, u.method))

def codec : Codec IssueUrl := record.codec

end IssueUrl

structure Extra where
  url : String
  title : String
  deriving DecidableEq

namespace Extra

def record : Record Extra :=
  ((Record.required "url" .text).and (.defaulted "title" .text "")).via
    (fun p => ⟨p.1, p.2⟩) (fun e => (e.url, e.title))

def codec : Codec Extra := record.codec

end Extra

structure Reference where
  url : String
  title : String
  deriving DecidableEq

namespace Reference

def record : Record Reference :=
  ((Record.required "url" .text).and (.defaulted "title" .text "")).via
    (fun p => ⟨p.1, p.2⟩) (fun e => (e.url, e.title))

def codec : Codec Reference := record.codec

end Reference

inductive ActivityKind where
  | reported
  deriving DecidableEq

namespace ActivityKind

def all : List ActivityKind := [.reported]

def name : ActivityKind → String
  | .reported => "reported"

def codec : Codec ActivityKind := Codec.enumeration all name

end ActivityKind

structure Activity where
  kind : ActivityKind
  created : Timestamp
  user : Option Uuid
  deriving DecidableEq

namespace Activity

def record : Record Activity :=
  ((Record.required "type" ActivityKind.codec).and
    ((Record.required "created" Timestamp.codec).and (.optional "user" Uuid.codec))).via
    (fun (k, c, u) => ⟨k, c, u⟩) (fun a => (a.kind, a.created, a.user))

def codec : Codec Activity := record.codec

end Activity

/-- A finding filed against a target. Its project is the target's. -/
structure Issue where
  id : Uuid
  project : Uuid
  target : Uuid
  /-- The reporter's own name for the finding, unique within the target. -/
  uniqId : Option String
  summary : String
  desc : String
  severity : Severity
  urls : List IssueUrl
  extras : List Extra
  references : List Reference
  confirmed : Bool
  falsePositive : Bool
  muted : Bool
  resolved : Bool
  activities : List Activity
  created : Timestamp
  updated : Timestamp
  deriving DecidableEq

namespace Issue

def record : Record Issue :=
  ((Record.required "id" Uuid.codec).and
    ((Record.required "project" Uuid.codec).and
    ((Record.required "target" Uuid.codec).and
    ((Record.optional "uniqId" .text).and
    ((Record.required "summary" .text).and
    ((Record.defaulted "desc" .text "").and
    ((Record.required "severity" Severity.codec).and
    ((Record.defaulted "urls" (.list IssueUrl.codec) []).and
    ((Record.defaulted "extras" (.list Extra.codec) []).and
    ((Record.defaulted "references" (.list Reference.codec) []).and
    ((Record.required "confirmed" .bool).and
    ((Record.required "false" .bool).and
    ((Record.required "muted" .bool).and
    ((Record.required "resolved" .bool).and
    ((Record.defaulted "activities" (.list Activity.codec) []).and
    ((Record.required "created" Timestamp.codec).and
    (.required "updated" Timestamp.codec))))))))))))))))).via
    (fun (i, p, t, q, s, d, v, u, e, r, c, f, m, o, a, x, y) =>
      ⟨i, p, t, q, s, d, v, u, e, r, c, f, m, o, a, x, y⟩)
    (fun i => (i.id, i.project, i.target, i.uniqId, i.summary, i.desc, i.severity, i.urls,
      i.extras, i.references, i.confirmed, i.falsePositive, i.muted, i.resolved, i.activities,
      i.created, i.updated))

def codec : Codec Issue := record.codec

/-- An issue counts as open unless it is false, muted or resolved. -/
def isOpen (i : Issue) : Bool :=
  !i.falsePositive && !i.muted && !i.resolved

/-- An issue of a target with nothing filled in. -/
def blank (id project target : Uuid) (now : Timestamp) : Issue where
  id := id
  project := project
  target := target
  uniqId := none
  summary := ""
  desc := ""
  severity := .info
  urls := []
  extras := []
  references := []
  confirmed := false
  falsePositive := false
  muted := false
  resolved := false
  activities := []
  created := now
  updated := now

/-- Adds the entry that credits a user with the report. -/
def reportedBy (i : Issue) (user : Uuid) (at_ : Timestamp) : Issue :=
  { i with activities := i.activities ++ [⟨.reported, at_, some user⟩] }

end Issue
end IssueTracker
