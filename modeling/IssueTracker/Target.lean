import IssueTracker.Json.Record
import IssueTracker.Severity
import IssueTracker.Timestamp.Reader
import IssueTracker.Uuid

/-! Targets, the things issues are filed against, each with a summary of its
open issues. -/

namespace IssueTracker

/-- Counts of open issues per severity. -/
structure Summary where
  error : Int64 := 0
  high : Int64 := 0
  medium : Int64 := 0
  low : Int64 := 0
  info : Int64 := 0
  deriving DecidableEq

namespace Summary

def get (s : Summary) : Severity → Int64
  | .error => s.error
  | .high => s.high
  | .medium => s.medium
  | .low => s.low
  | .info => s.info

def add (s : Summary) (severity : Severity) (n : Int64) : Summary :=
  match severity with
  | .error => { s with error := s.error + n }
  | .high => { s with high := s.high + n }
  | .medium => { s with medium := s.medium + n }
  | .low => { s with low := s.low + n }
  | .info => { s with info := s.info + n }

def total (s : Summary) : Int64 :=
  s.error + s.high + s.medium + s.low + s.info

/-- The summary with these counts added up. -/
def ofCounts (counts : List (Severity × Int64)) : Summary :=
  counts.foldl (fun s c => s.add c.1 c.2) {}

def record : Record Summary :=
  ((Record.required "error" .int64).and
    ((Record.required "high" .int64).and
    ((Record.required "medium" .int64).and
    ((Record.required "low" .int64).and
    (.required "info" .int64))))).via
    (fun (e, h, m, l, i) => ⟨e, h, m, l, i⟩)
    (fun s => (s.error, s.high, s.medium, s.low, s.info))

def codec : Codec Summary := record.codec

end Summary

structure Target where
  id : Uuid
  project : Uuid
  name : String
  summary : Summary
  created : Timestamp
  updated : Timestamp
  deriving DecidableEq

namespace Target

def record : Record Target :=
  ((Record.required "id" Uuid.codec).and
    ((Record.required "project" Uuid.codec).and
    ((Record.required "name" .text).and
    ((Record.required "summary" Summary.codec).and
    ((Record.required "created" Timestamp.codec).and
    (.required "updated" Timestamp.codec)))))).via
    (fun (i, p, n, s, c, u) => ⟨i, p, n, s, c, u⟩)
    (fun t => (t.id, t.project, t.name, t.summary, t.created, t.updated))

def codec : Codec Target := record.codec

/-- A target that nothing was filed against yet. -/
def start (id project : Uuid) (name : String) (now : Timestamp) : Target where
  id := id
  project := project
  name := name
  summary := {}
  created := now
  updated := now

end Target
end IssueTracker
