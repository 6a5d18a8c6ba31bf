import IssueTracker.Comment
import IssueTracker.Issue.Basic
import IssueTracker.Json.Buffered

/-! Listings: a page of results with the number of all there are and links to
the pages before and after. The members of `Meta` stand beside the results in
one object; since a reader cannot tell which they are before it has seen the
names, every member but the results is held first. -/

namespace IssueTracker

structure Meta where
  count : Int64
  previous : Option String
  next : Option String
  deriving DecidableEq

namespace Meta

def record : Record Meta :=
  ((Record.required "count" .int64).and
    ((Record.optional "previous" .text).and (.optional "next" .text))).via
    (fun (c, p, n) => ⟨c, p, n⟩) (fun m => (m.count, m.previous, m.next))

def codec : Codec Meta := record.codec

end Meta

structure Listing (α : Type) where
  info : Meta
  results : List α
  deriving DecidableEq

namespace Listing

def record {α : Type} (c : Codec α) : Record (Listing α) :=
  (Meta.record.and (.required "results" (.list c))).via
    (fun p => ⟨p.1, p.2⟩) (fun l => (l.info, l.results))

/-- The deepest nesting of a value that is held. -/
def heldDepth : Nat := 126

/-- Every member but the results can be held. -/
def holdsRest (ms : List (Json.Quoted × Json)) : Bool :=
  ms.all fun m => m.1.text? == some "results" || m.2.holdable heldDepth

def codec {α : Type} (c : Codec α) : Codec (Listing α) where
  encode := (record c).codec.encode
  decode
    | .obj ms => if holdsRest ms then (record c).codec.decode (.obj ms) else none
    | _ => none

end Listing

abbrev IssueList := Listing Issue

abbrev CommentList := Listing Comment

/-- A listing without pages. -/
def Listing.whole {α : Type} (results : List α) : Listing α :=
  ⟨⟨Int64.ofNat results.length, none, none⟩, results⟩

end IssueTracker
