import IssueTracker.Decimal
import IssueTracker.Form
import IssueTracker.Uri

/-! Pages: which part of a listing a request asks for, and the links to the
pages before and after it. Arithmetic is on 64-bit integers and stops at their
ends. -/

namespace IssueTracker

/-- How many results a page has when the request does not say, and at most. -/
structure PageLimits where
  standard : Int64 := 20
  largest : Int64 := 100
  deriving DecidableEq

structure Page where
  skip : Int64
  limit : Int64
  deriving DecidableEq

/-- The nearest 64-bit integer. -/
def saturate (i : Int) : Int64 :=
  if i < Int64.minValue.toInt then Int64.minValue
  else if Int64.maxValue.toInt < i then Int64.maxValue
  else Int64.ofInt i

namespace PageLimits

/-- A missing limit, or one that is not positive, is the standard one; a large one is
cut. A skip that is missing or negative is zero. -/
def page (l : PageLimits) (skip limit : Option Int64) : Page where
  skip := max (skip.getD 0) 0
  limit :=
    match limit with
    | some n => if 0 < n then min n l.largest else l.standard
    | none => l.standard

end PageLimits

namespace Page

def previous? (p : Page) : Option Page :=
  if 0 < p.skip then some ⟨max (saturate (p.skip.toInt - p.limit.toInt)) 0, p.limit⟩ else none

def next? (p : Page) (count : Int64) : Option Page :=
  let skip := saturate (p.skip.toInt + p.limit.toInt)
  if skip < count then some ⟨skip, p.limit⟩ else none

/-- The pairs that say where a page is. -/
def pairs (p : Page) : List (String × String) :=
  [("skip", Decimal.intText p.skip.toInt), ("limit", Decimal.intText p.limit.toInt)]

/-- The pairs of a query that do not say where a page is. -/
def otherPairs (query : List Char) : List (String × String) :=
  (Form.parse query).filter fun p => p.1 != "skip" && p.1 != "limit"

/-- The link to a page of the listing that a request asked for. -/
def link (p : Page) (u : Uri) : String :=
  String.ofList (u.path ++ '?' :: Form.render (otherPairs (u.query.getD []) ++ p.pairs))

/-- The links to the previous and the next page. -/
def links (p : Page) (u : Uri) (count : Int64) : Option String × Option String :=
  (p.previous?.map (·.link u), (p.next? count).map (·.link u))

end Page
end IssueTracker
