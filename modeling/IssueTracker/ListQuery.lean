import IssueTracker.Decimal
import IssueTracker.Form
import IssueTracker.Severity
import IssueTracker.Uuid

/-! What a request for the list of issues may ask: filters, a sort order and a
page. A known key may come once, and its value has to be right; other keys are
ignored. -/

namespace IssueTracker

structure ListQuery where
  project : Option Uuid := none
  target : Option Uuid := none
  severity : Option Severity := none
  confirmed : Option Bool := none
  falsePositive : Option Bool := none
  muted : Option Bool := none
  resolved : Option Bool := none
  search : Option String := none
  sort : Option String := none
  skip : Option Int64 := none
  limit : Option Int64 := none
  deriving DecidableEq

namespace ListQuery

def bool? (s : String) : Option Bool :=
  if s == "true" then some true else if s == "false" then some false else none

/-- The value of a key, which may be absent but not come twice. -/
def value? {α : Type} (ps : List (String × String)) (key : String) (parse : String → Option α) :
    Option (Option α) :=
  match ps.filter fun p => p.1 == key with
  | [] => some none
  | [p] => (parse p.2).map some
  | _ => none

def ofPairs? (ps : List (String × String)) : Option ListQuery := do
  return {
    project := ← value? ps "project" Uuid.ofString?
    target := ← value? ps "target" Uuid.ofString?
    severity := ← value? ps "severity" Severity.ofName?
    confirmed := ← value? ps "confirmed" bool?
    falsePositive := ← value? ps "false" bool?
    muted := ← value? ps "muted" bool?
    resolved := ← value? ps "resolved" bool?
    search := ← value? ps "search" some
    sort := ← value? ps "sort" some
    skip := ← value? ps "skip" Decimal.int64?
    limit := ← value? ps "limit" Decimal.int64? }

def ofQuery? (query : Option (List Char)) : Option ListQuery :=
  ofPairs? (Form.parse (query.getD []))

end ListQuery
end IssueTracker
