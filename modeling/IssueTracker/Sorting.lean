import IssueTracker.Text.Blank
import IssueTracker.Text.Pieces

/-! Sort orders: a list of columns, each ascending or, after a minus sign,
descending. Columns that are not allowed are dropped. -/

namespace IssueTracker

structure SortKey where
  column : String
  descending : Bool
  deriving DecidableEq

namespace SortKey

/-- The key of one field, blanks around it aside. -/
def ofField? (allowed : List String) (field : List Char) : Option SortKey :=
  let (name, descending) :=
    match trim field with
    | '-' :: r => (r, true)
    | cs => (cs, false)
  (allowed.find? fun a => a == String.ofList name).map fun a => ⟨a, descending⟩

def parse (allowed : List String) (raw : List Char) : List SortKey :=
  (pieces ',' raw).filterMap (ofField? allowed)

end SortKey
end IssueTracker
