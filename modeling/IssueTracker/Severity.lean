import IssueTracker.Json.Codec

/-! How bad a finding is, and counts per severity. -/

namespace IssueTracker

inductive Severity where
  | error
  | high
  | medium
  | low
  | info
  deriving DecidableEq

namespace Severity

/-- Worst first. -/
def all : List Severity :=
  [.error, .high, .medium, .low, .info]

def name : Severity → String
  | .error => "error"
  | .high => "high"
  | .medium => "medium"
  | .low => "low"
  | .info => "info"

def ofName? : String → Option Severity :=
  Codec.named? all name

def codec : Codec Severity :=
  Codec.enumeration all name

end Severity
end IssueTracker
