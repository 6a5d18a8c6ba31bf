import IssueTracker.Store.Selection

/-! The summaries of targets: counting the open issues of a target by severity,
and writing the counts into its row. -/

namespace IssueTracker
namespace Store

/-- The issue belongs to the target and is open, as stored. -/
def opens (s : Store) (target : Uuid) (i : Issue) : Bool :=
  i.target == target
    && s.flagIs i "false_positive" i.falsePositive (some false)
    && s.flagIs i "muted" i.muted (some false)
    && s.flagIs i "resolved" i.resolved (some false)

/-- The open issues of a target. -/
def openIssues (s : Store) (target : Uuid) : List Issue :=
  s.issues.filter (s.opens target)

/-- How many of these issues have the severity, as stored. -/
def countSeverity (s : Store) (is : List Issue) (v : Severity) : Nat :=
  is.countP fun i => s.severityText i == v.name

/-- The open issues of a target by severity; severities without any are left out. -/
def openCounts (target : Uuid) : Query (List (Severity × Int64)) :=
  .read fun s => do
    s.need [.issues]
    let is := s.openIssues target
    if is.any fun i => (Severity.ofName? (s.severityText i)).isNone then throw .undecodable
    return (Severity.all.filter fun v => 0 < s.countSeverity is v).map fun v =>
      (v, Int64.ofNat (s.countSeverity is v))

/-- The store with the summary of a target written. -/
def putSummary (s : Store) (target : Uuid) (v : Summary) (now : Timestamp) : Store :=
  let put := fun (t : Target) =>
    if t.id == target then { t with summary := v, updated := now } else t
  { s with targets := s.targets.map put }.forgetCells .targets target ["summary", "updated"]

/-- Writes the summary of a target; says whether there is such a target. -/
def writeSummary (target : Uuid) (v : Summary) (now : Timestamp) : Query Bool :=
  .write fun s => do
    s.need [.targets]
    return ((s.findTargetRow target).isSome, s.putSummary target v now)

end Store
end IssueTracker
