import IssueTracker.Issue.Basic

/-! Patches: the part of an issue that callers write. Every field may be
absent, which leaves the issue's own value. `apply` merges a patch into an
issue; `affectsSummary` says whether that moves the issue between the counts of
its target. -/

namespace IssueTracker

structure Patch where
  /-- The target's id as text. Read only when an issue is created. -/
  target : Option String := none
  uniqId : Option String := none
  summary : Option String := none
  desc : Option String := none
  severity : Option Severity := none
  urls : Option (List IssueUrl) := none
  extras : Option (List Extra) := none
  references : Option (List Reference) := none
  confirmed : Option Bool := none
  falsePositive : Option Bool := none
  muted : Option Bool := none
  resolved : Option Bool := none
  deriving DecidableEq

namespace Patch

def record : Record Patch :=
  ((Record.optional "target" .text).and
    ((Record.optional "uniqId" .text).and
    ((Record.optional "summary" .text).and
    ((Record.optional "desc" .text).and
    ((Record.optional "severity" Severity.codec).and
    ((Record.optional "urls" (.list IssueUrl.codec)).and
    ((Record.optional "extras" (.list Extra.codec)).and
    ((Record.optional "references" (.list Reference.codec)).and
    ((Record.optional "confirmed" .bool).and
    ((Record.optional "false" .bool).and
    ((Record.optional "muted" .bool).and
    (.optional "resolved" .bool)))))))))))).via
    (fun (t, q, s, d, v, u, e, r, c, f, m, o) => ⟨t, q, s, d, v, u, e, r, c, f, m, o⟩)
    (fun p => (p.target, p.uniqId, p.summary, p.desc, p.severity, p.urls, p.extras, p.references,
      p.confirmed, p.falsePositive, p.muted, p.resolved))

def codec : Codec Patch := record.codec

/-- The stored form of a unique id: the empty text means none. -/
def storedUniqId (s : String) : Option String :=
  if s.isEmpty then none else some s

/-- The issue with the present fields replaced. -/
def apply (p : Patch) (i : Issue) : Issue :=
  { i with
    uniqId := (p.uniqId.map storedUniqId).getD i.uniqId
    summary := p.summary.getD i.summary
    desc := p.desc.getD i.desc
    severity := p.severity.getD i.severity
    urls := p.urls.getD i.urls
    extras := p.extras.getD i.extras
    references := p.references.getD i.references
    confirmed := p.confirmed.getD i.confirmed
    falsePositive := p.falsePositive.getD i.falsePositive
    muted := p.muted.getD i.muted
    resolved := p.resolved.getD i.resolved }

/-- A present value that differs from the one in place. -/
def differs {α : Type} [DecidableEq α] (new : Option α) (old : α) : Bool :=
  match new with
  | some a => a != old
  | none => false

/-- Merging changes the severity or one of the flags that open counts depend on. -/
def affectsSummary (p : Patch) (i : Issue) : Bool :=
  differs p.severity i.severity || differs p.falsePositive i.falsePositive
    || differs p.muted i.muted || differs p.resolved i.resolved

end Patch
end IssueTracker
