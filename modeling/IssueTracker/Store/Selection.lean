import IssueTracker.Paging
import IssueTracker.Sorting
import IssueTracker.Store.Issues

/-! Lists of issues: which rows a filter selects, in what order, and which part
of them is a page. Rows are compared as they are stored, so an instant sorts by
its text; rows that compare equal stay in the order of their numbers. -/

namespace IssueTracker

structure IssueFilter where
  project : Option Uuid := none
  target : Option Uuid := none
  severity : Option Severity := none
  confirmed : Option Bool := none
  falsePositive : Option Bool := none
  muted : Option Bool := none
  resolved : Option Bool := none
  /-- Looked for in the summary and the description, in either case of ASCII letters. -/
  search : Option String := none
  /-- Restricts the list to projects this user owns or is a member of. -/
  visibleTo : Option Uuid := none

/-- One list stands somewhere in another. -/
def containsRun {α : Type} [BEq α] (part : List α) : List α → Bool
  | [] => part.isEmpty
  | a :: r => part.isPrefixOf (a :: r) || containsRun part r

/-- The term stands in the text, whatever the case of ASCII letters in either. -/
def mentions (term text : String) : Bool :=
  containsRun (term.toList.map Char.toLower) (text.toList.map Char.toLower)

namespace Store

/-- A truth value in the store is the one wanted, if one is. -/
def flagIs (s : Store) (i : Issue) (column : String) (own : Bool) (want : Option Bool) : Bool :=
  match want with
  | none => true
  | some b =>
    match s.edited .issues i.id column with
    | none => own == b
    | some text => Affinity.integer? text == some (if b then 1 else 0)

def severityText (s : Store) (i : Issue) : String :=
  (s.edited .issues i.id "severity").getD i.severity.name

def selects (s : Store) (f : IssueFilter) (i : Issue) : Bool :=
  f.project.all (· == i.project)
    && f.target.all (· == i.target)
    && f.severity.all (fun v => v.name == s.severityText i)
    && s.flagIs i "confirmed" i.confirmed f.confirmed
    && s.flagIs i "false_positive" i.falsePositive f.falsePositive
    && s.flagIs i "muted" i.muted f.muted
    && s.flagIs i "resolved" i.resolved f.resolved
    && f.search.all (fun t => mentions t i.summary || mentions t i.desc)
    && f.visibleTo.all (fun u => (s.visibleProjects u).contains i.project)

def selected (s : Store) (f : IssueFilter) : List Issue :=
  s.issues.filter (s.selects f)

/-- The text by which a column sorts; no text comes first. -/
def sortText (s : Store) (i : Issue) (column : String) : Option String :=
  match column with
  | "created" => some ((s.edited .issues i.id "created").getD i.created.stored)
  | "updated" => some ((s.edited .issues i.id "updated").getD i.updated.stored)
  | "severity" => some (s.severityText i)
  | "summary" => some i.summary
  | "uniq_id" => i.uniqId
  | _ => none

/-- No text is before any text, and texts are in the order of their code points. -/
def textLe : Option String → Option String → Bool
  | none, _ => true
  | some _, none => false
  | some a, some b => decide (a ≤ b)

/-- The order of the keys, the first one deciding first. -/
def keysLe (s : Store) : List SortKey → Issue → Issue → Bool
  | [], _, _ => true
  | k :: ks, a, b =>
    let x := s.sortText a k.column
    let y := s.sortText b k.column
    let le := if k.descending then textLe y x else textLe x y
    let ge := if k.descending then textLe x y else textLe y x
    if le && ge then keysLe s ks a b else le

def sorted (s : Store) (keys : List SortKey) (is : List Issue) : List Issue :=
  is.mergeSort (s.keysLe keys)

/-- The part of a list from `skip` on, at most `limit` long; a negative limit is
none, a negative skip is zero. -/
def window {α : Type} (p : Page) (as : List α) : List α :=
  let rest := as.drop p.skip.toInt.toNat
  if p.limit < 0 then rest else rest.take p.limit.toInt.toNat

/-- The tables that a filter reads. -/
def filterTables (f : IssueFilter) : List Table :=
  if f.visibleTo.isSome then [.issues, .members, .projects] else [.issues]

def countIssues (f : IssueFilter) : Query Int64 :=
  .read fun s => do
    s.need (filterTables f)
    return Int64.ofNat (s.selected f).length

/-- The greatest number of terms by which rows are ordered, the last of which is their
number. -/
def maxTerms : Nat := 2000

def pageIssues (f : IssueFilter) (keys : List SortKey) (p : Page) : Query (List Issue) :=
  .read fun s => do
    s.need (filterTables f)
    if maxTerms < keys.length + 1 then throw .tooManyTerms
    (window p (s.sorted keys (s.selected f))).mapM s.viewIssue

end Store
end IssueTracker
