import IssueTracker.Issue.Patch
import IssueTracker.Json.Described

/-! The rules a patch has to keep. Lengths count code points and list entries.
A new issue also needs a summary and a severity; those are asked for once the
lengths are right. Violations are listed by the name of the field. -/

namespace IssueTracker

inductive Field where
  | desc
  | extras
  | references
  | severity
  | summary
  | uniqId
  | urls
  deriving DecidableEq

namespace Field

def name : Field → String
  | .desc => "desc"
  | .extras => "extras"
  | .references => "references"
  | .severity => "severity"
  | .summary => "summary"
  | .uniqId => "uniq_id"
  | .urls => "urls"

end Field

/-- How long a field may be. -/
structure Bounds where
  least : Option Nat
  most : Nat
  deriving DecidableEq

namespace Bounds

def admits (b : Bounds) (n : Nat) : Bool :=
  decide ((b.least.getD 0) ≤ n) && decide (n ≤ b.most)

end Bounds

/-- What is wrong with a field. -/
inductive Flaw where
  | length (bounds : Bounds) (value : Json)
  | required

structure Violation where
  field : Field
  flaw : Flaw

namespace Flaw

def code : Flaw → String
  | .length .. => "length"
  | .required => "required"

def limit (name : String) (n : Nat) : List Char :=
  '"' :: (name.toList ++ "\": Number(".toList ++ Decimal.chars n ++ "), ".toList)

/-- The parameters of the rule and the value that broke it. -/
def parameters : Flaw → List Char
  | .length b v =>
    limit "max" b.most ++ (b.least.map (limit "min")).getD []
      ++ "\"value\": ".toList ++ v.described
  | .required => []

end Flaw

namespace Violation

def chars (v : Violation) : List Char :=
  v.field.name.toList ++ ": Validation error: ".toList ++ v.flaw.code.toList
    ++ " [".toList ++ '{' :: (v.flaw.parameters ++ ['}', ']'])

/-- One line per violation. -/
def report (vs : List Violation) : String :=
  String.ofList (List.intercalate ['\n'] (vs.map chars))

end Violation

namespace Patch

def uniqIdBounds : Bounds := ⟨none, 255⟩

def summaryBounds : Bounds := ⟨some 3, 120⟩

def descBounds : Bounds := ⟨none, 10000⟩

def listBounds : Bounds := ⟨none, 100⟩

/-- The violation of a present field that is too short or too long. -/
def outside {α : Type} (field : Field) (b : Bounds) (size : α → Nat) (c : Codec α)
    (value : Option α) : List Violation :=
  match value with
  | some a => if b.admits (size a) then [] else [⟨field, .length b (c.encode a)⟩]
  | none => []

/-- The fields whose length is out of bounds. -/
def tooLong (p : Patch) : List Violation :=
  outside .desc descBounds String.length .text p.desc
    ++ outside .extras listBounds List.length (.list Extra.codec) p.extras
    ++ outside .references listBounds List.length (.list Reference.codec) p.references
    ++ outside .summary summaryBounds String.length .text p.summary
    ++ outside .uniqId uniqIdBounds String.length .text p.uniqId
    ++ outside .urls listBounds List.length (.list IssueUrl.codec) p.urls

/-- The fields that a new issue lacks. -/
def missing (p : Patch) : List Violation :=
  (if p.severity.isNone then [⟨.severity, .required⟩] else [])
    ++ (if (p.summary.getD "").isEmpty then [⟨.summary, .required⟩] else [])

/-- What is wrong with a patch of an issue that exists. -/
def violations (p : Patch) : List Violation :=
  p.tooLong

/-- What is wrong with a patch that makes a new issue. -/
def creationViolations (p : Patch) : List Violation :=
  if p.tooLong.isEmpty then p.missing else p.tooLong

end Patch
end IssueTracker
