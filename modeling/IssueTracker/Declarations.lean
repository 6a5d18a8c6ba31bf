import IssueTracker.Service.Operations

/-! TypeScript declarations of the types on the wire, for clients written in that
language, and the table of operations beside them. -/

namespace IssueTracker
namespace TypeScript

inductive Ty where
  | text
  | flag
  | whole
  | named (name : String)
  | listOf (item : Ty)

namespace Ty

def render : Ty → String
  | .text => "string"
  | .flag => "boolean"
  | .whole => "bigint"
  | .named name => name
  | .listOf item => "Array<" ++ item.render ++ ">"

end Ty

structure Property where
  name : String
  ty : Ty
  optional : Bool := false
  note : Option String := none

namespace Property

/-- A note stands on lines of its own in front of the property. -/
def render (p : Property) : String :=
  (match p.note with
    | some n => "\n/**\n * " ++ n ++ "\n */\n"
    | none => "")
    ++ p.name ++ (if p.optional then "?: " else ": ") ++ p.ty.render ++ ", "

end Property

inductive Declaration where
  | oneOf (name : String) (values : List String)
  | shape (name : String) (properties : List Property)

namespace Declaration

def render : Declaration → String
  | .oneOf name values =>
    "type " ++ name ++ " = " ++ " | ".intercalate (values.map fun v => "\"" ++ v ++ "\"") ++ ";"
  | .shape name properties =>
    "type " ++ name ++ " = \x7b " ++ String.join (properties.map Property.render) ++ "\x7d;"

end Declaration

def required (name : String) (ty : Ty) : Property := ⟨name, ty, false, none⟩

def optional (name : String) (ty : Ty) : Property := ⟨name, ty, true, none⟩

/-- The page of a listing, beside its results. -/
def pageProperties : List Property :=
  [required "count" .whole, optional "previous" .text, optional "next" .text]

def declarations : List Declaration :=
  [.oneOf "Severity" (Severity.all.map Severity.name),
    .shape "IssueUrl" [required "url" .text, optional "method" .text],
    .shape "Extra" [required "url" .text, required "title" .text],
    .shape "Reference" [required "url" .text, required "title" .text],
    .oneOf "ActivityType" (ActivityKind.all.map ActivityKind.name),
    .shape "Activity" [required "type" (.named "ActivityType"), required "created" .text,
      optional "user" .text],
    .shape "TargetIssue" [required "id" .text, required "project" .text, required "target" .text,
      optional "uniqId" .text, required "summary" .text, required "desc" .text,
      required "severity" (.named "Severity"), required "urls" (.listOf (.named "IssueUrl")),
      required "extras" (.listOf (.named "Extra")),
      required "references" (.listOf (.named "Reference")), required "confirmed" .flag,
      required "false" .flag, required "muted" .flag, required "resolved" .flag,
      required "activities" (.listOf (.named "Activity")), required "created" .text,
      required "updated" .text],
    .shape "TargetIssueEntity" [
      { name := "target", ty := .text, optional := true
        note := some "Target id. Only read on create." },
      optional "uniqId" .text, optional "summary" .text, optional "desc" .text,
      optional "severity" (.named "Severity"), optional "urls" (.listOf (.named "IssueUrl")),
      optional "extras" (.listOf (.named "Extra")),
      optional "references" (.listOf (.named "Reference")), optional "confirmed" .flag,
      optional "falsePositive" .flag, optional "muted" .flag, optional "resolved" .flag],
    .shape "Meta" pageProperties,
    .shape "TargetIssueList" (required "results" (.listOf (.named "TargetIssue")) :: pageProperties),
    .oneOf "CommentType" (CommentKind.all.map CommentKind.name),
    .shape "Comment" [required "id" .text, required "owner" .text,
      required "type" (.named "CommentType"), required "link" .text, required "text" .text,
      required "created" .text, required "updated" .text],
    .shape "CommentEntity" [required "text" .text],
    .shape "CommentList" (required "results" (.listOf (.named "Comment")) :: pageProperties),
    .shape "TargetSummary" [required "error" .whole, required "high" .whole,
      required "medium" .whole, required "low" .whole, required "info" .whole],
    .shape "Target" [required "id" .text, required "project" .text, required "name" .text,
      required "summary" (.named "TargetSummary"), required "created" .text,
      required "updated" .text],
    .shape "Project" [required "id" .text, required "name" .text, required "owner" .text,
      required "created" .text],
    .shape "User" [required "id" .text, required "email" .text, required "nickname" .text,
      required "admin" .flag]]

/-- The table of operations as JSON over lines. -/
def routeTable : String :=
  (Json.arr (Service.issues.docs.map RouteDoc.toJson)).layout

/-- The whole file. -/
def output : String :=
  "// Generated by issue-server-generate-types. Do not edit.\n\n"
    ++ String.join (declarations.map fun d => "export " ++ d.render ++ "\n\n")
    ++ "export const ISSUE_ROUTES = " ++ routeTable ++ " as const;\n"

end TypeScript
end IssueTracker
