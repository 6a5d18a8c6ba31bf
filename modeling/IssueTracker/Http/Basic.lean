import IssueTracker.Json.Codec
import IssueTracker.Uri

/-! Requests and responses. Names of headers are in lower case. -/

namespace IssueTracker

structure Request where
  method : String
  uri : Uri
  headers : List (String × String)
  body : List UInt8

namespace Request

/-- The first value of a header. -/
def header? (r : Request) (name : String) : Option String :=
  r.headers.lookup name

end Request

inductive Body where
  | empty
  | json (v : Json)
  | text (s : String)

namespace Body

def contentType? : Body → Option String
  | .empty => none
  | .json _ => some "application/json"
  | .text _ => some "text/plain; charset=utf-8"

end Body

structure Response where
  status : Nat
  headers : List (String × String)
  body : Body

namespace Response

/-- A response with the content type of its body. -/
def of (status : Nat) (body : Body) : Response :=
  ⟨status, (body.contentType?.map fun t => ("content-type", t)).toList, body⟩

def withHeader (r : Response) (name value : String) : Response :=
  { r with headers := r.headers ++ [(name, value)] }

/-- The same response without what is in its body. -/
def withoutBody (r : Response) : Response :=
  { r with body := .empty }

def isSuccess (r : Response) : Bool :=
  decide (200 ≤ r.status) && decide (r.status < 300)

end Response

/-- Characters of a method or of the name of a header. -/
def isTokenChar (c : Char) : Bool :=
  Uri.isAlnum c
    || ['!', '#', '$', '%', '&', '\'', '*', '+', '-', '.', '^', '_', '\x60', '|', '~'].contains c

/-- A method is one or more token characters. -/
def isMethod (s : String) : Bool :=
  !s.isEmpty && s.toList.all isTokenChar

/-- The name of a header is made like a method, and is not longer than 65535. -/
def isHeaderName (s : String) : Bool :=
  isMethod s && decide (s.length ≤ 65535)

/-- A value holds no control characters, the tab aside. -/
def isHeaderValue (s : String) : Bool :=
  s.toList.all fun c => (32 ≤ c.toNat && c.toNat != 127) || c == '\t'

/-- A value that is ASCII throughout. -/
def isAsciiValue (s : String) : Bool :=
  s.toList.all fun c => c.toNat < 128

end IssueTracker
