import IssueTracker.Json.Record
import IssueTracker.Route.Clash
import IssueTracker.Route.Router
import IssueTracker.Text.Quoted

/-! Resources: a base path, the name of an id, and a list of calls, each of them
an operation with its handler and its documentation. The routes and the
documentation are both read off the calls, in their order. -/

namespace IssueTracker

universe u

/-- What is known of an operation without its handler. -/
structure RouteDoc where
  method : String
  path : String
  operation : String
  /-- The type of the request's body. -/
  reads : Option String
  /-- The type of the response's body. -/
  writes : Option String
  /-- The statuses it may answer with, in ascending order. -/
  returns : List Nat
  deriving DecidableEq

namespace RouteDoc

/-- Statuses that every operation may answer with. -/
def commonStatuses : List Nat := [401, 403, 500]

/-- Statuses in ascending order, each once. -/
def statuses (own : List Nat) : List Nat :=
  ((own ++ commonStatuses).mergeSort fun a b => decide (a ≤ b)).eraseDups

def text (s : String) : Json :=
  Codec.text.encode s

def maybe : Option String → Json
  | some s => text s
  | none => .null

def toJson (d : RouteDoc) : Json :=
  Record.object [
    ("method", text d.method),
    ("path", text d.path),
    ("operation", text d.operation),
    ("reads", maybe d.reads),
    ("writes", maybe d.writes),
    ("returns", .arr (d.returns.map fun n : Nat => .num (Json.Numeral.ofInt n)))]

end RouteDoc

/-- What an operation is about: all of a resource, one of them, or what belongs
to one of them. -/
inductive Place where
  | collection
  | item
  | nested (segment : List Char)
  deriving DecidableEq

structure Call (η : Type u) where
  place : Place
  method : String
  operation : String
  reads : Option String
  writes : Option String
  own : List Nat
  handler : η

structure Resource (η : Type u) where
  /-- The name of the type of one of them. -/
  typeName : String
  base : List Char
  param : List Char
  calls : List (Call η) := []

/-- Why a resource has no router. -/
inductive RouteError where
  | overlap (method : String)
  | emptyPath
  | noSlash
  | colon
  | asterisk
  | template (path : List Char) (e : TemplateError)
  | clash (path : List Char) (c : Clash)
  deriving DecidableEq

namespace RouteError

def clashText : Clash → String
  | .conflict t =>
    "Insertion failed due to conflict with previously registered route: " ++ String.ofList t.text
  | .remainderInside => "Catch-all parameters are only allowed at the end of a route"

def invalid (path : List Char) (why : String) : String :=
  "Invalid route " ++ String.ofList (quoted path) ++ ": " ++ why

def message : RouteError → String
  | .overlap method =>
    "Overlapping method route. Cannot add two method routes that both handle `" ++ method ++ "`"
  | .emptyPath => "Paths must start with a `/`. Use \"/\" for root routes"
  | .noSlash => "Paths must start with a `/`"
  | .colon => "Path segments must not start with `:`. For capture groups, use `\x7bcapture\x7d`. If you meant to literally match a segment starting with a colon, call `without_v07_checks` on the router."
  | .asterisk => "Path segments must not start with `*`. For wildcard capture, use `\x7b*wildcard\x7d`. If you meant to literally match a segment starting with an asterisk, call `without_v07_checks` on the router."
  | .template path .name => invalid path "Parameters must be registered with a valid name"
  | .template path .segment => invalid path "Only one parameter is allowed per path segment"
  | .template _ .tooMany => "Too many route parameters."
  | .clash path c => invalid path (clashText c)

/-- What is wrong with a path by itself, if anything. -/
def ofPath? (path : List Char) : Option RouteError :=
  if path.isEmpty then some .emptyPath
  else if path.head? != some '/' then some .noSlash
  else
    (pieces '/' path).findSome? fun p =>
      match p with
      | ':' :: _ => some .colon
      | '*' :: _ => some .asterisk
      | _ => none

/-- What is wrong with a path as a template beside earlier ones, if anything. -/
def check (earlier : List Template) (path : List Char) : Except RouteError Template :=
  match ofPath? path with
  | some e => .error e
  | none =>
    match Template.ofChars path with
    | .error e => .error (.template path e)
    | .ok t =>
      match Clash.among t earlier with
      | some c => .error (.clash path c)
      | none => .ok t

/-- The first thing that is wrong with some paths, in their order. -/
def ofPaths? : List Template → List (List Char) → Option RouteError
  | _, [] => none
  | earlier, p :: ps =>
    match check earlier p with
    | .error e => some e
    | .ok t => ofPaths? (earlier ++ [t]) ps

end RouteError

namespace Resource

variable {η : Type u}

def itemPath (r : Resource η) : List Char :=
  r.base ++ '/' :: '{' :: (r.param ++ ['}'])

def path (r : Resource η) : Place → List Char
  | .collection => r.base
  | .item => r.itemPath
  | .nested segment => r.itemPath ++ '/' :: segment

def doc (r : Resource η) (c : Call η) : RouteDoc where
  method := c.method
  path := String.ofList (r.path c.place)
  operation := c.operation
  reads := c.reads
  writes := c.writes
  returns := RouteDoc.statuses c.own

/-- One record for each call. -/
def docs (r : Resource η) : List RouteDoc :=
  r.calls.map r.doc

def add (r : Resource η) (c : Call η) : Resource η :=
  { r with calls := r.calls ++ [c] }

/-- `GET` on the collection; `envelope` is the type of a list. -/
def list (r : Resource η) (envelope : String) (h : η) : Resource η :=
  r.add ⟨.collection, "GET", "list", none, some envelope, [200, 400], h⟩

/-- `POST` on the collection. -/
def create (r : Resource η) (payload : String) (h : η) : Resource η :=
  r.add ⟨.collection, "POST", "create", some payload, some r.typeName, [201, 400, 409], h⟩

/-- `GET` on one resource. -/
def get (r : Resource η) (h : η) : Resource η :=
  r.add ⟨.item, "GET", "get", none, some r.typeName, [200, 400, 404], h⟩

/-- `PUT` on one resource. -/
def update (r : Resource η) (payload : String) (h : η) : Resource η :=
  r.add ⟨.item, "PUT", "update", some payload, some r.typeName, [200, 400, 404, 409], h⟩

/-- `DELETE` on one resource. -/
def delete (r : Resource η) (h : η) : Resource η :=
  r.add ⟨.item, "DELETE", "delete", none, none, [204, 400, 404], h⟩

/-- `GET` on what belongs to one resource. -/
def subList (r : Resource η) (segment : List Char) (operation envelope : String) (h : η) :
    Resource η :=
  r.add ⟨.nested segment, "GET", operation, none, some envelope, [200, 404], h⟩

/-- `POST` on what belongs to one resource. -/
def subCreate (r : Resource η) (segment : List Char) (operation payload response : String)
    (h : η) : Resource η :=
  r.add ⟨.nested segment, "POST", operation, some payload, some response, [201, 400, 404], h⟩

/-- The places that have a route: the collection and the item always, and what
is nested in the order in which it was last added to. -/
def places (r : Resource η) : List Place :=
  .collection :: .item :: r.calls.foldl
    (fun ps c =>
      match c.place with
      | .nested s => ps.filter (· != .nested s) ++ [.nested s]
      | _ => ps) []

def route (r : Resource η) (p : Place) : Route η where
  path := r.path p
  handlers := (r.calls.filter fun c => c.place == p).map fun c => (c.method, c.handler)

def routes (r : Resource η) : Router η :=
  r.places.map r.route

/-- The first call that has the method and the place of an earlier one. -/
def overlap? : List (Call η) → List (Call η) → Option RouteError
  | _, [] => none
  | earlier, c :: rest =>
    if earlier.any fun e => e.place == c.place && e.method == c.method then
      some (.overlap c.method)
    else overlap? (c :: earlier) rest

/-- What keeps the resource from having a router, if anything. -/
def error? (r : Resource η) : Option RouteError :=
  (overlap? [] r.calls).or (RouteError.ofPaths? [] (r.places.map r.path))

end Resource
end IssueTracker
