import IssueTracker.Route.Template

/-! Routers: templates with a handler for each of some methods. A request that
matches a template runs the handler of its method; `HEAD` runs that of `GET`. -/

namespace IssueTracker

universe u

structure Route (η : Type u) where
  path : List Char
  handlers : List (String × η)

abbrev Router (η : Type u) := List (Route η)

/-- The route that takes a path, its template, and what it captures. -/
structure Dispatch (η : Type u) where
  route : Route η
  template : Template
  captures : List Capture

namespace Route

variable {η : Type u}

/-- The template of the path, if the path is the text of one. -/
def template? (r : Route η) : Option Template :=
  (Template.ofChars r.path).toOption

/-- What the route captures of a path, if it takes it. -/
def dispatch? (r : Route η) (path : List Char) : Option (Dispatch η) :=
  r.template?.bind fun t => (t.captures? path).map fun cs => ⟨r, t, cs⟩

def handler? (r : Route η) (method : String) : Option η :=
  (r.handlers.lookup method).or (if method == "HEAD" then r.handlers.lookup "GET" else none)

def methods (r : Route η) : List String :=
  r.handlers.map Prod.fst

/-- The methods of a route in order, `HEAD` along with `GET`. -/
def allow (r : Route η) : List String :=
  let extra := if r.methods.contains "GET" && !r.methods.contains "HEAD" then ["HEAD"] else []
  (r.methods ++ extra).mergeSort fun a b => decide (a ≤ b)

def allowText (r : Route η) : String :=
  ",".intercalate r.allow

end Route

namespace Router

variable {η : Type u}

/-- The routes that take a path. -/
def candidates (rs : Router η) (path : List Char) : List (Dispatch η) :=
  rs.filterMap fun r => r.dispatch? path

/-- Of the routes that take a path, the one that no other is preferred to. -/
def find? (rs : Router η) (path : List Char) : Option (Dispatch η) :=
  let ds := rs.candidates path
  ds.find? fun d => !ds.any fun e => e.template.preferred d.template

end Router
end IssueTracker
