import IssueTracker.Json.Codec

/-! Records: values written as objects with named members in a fixed order. A
record is read from an object, where the order does not matter, other names
are ignored and a name of the record may not come twice, or from an array of
the members in order, where members at the end may be missing. `Record.and`
puts two records side by side; a structure is a record through the tuple of
its fields. -/

namespace IssueTracker

structure Record (α : Type) where
  names : List String
  encode : α → List (String × Json)
  /-- Reads from a look-up of the members that are there. -/
  decode : (String → Option Json) → Option α

namespace Record

variable {α β : Type}

/-- A member that has to be there. -/
def required (name : String) (c : Codec α) : Record α where
  names := [name]
  encode a := [(name, c.encode a)]
  decode find := (find name).bind c.decode

/-- A member that is left out when there is no value; `null` is no value. -/
def optional (name : String) (c : Codec α) : Record (Option α) where
  names := [name]
  encode
    | none => []
    | some a => [(name, c.encode a)]
  decode find :=
    match find name with
    | none => some none
    | some .null => some none
    | some j => (c.decode j).map some

/-- A member that is always written and may be missing. -/
def defaulted (name : String) (c : Codec α) (default : α) : Record α where
  names := [name]
  encode a := [(name, c.encode a)]
  decode find :=
    match find name with
    | none => some default
    | some j => c.decode j

/-- The members of one record, then those of another. -/
def and (r : Record α) (s : Record β) : Record (α × β) where
  names := r.names ++ s.names
  encode p := r.encode p.1 ++ s.encode p.2
  decode find :=
    match r.decode find, s.decode find with
    | some a, some b => some (a, b)
    | _, _ => none

/-- The same members for another type. -/
def via (r : Record α) (into : α → β) (out : β → α) : Record β where
  names := r.names
  encode b := r.encode (out b)
  decode find := (r.decode find).map into

/-- The members with names among `names`, which may not come twice; every name
has to be text. -/
def known? (names : List String) : List (String × Json) → List (Json.Quoted × Json) →
    Option (List (String × Json))
  | found, [] => some found
  | found, (q, v) :: r =>
    match q.text? with
    | none => none
    | some k =>
      if names.contains k then
        if (found.lookup k).isSome then none else known? names ((k, v) :: found) r
      else known? names found r

/-- The members of a record in either of its forms. -/
def members? (names : List String) : Json → Option (List (String × Json))
  | .obj ms => known? names [] ms
  | .arr items => if items.length ≤ names.length then some (names.zip items) else none
  | _ => none

/-- An object with these members. -/
def object (ms : List (String × Json)) : Json :=
  .obj (ms.map fun m => (Json.Quoted.ofString m.1, m.2))

def codec (r : Record α) : Codec α where
  encode a := object (r.encode a)
  decode j := (members? r.names j).bind fun ms => r.decode fun k => List.lookup k ms

end Record
end IssueTracker
