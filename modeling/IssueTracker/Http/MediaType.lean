import IssueTracker.Http.Basic

/-! Media types, as far as it takes to tell JSON from the rest. A type is read
to its end, parameters included; one that is malformed anywhere is none. -/

namespace IssueTracker

structure MediaType where
  kind : List Char
  subtype : List Char
  /-- What follows the last plus sign of the subtype. -/
  suffix : Option (List Char)
  deriving DecidableEq

namespace MediaType

/-- Parameters, read one character at a time. -/
inductive Parameters where
  /-- Where a parameter may begin; blanks may stand here. -/
  | start
  | name
  /-- Just after the equals sign. -/
  | value
  | token
  /-- Just after the opening quote. -/
  | quote
  | text
  | closed

namespace Parameters

/-- What may stand between quotes. -/
def isTextChar (c : Char) : Bool :=
  32 ≤ c.toNat && c.toNat != 127

def step : Parameters → Char → Option Parameters
  | .start, c => if c = ' ' then some .start else if isTokenChar c then some .name else none
  | .name, c => if isTokenChar c then some .name else if c = '=' then some .value else none
  | .value, c => if c = '"' then some .quote else if isTokenChar c then some .token else none
  | .token, c => if isTokenChar c then some .token else if c = ';' then some .start else none
  | .quote, c => if isTextChar c then some .text else none
  | .text, c => if c = '"' then some .closed else if isTextChar c then some .text else none
  | .closed, c => if c = ';' then some .start else if c = ' ' then some .closed else none

/-- Parameters may end here. -/
def complete : Parameters → Bool
  | .start | .value | .token | .closed => true
  | _ => false

def wellFormed (cs : List Char) : Bool :=
  match cs.foldlM step Parameters.start with
  | some p => p.complete
  | none => false

end Parameters

/-- The subtype up to its last plus sign, the first character aside, and what
follows the sign. -/
def splitSuffix (cs : List Char) : List Char × Option (List Char) :=
  let back := cs.reverse.takeWhile (· != '+')
  let front := cs.take (cs.length - back.length - 1)
  if front.isEmpty || back.length = cs.length then (cs, none) else (front, some back.reverse)

def ofChars? (cs : List Char) : Option MediaType :=
  let kind := cs.takeWhile isTokenChar
  match cs.drop kind.length with
  | '/' :: rest =>
    let sub := rest.takeWhile isTokenChar
    if kind.isEmpty || sub.isEmpty && !rest.isEmpty then none
    else
      let parts := splitSuffix (sub.map Char.toLower)
      let whole : MediaType := ⟨kind.map Char.toLower, parts.1, parts.2⟩
      match rest.drop sub.length with
      | [] => some whole
      | ';' :: ps => if Parameters.wellFormed ps then some whole else none
      | _ => none
  | _ => none

/-- `application/json`, or an application type with `json` as its suffix. -/
def isJson (m : MediaType) : Bool :=
  m.kind == ['a', 'p', 'p', 'l', 'i', 'c', 'a', 't', 'i', 'o', 'n']
    && (m.subtype == ['j', 's', 'o', 'n'] || m.suffix == some ['j', 's', 'o', 'n'])

end MediaType

namespace Request

/-- The greatest number of bytes of a body that is read. -/
def maxBody : Nat := 2097152

/-- The request says that its body is JSON. -/
def saysJson (r : Request) : Bool :=
  match r.header? "content-type" with
  | some v => isAsciiValue v && ((MediaType.ofChars? v.toList).map MediaType.isJson).getD false
  | none => false

/-- The value that the body writes. -/
def entity? {α : Type} (r : Request) (c : Codec α) : Option α :=
  if r.saysJson && decide (r.body.length ≤ maxBody) then c.readBytes? (Utf8.decode r.body) else none

end Request
end IssueTracker
