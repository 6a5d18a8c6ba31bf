import IssueTracker.Text.Utf8

/-! Request targets: a path, or a path behind a scheme and an authority, or an
authority alone, which has no path. What is kept is the path and the query,
character for character; a fragment is dropped. -/

namespace IssueTracker

structure Uri where
  path : List Char
  query : Option (List Char)
  deriving DecidableEq

namespace Uri

/-- The greatest number of bytes. -/
def maxBytes : Nat := 65534

/-- Characters of a path; the delete character is none. -/
def isPathChar (c : Char) : Bool :=
  let n := c.toNat
  n == 0x21 || (0x24 ≤ n && n ≤ 0x3B) || n == 0x3D || (0x40 ≤ n && n ≤ 0x5F)
    || (0x61 ≤ n && n ≤ 0x7A) || n == 0x7C || n == 0x7E || 0x80 ≤ n
    || c == '"' || c == '{' || c == '}'

/-- Characters of a query. -/
def isQueryChar (c : Char) : Bool :=
  let n := c.toNat
  n == 0x21 || (0x24 ≤ n && n ≤ 0x3B) || n == 0x3D || (0x3F ≤ n && n ≤ 0x7E) || 0x80 ≤ n

def isAlnum (c : Char) : Bool :=
  let n := c.toNat
  (0x30 ≤ n && n ≤ 0x39) || (0x41 ≤ n && n ≤ 0x5A) || (0x61 ≤ n && n ≤ 0x7A)

def isSchemeChar (c : Char) : Bool :=
  isAlnum c || c == '+' || c == '-' || c == '.' || c == '~'

/-- Characters of an authority, apart from the colon, the brackets, `@` and `%`. -/
def isAuthorityChar (c : Char) : Bool :=
  isAlnum c || ['!', '$', '&', '\'', '(', ')', '*', '+', ',', '-', '.', ';', '=', '_', '~'].contains c

/-- What has been seen of an authority. -/
structure Seen where
  colons : Nat := 0
  opened : Bool := false
  closed : Bool := false
  percent : Bool := false
  /-- The last character was `@`. -/
  atSign : Bool := false

namespace Seen

def add (s : Seen) (c : Char) : Option Seen :=
  if c = ':' then
    if s.colons < 8 then some { s with colons := s.colons + 1, atSign := false } else none
  else if c = '[' then
    if s.percent || s.opened then none else some { s with opened := true, atSign := false }
  else if c = ']' then
    if !s.opened || s.closed then none
    else some { s with closed := true, colons := 0, percent := false, atSign := false }
  else if c = '@' then some { s with colons := 0, percent := false, atSign := true }
  else if c = '%' then some { s with percent := true, atSign := false }
  else if isAuthorityChar c then some { s with atSign := false }
  else none

/-- The brackets match, at most one colon is left, which is a port's, something
follows `@`, and a percent sign stood in front of it or in brackets only. -/
def sound (s : Seen) : Bool :=
  s.opened == s.closed && decide (s.colons ≤ 1) && !s.atSign && !s.percent

end Seen

def endsAuthority (c : Char) : Bool :=
  c == '/' || c == '?' || c == '#'

/-- The authority in front is well formed; gives its length and what follows. -/
def authority? (cs : List Char) : Option (Nat × List Char) :=
  let front := cs.takeWhile fun c => !endsAuthority c
  match front.foldlM Seen.add {} with
  | some s => if s.sound then some (front.length, cs.drop front.length) else none
  | none => none

/-- The path and the query; the path may be empty. -/
def pathAndQuery? (cs : List Char) : Option Uri :=
  let whole := cs.takeWhile (· != '#')
  let path := whole.takeWhile (· != '?')
  let query := (whole.drop path.length).drop 1
  if path.all isPathChar then
    if path.length = whole.length then some ⟨path, none⟩
    else if query.all isQueryChar then some ⟨path, some query⟩
    else none
  else none

/-- An empty path after an authority is the root. -/
def rooted (u : Uri) : Uri :=
  if u.path.isEmpty then { u with path := ['/'] } else u

/-- What follows `://`, when a scheme stands in front of it. A scheme has at
most 64 characters; a longer one is refused rather than read as no scheme. -/
inductive Scheme where
  | absent
  | tooLong
  | before (rest : List Char)

def scheme (cs : List Char) : Scheme :=
  let front := cs.takeWhile isSchemeChar
  match cs.drop front.length with
  | ':' :: '/' :: '/' :: rest => if front.length ≤ 64 then .before rest else .tooLong
  | _ => .absent

def ofChars? (cs : List Char) : Option Uri :=
  if cs.isEmpty || decide (maxBytes < (Utf8.encode cs).length) then none
  else if cs = ['*'] then some ⟨['*'], none⟩
  else if cs.head? = some '/' then pathAndQuery? cs
  else
    match scheme cs with
    | .tooLong => none
    | .absent =>
      match authority? cs with
      | some (_, []) => some ⟨[], none⟩
      | _ => none
    | .before rest =>
      match authority? rest with
      | some (n, rest) => if n = 0 then none else (pathAndQuery? rest).map rooted
      | none => none

def ofString? (s : String) : Option Uri :=
  ofChars? s.toList

end Uri
end IssueTracker
