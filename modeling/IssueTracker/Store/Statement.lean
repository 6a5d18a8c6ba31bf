import IssueTracker.Text.Hex

/-! Statements by which the store is worked on by hand, as text. What is given for a
table or a column goes into the text as it is: it may be quoted, have blanks and
comments around it, name the part of the database too, or be no name at all. The
first token that cannot stand where it does is what a statement is refused for. -/

namespace IssueTracker

/-- Why a text is no statement. -/
inductive StatementError where
  /-- A token cannot stand where it does. -/
  | near (token : String)
  /-- The text ends too early. -/
  | unfinished
  | unrecognized (token : String)
  /-- There is one value for several columns. -/
  | oneValue (columns : Nat)
  deriving DecidableEq

namespace Statement

inductive TokenKind where
  | blank
  | word
  /-- A name in quotes or brackets. -/
  | quoted
  /-- A text in single quotes. -/
  | literal
  | number
  | parameter
  | sign
  | broken
  deriving DecidableEq

structure Token where
  kind : TokenKind
  text : List Char
  deriving DecidableEq

def isSpace (c : Char) : Bool :=
  c == ' ' || (9 ≤ c.toNat && c.toNat ≤ 13)

/-- The character may stand in a word. -/
def isWordChar (c : Char) : Bool :=
  c.isAlphanum || c == '_' || c == '$' || 128 ≤ c.toNat

/-- How many characters come up to the end of a comment. -/
def commentLength : List Char → Nat
  | '*' :: '/' :: _ => 2
  | _ :: r => commentLength r + 1
  | [] => 0

/-- How many characters come up to the closing quote, which is not written twice. -/
def quoteLength? (q : Char) : List Char → Option Nat
  | [] => none
  | [c] => if c = q then some 1 else none
  | c :: d :: r =>
    if c = q then
      if d = q then (quoteLength? q r).map (· + 2) else some 1
    else (quoteLength? q (d :: r)).map (· + 1)

/-- A digit of a number: how many more there are. -/
def digitRun (cs : List Char) : Nat :=
  (cs.takeWhile Char.isDigit).length

/-- How long a power of ten is, if one comes. -/
def powerRun : List Char → Nat
  | e :: s :: d :: r =>
    if e = 'e' ∨ e = 'E' then
      if s.isDigit then 1 + digitRun (s :: d :: r)
      else if (s = '+' ∨ s = '-') ∧ d.isDigit then 2 + digitRun (d :: r)
      else 0
    else 0
  | [e, s] => if (e = 'e' ∨ e = 'E') ∧ s.isDigit then 2 else 0
  | _ => 0

/-- How many characters a number takes. -/
def numberLength (cs : List Char) : Nat :=
  let whole := digitRun cs
  let fraction :=
    match cs.drop whole with
    | '.' :: r => 1 + digitRun r
    | _ => 0
  whole + fraction + powerRun (cs.drop (whole + fraction))

/-- Signs of more than one character. -/
def longSigns : List (List Char) :=
  ["->>", "<=", "<>", "<<", ">=", ">>", "==", "!=", "||", "->"].map String.toList

def signs : List Char :=
  ['(', ')', ';', '+', '-', '*', '/', '%', '=', '<', '>', ',', '&', '~', '|', '.']

def closed (kind : TokenKind) (r : List Char) : Option Nat → TokenKind × Nat
  | some n => (kind, n)
  | none => (.broken, r.length)

/-- The kind of the token in front, and how many characters it has behind its first. -/
def front (c : Char) (r : List Char) : TokenKind × Nat :=
  if isSpace c && c != '\x0b' then (.blank, (r.takeWhile isSpace).length)
  else if c = '-' ∧ r.head? = some '-' then (.blank, (r.takeWhile (· != '\n')).length)
  else if c = '/' ∧ r.head? = some '*' ∧ 1 < r.length then (.blank, 1 + commentLength (r.drop 1))
  else if c = '"' ∨ c = Char.ofNat 96 then closed .quoted r (quoteLength? c r)
  else if c = Char.ofNat 39 then closed .literal r (quoteLength? c r)
  else if c = '[' then closed .quoted r ((r.findIdx? (· == ']')).map (· + 1))
  else if c.isDigit || (c == '.' && r.head?.any Char.isDigit) then
    let n := numberLength (c :: r) - 1
    let junk := ((r.drop n).takeWhile isWordChar).length
    (if junk = 0 then .number else .broken, n + junk)
  else if c = '?' then (.parameter, digitRun r)
  else if c = '$' ∨ c = '@' ∨ c = '#' ∨ c = ':' then
    let n := (r.takeWhile isWordChar).length
    (if n = 0 then .broken else .parameter, n)
  else if isWordChar c then (.word, (r.takeWhile isWordChar).length)
  else
    match longSigns.find? fun s => s.isPrefixOf (c :: r) with
    | some s => (.sign, s.length - 1)
    | none => (if signs.contains c then .sign else .broken, 0)

/-- The tokens of a text; a zero character ends it. -/
def tokens : List Char → List Token
  | [] => []
  | c :: r =>
    if c.toNat = 0 then []
    else
      let f := front c r
      let rest := tokens (r.drop f.2)
      if f.1 = .blank then rest else ⟨f.1, c :: r.take f.2⟩ :: rest
termination_by cs => cs.length
decreasing_by simp only [List.length_drop, List.length_cons]; omega

/-- Words that are no names unless they are quoted. -/
def reserved : List String :=
  ["ADD", "ALL", "ALTER", "AND", "AS", "AUTOINCREMENT", "BETWEEN", "CASE", "CHECK", "COLLATE",
    "COMMIT", "CONSTRAINT", "CREATE", "DEFAULT", "DEFERRABLE", "DELETE", "DISTINCT", "DROP", "ELSE",
    "ESCAPE", "EXCEPT", "EXISTS", "FOREIGN", "FROM", "GROUP", "HAVING", "IN", "INDEX", "INSERT",
    "INTERSECT", "INTO", "IS", "ISNULL", "JOIN", "LIMIT", "NOT", "NOTHING", "NOTNULL", "NULL", "ON",
    "OR", "ORDER", "PRIMARY", "REFERENCES", "RETURNING", "SELECT", "SET", "TABLE", "THEN", "TO",
    "TRANSACTION", "UNION", "UNIQUE", "UPDATE", "USING", "VALUES", "WHEN", "WHERE"]

def upper (cs : List Char) : String :=
  String.ofList (cs.map Char.toUpper)

/-- A quoted name without its quotes; those written twice are one. -/
def unquote (q : Char) : List Char → List Char
  | [] => []
  | [c] => if c = q then [] else [c]
  | c :: d :: r => if c = q ∧ d = q then q :: unquote q r else c :: unquote q (d :: r)

/-- The name that a token is, if it is one. -/
def Token.name? (t : Token) : Option String :=
  match t.kind, t.text with
  | .word, w => if reserved.contains (upper w) then none else some (String.ofList w)
  | .quoted, '[' :: r => some (String.ofList r.dropLast)
  | .quoted, q :: r => some (String.ofList (unquote q r))
  | .literal, q :: r => some (String.ofList (unquote q r))
  | _, _ => none

/-- The error of tokens that cannot go on so. -/
def unexpected : List Token → StatementError
  | [] => .unfinished
  | t :: _ =>
    if t.kind = .broken then .unrecognized (String.ofList t.text) else .near (String.ofList t.text)

abbrev Reader (α : Type) := StateT (List Token) (Except StatementError) α

/-- Reads a token that `p` takes. -/
def token {α : Type} (p : Token → Option α) : Reader α := do
  let ts ← get
  match ts.head?.bind p with
  | some a =>
    set ts.tail
    return a
  | none => throw (unexpected ts)

def name : Reader String :=
  token Token.name?

def word (w : String) : Reader Unit :=
  token fun t => if t.kind = .word ∧ upper t.text = w then some () else none

def sign (s : String) : Reader Unit :=
  token fun t => if t.kind = .sign ∧ t.text = s.toList then some () else none

/-- A sign for equality, of one character or of two. -/
def equality : Reader Unit :=
  token fun t => if t.kind = .sign ∧ (t.text = ['='] ∨ t.text = ['=', '=']) then some () else none

def parameter : Reader Unit :=
  token fun t => if t.kind = .parameter then some () else none

def finish : Reader Unit := do
  let ts ← get
  if !ts.isEmpty then throw (unexpected ts)

/-- The next token is this sign. -/
def atSign (s : String) : Reader Bool := do
  return (← get).head?.any fun t => t.kind = .sign ∧ t.text = s.toList

/-- The next token is this word. -/
def atWord (w : String) : Reader Bool := do
  return (← get).head?.any fun t => t.kind = .word ∧ upper t.text = w

end Statement

/-- The name of a table, maybe with the part of the database that it is in. -/
structure TableName where
  part : Option String := none
  name : String
  deriving DecidableEq

namespace TableName

def text (n : TableName) : String :=
  match n.part with
  | some p => p ++ "." ++ n.name
  | none => n.name

end TableName

namespace Statement

def tableName : Reader TableName := do
  let n ← name
  if ← atSign "." then
    sign "."
    return ⟨some n, ← name⟩
  else return ⟨none, n⟩

/-- The name of a table, which may be given another for the statement. -/
def aliasedTable : Reader TableName := do
  let n ← tableName
  if ← atWord "AS" then
    word "AS"
    discard name
  return n

/-- The names behind an opening bracket, up to the closing one. -/
def bracketed : Nat → Reader (List String)
  | 0 => return []
  | fuel + 1 => do
    let n ← name
    if ← atSign "," then
      sign ","
      return n :: (← bracketed fuel)
    else
      sign ")"
      return [n]

/-- The columns that are written: one, or some in brackets. -/
def columns : Reader (List String) := do
  if ← atSign "(" then
    sign "("
    bracketed (← get).length
  else return [← name]

/-- The row is chosen by its id. -/
def byId : Reader Unit := do
  word "WHERE"
  word "ID"
  equality
  parameter
  finish

/-- A table and its new name. -/
def renamed : Reader (TableName × String) := do
  word "ALTER"
  word "TABLE"
  let t ← tableName
  word "RENAME"
  word "TO"
  let n ← name
  finish
  return (t, n)

/-- The table that loses a row. -/
def removed : Reader TableName := do
  word "DELETE"
  word "FROM"
  let t ← aliasedTable
  byId
  return t

/-- The table and the column that are written. -/
def written : Reader (TableName × String) := do
  word "UPDATE"
  let t ← aliasedTable
  word "SET"
  let cs ← columns
  equality
  parameter
  match cs with
  | [c] =>
    byId
    return (t, c)
  | _ =>
    word "WHERE"
    throw (.oneValue cs.length)

/-- Reads a statement of one kind. -/
def ofText {α : Type} (r : Reader α) (text : String) : Except StatementError α :=
  (r.run (tokens text.toList)).map Prod.fst

/-- The statement that moves a table out of the way. -/
def moveAway (table : String) : Except StatementError (TableName × String) :=
  ofText renamed ("ALTER TABLE " ++ table ++ " RENAME TO " ++ table ++ "_moved")

/-- The statement that moves a table back. -/
def moveBack (table : String) : Except StatementError (TableName × String) :=
  ofText renamed ("ALTER TABLE " ++ table ++ "_moved RENAME TO " ++ table)

/-- The statement that removes the row of an id. -/
def removeRow (table : String) : Except StatementError TableName :=
  ofText removed ("DELETE FROM " ++ table ++ " WHERE id = $1")

/-- The statement that writes a cell in the row of an id. -/
def writeCell (table column : String) : Except StatementError (TableName × String) :=
  ofText written ("UPDATE " ++ table ++ " SET " ++ column ++ " = $1 WHERE id = $2")

end Statement
end IssueTracker
