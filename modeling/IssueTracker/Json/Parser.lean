import IssueTracker.Json.Token

/-! The parser: a stack of the arrays and objects that are open, folded over
the tokens. It never looks ahead and never recurses, so nesting is limited by
nothing. -/

namespace IssueTracker
namespace Json

/-- An array or object that is open, with what it holds so far, last first. An
object waits for the value of the member named last. -/
inductive Frame where
  | array (items : List Json)
  | object (members : List (Quoted × Json)) (name : Quoted)

/-- What the parser expects, within the open frames, innermost first. -/
inductive State where
  | value (outer : List Frame)
  | item (outer : List Frame)
  | member (outer : List Frame)
  | name (members : List (Quoted × Json)) (outer : List Frame)
  | colon (members : List (Quoted × Json)) (name : Quoted) (outer : List Frame)
  | after (v : Json) (outer : List Frame)

namespace State

/-- A token where a value has to begin. -/
def begin (outer : List Frame) : Token → Option State
  | .null => some (.after .null outer)
  | .bool b => some (.after (.bool b) outer)
  | .num n => some (.after (.num n) outer)
  | .str s => some (.after (.str s) outer)
  | .openBracket => some (.item outer)
  | .openBrace => some (.member outer)
  | _ => none

def step : State → Token → Option State
  | .value outer, t => begin outer t
  | .item outer, .closeBracket => some (.after (.arr []) outer)
  | .item outer, t => begin (.array [] :: outer) t
  | .member outer, .closeBrace => some (.after (.obj []) outer)
  | .member outer, .str k => some (.colon [] k outer)
  | .name ms outer, .str k => some (.colon ms k outer)
  | .colon ms k outer, .colon => some (.value (.object ms k :: outer))
  | .after v (.array vs :: outer), .comma => some (.value (.array (v :: vs) :: outer))
  | .after v (.array vs :: outer), .closeBracket => some (.after (.arr (v :: vs).reverse) outer)
  | .after v (.object ms k :: outer), .comma => some (.name ((k, v) :: ms) outer)
  | .after v (.object ms k :: outer), .closeBrace =>
    some (.after (.obj ((k, v) :: ms).reverse) outer)
  | _, _ => none

def finish : State → Option Json
  | .after v [] => some v
  | _ => none

def run : State → List Token → Option State
  | s, [] => some s
  | s, t :: r =>
    match s.step t with
    | some s' => run s' r
    | none => none

end State

def ofTokens? (ts : List Token) : Option Json :=
  ((State.value []).run ts).bind State.finish

/-- The value that a text writes. -/
def ofSymbols? (symbols : List (Option Char)) : Option Json :=
  (scan symbols).bind ofTokens?

def ofChars? (cs : List Char) : Option Json :=
  ofSymbols? (cs.map some)

def ofString? (s : String) : Option Json :=
  ofChars? s.toList

end Json
end IssueTracker
