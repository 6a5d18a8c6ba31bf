import IssueTracker.Json.Basic
import IssueTracker.Text.Hex

/-! The tokens of a JSON text: how each is written, and the scanner that reads
them back one symbol at a time. Input is a list of symbols, `none` being bytes
that are not UTF-8; those are allowed inside strings only, where they become
junk. Neighbouring tokens that the grammar keeps apart (`truefalse`, `01`) are
left to the parser. -/

namespace IssueTracker
namespace Json

inductive Token where
  | openBracket
  | closeBracket
  | openBrace
  | closeBrace
  | comma
  | colon
  | null
  | bool (b : Bool)
  | num (n : Numeral)
  | str (s : Quoted)
  deriving DecidableEq

/-- The four digits of a `\u` escape. -/
def unitChars (u : UInt16) : List Char :=
  let n := u.toNat
  [Hex.digit (n / 4096), Hex.digit (n / 256 % 16), Hex.digit (n / 16 % 16), Hex.digit (n % 16)]

namespace Piece

def chars : Piece → List Char
  | .char c =>
    match shortEscape? c with
    | some e => ['\\', e]
    | none => [c]
  | .unit u => '\\' :: 'u' :: unitChars u
  | .junk => [Char.ofNat 0xFFFD]

end Piece

namespace Quoted

def chars (q : Quoted) : List Char :=
  '"' :: (q.flatMap Piece.chars ++ ['"'])

end Quoted

def digitChars (ds : List Digit) : List Char :=
  ds.reverse.map Digit.char

namespace Exponent

def chars (e : Exponent) : List Char :=
  'e' :: (if e.negative then '-' :: digitChars e.digits else digitChars e.digits)

end Exponent

namespace Numeral

def signChars (negative : Bool) : List Char :=
  if negative then ['-'] else []

def fractionChars (ds : List Digit) : List Char :=
  if ds.isEmpty then [] else '.' :: digitChars ds

def exponentChars : Option Exponent → List Char
  | some e => e.chars
  | none => []

def chars (n : Numeral) : List Char :=
  signChars n.negative ++ digitChars n.whole ++ fractionChars n.fraction
    ++ exponentChars n.exponent

end Numeral

namespace Token

def chars : Token → List Char
  | .openBracket => ['[']
  | .closeBracket => [']']
  | .openBrace => ['{']
  | .closeBrace => ['}']
  | .comma => [',']
  | .colon => [':']
  | .null => ['n', 'u', 'l', 'l']
  | .bool true => ['t', 'r', 'u', 'e']
  | .bool false => ['f', 'a', 'l', 's', 'e']
  | .num n => n.chars
  | .str s => s.chars

end Token

/-- How far a number has been read. -/
inductive Phase where
  | sign
  | zero
  | whole
  | point
  | fraction
  | power
  | powerSign
  | powerDigits
  deriving DecidableEq

namespace Phase

/-- A number may end here. -/
def complete : Phase → Bool
  | .zero | .whole | .fraction | .powerDigits => true
  | _ => false

end Phase

namespace Numeral

def blank : Numeral := ⟨false, [], [], none⟩

def pushPower (n : Numeral) (d : Digit) : Numeral :=
  match n.exponent with
  | some e => { n with exponent := some { e with digits := d :: e.digits } }
  | none => { n with exponent := some ⟨false, [d]⟩ }

/-- Reads on in a number; `none` if the character is no part of it here. -/
def extend (phase : Phase) (n : Numeral) (c : Char) : Option (Phase × Numeral) :=
  match phase, Digit.ofChar? c with
  | .sign, some d => some (if d.val = 0 then .zero else .whole, { n with whole := [d] })
  | .whole, some d => some (.whole, { n with whole := d :: n.whole })
  | .point, some d | .fraction, some d => some (.fraction, { n with fraction := d :: n.fraction })
  | .power, some d | .powerSign, some d | .powerDigits, some d => some (.powerDigits, n.pushPower d)
  | .power, none =>
    if c = '+' then some (.powerSign, { n with exponent := some ⟨false, []⟩ })
    else if c = '-' then some (.powerSign, { n with exponent := some ⟨true, []⟩ })
    else none
  | .zero, none | .whole, none =>
    if c = '.' then some (.point, n)
    else if c = 'e' ∨ c = 'E' then some (.power, n)
    else none
  | .fraction, none => if c = 'e' ∨ c = 'E' then some (.power, n) else none
  | _, _ => none

end Numeral

/-- What the scanner is in the middle of. -/
inductive Lexeme where
  | gap
  | word (rest : List Char) (token : Token)
  | text (pieces : List Piece)
  | escape (pieces : List Piece)
  | code (pieces : List Piece) (value : Nat) (left : Nat)
  | number (phase : Phase) (n : Numeral)

/-- The character that a short escape stands for. -/
def unescape? (c : Char) : Option Char :=
  match c with
  | '"' => some '"'
  | '\\' => some '\\'
  | '/' => some '/'
  | 'b' => some '\x08'
  | 'f' => some '\x0c'
  | 'n' => some '\n'
  | 'r' => some '\r'
  | 't' => some '\t'
  | _ => none

namespace Lexeme

/-- The first character of a token, or white space. -/
def start (c : Char) : Option (List Token × Lexeme) :=
  match c with
  | ' ' | '\t' | '\n' | '\r' => some ([], .gap)
  | '[' => some ([.openBracket], .gap)
  | ']' => some ([.closeBracket], .gap)
  | '{' => some ([.openBrace], .gap)
  | '}' => some ([.closeBrace], .gap)
  | ',' => some ([.comma], .gap)
  | ':' => some ([.colon], .gap)
  | '"' => some ([], .text [])
  | 'n' => some ([], .word ['u', 'l', 'l'] .null)
  | 't' => some ([], .word ['r', 'u', 'e'] (.bool true))
  | 'f' => some ([], .word ['a', 'l', 's', 'e'] (.bool false))
  | '-' => some ([], .number .sign { Numeral.blank with negative := true })
  | _ => (Numeral.blank.extend .sign c).map fun p => ([], .number p.1 p.2)

/-- One symbol further: the tokens completed, last first, and what follows. -/
def next : Lexeme → Option Char → Option (List Token × Lexeme)
  | .gap, some c => start c
  | .word [] _, _ => none
  | .word (w :: r) t, some c =>
    if c = w then (if r.isEmpty then some ([t], .gap) else some ([], .word r t)) else none
  | .text ps, none => some ([], .text (.junk :: ps))
  | .text ps, some c =>
    if c = '"' then some ([.str ps.reverse], .gap)
    else if c = '\\' then some ([], .escape ps)
    else if c.toNat < 32 then none
    else some ([], .text (.char c :: ps))
  | .escape ps, some c =>
    if c = 'u' then some ([], .code ps 0 4)
    else (unescape? c).map fun e => ([], .text (.char e :: ps))
  | .code ps v (left + 1), some c =>
    (Hex.value? c).map fun h =>
      let v' := v * 16 + h
      ([], if left = 0 then .text (.unit v'.toUInt16 :: ps) else .code ps v' left)
  | .number phase n, some c =>
    match n.extend phase c with
    | some (phase', n') => some ([], .number phase' n')
    | none =>
      if phase.complete then
        (start c).map fun p => (p.1 ++ [.num n], p.2)
      else none
  | _, _ => none

/-- The end of the text. -/
def finish : Lexeme → Option (List Token)
  | .gap => some []
  | .number phase n => if phase.complete then some [.num n] else none
  | _ => none

end Lexeme

/-- The tokens of a text, after those in `done`, which is last first. -/
def scanFrom : List Token → Lexeme → List (Option Char) → Option (List Token)
  | done, l, [] => l.finish.map fun last => (last ++ done).reverse
  | done, l, c :: r =>
    match l.next c with
    | some (new, l') => scanFrom (new ++ done) l' r
    | none => none

def scan (symbols : List (Option Char)) : Option (List Token) :=
  scanFrom [] .gap symbols

end Json
end IssueTracker
