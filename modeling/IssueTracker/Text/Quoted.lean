import IssueTracker.Text.Printable

/-! Text in double quotes for a reader: quotes, backslashes and line ends are
escaped, and so is every character that would not show as itself. -/

namespace IssueTracker

/-- The code point in hexadecimal, in braces. -/
def codePoint (c : Char) : List Char :=
  '\\' :: 'u' :: '{' :: (Nat.toDigits 16 c.toNat ++ ['}'])

def quotedChar (c : Char) : List Char :=
  match c with
  | '\x00' => ['\\', '0']
  | '\t' => ['\\', 't']
  | '\r' => ['\\', 'r']
  | '\n' => ['\\', 'n']
  | '"' => ['\\', '"']
  | '\\' => ['\\', '\\']
  | _ => if isPlain c then [c] else codePoint c

def quoted (cs : List Char) : List Char :=
  '"' :: (cs.flatMap quotedChar ++ ['"'])

end IssueTracker
