import IssueTracker.Json.Token

/-! The printer: a value is a list of tokens, and a text is those tokens either
run together or laid out over lines with two spaces of indentation for each
open bracket. -/

namespace IssueTracker
namespace Json

mutual

def tokens : Json → List Token
  | .null => [.null]
  | .bool b => [.bool b]
  | .num n => [.num n]
  | .str s => [.str s]
  | .arr items => .openBracket :: itemTokens items
  | .obj members => .openBrace :: memberTokens members

/-- The items of an array and its closing bracket. -/
def itemTokens : List Json → List Token
  | [] => [.closeBracket]
  | v :: r => v.tokens ++ moreItemTokens r

/-- The items after the first. -/
def moreItemTokens : List Json → List Token
  | [] => [.closeBracket]
  | v :: r => .comma :: (v.tokens ++ moreItemTokens r)

/-- The members of an object and its closing brace. -/
def memberTokens : List (Quoted × Json) → List Token
  | [] => [.closeBrace]
  | (k, v) :: r => .str k :: .colon :: (v.tokens ++ moreMemberTokens r)

/-- The members after the first. -/
def moreMemberTokens : List (Quoted × Json) → List Token
  | [] => [.closeBrace]
  | (k, v) :: r => .comma :: .str k :: .colon :: (v.tokens ++ moreMemberTokens r)

end

def chars (v : Json) : List Char :=
  v.tokens.flatMap Token.chars

def text (v : Json) : String :=
  String.ofList v.chars

def newline (depth : Nat) : List Char :=
  '\n' :: List.replicate (2 * depth) ' '

/-- The tokens over lines, within `depth` open brackets. An array or object
that holds nothing stays on its line. -/
def layoutFrom : Nat → List Token → List Char
  | _, [] => []
  | d, .openBracket :: .closeBracket :: r => '[' :: ']' :: layoutFrom d r
  | d, .openBrace :: .closeBrace :: r => '{' :: '}' :: layoutFrom d r
  | d, .openBracket :: r => '[' :: (newline (d + 1) ++ layoutFrom (d + 1) r)
  | d, .openBrace :: r => '{' :: (newline (d + 1) ++ layoutFrom (d + 1) r)
  | d, .closeBracket :: r => newline (d - 1) ++ ']' :: layoutFrom (d - 1) r
  | d, .closeBrace :: r => newline (d - 1) ++ '}' :: layoutFrom (d - 1) r
  | d, .comma :: r => ',' :: (newline d ++ layoutFrom d r)
  | d, .colon :: r => ':' :: ' ' :: layoutFrom d r
  | d, t :: r => t.chars ++ layoutFrom d r

/-- The text over lines. -/
def layout (v : Json) : String :=
  String.ofList (layoutFrom 0 v.tokens)

end Json
end IssueTracker
