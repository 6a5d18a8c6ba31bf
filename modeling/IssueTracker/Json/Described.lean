import IssueTracker.Json.Token
import IssueTracker.Text.Quoted

/-! A value with the kind of each of its parts named, for a reader. -/

namespace IssueTracker
namespace Json

/-- Text in a value, junk included. -/
def Quoted.shown (q : Quoted) : List Char :=
  quoted ((q.text?.map String.toList).getD [])

mutual

def described : Json → List Char
  | .null => "Null".toList
  | .bool true => "Bool(true)".toList
  | .bool false => "Bool(false)".toList
  | .num n => "Number(".toList ++ n.chars ++ [')']
  | .str s => "String(".toList ++ s.shown ++ [')']
  | .arr items => "Array [".toList ++ describedItems items ++ [']']
  | .obj members => "Object ".toList ++ '{' :: (describedMembers members ++ ['}'])

def describedItems : List Json → List Char
  | [] => []
  | [v] => v.described
  | v :: r => v.described ++ ',' :: ' ' :: describedItems r

def describedMembers : List (Quoted × Json) → List Char
  | [] => []
  | [(k, v)] => k.shown ++ ':' :: ' ' :: v.described
  | (k, v) :: r => k.shown ++ ':' :: ' ' :: (v.described ++ ',' :: ' ' :: describedMembers r)

end

end Json
end IssueTracker
