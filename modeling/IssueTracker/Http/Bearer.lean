import IssueTracker.Http.Basic

/-! The token in the first authorization header of a request: the scheme in any
case, blanks, and the token, which goes on to the end. -/

namespace IssueTracker
namespace Request

def bearer? (r : Request) : Option String :=
  match r.header? "authorization" with
  | none => none
  | some v =>
    let scheme := v.toList.take 6
    match v.toList.drop 6 with
    | ' ' :: rest =>
      if isAsciiValue v && scheme.map Char.toLower == ['b', 'e', 'a', 'r', 'e', 'r'] then
        some (String.ofList (rest.dropWhile fun c => c == ' ' || c == '\t'))
      else none
    | _ => none

end Request
end IssueTracker
