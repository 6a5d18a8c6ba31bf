import IssueTracker.Text.Pieces
import IssueTracker.Text.Utf8

/-! What a machine holds before a command runs on it: some directories and files
at known places, and a directory at hand that is empty. A place is the list of
names that lead to it from the root. Writing follows a path step by step, so
every name in front of the last one has to be there; `settled` instead removes
a name along with the two dots behind it, whether it is there or not. -/

namespace IssueTracker

abbrev FileName := List UInt8

inductive FileKind where
  | directory
  /-- A directory in which nothing can be made. -/
  | fixed
  | regular
  /-- A device that forgets what is written to it. -/
  | sink
  deriving DecidableEq

namespace FileKind

def isDirectory : FileKind → Bool
  | .directory => true
  | .fixed => true
  | .regular => false
  | .sink => false

end FileKind

/-- Why a path does not lead to a file that can be written. -/
inductive PathError where
  | noEntry
  | notDirectory
  | isDirectory
  | tooLong
  deriving DecidableEq

namespace PathError

def text : PathError → String
  | .noEntry => "No such file or directory (os error 2)"
  | .notDirectory => "Not a directory (os error 20)"
  | .isDirectory => "Is a directory (os error 21)"
  | .tooLong => "File name too long (os error 36)"

end PathError

structure Files where
  known : List (List FileName × FileKind)
  /-- The directory at hand. -/
  here : List FileName

namespace Files

def slash : UInt8 := 0x2F

def dot : FileName := [0x2E]

def dots : FileName := [0x2E, 0x2E]

/-- The greatest length of a name. -/
def maxName : Nat := 255

/-- The greatest length of a path. -/
def maxPath : Nat := 4095

/-- The place with this text, which begins with a slash. -/
def place (path : String) : List FileName :=
  (pieces slash (Utf8.encode path.toList)).filter fun n => !n.isEmpty

/-- What is at a place, if anything; the directory at hand is there, and what it is in. -/
def kind? (f : Files) (p : List FileName) : Option FileKind :=
  if p.isPrefixOf f.here then some .directory else f.known.lookup p

/-- Where a path begins. -/
def origin (f : Files) (path : List UInt8) : List FileName :=
  if path.head? = some slash then [] else f.here

/-- The directory that a list of steps leads to. -/
def walk (f : Files) : List FileName → List FileName → Except PathError (List FileName)
  | p, [] => .ok p
  | p, n :: r =>
    if n.isEmpty || n == dot then walk f p r
    else if n = dots then walk f p.dropLast r
    else if maxName < n.length then .error .tooLong
    else
      match f.kind? (p ++ [n]) with
      | none => .error .noEntry
      | some k => if k.isDirectory then walk f (p ++ [n]) r else .error .notDirectory

/-- What a path leads to that is written to; a file that is not there is made. -/
def write (f : Files) (path : List UInt8) : Except PathError FileKind :=
  if path.isEmpty then .error .noEntry
  else if maxPath < path.length then .error .tooLong
  else
    let body := (path.reverse.dropWhile (· == slash)).reverse
    let steps := pieces slash body
    let name := steps.getLastD []
    match f.walk (f.origin path) steps.dropLast with
    | .error e => .error e
    | .ok p =>
      if name.isEmpty || name == dot || name == dots || body.length < path.length then
        .error .isDirectory
      else if maxName < name.length then .error .tooLong
      else
        match f.kind? (p ++ [name]) with
        | some k => if k.isDirectory then .error .isDirectory else .ok k
        | none => if f.kind? p = some .fixed then .error .noEntry else .ok .regular

/-- A place can be asked about: it is there, or nothing is. -/
def asked (f : Files) (p : List FileName) : Bool :=
  match f.walk [] p with
  | .ok _ => true
  | .error .noEntry => true
  | .error .notDirectory => (f.kind? p).isSome
  | .error _ => false

/-- One step of a path that is not followed, only shortened. -/
def settle (f : Files) (p : List FileName) (n : FileName) : Option (List FileName) :=
  if n.isEmpty || n == dot then some p
  else if n = dots then some p.dropLast
  else if f.asked (p ++ [n]) then some (p ++ [n])
  else none

/-- The place of a path in which two dots remove the name in front of them. -/
def settled (f : Files) (path : List UInt8) : Option (List FileName) :=
  (pieces slash path).foldlM f.settle (f.origin path)

/-- The length of the text of a place. -/
def placeLength (p : List FileName) : Nat :=
  p.foldr (fun n k => n.length + 1 + k) 0

end Files
end IssueTracker
