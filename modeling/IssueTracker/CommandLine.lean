import IssueTracker.Declarations
import IssueTracker.Startup

/-! The two commands: one writes the declarations for clients, to a file if one
is named, and one starts the server. What they print is settled here; writing a
file and reading the environment is left to the caller. -/

namespace IssueTracker
namespace CommandLine

/-- What a command leaves behind. -/
structure Result where
  code : Nat
  out : String
  err : String
  deriving DecidableEq

/-- Why a file cannot be written. -/
inductive WriteError where
  | path (e : PathError)
  | other (text : String)
  deriving DecidableEq

namespace WriteError

def text : WriteError → String
  | .path e => e.text
  | .other text => text

end WriteError

/-- An error, and what caused it. -/
def report (message : String) (cause : Option String) : String :=
  "Error: " ++ message ++ "\n" ++
    match cause with
    | some c => "\nCaused by:\n    " ++ c ++ "\n"
    | none => ""

/-- The file to write: the first argument. -/
def target? (args : List String) : Option String :=
  args.head?

/-- The command that writes the declarations, given how writing the file went. -/
def generate (args : List String) (written : Except WriteError Unit) : Result :=
  match target? args with
  | none => ⟨0, TypeScript.output, ""⟩
  | some path =>
    match written with
    | .ok () => ⟨0, "", "wrote " ++ path ++ "\n"⟩
    | .error e => ⟨1, "", report ("failed to write " ++ path) (some e.text)⟩

/-- The command that starts the server, up to the point where it listens. -/
def serve (env : Environment) (files : Files) : Result :=
  match Config.read env with
  | .error e => ⟨1, "", report e.message none⟩
  | .ok c =>
    match Startup.check c.databaseUrl c.listenAddr files with
    | .error e => ⟨1, "", report e.message none⟩
    | .ok () => ⟨0, "", ""⟩

/-- What a file of a kind holds once the declarations were written to it. -/
def contents? : FileKind → Option String
  | .regular => some TypeScript.output
  | .sink => some ""
  | .directory => none
  | .fixed => none

/-- How writing a file goes on a machine. -/
def write (files : Files) (path : String) : Except WriteError FileKind :=
  (files.write (Utf8.encode path.toList)).mapError .path

/-- The command that writes the declarations, run on a machine; gives along with
its result what the file that it names holds afterwards. -/
def generateOn (files : Files) (args : List String) : Result × Option String :=
  match target? args with
  | none => (generate args (.ok ()), none)
  | some path =>
    match write files path with
    | .ok k => (generate args (.ok ()), contents? k)
    | .error e => (generate args (.error e), none)

end CommandLine
end IssueTracker
