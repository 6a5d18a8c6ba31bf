import IssueTracker.CommandLine

/-! The program. Its first argument is the command: `generate-types`, with the
file to write if there is one, or `server`. -/

namespace IssueTracker

open CommandLine

/-- The names of the variables that the configuration is read from. -/
def settingNames : List String :=
  ["SERVER_DATABASE_URL", "DATABASE_URL", "SERVER_LISTEN_ADDR", "TEXT_SEARCH_ENABLED",
    "PAGINATION_DEFAULT_LIMIT", "PAGINATION_MAX_LIMIT", "SUMMARY_RETRY_ATTEMPTS",
    "SUMMARY_RETRY_BACKOFF_MS"]

/-- Why the system refused to write, by its own number for the reason. -/
def refusal : IO.Error → WriteError
  | .noFileOrDirectory .. => .path .noEntry
  | .inappropriateType _ c _ => .path (if c = 20 then .notDirectory else .isDirectory)
  | .invalidArgument _ 36 _ => .path .tooLong
  | e => .other (toString e)

def writeFile (path : String) : IO (Except WriteError Unit) := do
  try
    IO.FS.writeFile path TypeScript.output
    return .ok ()
  catch e => return .error (refusal e)

/-- What this machine has at a path. -/
def kindAt (path : String) : IO (Option FileKind) := do
  let p := (← IO.currentDir) / path
  if ← p.isDir then return some .directory
  if ← p.pathExists then return some .regular
  return none

/-- What this machine has along a path. -/
def survey (path : String) : IO Files := do
  let here := Files.place (← IO.currentDir).toString
  let steps := path.splitOn "/"
  let known ← (List.range (steps.length + 1)).filterMapM fun n => do
    let front := "/".intercalate (steps.take n)
    let base := if path.startsWith "/" then [] else here
    return (← kindAt front).map fun k => (base ++ Files.place front, k)
  return { known := known, here := here }

/-- The path of the file that a database's address names. -/
def databasePath (url : String) : String :=
  match (DatabaseAddress.ofString? url).bind DatabaseAddress.file? with
  | some f => String.ofList (Utf8.lossy f.path)
  | none => ""

def finish (r : Result) : IO UInt32 := do
  IO.print r.out
  IO.eprint r.err
  return r.code.toUInt32

def runCommand : List String → IO UInt32
  | "generate-types" :: args => do
    let written ←
      match target? args with
      | some path => writeFile path
      | none => pure (.ok ())
    finish (generate args written)
  | ["server"] => do
    let values ← settingNames.mapM fun n => do return (n, ← IO.getEnv n)
    let env : Environment := fun n => (values.lookup n).join
    let url := match Config.read env with
      | .ok c => c.databaseUrl
      | .error _ => ""
    finish (serve env (← survey (databasePath url)))
  | _ => do
    IO.eprintln "usage: generate-types [FILE] | server"
    return 2

end IssueTracker

def main (args : List String) : IO UInt32 :=
  IssueTracker.runCommand args
