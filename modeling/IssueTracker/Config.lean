import IssueTracker.Decimal
import IssueTracker.Paging

/-! The configuration: read from variables, most of which have a default. A
configuration that is accepted is sound: the default page is not larger than
the largest one, neither is empty, and a summary is tried at least once. -/

namespace IssueTracker

structure Config where
  databaseUrl : String
  listenAddr : String
  textSearch : Bool
  pages : PageLimits
  /-- How often a summary is tried before it is given up. -/
  attempts : Nat
  /-- Milliseconds to wait after the first failure. -/
  backoff : Nat
  deriving DecidableEq

inductive ConfigError where
  | missing (name : String)
  | invalid (name : String)
  deriving DecidableEq

namespace ConfigError

def message : ConfigError → String
  | .missing name => "environment variable `" ++ name ++ "` is not set"
  | .invalid name => "invalid value for environment variable `" ++ name ++ "`"

end ConfigError

/-- Variables by name. -/
abbrev Environment := String → Option String

namespace Environment

/-- A number; an empty value counts as none. -/
def number {α : Type} (env : Environment) (name : String) (parse : String → Option α)
    (default : α) : Except ConfigError α :=
  match env name with
  | none => .ok default
  | some s =>
    if s.isEmpty then .ok default
    else
      match parse s with
      | some a => .ok a
      | none => .error (.invalid name)

end Environment

namespace Config

def defaultAttempts : Nat := 3

def defaultBackoff : Nat := 250

/-- Defaults for everything but the place of the database. -/
def ofDatabase (url : String) : Config where
  databaseUrl := url
  listenAddr := "127.0.0.1:0"
  textSearch := false
  pages := {}
  attempts := defaultAttempts
  backoff := defaultBackoff

/-- `1`, or `true` in any case. -/
def isYes (s : String) : Bool :=
  s == "1" || s.toList.map Char.toLower == ['t', 'r', 'u', 'e']

def readPages (env : Environment) : Except ConfigError PageLimits := do
  let default ← env.number "PAGINATION_DEFAULT_LIMIT" Decimal.int64? 20
  let max ← env.number "PAGINATION_MAX_LIMIT" Decimal.int64? 100
  if default ≤ 0 then throw (.invalid "PAGINATION_DEFAULT_LIMIT")
  if max < default then throw (.invalid "PAGINATION_MAX_LIMIT")
  return ⟨default, max⟩

def readAttempts (env : Environment) : Except ConfigError Nat := do
  let n ← env.number "SUMMARY_RETRY_ATTEMPTS" (Decimal.nat? (UInt32.size - 1)) defaultAttempts
  if n = 0 then throw (.invalid "SUMMARY_RETRY_ATTEMPTS")
  return n

def read (env : Environment) : Except ConfigError Config := do
  let url ←
    match (env "SERVER_DATABASE_URL").or (env "DATABASE_URL") with
    | some url => pure url
    | none => throw (.missing "SERVER_DATABASE_URL")
  let pages ← readPages env
  let attempts ← readAttempts env
  let backoff ← env.number "SUMMARY_RETRY_BACKOFF_MS" (Decimal.nat? (UInt64.size - 1)) defaultBackoff
  return {
    databaseUrl := url
    listenAddr := (env "SERVER_LISTEN_ADDR").getD "0.0.0.0:8081"
    textSearch := ((env "TEXT_SEARCH_ENABLED").map isYes).getD false
    pages := pages
    attempts := attempts
    backoff := backoff }

end Config
end IssueTracker
