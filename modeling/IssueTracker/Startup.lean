import IssueTracker.Config
import IssueTracker.Startup.Database
import IssueTracker.Startup.Listen

/-! What has to hold before the server can listen: the database's address names
one that can be opened and written, and the address to listen on is one of this
machine. -/

namespace IssueTracker

/-- Why the server does not start. -/
inductive StartError where
  | connect
  | migrate
  | bind (address : String)
  deriving DecidableEq

namespace StartError

def message : StartError → String
  | .connect => "failed to connect to database"
  | .migrate => "failed to run database migrations"
  | .bind address => "failed to bind " ++ address

end StartError

/-- Checks what the server needs, in the order in which it needs it. -/
def Startup.check (databaseUrl listenAddr : String) (files : Files) : Except StartError Unit :=
  match DatabaseAddress.opening databaseUrl files with
  | .refused => .error .connect
  | .unusable => .error .migrate
  | .usable =>
    if ListenAddress.bindable listenAddr then .ok () else .error (.bind listenAddr)

end IssueTracker
