import IssueTracker.Decimal
import IssueTracker.Files
import IssueTracker.Form

/-! Addresses of databases. An address names a file, or a database in memory, and
says how it is opened. The name of a file may itself be an address with a scheme
of its own, `file:`, whose parameters then change what the outer address asked
for. A database that is opened may still turn out to be of no use, which is seen
only when it is written to. -/

namespace IssueTracker

/-- A file's name and the parameters behind it. -/
structure FileAddress where
  path : List UInt8
  parameters : List (List UInt8 × List UInt8) := []
  deriving DecidableEq

namespace FileAddress

def bytes (s : String) : List UInt8 :=
  Utf8.encode s.toList

/-- The bytes up to the first zero. -/
def upToZero (bs : List UInt8) : List UInt8 :=
  bs.takeWhile (· != 0)

def decode (bs : List UInt8) : List UInt8 :=
  upToZero (percentDecode bs)

/-- A name and a value; a name without a value has the empty one. -/
def parameter (piece : List UInt8) : List UInt8 × List UInt8 :=
  let name := piece.takeWhile (· != 0x3D)
  (decode name, decode ((piece.drop name.length).drop 1))

/-- What follows the scheme: a path, and parameters behind a question mark. -/
def ofBody (bs : List UInt8) : FileAddress :=
  let whole := bs.takeWhile (· != 0x23)
  let path := whole.takeWhile (· != 0x3F)
  let query := (whole.drop path.length).drop 1
  { path := decode path
    parameters := ((pieces 0x26 query).map parameter).filter fun p => !p.1.isEmpty }

/-- A name that begins with `file:` is an address, any other a path. The only
machine that may be named is this one. -/
def ofName? (name : List UInt8) : Option FileAddress :=
  let scheme := bytes "file:"
  if scheme.isPrefixOf name then
    match name.drop scheme.length with
    | 0x2F :: 0x2F :: r =>
      let host := r.takeWhile (· != Files.slash)
      if host.isEmpty || host == bytes "localhost" then some (ofBody (r.drop host.length)) else none
    | r => some (ofBody r)
  else some { path := name }

end FileAddress

/-- How a database is opened. -/
structure Access where
  reads : Bool := false
  writes : Bool := false
  creates : Bool := false
  memory : Bool := false
  driver : Option (List UInt8) := none
  deriving DecidableEq

namespace Access

def rank (reads writes creates memory : Bool) : Nat :=
  reads.toNat + 2 * writes.toNat + 4 * creates.toNat + 128 * memory.toNat

def limit (a : Access) : Nat :=
  rank a.reads a.writes a.creates a.memory

/-- Asks for another mode, which may not go beyond the one so far. -/
def restrict (a : Access) (reads writes creates memory : Bool) : Option Access :=
  if rank reads writes creates false ≤ a.limit then
    some { a with reads := reads, writes := writes, creates := creates, memory := memory }
  else none

/-- What a parameter of a file's address does. -/
def set (a : Access) (p : List UInt8 × List UInt8) : Option Access :=
  let is := fun (s : String) => p.2 = FileAddress.bytes s
  if p.1 = FileAddress.bytes "vfs" then some { a with driver := some p.2 }
  else if p.1 = FileAddress.bytes "cache" then
    if is "shared" || is "private" then some a else none
  else if p.1 = FileAddress.bytes "mode" then
    if is "ro" then a.restrict true false false false
    else if is "rw" then a.restrict false true false false
    else if is "rwc" then a.restrict false true true false
    else if is "memory" then a.restrict false false false true
    else none
  else some a

end Access

structure DatabaseAddress where
  name : List UInt8
  memory : Bool := false
  readOnly : Bool := false
  immutable : Bool := false
  driver : Option String := none

/-- How opening a database goes. -/
inductive Opening where
  | refused
  /-- It is opened and cannot be written to. -/
  | unusable
  | usable
  deriving DecidableEq

namespace DatabaseAddress

/-- Drops a text from the front as often as it stands there. -/
def dropAll (front : List Char) : Nat → List Char → List Char
  | 0, cs => cs
  | n + 1, cs =>
    if !front.isEmpty && front.isPrefixOf cs then dropAll front n (cs.drop front.length) else cs

/-- A parameter of the address. -/
def set (a : DatabaseAddress) (p : String × String) : Option DatabaseAddress :=
  match p.1, p.2 with
  | "mode", "ro" => some { a with readOnly := true }
  | "mode", "rw" => some a
  | "mode", "rwc" => some a
  | "mode", "memory" => some { a with memory := true }
  | "cache", "private" => some a
  | "cache", "shared" => some a
  | "immutable", "true" => some { a with immutable := true }
  | "immutable", "1" => some { a with immutable := true }
  | "immutable", "false" => some { a with immutable := false }
  | "immutable", "0" => some { a with immutable := false }
  | "vfs", v => some { a with driver := some v }
  | _, _ => none

def ofString? (s : String) : Option DatabaseAddress :=
  let cs := s.toList
  let cs := dropAll "sqlite://".toList cs.length cs
  let cs := dropAll "sqlite:".toList cs.length cs
  let name := cs.takeWhile (· != '?')
  let parameters := (cs.drop name.length).drop 1
  let base : Option DatabaseAddress :=
    if name = ":memory:".toList then some { name := FileAddress.bytes "memory", memory := true }
    else (Utf8.strict? (percentDecode (Utf8.encode name))).map fun p => { name := Utf8.encode p }
  base.bind fun a => (Form.parse parameters).foldlM set a

/-- The file that is meant. With parameters of its own the name is taken as it
is, up to a zero; without, it holds none and may be an address itself. -/
def file? (a : DatabaseAddress) : Option FileAddress :=
  let own :=
    (if a.immutable then [(FileAddress.bytes "immutable", FileAddress.bytes "true")] else [])
      ++ (a.driver.map fun d =>
        (FileAddress.bytes "vfs", FileAddress.upToZero (FileAddress.bytes d))).toList
  if own.isEmpty then
    if a.name.contains 0 then none else FileAddress.ofName? a.name
  else some ⟨FileAddress.upToZero a.name, own⟩

/-- What the address asks for: a file that is not there is made, unless it is only read. -/
def access (a : DatabaseAddress) : Access where
  reads := a.readOnly
  writes := !a.readOnly
  creates := !a.readOnly
  memory := a.memory

/-- Drivers for files. -/
def drivers : List String :=
  ["unix", "unix-none", "unix-dotfile", "unix-excl"]

/-- The driver whose files are in memory. -/
def memoryDriver : String := "memdb"

/-- What is appended to the name of a database for its journal. -/
def journalSuffix : Nat := 8

/-- The greatest length of the text of a place, and of a name in memory, with the
journal's suffix. -/
def maxPlace : Nat := 512

def maxMemoryName : Nat := 1024

/-- A parameter is set: its first value is a number other than zero, or a word for yes. -/
def flag (ps : List (List UInt8 × List UInt8)) (name : String) : Bool :=
  match ps.lookup (FileAddress.bytes name) with
  | none => false
  | some v =>
    let cs := v.map fun b => (Char.ofNat b.toNat).toLower
    let digits := cs.takeWhile fun c => (Digit.ofChar? c).isSome
    if digits.isEmpty then ["on", "yes", "true"].contains (String.ofList cs)
    else Decimal.value (digits.filterMap Digit.ofChar?).reverse % 256 != 0

/-- Opens a file at a place. -/
def openPlace (files : Files) (access : Access) (p : List FileName) : Opening :=
  match files.kind? p with
  | some k => if k.isDirectory && !access.reads then .refused else .unusable
  | none =>
    match files.walk [] p.dropLast with
    | .error _ => .refused
    | .ok d =>
      if !access.creates || files.kind? d = some .fixed
          || Files.maxName < (p.getLastD []).length then .refused
      else if Files.maxName < (p.getLastD []).length + journalSuffix then .unusable
      else .usable

/-- Opens a file by its path. -/
def openPath (files : Files) (access : Access) (path : List UInt8) : Opening :=
  match files.settled path with
  | none => .refused
  | some p =>
    if p.isEmpty || maxPlace < Files.placeLength p + journalSuffix then .refused
    else openPlace files access p

/-- Opens what was asked for. A database without a name, and one in memory, is no file. -/
def openFile (files : Files) (file : FileAddress) (access : Access) : Opening :=
  let driver := access.driver.getD (FileAddress.bytes "unix")
  let inMemory := driver == FileAddress.bytes memoryDriver
  if !inMemory && !(drivers.map FileAddress.bytes).contains driver then .refused
  else if access.memory || file.path.isEmpty || file.path == FileAddress.bytes ":memory:" then
    if access.reads then .unusable else .usable
  else
    let o :=
      if !inMemory then openPath files access file.path
      else if maxMemoryName < file.path.length + journalSuffix then .refused
      else if access.reads then .unusable
      else .usable
    if o = .usable && flag file.parameters "immutable" then .unusable else o

/-- Opens the database with this address. -/
def opening (address : String) (files : Files) : Opening :=
  let found := (ofString? address).bind fun a => a.file?.bind fun file =>
    (file.parameters.foldlM Access.set a.access).map fun access => openFile files file access
  found.getD .refused

end DatabaseAddress
end IssueTracker
