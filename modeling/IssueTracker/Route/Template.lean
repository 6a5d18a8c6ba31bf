import IssueTracker.Decimal
import IssueTracker.Text.Hex
import IssueTracker.Text.Pieces
import IssueTracker.Text.Utf8

/-! Path templates: characters that stand for themselves, and captures. A name in
braces captures the rest of a segment, up to the next slash; with an asterisk in
front of the name it captures the rest of the path. Nothing empty is captured at
the end of a path. A brace that is written twice stands for itself. -/

namespace IssueTracker

inductive Part where
  | char (c : Char)
  | segment (name : List Char)
  | remainder (name : List Char)
  deriving DecidableEq

namespace Part

/-- The parts are the same, apart from the names of captures. -/
def alike : Part → Part → Bool
  | .char a, .char b => a == b
  | .segment _, .segment _ => true
  | .remainder _, .remainder _ => true
  | _, _ => false

def isChar : Part → Bool
  | .char _ => true
  | _ => false

def text : Part → List Char
  | .char c => [c]
  | .segment name => '{' :: (name ++ ['}'])
  | .remainder name => '{' :: '*' :: (name ++ ['}'])

end Part

abbrev Template := List Part

/-- What was captured, under its name. -/
structure Capture where
  name : List Char
  raw : List Char
  deriving DecidableEq

namespace Capture

/-- The text of what was captured, if its bytes are UTF-8. -/
def text? (c : Capture) : Option (List Char) :=
  Utf8.strict? (percentDecode (Utf8.encode c.raw))

/-- How the names begin that a router keeps for itself. -/
def reserved : List String :=
  ["__private__axum_nest_tail_param", "__private__axum_fallback"]

/-- What is captured under a reserved name is not passed on. -/
def isReserved (c : Capture) : Bool :=
  reserved.any fun r => r.toList.isPrefixOf c.name

end Capture

/-- Why a path has no single captured text. -/
inductive CaptureError where
  | notText (name : List Char)
  | count (n : Nat)
  deriving DecidableEq

namespace CaptureError

def status : CaptureError → Nat
  | .notText _ => 400
  | .count _ => 500

def message : CaptureError → String
  | .notText name => "Invalid URL: Invalid UTF-8 in `" ++ String.ofList name ++ "`"
  | .count n =>
    "Wrong number of path arguments for `Path`. Expected 1 but got " ++ Decimal.text n
      ++ ". Note that multiple parameters must be extracted with a tuple `Path<(_, _)>` or a struct `Path<YourParams>`"

end CaptureError

namespace Capture

/-- The captures that are passed on. -/
def passed (cs : List Capture) : List Capture :=
  cs.filter fun c => !c.isReserved

/-- The text of the one capture. Of captures that are not text the first counts,
before their number does. -/
def only (cs : List Capture) : Except CaptureError (List Char) :=
  match (passed cs).find? fun c => c.text?.isNone with
  | some c => .error (.notText c.name)
  | none =>
    match (passed cs).filterMap text? with
    | [t] => .ok t
    | _ => .error (.count (passed cs).length)

end Capture

/-- What is wrong with the text of a template. -/
inductive TemplateError where
  /-- A brace is not matched, or what is in braces is no name. -/
  | name
  /-- Something other than a slash follows a capture. -/
  | segment
  /-- More segments are captured than there are letters to number them by. -/
  | tooMany
  deriving DecidableEq

namespace Template

/-- A character of a template's text; a doubled brace is one character. -/
structure Mark where
  char : Char
  doubled : Bool

def marks : List Char → List Mark
  | '{' :: '{' :: r => ⟨'{', true⟩ :: marks r
  | '}' :: '}' :: r => ⟨'}', true⟩ :: marks r
  | c :: r => ⟨c, false⟩ :: marks r
  | [] => []

/-- Where a reader of a template is. -/
inductive Reading where
  | outside
  /-- Behind an opening brace. -/
  | opened
  /-- In a name; its characters so far, last first. -/
  | inside (name : List Char)

/-- The capture with a name as it stands between braces. -/
def capture (name : List Char) : Part :=
  match name with
  | '*' :: r => .remainder r
  | r => .segment r

/-- The greatest number of segments that a template captures. -/
def maxSegments : Nat := 25

/-- How many more segments may be captured behind a part, if the part may be. -/
def roomBehind? (room : Nat) : Part → Option Nat
  | .segment _ => if room = 0 then none else some (room - 1)
  | _ => some room

/-- Reads a template that captures at most `room` segments; the first fault counts. -/
def read (room : Nat) : Reading → List Mark → Except TemplateError Template
  | .outside, [] => .ok []
  | .opened, [] => .error .name
  | .inside _, [] => .error .name
  | .outside, m :: r =>
    if m.char = '{' ∧ ¬ m.doubled then read room .opened r
    else if m.char = '}' ∧ ¬ m.doubled then .error .name
    else (read room .outside r).map (.char m.char :: ·)
  | .opened, m :: r => if m.char = '}' then .error .name else read room (.inside [m.char]) r
  | .inside n, m :: r =>
    if m.char = '}' ∧ ¬ m.doubled then
      if n = ['*'] then .error .name
      else if r.head?.any fun f => f.char != '/' then .error .segment
      else
        match roomBehind? room (capture n.reverse) with
        | none => .error .tooMany
        | some room => (read room .outside r).map (capture n.reverse :: ·)
    else if m.char = '*' ∨ m.char = '/' then .error .name
    else read room (.inside (m.char :: n)) r

def ofChars (cs : List Char) : Except TemplateError Template :=
  read maxSegments .outside (marks cs)

/-- The text of a template; its braces are written once. -/
def text (t : Template) : List Char :=
  t.flatMap Part.text

/-- The names of the segments that a template captures. -/
def segmentNames (t : Template) : List (List Char) :=
  t.filterMap fun p =>
    match p with
    | .segment n => some n
    | _ => none

/-- Gives the captures these names, in order, as far as they go. -/
def named : List (List Char) → Template → Template
  | _, [] => []
  | ns, .char c :: ts => .char c :: named ns ts
  | n :: ns, _ :: ts => .segment n :: named ns ts
  | [], t => t

/-- What a template captures of a path. -/
def captures? : Template → List Char → Option (List Capture)
  | [], [] => some []
  | .char c :: ts, d :: p => if c = d then captures? ts p else none
  | .segment n :: ts, d :: p =>
    let segment := (d :: p).takeWhile (· != '/')
    (captures? ts ((d :: p).drop segment.length)).map fun cs => ⟨n, segment⟩ :: cs
  | [.remainder n], d :: p => some [⟨n, d :: p⟩]
  | _, _ => none

/-- The template is preferred to another that takes the same path: at the first
part where one has a character and the other a capture, it has the character. -/
def preferred : Template → Template → Bool
  | a :: as, b :: bs => if a.isChar == b.isChar then preferred as bs else a.isChar
  | _, _ => false

theorem marks_plain {cs : List Char} (h : ∀ c ∈ cs, c ≠ '{' ∧ c ≠ '}') :
    marks cs = cs.map fun c => ⟨c, false⟩ := by
  induction cs with
  | nil => rfl
  | cons c r ih =>
    obtain ⟨ho, hc⟩ := h c List.mem_cons_self
    rw [marks, ih fun d hd => h d (List.mem_cons_of_mem _ hd), List.map_cons]
    · intro _ he _; exact ho he
    · intro _ he _; exact hc he

theorem read_plain {cs : List Char} (room : Nat) (ms : List Mark)
    (h : ∀ c ∈ cs, c ≠ '{' ∧ c ≠ '}') :
    read room .outside (cs.map (fun c => ⟨c, false⟩) ++ ms) =
      (read room .outside ms).map (cs.map Part.char ++ ·) := by
  induction cs with
  | nil => cases hr : read room .outside ms <;> simp [hr, Except.map]
  | cons c r ih =>
    obtain ⟨ho, hc⟩ := h c List.mem_cons_self
    rw [List.map_cons, List.cons_append, read, if_neg (by simp [ho]), if_neg (by simp [hc]),
      ih fun d hd => h d (List.mem_cons_of_mem _ hd)]
    cases read room .outside ms <;> rfl

/-- A text without braces stands for itself. -/
theorem ofChars_plain {cs : List Char} (h : ∀ c ∈ cs, c ≠ '{' ∧ c ≠ '}') :
    ofChars cs = .ok (cs.map Part.char) := by
  have := read_plain maxSegments [] h
  rw [List.append_nil] at this
  rw [ofChars, marks_plain h, this]
  simp [read, Except.map]

/-- Characters take themselves, and nothing else. -/
theorem captures?_chars (cs : List Char) (t : Template) (p : List Char) :
    captures? (cs.map Part.char ++ t) (cs ++ p) = captures? t p := by
  induction cs with
  | nil => rfl
  | cons c r ih => rw [List.map_cons, List.cons_append, List.cons_append, captures?, if_pos rfl, ih]

end Template
end IssueTracker
