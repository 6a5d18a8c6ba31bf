import IssueTracker.Route.Template

/-! Templates that cannot be told apart. A template clashes with earlier ones when
one of them is the same apart from names, or when, after parts that are the same,
one captures the rest of the path and the other captures at all. The earlier
template that is named is, of those that lie behind the capture, the one found by
following the byte that most of them share. -/

namespace IssueTracker

namespace Part

/-- A part byte by byte, so that templates part where their bytes differ. -/
def bytes : Part → List (UInt8 ⊕ Part)
  | .char c => (Utf8.encode [c]).map .inl
  | p => [.inr p]

end Part

/-- A step along a template: a byte that stands for itself, or a capture. -/
abbrev Step := UInt8 ⊕ Part

namespace Step

/-- The steps are the same, apart from the names of captures. -/
def alike : Step → Step → Bool
  | .inl a, .inl b => a == b
  | .inr p, .inr q => p.alike q
  | _, _ => false

def isByte : Step → Bool
  | .inl _ => true
  | .inr _ => false

end Step

/-- The steps that are left of an earlier template, and all of it. -/
structure Earlier where
  left : List Step
  whole : Template

namespace Earlier

/-- What is left of the earlier templates behind a step. -/
def behind (x : Step) (es : List Earlier) : List Earlier :=
  es.filterMap fun e =>
    match e.left with
    | y :: r => if x.alike y then some ⟨r, e.whole⟩ else none
    | [] => none

/-- The earlier templates that go on with a capture. -/
def capturing (es : List Earlier) : List Earlier :=
  es.filter fun e => e.left.head?.any fun x => !x.isByte

/-- One more has come, and it leads if there are now more of its kind than of the
one that led. -/
def leads (state : Option Step × List Step) (x : Step) : Option Step × List Step :=
  let seen := x :: state.2
  match state.1 with
  | none => (some x, seen)
  | some y => (if seen.countP y.alike < seen.countP x.alike then some x else some y, seen)

/-- The step that most of the earlier templates go on with, of several the one that
was the first to reach that number; a capture only if none has a byte. -/
def commonest (es : List Earlier) : Option Step :=
  let heads := es.filterMap fun e => e.left.head?
  ((heads.filter Step.isByte).foldl leads (none, [])).1.or heads.head?

/-- The earlier template at the end of the way that most of them share. -/
def last? : Nat → List Earlier → Option Template
  | 0, es => es.head?.map whole
  | n + 1, es =>
    match commonest es with
    | none => es.head?.map whole
    | some x => last? n (behind x es)

/-- The earlier template that most of these lead to. -/
def leading? (es : List Earlier) : Option Template :=
  last? (es.foldr (fun e n => e.left.length + n) 0) es

end Earlier

/-- Why a template cannot be added. -/
inductive Clash where
  | conflict (earlier : Template)
  /-- Something follows the capture of the rest of the path. -/
  | remainderInside
  deriving DecidableEq

namespace Clash

/-- A capture as it is compared with the text in front of it: the segments of a
template are numbered by letters. -/
def numbered (before : Template) : Part → List Char
  | .segment _ => ['{', Char.ofNat ('a'.toNat + before.segmentNames.length), '}']
  | p => p.text

/-- How an earlier template is named that goes on with the capture `p` where a new
one has come behind `before`. A capture whose text stands in front of it already is
left out, and the captures behind it take the names that are then next. -/
def naming (before : Template) (p : Part) (e : Template) : Template :=
  if ((numbered before p).map Part.char).isSuffixOf before then
    Template.named e.segmentNames (e.eraseIdx before.length)
  else e

/-- The clash of what is left of a template with what is left of earlier ones. -/
def find? : Template → Template → List Earlier → Option Clash
  | _, [], es => (es.find? fun e => e.left.isEmpty).map fun e => .conflict e.whole
  | before, .char c :: ts, es =>
    find? (before ++ [.char c]) ts ((Part.char c).bytes.foldl (fun es x => Earlier.behind x es) es)
  | before, .segment n :: ts, es =>
    match es.find? fun e => e.left.head?.any (Step.alike (.inr (.remainder n))) with
    | some e => (e.whole[before.length]?).map fun p => .conflict (naming before p e.whole)
    | none => find? (before ++ [.segment n]) ts (Earlier.behind (.inr (.segment n)) es)
  | before, .remainder n :: ts, es =>
    match Earlier.leading? (Earlier.capturing es) with
    | none => if ts.isEmpty then none else some .remainderInside
    | some e =>
      (e[before.length]?).map fun p =>
        if p = .remainder n ∧ ts = [] then .conflict e else .conflict (naming before p e)

/-- The clash of a template with earlier ones. -/
def among (t : Template) (earlier : List Template) : Option Clash :=
  find? [] t (earlier.map fun e => ⟨e.flatMap Part.bytes, e⟩)

end Clash
end IssueTracker
