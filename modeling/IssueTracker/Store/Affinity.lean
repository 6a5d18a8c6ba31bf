import IssueTracker.Decimal.Scaled

/-! What a column of integers keeps of a text written into it. A text of digits is
kept as its integer, if that has 64 bits. A number with a fraction or a power of
ten goes through a binary float, and is kept as an integer only if that float is
one, and none of the two integers at the ends of the range. Blanks may
stand around a number. Any other text is kept as it is and is no integer. -/

namespace IssueTracker
namespace Affinity

def isSpace (c : Char) : Bool :=
  c == ' ' || (9 ≤ c.toNat && c.toNat ≤ 13)

/-- The longest run of digits in front, first digit first, and what follows it. -/
def spanDigits (cs : List Char) : List Digit × List Char :=
  let front := cs.takeWhile fun c => (Digit.ofChar? c).isSome
  (front.filterMap Digit.ofChar?, cs.drop front.length)

/-- A sign in front, if there is one: whether it is a minus, and what follows it. -/
def splitSign : List Char → Bool × List Char
  | '-' :: r => (true, r)
  | '+' :: r => (false, r)
  | cs => (false, cs)

/-- A number as it is written. -/
structure Written where
  negative : Bool
  whole : List Digit
  /-- The digits behind a point, if there is a point. -/
  fraction : Option (List Digit)
  /-- The power of ten, if there is one. -/
  power : Option Int

/-- Digits of a power of ten; from 10000 on the power is as good as any greater one. -/
def powerValue (ds : List Digit) : Nat :=
  ds.foldl (fun n d => if n < 10000 then n * 10 + d.val else 10000) 0

/-- The power of ten in front, and what follows it. -/
def power? (cs : List Char) : Option (Option Int × List Char) :=
  match cs with
  | [] => some (none, [])
  | c :: r =>
    if c = 'e' ∨ c = 'E' then
      let signed := splitSign r
      let p := spanDigits signed.2
      if p.1.isEmpty then none
      else
        let n : Int := powerValue p.1
        some (some (if signed.1 then -n else n), p.2)
    else some (none, cs)

def Written.ofChars? (cs : List Char) : Option Written :=
  let signed := splitSign (cs.dropWhile isSpace)
  let whole := spanDigits signed.2
  let fraction : Option (List Digit) × List Char :=
    match whole.2 with
    | '.' :: r => (some (spanDigits r).1, (spanDigits r).2)
    | cs => (none, cs)
  if whole.1.isEmpty && (fraction.1.getD []).isEmpty then none
  else
    match power? fraction.2 with
    | none => none
    | some (power, rest) =>
      if rest.all isSpace then some ⟨signed.1, whole.1, fraction.1, power⟩ else none

/-- Digits are collected, first digit first, as long as the number that they make is
below a bound; the result has the number and how many digits were left out. -/
def collect : Nat → List Digit → Nat × Nat
  | n, [] => (n, 0)
  | n, d :: r =>
    if n < 1844674407370955160 then collect (n * 10 + d.val) r else (n, (d :: r).length)

/-- The digits that count and the power of ten that they stand for. -/
def Written.scaled (w : Written) : Nat × Int :=
  let whole := collect 0 w.whole
  let fraction := w.fraction.getD []
  let all := collect whole.1 fraction
  (all.1, w.power.getD 0 + (whole.2 : Nat) - ((fraction.length - all.2 : Nat) : Int))

/-- The integer that the float of a number times a power of ten is. -/
def wholeFloat? (n : Nat) (power : Int) : Option Nat :=
  if n = 0 then some 0 else (BinaryFloat.ofDecimal n power).whole?

/-- The integer that is kept for a number. -/
def Written.integer? (w : Written) : Option Int64 :=
  if w.fraction.isNone && w.power.isNone then Decimal.signed? w.negative w.whole.reverse
  else
    (wholeFloat? w.scaled.1 w.scaled.2).bind fun n =>
      if n ≤ Decimal.int64Top then
        some (Int64.ofInt (if w.negative then -(n : Int) else n))
      else none

/-- The integer that is kept for a text. -/
def integer? (text : String) : Option Int64 :=
  (Written.ofChars? text.toList).bind Written.integer?

end Affinity
end IssueTracker
