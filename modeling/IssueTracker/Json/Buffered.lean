import IssueTracker.Json.Record

/-! Values that are held before it is known where they belong. Such a value has
to be readable by itself: its strings are text, its numbers are within the
range of a 64-bit binary float, and it is nested less deeply than a limit. -/

namespace IssueTracker
namespace Json

/-- The number with at most 53 significant bits that is nearest, of two the even one. -/
def roundBinary (n : Nat) : Nat :=
  let shift := n.log2 - 52
  let unit := Nat.pow 2 shift
  let low := n / unit
  let rest := n % unit
  if 2 * rest > unit ∨ (2 * rest = unit ∧ low % 2 = 1) then (low + 1) * unit else low * unit

/-- Digits are collected, first digit first, as long as they make a number that fits
in 64 bits; the result has the number and how many digits were left out. -/
def significand : Nat → List Digit → Nat × Nat
  | n, [] => (n, 0)
  | n, d :: r => if n * 10 + d.val < UInt64.size then significand (n * 10 + d.val) r
    else (n, (d :: r).length)

namespace Numeral

/-- The significand and the power of ten of a number without its exponent. -/
def scaled (n : Numeral) : Nat × Int :=
  match significand 0 n.whole.reverse with
  | (s, 0) =>
    match significand s n.fraction.reverse with
    | (t, left) => (t, -((n.fraction.length - left : Nat) : Int))
  | (s, left + 1) => (s, (left + 1 : Nat))

/-- The number is not too large for a 64-bit binary float. -/
def finite (n : Numeral) : Bool :=
  let (s, scale) := n.scaled
  if s = 0 then true
  else
    let power : Option Int :=
      match n.exponent with
      | none => some scale
      | some e =>
        match Decimal.atMost? 2147483647 e.digits with
        | some p => some (if e.negative then scale - p else scale + p)
        | none => none
    match power with
    | none => n.exponent.any Exponent.negative
    | some p =>
      if p ≤ 0 then true
      else if 308 < p then false
      else roundBinary (roundBinary s * roundBinary (Nat.pow 10 p.toNat)) < Nat.pow 2 1024

end Numeral

mutual

/-- The value can be held: at most `depth` brackets are open at a time. -/
def holdable : Nat → Json → Bool
  | _, .null => true
  | _, .bool _ => true
  | _, .num n => n.finite
  | _, .str s => s.text?.isSome
  | 0, .arr _ => false
  | 0, .obj _ => false
  | d + 1, .arr items => holdableItems d items
  | d + 1, .obj members => holdableMembers d members

def holdableItems : Nat → List Json → Bool
  | _, [] => true
  | d, v :: r => holdable d v && holdableItems d r

def holdableMembers : Nat → List (Quoted × Json) → Bool
  | _, [] => true
  | d, (k, v) :: r => k.text?.isSome && holdable d v && holdableMembers d r

end

end Json
end IssueTracker
