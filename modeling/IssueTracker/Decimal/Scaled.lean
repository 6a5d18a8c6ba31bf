import IssueTracker.Decimal

/-! Numbers times powers of ten in binary floats. The product is multiplied out by
hundredth, tenth and single powers in turn, each product rounded to 64 bits, and the
last one to 53. What comes out may therefore differ in its last bit from the float
that is nearest to the number written. -/

namespace IssueTracker

/-- The number `mantissa` times two to the power of `exponent`. -/
structure BinaryFloat where
  mantissa : Nat
  exponent : Int
  deriving DecidableEq

namespace BinaryFloat

/-- The quotient rounded to the nearest number, of two the even one. -/
def nearestQuotient (a b : Nat) : Nat :=
  let low := a / b
  let rest := a % b
  if 2 * rest > b ∨ (2 * rest = b ∧ low % 2 = 1) then low + 1 else low

/-- How many bits a number has. -/
def bits (n : Nat) : Nat :=
  if n = 0 then 0 else n.log2 + 1

/-- The nearest float whose mantissa has at most this many bits. -/
def round (size : Nat) (x : BinaryFloat) : BinaryFloat :=
  let extra := bits x.mantissa - size
  ⟨nearestQuotient x.mantissa (Nat.pow 2 extra), x.exponent + (extra : Nat)⟩

/-- The size of a product. -/
def wide : Nat := 64

/-- The size of a result. -/
def narrow : Nat := 53

def mul (x y : BinaryFloat) : BinaryFloat :=
  round wide ⟨x.mantissa * y.mantissa, x.exponent + y.exponent⟩

/-- A power of ten. -/
def tenTo (n : Nat) : BinaryFloat :=
  round wide ⟨Nat.pow 10 n, 0⟩

/-- The inverse of a power of ten. -/
def tenthTo (n : Nat) : BinaryFloat :=
  let shift := bits (Nat.pow 10 n) + wide - 1
  ⟨nearestQuotient (Nat.pow 2 shift) (Nat.pow 10 n), -(shift : Nat)⟩

/-- A float times the `n`th power of ten or of a tenth, as `power` has them. -/
def scale (power : Nat → BinaryFloat) (n : Nat) (x : BinaryFloat) : BinaryFloat :=
  (List.replicate (n / 100) (power 100) ++ List.replicate (n % 100 / 10) (power 10)
    ++ List.replicate (n % 10) (power 1)).foldl mul x

/-- Below this a number may be multiplied by ten before it is scaled. -/
def roomForTen : Nat := 1844674407370954956

/-- Takes tens from a power of ten into a number, as long as there is room. -/
def raise : Nat → Nat → Nat × Nat
  | n, 0 => (n, 0)
  | n, p + 1 => if n < roomForTen then raise (n * 10) p else (n, p + 1)

/-- Takes tens out of a number, as long as it has any, to cancel powers of a tenth. -/
def lower : Nat → Nat → Nat × Nat
  | n, 0 => (n, 0)
  | n, p + 1 => if n % 10 = 0 then lower (n / 10) p else (n, p + 1)

/-- A number times a power of ten. -/
def ofDecimal (n : Nat) (power : Int) : BinaryFloat :=
  if 0 ≤ power then
    let r := raise n power.toNat
    scale tenTo r.2 ⟨r.1, 0⟩
  else
    let r := lower n power.natAbs
    scale tenthTo r.2 ⟨r.1, 0⟩

/-- The exponent of the least result. -/
def leastExponent : Int := -1074

/-- A float of at most half of the least result comes out as zero. -/
def vanishes (x : BinaryFloat) : Bool :=
  let size := bits x.mantissa
  size + x.exponent < leastExponent
    || (size + x.exponent == leastExponent && x.mantissa == Nat.pow 2 (size - 1))

/-- The number that the result is, if it is a whole one. -/
def whole? (x : BinaryFloat) : Option Nat :=
  if x.vanishes then some 0
  else
    let y := round narrow x
    if 0 ≤ y.exponent then some (y.mantissa * Nat.pow 2 y.exponent.toNat)
    else
      let unit := Nat.pow 2 y.exponent.natAbs
      if y.mantissa % unit = 0 then some (y.mantissa / unit) else none

end BinaryFloat
end IssueTracker
