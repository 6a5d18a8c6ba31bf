import IssueTracker.Decimal

/-! JSON values as they are written. A string keeps its `\u` escapes as code
units, and bytes that are no text as `junk`, so that a value nobody reads may
hold what a value somebody reads may not: `Quoted.text?` is where an unpaired
surrogate or junk is refused. A number keeps its digits. Text and integers that
were written are read back (`text?_ofString`, `int64?_ofInt`). -/

namespace IssueTracker
namespace Json

/-- One element of a string: a character that stands for itself or is written
with a short escape, a `\u` escape, or bytes that are not UTF-8. -/
inductive Piece where
  | char (c : Char)
  | unit (u : UInt16)
  | junk
  deriving DecidableEq

abbrev Quoted := List Piece

/-- The letter of a short escape, for the characters that are written with one. -/
def shortEscape? (c : Char) : Option Char :=
  match c with
  | '"' => some '"'
  | '\\' => some '\\'
  | '\x08' => some 'b'
  | '\x0c' => some 'f'
  | '\n' => some 'n'
  | '\r' => some 'r'
  | '\t' => some 't'
  | _ => none

namespace Piece

/-- A control character without a short escape is written as a `\u` escape. -/
def ofChar (c : Char) : Piece :=
  if c.toNat < 32 ∧ shortEscape? c = none then .unit c.toNat.toUInt16 else .char c

end Piece

def isHigh (u : UInt16) : Bool := 0xD800 ≤ u && u < 0xDC00

def isLow (u : UInt16) : Bool := 0xDC00 ≤ u && u < 0xE000

/-- The character of a surrogate pair. -/
def paired (high low : UInt16) : Char :=
  Char.ofNat (0x10000 + (high.toNat - 0xD800) * 0x400 + (low.toNat - 0xDC00))

namespace Quoted

def ofString (s : String) : Quoted :=
  s.toList.map Piece.ofChar

/-- The characters read so far, last first, and a high surrogate that waits for
its low one. -/
def charsFrom? : List Char → Option UInt16 → Quoted → Option (List Char)
  | done, none, [] => some done.reverse
  | done, none, .char c :: r => charsFrom? (c :: done) none r
  | done, none, .unit u :: r =>
    if isHigh u then charsFrom? done (some u) r
    else if isLow u then none
    else charsFrom? (Char.ofNat u.toNat :: done) none r
  | done, some h, .unit u :: r =>
    if isLow u then charsFrom? (paired h u :: done) none r else none
  | _, _, _ => none

/-- The text of a string, if every surrogate is half of a pair and nothing is junk. -/
def text? (q : Quoted) : Option String :=
  (charsFrom? [] none q).map String.ofList

theorem charsFrom?_ofChar (done : List Char) (c : Char) (q : Quoted) :
    charsFrom? done none (Piece.ofChar c :: q) = charsFrom? (c :: done) none q := by
  unfold Piece.ofChar
  split
  · next h =>
    have hu : c.toNat.toUInt16.toNat = c.toNat := by
      simp only [Nat.toUInt16, UInt16.toNat_ofNat']
      omega
    have high : isHigh c.toNat.toUInt16 = false := by
      simp only [isHigh, Bool.and_eq_false_iff, decide_eq_false_iff_not, UInt16.le_iff_toNat_le, hu]
      left
      simp; omega
    have low : isLow c.toNat.toUInt16 = false := by
      simp only [isLow, Bool.and_eq_false_iff, decide_eq_false_iff_not, UInt16.le_iff_toNat_le, hu]
      left
      simp; omega
    simp only [charsFrom?, high, low, hu, Bool.false_eq_true, if_false]
    rw [show Char.ofNat c.toNat = c from Char.ofNat_toNat c]
  · rfl

theorem charsFrom?_map_ofChar (done cs : List Char) :
    charsFrom? done none (cs.map Piece.ofChar) = some (done.reverse ++ cs) := by
  induction cs generalizing done with
  | nil => simp [charsFrom?]
  | cons c cs ih => simp [charsFrom?_ofChar, ih]

/-- A string that was written is read back. -/
theorem text?_ofString (s : String) : text? (ofString s) = some s := by
  simp [text?, ofString, charsFrom?_map_ofChar]

end Quoted

structure Exponent where
  negative : Bool
  digits : List Digit
  deriving DecidableEq

/-- A number as it is written; every list of digits is last first, and a number
without a fraction or an exponent has none. -/
structure Numeral where
  negative : Bool
  whole : List Digit
  fraction : List Digit
  exponent : Option Exponent
  deriving DecidableEq

namespace Numeral

def ofInt (i : Int) : Numeral :=
  ⟨decide (i < 0), Decimal.ofNat i.natAbs, [], none⟩

/-- The 64-bit integer that is written as one: no fraction, no exponent and no
negative zero. -/
def int64? (n : Numeral) : Option Int64 :=
  if n.fraction.isEmpty && n.exponent.isNone && !(n.negative && n.whole.map Fin.val == [0]) then
    Decimal.signed? n.negative n.whole
  else none

theorem int64?_ofInt (i : Int64) : (ofInt i.toInt).int64? = some i := by
  have lower := i.le_toInt
  have upper := i.toInt_lt
  have zero (hn : i.toInt < 0) : Decimal.ofNat i.toInt.natAbs ≠ [0] := by
    intro h0
    have hv := Decimal.value_ofNat i.toInt.natAbs
    simp [h0, Decimal.value] at hv
    omega
  unfold int64? ofInt
  by_cases hn : i.toInt < 0
  · rw [if_pos (by simp [hn, zero hn]), Decimal.signed?, if_pos (by simpa using hn),
      Decimal.atMost?_ofNat (by unfold Decimal.int64Top; omega), Option.map_some,
      show -((i.toInt.natAbs : Nat) : Int) = i.toInt by omega, Int64.ofInt_toInt]
  · rw [if_pos (by simp [hn]), Decimal.signed?, if_neg (by simpa using hn),
      Decimal.atMost?_ofNat (by unfold Decimal.int64Top; omega), Option.map_some,
      show ((i.toInt.natAbs : Nat) : Int) = i.toInt by omega, Int64.ofInt_toInt]

end Numeral

end Json

inductive Json where
  | null
  | bool (b : Bool)
  | num (n : Json.Numeral)
  | str (s : Json.Quoted)
  | arr (items : List Json)
  | obj (members : List (Json.Quoted × Json))
  deriving Inhabited

end IssueTracker
