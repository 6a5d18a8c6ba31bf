import IssueTracker.Decimal
import IssueTracker.Timestamp.Basic

/-! How instants are written: date, `T` and time, with the fewest of 0, 3, 6
and 9 digits of the second that are exact. A year outside 0 to 9999 has a sign
and at least four digits. The zone is `Z` on the wire and `+00:00` in the
store, where instants are compared as texts. -/

namespace IssueTracker
namespace Timestamp

def yearChars (y : Int) : List Char :=
  if 0 ≤ y ∧ y ≤ 9999 then Decimal.fixed 4 y.toNat
  else
    let sign := if y < 0 then '-' else '+'
    let n := y.natAbs
    sign :: (if n ≤ 9999 then Decimal.fixed 4 n else Decimal.chars n)

def dateChars (d : Date) : List Char :=
  yearChars d.year ++ '-' :: (Decimal.fixed 2 d.month ++ '-' :: Decimal.fixed 2 d.day)

def fractionChars (nano : Nat) : List Char :=
  if nano = 0 then []
  else if nano % 1000000 = 0 then '.' :: Decimal.fixed 3 (nano / 1000000)
  else if nano % 1000 = 0 then '.' :: Decimal.fixed 6 (nano / 1000)
  else '.' :: Decimal.fixed 9 nano

def clockChars (c : Clock) : List Char :=
  Decimal.fixed 2 c.hour ++ ':' :: (Decimal.fixed 2 c.minute
    ++ ':' :: (Decimal.fixed 2 c.second ++ fractionChars c.nano))

def localChars (t : Timestamp) : List Char :=
  dateChars t.date ++ 'T' :: clockChars t.clock

/-- The text on the wire. -/
def text (t : Timestamp) : String :=
  String.ofList (t.localChars ++ ['Z'])

/-- The text in the store. -/
def stored (t : Timestamp) : String :=
  String.ofList (t.localChars ++ ['+', '0', '0', ':', '0', '0'])

end Timestamp
end IssueTracker
