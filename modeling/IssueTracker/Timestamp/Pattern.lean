import IssueTracker.Decimal
import IssueTracker.Text.Blank
import IssueTracker.Timestamp.Basic

/-! Patterns of dates and times. A pattern is a list of items; reading a text
by it collects `Fields` and gives what is left of the text. Numbers may have
blanks in front unless their width is fixed. -/

namespace IssueTracker
namespace Timestamp

structure Fields where
  year : Int := 0
  month : Nat := 0
  day : Nat := 0
  hour : Nat := 0
  minute : Nat := 0
  second : Nat := 0
  nano : Nat := 0
  /-- Minutes ahead of universal time. -/
  offset : Option Int := none

inductive Part where
  | month
  | day
  | hour
  | minute
  | second

inductive Item where
  /-- Four digits, or a sign and any number of digits. -/
  | year
  /-- Four digits exactly. -/
  | fixedYear
  /-- One or two digits. -/
  | part (p : Part)
  /-- Two digits exactly. -/
  | fixedPart (p : Part)
  | mark (c : Char)
  /-- `T` in either case, or a space. -/
  | separator
  | blanks
  /-- A point and digits, or nothing; digits after the ninth are dropped. -/
  | fraction
  /-- A sign, hours, colons and blanks, and minutes. -/
  | offset
  /-- `Z`, or an offset with one colon. -/
  | zone
  /-- `Z`, `UTC`, or an offset, after blanks. -/
  | wideZone

/-- The longest run of digits in front, at most `most`. -/
def spanDigits (most : Nat) (cs : List Char) : List Digit × List Char :=
  let front := (cs.take most).takeWhile fun c => (Digit.ofChar? c).isSome
  (front.filterMap Digit.ofChar?, cs.drop front.length)

/-- A number of `least` to `most` digits. -/
def number (least most : Nat) (cs : List Char) : Option (Nat × List Char) :=
  let p := spanDigits most cs
  if least ≤ p.1.length then
    (Decimal.atMost? Decimal.int64Top p.1.reverse).map fun n => (n, p.2)
  else none

namespace Part

def set (p : Part) (n : Nat) (f : Fields) : Fields :=
  match p with
  | .month => { f with month := n }
  | .day => { f with day := n }
  | .hour => { f with hour := n }
  | .minute => { f with minute := n }
  | .second => { f with second := n }

end Part

/-- Hours and minutes of an offset, with `gap` taking what is between them. -/
def readOffset (gap : List Char → Option (List Char)) (cs : List Char) :
    Option (Int × List Char) :=
  match cs with
  | [] => none
  | c :: r =>
    if c = '+' ∨ c = '-' ∨ c = '\u2212' then
      match number 2 2 r with
      | none => none
      | some (h, r) =>
        match gap r with
        | none => none
        | some r =>
          match number 2 2 r with
          | none => none
          | some (m, r) =>
            if m < 60 then
              let n : Int := (h * 60 + m : Nat)
              some (if c = '+' then n else -n, r)
            else none
    else none

def colonGap : List Char → Option (List Char)
  | ':' :: r => some r
  | _ => none

def wideGap (cs : List Char) : Option (List Char) :=
  some (cs.dropWhile fun c => c == ':' || isBlank c)

def readFraction (cs : List Char) : Option (Nat × List Char) :=
  let p := spanDigits 9 cs
  if p.1.isEmpty then none
  else some (Decimal.value p.1.reverse * Nat.pow 10 (9 - p.1.length),
    p.2.dropWhile fun c => (Digit.ofChar? c).isSome)

def readZulu : List Char → Option (List Char)
  | 'Z' :: r => some r
  | 'z' :: r => some r
  | _ => none

def readUtc : List Char → Option (List Char)
  | u :: t :: c :: r =>
    if u.toLower = 'u' ∧ t.toLower = 't' ∧ c.toLower = 'c' then some r else none
  | _ => none

namespace Item

def read (item : Item) (f : Fields) (cs : List Char) : Option (Fields × List Char) :=
  match item with
  | .year =>
    let cs := trimStart cs
    match cs with
    | '-' :: r => (number 1 r.length r).map fun p => ({ f with year := -p.1 }, p.2)
    | '+' :: r => (number 1 r.length r).map fun p => ({ f with year := p.1 }, p.2)
    | _ => (number 1 4 cs).map fun p => ({ f with year := p.1 }, p.2)
  | .fixedYear => (number 4 4 cs).map fun p => ({ f with year := p.1 }, p.2)
  | .part q => (number 1 2 (trimStart cs)).map fun p => (q.set p.1 f, p.2)
  | .fixedPart q => (number 2 2 cs).map fun p => (q.set p.1 f, p.2)
  | .mark m =>
    match cs with
    | c :: r => if c = m then some (f, r) else none
    | [] => none
  | .separator =>
    match cs with
    | c :: r => if c = 'T' ∨ c = 't' ∨ c = ' ' then some (f, r) else none
    | [] => none
  | .blanks => some (f, trimStart cs)
  | .fraction =>
    match cs with
    | '.' :: r => (readFraction r).map fun p => ({ f with nano := p.1 }, p.2)
    | _ => some (f, cs)
  | .offset => (readOffset wideGap (trimStart cs)).map fun p => ({ f with offset := some p.1 }, p.2)
  | .zone =>
    match readZulu cs with
    | some r => some ({ f with offset := some 0 }, r)
    | none => (readOffset colonGap cs).map fun p => ({ f with offset := some p.1 }, p.2)
  | .wideZone =>
    let cs := trimStart cs
    match readUtc cs with
    | some r => some ({ f with offset := some 0 }, r)
    | none =>
      match readZulu cs with
      | some r => some ({ f with offset := some 0 }, r)
      | none => (readOffset wideGap cs).map fun p => ({ f with offset := some p.1 }, p.2)

end Item

def readItems : List Item → Fields → List Char → Option (Fields × List Char)
  | [], f, cs => some (f, cs)
  | i :: r, f, cs =>
    match i.read f cs with
    | some (f', cs') => readItems r f' cs'
    | none => none

namespace Fields

def date? (f : Fields) : Option Date :=
  Date.make? f.year f.month f.day

def clock? (f : Fields) : Option Clock :=
  Clock.make? f.hour f.minute f.second f.nano

/-- The instant, if an offset of less than a day was given. -/
def instant? (f : Fields) : Option Timestamp :=
  match f.date?, f.clock?, f.offset with
  | some d, some c, some o => if o.natAbs < 1440 then Timestamp.ofLocal? d c o else none
  | _, _, _ => none

/-- The instant of a date and time that are taken for universal time. -/
def universal? (f : Fields) : Option Timestamp :=
  match f.date?, f.clock? with
  | some d, some c => some ⟨d, c⟩
  | _, _ => none

end Fields
end Timestamp
end IssueTracker
