import IssueTracker.Timestamp.Pattern
import IssueTracker.Timestamp.Printer
import IssueTracker.Json.Codec

/-! How instants are read. On the wire the zone is required and blanks are
taken between the numbers; in the store a text may also be shorter, and without
a zone it is universal time. -/

namespace IssueTracker
namespace Timestamp

def datePattern : List Item :=
  [.year, .blanks, .mark '-', .part .month, .blanks, .mark '-', .part .day]

def timePattern : List Item :=
  [.part .hour, .blanks, .mark ':', .part .minute, .blanks, .mark ':', .part .second,
    .fraction, .blanks]

def wirePattern : List Item :=
  datePattern ++ .separator :: (timePattern ++ [.wideZone])

/-- The instant that a text on the wire names; blanks may follow it. -/
def ofChars? (cs : List Char) : Option Timestamp :=
  (readItems wirePattern {} cs).bind fun p =>
    if (trimStart p.2).isEmpty then p.1.instant? else none

def ofString? (s : String) : Option Timestamp :=
  ofChars? s.toList

def strictPattern : List Item :=
  [.fixedYear, .mark '-', .fixedPart .month, .mark '-', .fixedPart .day, .separator,
    .fixedPart .hour, .mark ':', .fixedPart .minute, .mark ':', .fixedPart .second, .fraction, .zone]

def shortDate : List Item :=
  [.year, .mark '-', .part .month, .mark '-', .part .day]

def shortClock : List Item :=
  [.part .hour, .mark ':', .part .minute]

def longClock : List Item :=
  shortClock ++ [.mark ':', .part .second, .fraction]

/-- The shorter patterns of the store, in the order in which they are tried. -/
def storedPatterns : List (List Item) :=
  let spaced := fun r => shortDate ++ .blanks :: r
  let joined := fun r => shortDate ++ .mark 'T' :: r
  [spaced longClock, spaced shortClock, spaced (shortClock ++ [.mark 'Z']),
    spaced (shortClock ++ [.offset]), spaced (longClock ++ [.mark 'Z']),
    spaced (longClock ++ [.offset]),
    joined shortClock, joined (shortClock ++ [.mark 'Z']), joined (shortClock ++ [.offset]),
    joined longClock, joined (longClock ++ [.mark 'Z']), joined (longClock ++ [.offset])]

/-- Reads the whole text by a pattern. -/
def readWhole (p : List Item) (cs : List Char) : Option Fields :=
  (readItems p {} cs).bind fun r => if r.2.isEmpty then some r.1 else none

/-- The instant that a text in the store names. -/
def ofStored? (s : String) : Option Timestamp :=
  let cs := s.toList
  match (readWhole strictPattern cs).bind Fields.instant? with
  | some t => some t
  | none =>
    storedPatterns.findSome? fun p =>
      (readWhole p cs).bind fun f => f.instant?.or f.universal?

def codec : Codec Timestamp :=
  Codec.spelled text ofString?

end Timestamp

end IssueTracker
