import IssueTracker.Json.Codec
import IssueTracker.Text.Utf8

/-! Identifiers of 128 bits, held as their 32 hexadecimal digits. They are read
in four spellings and any case: the digits alone, the hyphenated form, that
form in braces, and that form after `urn:uuid:`. They are written hyphenated
and in lower case. -/

namespace IssueTracker

structure Uuid where
  digits : List (Fin 16)
  length_eq : digits.length = 32
  deriving DecidableEq

namespace Uuid

def zero : Uuid :=
  ⟨List.replicate 32 0, by simp⟩

instance : Inhabited Uuid := ⟨zero⟩

/-- The last 128 bits of a number. -/
def ofNat (n : Nat) : Uuid :=
  ⟨(List.range 32).map fun i => Fin.ofNat 16 (n >>> (4 * (31 - i))), by simp⟩

def hexDigit? (c : Char) : Option (Fin 16) :=
  (Hex.value? c).bind fun n => if h : n < 16 then some ⟨n, h⟩ else none

def ofDigits? (ds : List (Fin 16)) : Option Uuid :=
  if h : ds.length = 32 then some ⟨ds, h⟩ else none

/-- The digits alone. -/
def simple (u : Uuid) : List Char :=
  u.digits.map fun d => Hex.digit d.val

/-- Puts hyphens between groups of 8, 4, 4, 4 and 12. -/
def hyphenate (cs : List Char) : List Char :=
  cs.take 8 ++ '-' :: ((cs.drop 8).take 4 ++ '-' :: ((cs.drop 12).take 4
    ++ '-' :: ((cs.drop 16).take 4 ++ '-' :: cs.drop 20)))

def chars (u : Uuid) : List Char :=
  hyphenate u.simple

def text (u : Uuid) : String :=
  String.ofList u.chars

instance : ToString Uuid := ⟨text⟩

def ofSimple? (cs : List Char) : Option Uuid :=
  (cs.mapM hexDigit?).bind ofDigits?

/-- The hyphens stand after 8, 13, 18 and 23 characters. -/
def ofHyphenated? (cs : List Char) : Option Uuid :=
  if cs.length = 36 ∧ cs[8]? = some '-' ∧ cs[13]? = some '-' ∧ cs[18]? = some '-'
      ∧ cs[23]? = some '-' then
    ofSimple? (cs.take 8 ++ (cs.drop 9).take 4 ++ (cs.drop 14).take 4 ++ (cs.drop 19).take 4
      ++ cs.drop 24)
  else none

def ofChars? (cs : List Char) : Option Uuid :=
  match cs.length with
  | 32 => ofSimple? cs
  | 36 => ofHyphenated? cs
  | 38 =>
    if cs.head? = some '{' ∧ cs.getLast? = some '}' then ofHyphenated? ((cs.drop 1).take 36)
    else none
  | 45 =>
    if (cs.take 9).map Char.toLower = ['u', 'r', 'n', ':', 'u', 'u', 'i', 'd', ':'] then
      ofHyphenated? (cs.drop 9)
    else none
  | _ => none

def ofString? (s : String) : Option Uuid :=
  ofChars? s.toList

/-- The identifier that these bytes are, if they are 16. -/
def ofBytes? (bs : List UInt8) : Option Uuid :=
  ofDigits? (bs.flatMap fun b => [Fin.ofNat 16 (b.toNat / 16), Fin.ofNat 16 b.toNat])

/-- The identifier that the bytes of a text are. -/
def ofRaw? (text : String) : Option Uuid :=
  ofBytes? (Utf8.encode text.toList)

def codec : Codec Uuid :=
  Codec.spelled text ofString?

end Uuid
end IssueTracker
