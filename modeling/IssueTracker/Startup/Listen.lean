import IssueTracker.Decimal
import IssueTracker.Text.Hex
import IssueTracker.Text.Pieces

/-! Addresses to listen on: a host and a port. A host is written as an internet
address, in one of several forms, or is the name of this machine. A server can
listen on the addresses of this machine, on those that stand for all machines of
a network, and on those of groups. -/

namespace IssueTracker

/-- An internet address: of four bytes or of eight groups of sixteen bits. -/
inductive HostAddress where
  | four (number : Nat)
  | six (groups : List Nat)
  deriving DecidableEq

namespace HostAddress

/-- Four bytes in decimal, without leading zeros. -/
def ofDotted? (cs : List Char) : Option Nat :=
  let parts := (pieces '.' cs).mapM fun p =>
    if 1 < p.length && p.head? == some '0' then none
    else (Decimal.digits? p).bind (Decimal.atMost? 255)
  match parts with
  | some [a, b, c, d] => some (((a * 256 + b) * 256 + c) * 256 + d)
  | _ => none

/-- The number that digits of a base make, if each is one. -/
def inBase? (base : Nat) (cs : List Char) : Option Nat :=
  if cs.isEmpty then none
  else
    cs.foldlM (fun n c =>
      (Hex.value? c).bind fun d => if d < base then some (n * base + d) else none) 0

/-- A number in decimal, in octal behind a zero, or in hexadecimal behind `0x`. -/
def number? (cs : List Char) : Option Nat :=
  match cs with
  | '0' :: 'x' :: r => inBase? 16 r
  | '0' :: 'X' :: r => inBase? 16 r
  | ['0'] => some 0
  | '0' :: r => inBase? 8 r
  | r => inBase? 10 r

/-- All parts but the last are bytes, and the last one takes the room that is left. -/
def joinParts? (room : Nat) : List Nat → Option Nat
  | [] => none
  | [n] => if n < room then some n else none
  | n :: r => if n < 256 then (joinParts? (room / 256) r).map (n * (room / 256) + ·) else none

/-- One to four numbers between dots. -/
def ofNumbers? (cs : List Char) : Option Nat :=
  let ps := pieces '.' cs
  if 4 < ps.length then none else (ps.mapM number?).bind (joinParts? 4294967296)

/-- Groups of one to four hexadecimal digits between colons; the last two of them
may be written as four bytes. -/
def groups? : List (List Char) → Option (List Nat)
  | [] => some []
  | [p] =>
    match ofDotted? p with
    | some n => some [n / 65536, n % 65536]
    | none => if p.length ≤ 4 then (inBase? 16 p).map fun n => [n] else none
  | p :: ps =>
    if p.length ≤ 4 then
      (inBase? 16 p).bind fun n => (groups? ps).map fun ns => n :: ns
    else none

/-- The groups on one side of a double colon. -/
def side? (cs : List Char) : Option (List Nat) :=
  if cs.isEmpty then some [] else groups? (pieces ':' cs)

/-- The text in front of the first double colon and the text behind it. -/
def splitDouble : List Char → Option (List Char × List Char)
  | ':' :: ':' :: r => some ([], r)
  | c :: r => (splitDouble r).map fun p => (c :: p.1, p.2)
  | [] => none

/-- Eight groups; a double colon stands for at least one group of zeros, and bytes
in front of it are no groups. -/
def ofGroups? (cs : List Char) : Option (List Nat) :=
  match splitDouble cs with
  | none =>
    match groups? (pieces ':' cs) with
    | some gs => if gs.length = 8 then some gs else none
    | none => none
  | some (a, b) =>
    if a.contains '.' then none
    else
      match side? a, side? b with
      | some gs, some hs =>
        if gs.length + hs.length < 8 then
          some (gs ++ List.replicate (8 - gs.length - hs.length) 0 ++ hs)
        else none
      | _, _ => none

/-- Eight groups, and behind a percent sign the number of a zone. -/
def ofZoned? (cs : List Char) : Option (List Nat) :=
  let address := cs.takeWhile (· != '%')
  match cs.drop address.length with
  | [] => ofGroups? address
  | _ :: zone =>
    match (Decimal.digits? zone).bind (Decimal.atMost? 4294967295) with
    | some _ => ofGroups? address
    | none => none

/-- An address of four bytes that a server can listen on: of this machine, of no
machine or all of them, or of a group. -/
def fourBindable (n : Nat) : Bool :=
  let first := n / 16777216
  first == 0 || first == 127 || (224 ≤ first && first ≤ 239) || n == 4294967295

/-- The address that names no machine, the one of this machine, and those that
stand for an address of four bytes. -/
def bindable : HostAddress → Bool
  | .four n => fourBindable n
  | .six gs =>
    match gs with
    | [0, 0, 0, 0, 0, 0xFFFF, a, b] => fourBindable (a * 65536 + b)
    | gs => gs == List.replicate 8 0 || gs == List.replicate 7 0 ++ [1]

/-- Names of this machine. -/
def localNames : List (List Char) :=
  ["localhost".toList, "ip6-localhost".toList, "ip6-loopback".toList]

/-- The address of a host, by its numbers or its name in either case. -/
def ofHost? (host : List Char) : Option HostAddress :=
  match ofNumbers? host with
  | some n => some (.four n)
  | none =>
    match ofZoned? host with
    | some gs => some (.six gs)
    | none =>
      if localNames.contains (host.map Char.toLower) then some (.four 2130706433) else none

end HostAddress

namespace ListenAddress

/-- The host and the port of an address, at the last colon. -/
def split? (cs : List Char) : Option (List Char × List Char) :=
  let back := cs.reverse.takeWhile (· != ':')
  if back.length = cs.length then none
  else some (cs.take (cs.length - back.length - 1), back.reverse)

def maxPort : Nat := 65535

/-- An address of eight groups is in brackets. -/
def bracketed? (host : List Char) : Option (List Char) :=
  match host with
  | '[' :: r => if r.getLast? = some ']' then some r.dropLast else none
  | _ => none

/-- The host's address, if the port is one too. An address in brackets has a port
without a sign. -/
def ofChars? (cs : List Char) : Option HostAddress :=
  match split? cs with
  | none => none
  | some (host, port) =>
    match bracketed? host with
    | some inner =>
      ((Decimal.digits? port).bind (Decimal.atMost? maxPort)).bind fun _ =>
        (HostAddress.ofZoned? inner).map .six
    | none =>
      (Decimal.nat? maxPort (String.ofList port)).bind fun _ => HostAddress.ofHost? host

/-- A server can listen on the address. -/
def bindable (address : String) : Bool :=
  (ofChars? address.toList).any HostAddress.bindable

end ListenAddress
end IssueTracker
