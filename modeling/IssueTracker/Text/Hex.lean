/-! Hexadecimal digits, and bytes written in them after a percent sign. A byte
that was written as an escape is read back, and bytes without a percent sign
stand for themselves. -/

namespace IssueTracker
namespace Hex

/-- A digit in lower case. -/
def digit (n : Nat) : Char :=
  if n < 10 then Char.ofNat (48 + n) else Char.ofNat (87 + n)

/-- A digit in upper case. -/
def upper (n : Nat) : Char :=
  if n < 10 then Char.ofNat (48 + n) else Char.ofNat (55 + n)

/-- The value of a digit in either case. -/
def value? (c : Char) : Option Nat :=
  let n := c.toNat
  if 48 ≤ n ∧ n < 58 then some (n - 48)
  else if 97 ≤ n ∧ n < 103 then some (n - 87)
  else if 65 ≤ n ∧ n < 71 then some (n - 55)
  else none

def byteValue? (b : UInt8) : Option Nat :=
  value? (Char.ofNat b.toNat)

theorem value?_digit (n : Fin 16) : value? (digit n.val) = some n.val := by
  revert n; decide

theorem byteValue?_upper (n : Fin 16) :
    byteValue? (UInt8.ofNat (upper n.val).toNat) = some n.val := by
  revert n; decide

end Hex

/-- Reads escapes; a percent sign without two digits stands for itself. -/
def percentDecode : List UInt8 → List UInt8
  | [] => []
  | [b] => [b]
  | [b, c] => [b, c]
  | b :: h :: l :: r =>
    if b = 0x25 then
      match Hex.byteValue? h, Hex.byteValue? l with
      | some x, some y => (x * 16 + y).toUInt8 :: percentDecode r
      | _, _ => b :: percentDecode (h :: l :: r)
    else b :: percentDecode (h :: l :: r)

/-- A byte as an escape. -/
def percentEncode (b : UInt8) : List Char :=
  ['%', Hex.upper (b.toNat / 16), Hex.upper (b.toNat % 16)]

theorem percentDecode_cons {b : UInt8} (r : List UInt8) (h : b ≠ 0x25) :
    percentDecode (b :: r) = b :: percentDecode r := by
  match r with
  | [] => rfl
  | [_] => rfl
  | _ :: _ :: _ => rw [percentDecode, if_neg h]

theorem percentDecode_percentEncode (b : UInt8) (r : List UInt8) :
    percentDecode ((percentEncode b).map (fun c => UInt8.ofNat c.toNat) ++ r) =
      b :: percentDecode r := by
  have hb := b.toNat_lt
  have high := Hex.byteValue?_upper ⟨b.toNat / 16, by omega⟩
  have low := Hex.byteValue?_upper ⟨b.toNat % 16, by omega⟩
  simp only at high low
  simp only [percentEncode, List.map_cons, List.map_nil, List.cons_append, List.nil_append]
  rw [show UInt8.ofNat '%'.toNat = 0x25 from rfl, percentDecode, if_pos rfl, high, low]
  simp only [List.cons.injEq, and_true]
  rw [show b.toNat / 16 * 16 + b.toNat % 16 = b.toNat by omega]
  exact UInt8.ofNat_toNat

/-- The characters of an escape are ASCII. -/
theorem percentEncode_ascii : ∀ b : UInt8, ∀ c ∈ percentEncode b, c.toNat < 128 := by
  intro b
  have hb := b.toNat_lt
  have upper (n : Fin 16) : (Hex.upper n.val).toNat < 128 := by revert n; decide
  intro c hc
  simp only [percentEncode, List.mem_cons, List.not_mem_nil, or_false] at hc
  rcases hc with rfl | rfl | rfl
  · decide
  · exact upper ⟨b.toNat / 16, by omega⟩
  · exact upper ⟨b.toNat % 16, by omega⟩

end IssueTracker
