import IssueTracker.Text.Hex
import IssueTracker.Text.Pieces
import IssueTracker.Text.Utf8

/-! Form-encoded pairs, as in the query of a page link. Reading takes anything:
a bad escape stands for itself and bytes that are not UTF-8 become the
replacement character. What was written is read back (`parse_render`). -/

namespace IssueTracker
namespace Form

/-- A plus sign stands for a space. -/
def spaced (c : Char) : Char :=
  if c = '+' then ' ' else c

/-- The text of a key or a value. -/
def decode (cs : List Char) : List Char :=
  Utf8.lossy (percentDecode (Utf8.encode (cs.map spaced)))

def pair (piece : List Char) : String × String :=
  let key := piece.takeWhile (· != '=')
  (String.ofList (decode key), String.ofList (decode ((piece.drop key.length).drop 1)))

/-- The pairs of a query; pieces without a character are no pairs. -/
def parse (cs : List Char) : List (String × String) :=
  ((pieces '&' cs).filter fun p => !p.isEmpty).map pair

/-- Letters, digits and `*-._` stand for themselves. -/
def isSafe (b : UInt8) : Bool :=
  (0x30 ≤ b && b ≤ 0x39) || (0x41 ≤ b && b ≤ 0x5A) || (0x61 ≤ b && b ≤ 0x7A)
    || b == 0x2A || b == 0x2D || b == 0x2E || b == 0x5F

def encodeByte (b : UInt8) : List Char :=
  if isSafe b then [Char.ofNat b.toNat]
  else if b = 0x20 then ['+']
  else percentEncode b

def encode (s : String) : List Char :=
  (Utf8.encode s.toList).flatMap encodeByte

def pairChars (p : String × String) : List Char :=
  encode p.1 ++ '=' :: encode p.2

/-- The query of some pairs. -/
def render (ps : List (String × String)) : List Char :=
  List.intercalate ['&'] (ps.map pairChars)

/-- An encoded byte is ASCII, and none of the marks between pairs. -/
theorem encodeByte_plain (b : UInt8) : ∀ c ∈ encodeByte b, c.toNat < 128 ∧ c ≠ '&' ∧ c ≠ '=' := by
  have all : ((List.range 256).all fun n => (encodeByte (UInt8.ofNat n)).all fun c =>
      c.toNat < 128 && c != '&' && c != '=') = true := by decide +kernel
  have := List.all_eq_true.1 all b.toNat (List.mem_range.2 b.toNat_lt)
  simpa [and_assoc] using this

theorem spaced_ascii {c : Char} (h : c.toNat < 128) : (spaced c).toNat < 128 := by
  unfold spaced
  split
  · decide
  · exact h

/-- The bytes of an encoded byte, once plus signs are spaces. -/
theorem encode_encodeByte (b : UInt8) :
    Utf8.encode ((encodeByte b).map spaced) =
      ((encodeByte b).map spaced).map fun c => UInt8.ofNat c.toNat := by
  refine Utf8.encode_ascii fun c hc => ?_
  obtain ⟨d, hd, rfl⟩ := List.mem_map.1 hc
  exact spaced_ascii (encodeByte_plain b d hd).1

/-- A byte that stands for itself is one ASCII character, and no mark. -/
theorem isSafe_plain {b : UInt8} (h : isSafe b) :
    b ≠ 0x25 ∧ spaced (Char.ofNat b.toNat) = Char.ofNat b.toNat
      ∧ UInt8.ofNat (Char.ofNat b.toNat).toNat = b := by
  have all : ((List.range 256).all fun n => !isSafe (UInt8.ofNat n) || (UInt8.ofNat n != 0x25
      && spaced (Char.ofNat n) == Char.ofNat n
      && UInt8.ofNat (Char.ofNat n).toNat == UInt8.ofNat n)) = true := by decide +kernel
  have := List.all_eq_true.1 all b.toNat (List.mem_range.2 b.toNat_lt)
  simpa [h, and_assoc] using this

theorem spaced_percentEncode (b : UInt8) : (percentEncode b).map spaced = percentEncode b := by
  have upper : ∀ n : Fin 16, spaced (Hex.upper n.val) = Hex.upper n.val := by decide
  have hb := b.toNat_lt
  have high := upper ⟨b.toNat / 16, by omega⟩
  have low := upper ⟨b.toNat % 16, by omega⟩
  simp only at high low
  simp only [percentEncode, List.map_cons, List.map_nil, high, low]
  rfl

/-- An encoded byte is read as itself, whatever follows. -/
theorem percentDecode_encodeByte (b : UInt8) (r : List UInt8) :
    percentDecode (Utf8.encode ((encodeByte b).map spaced) ++ r) = b :: percentDecode r := by
  rw [encode_encodeByte]
  unfold encodeByte
  split
  · next h =>
    obtain ⟨hp, hs, hb⟩ := isSafe_plain h
    simp only [List.map_cons, List.map_nil, hs, hb, List.singleton_append]
    exact percentDecode_cons r hp
  split
  · next h =>
    subst h
    exact percentDecode_cons r (by decide)
  · rw [spaced_percentEncode, percentDecode_percentEncode]

theorem decode_encode (s : String) : decode (encode s) = s.toList := by
  have bytes : ∀ bs : List UInt8,
      percentDecode (Utf8.encode ((bs.flatMap encodeByte).map spaced)) = bs := by
    intro bs
    induction bs with
    | nil => rfl
    | cons b bs ih =>
      rw [List.flatMap_cons, List.map_append, Utf8.encode_append, percentDecode_encodeByte, ih]
  rw [decode, encode, bytes, Utf8.lossy_encode]

theorem not_mem_encode (s : String) : '&' ∉ encode s ∧ '=' ∉ encode s := by
  constructor <;> intro h <;> obtain ⟨b, -, hb⟩ := List.mem_flatMap.1 h
  · exact (encodeByte_plain b _ hb).2.1 rfl
  · exact (encodeByte_plain b _ hb).2.2 rfl

theorem pair_pairChars (p : String × String) : pair (pairChars p) = p := by
  have hk : (pairChars p).takeWhile (· != '=') = encode p.1 := by
    rw [pairChars, List.takeWhile_append_of_pos (by
      intro c hc
      have := fun h : c = '=' => (not_mem_encode p.1).2 (h ▸ hc)
      simpa using this)]
    simp
  have hv : ((pairChars p).drop (encode p.1).length).drop 1 = encode p.2 := by
    simp [pairChars]
  simp only [pair, hk, hv, decode_encode, String.ofList_toList]

/-- Pairs that were written are read back, in their order. -/
theorem parse_render (ps : List (String × String)) : parse (render ps) = ps := by
  by_cases hp : ps = []
  · subst hp; rfl
  have plain : ∀ q ∈ ps.map pairChars, '&' ∉ q := by
    intro q hq
    obtain ⟨p, -, rfl⟩ := List.mem_map.1 hq
    have := not_mem_encode p.1
    have := not_mem_encode p.2
    simp [pairChars, *]
  have filled : ∀ q ∈ ps.map pairChars, (!q.isEmpty) = true := by
    intro q hq
    obtain ⟨p, -, rfl⟩ := List.mem_map.1 hq
    simp [pairChars]
  rw [parse, render, pieces_intercalate (by simpa using hp) plain, List.filter_eq_self.2 filled,
    List.map_map]
  simp [Function.comp_def, pair_pairChars]

end Form
end IssueTracker
