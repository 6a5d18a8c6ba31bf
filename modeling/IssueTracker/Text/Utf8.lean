/-! UTF-8 as lists of bytes. `encode` writes characters; `decode` reads any
bytes at all, giving `none` for each longest run that starts a character and
does not finish it, and for each byte that cannot start one. `lossy` puts the
replacement character in those places. What was written is read back
(`decode_encode`). -/

namespace IssueTracker
namespace Utf8

def encode (cs : List Char) : List UInt8 :=
  cs.flatMap String.utf8EncodeChar

/-- A character begun: the bits read, how many continuation bytes are still to
come after the next one, and the bounds of the next one. -/
structure Partial where
  bits : Nat
  more : Nat
  low : Nat
  high : Nat

/-- A character begun whose next byte may be any continuation byte. -/
def awaiting (bits more : Nat) : Partial := ⟨bits, more, 0x80, 0xBF⟩

/-- What a byte means at the start of a character. -/
def start (n : Nat) : Option Char ⊕ Partial :=
  if n < 0x80 then .inl (some (Char.ofNat n))
  else if n < 0xC2 then .inl none
  else if n < 0xE0 then .inr (awaiting (n % 32) 0)
  else if n = 0xE0 then .inr ⟨0, 1, 0xA0, 0xBF⟩
  else if n = 0xED then .inr ⟨13, 1, 0x80, 0x9F⟩
  else if n < 0xF0 then .inr (awaiting (n % 16) 1)
  else if n = 0xF0 then .inr ⟨0, 2, 0x90, 0xBF⟩
  else if n < 0xF4 then .inr (awaiting (n % 8) 2)
  else if n = 0xF4 then .inr ⟨4, 2, 0x80, 0x8F⟩
  else .inl none

/-- What a byte means after a character was begun, if it may follow there. -/
def Partial.next (p : Partial) (n : Nat) : Option (Char ⊕ Partial) :=
  if p.low ≤ n ∧ n ≤ p.high then
    let bits := p.bits * 64 + n % 64
    match p.more with
    | 0 => some (.inl (Char.ofNat bits))
    | m + 1 => some (.inr (awaiting bits m))
  else none

/-- The bytes read so far, last first, and the character begun, if any. -/
def decodeFrom : List (Option Char) → Option Partial → List UInt8 → List (Option Char)
  | done, none, [] => done.reverse
  | done, some _, [] => (none :: done).reverse
  | done, none, b :: r =>
    match start b.toNat with
    | .inl c => decodeFrom (c :: done) none r
    | .inr p => decodeFrom done (some p) r
  | done, some p, b :: r =>
    match p.next b.toNat with
    | some (.inl c) => decodeFrom (some c :: done) none r
    | some (.inr q) => decodeFrom done (some q) r
    | none =>
      match start b.toNat with
      | .inl c => decodeFrom (c :: none :: done) none r
      | .inr q => decodeFrom (none :: done) (some q) r

def decode (bs : List UInt8) : List (Option Char) :=
  decodeFrom [] none bs

/-- The text of bytes that are valid throughout. -/
def strict? (bs : List UInt8) : Option (List Char) :=
  let cs := decode bs
  if cs.all Option.isSome then some (cs.filterMap id) else none

def replacement : Char := '\uFFFD'

def lossy (bs : List UInt8) : List Char :=
  (decode bs).map fun c => c.getD replacement

/-- An ASCII character is one byte. -/
theorem encode_ascii {cs : List Char} (h : ∀ c ∈ cs, c.toNat < 128) :
    encode cs = cs.map fun c => UInt8.ofNat c.toNat := by
  induction cs with
  | nil => rfl
  | cons c cs ih =>
    have hc : c.val.toNat ≤ 127 := Nat.le_of_lt_succ (h c List.mem_cons_self)
    rw [encode, List.flatMap_cons, ← encode, ih fun d hd => h d (List.mem_cons_of_mem _ hd),
      String.utf8EncodeChar]
    simp only [hc, if_true]
    rfl

theorem encode_append (cs ds : List Char) : encode (cs ++ ds) = encode cs ++ encode ds := by
  simp [encode]

theorem toNat_ofNat {n : Nat} (h : n < 256) : (UInt8.ofNat n).toNat = n := by
  rw [UInt8.toNat_ofNat', Nat.mod_eq_of_lt h]

theorem decodeFrom_nil (done : List (Option Char)) : decodeFrom done none [] = done.reverse := rfl

/-- What a byte does where a character may start. -/
theorem decodeFrom_none_cons (done : List (Option Char)) (b : UInt8) (r : List UInt8) :
    decodeFrom done none (b :: r) =
      match start b.toNat with
      | .inl c => decodeFrom (c :: done) none r
      | .inr p => decodeFrom done (some p) r :=
  rfl

/-- What a byte does behind a character begun. -/
theorem decodeFrom_some_cons (done : List (Option Char)) (p : Partial) (b : UInt8)
    (r : List UInt8) :
    decodeFrom done (some p) (b :: r) =
      match p.next b.toNat with
      | some (.inl c) => decodeFrom (some c :: done) none r
      | some (.inr q) => decodeFrom done (some q) r
      | none => decodeFrom (none :: done) none (b :: r) := by
  rw [decodeFrom_none_cons]
  rfl

theorem decodeFrom_start {done : List (Option Char)} {n : Nat} {p : Partial} {r : List UInt8}
    (hn : n < 256) (h : start n = .inr p) :
    decodeFrom done none (UInt8.ofNat n :: r) = decodeFrom done (some p) r := by
  rw [decodeFrom_none_cons, toNat_ofNat hn, h]

theorem decodeFrom_more {done : List (Option Char)} {bits m n low high : Nat} {r : List UInt8}
    (hn : n < 256) (h : low ≤ n ∧ n ≤ high) :
    decodeFrom done (some ⟨bits, m + 1, low, high⟩) (UInt8.ofNat n :: r) =
      decodeFrom done (some (awaiting (bits * 64 + n % 64) m)) r := by
  rw [decodeFrom_some_cons, toNat_ofNat hn, Partial.next, if_pos h]

theorem decodeFrom_last {done : List (Option Char)} {bits n low high : Nat} {c : Char}
    {r : List UInt8} (hn : n < 256) (h : low ≤ n ∧ n ≤ high)
    (hc : Char.ofNat (bits * 64 + n % 64) = c) :
    decodeFrom done (some ⟨bits, 0, low, high⟩) (UInt8.ofNat n :: r) =
      decodeFrom (some c :: done) none r := by
  rw [decodeFrom_some_cons, toNat_ofNat hn, Partial.next, if_pos h, ← hc]

/-- The three forms that a character of three bytes may begin with. -/
theorem decodeFrom_three {done : List (Option Char)} {v : Nat} {r : List UInt8}
    (hv : 0x7FF < v) (hs : v < 0xD800 ∨ 0xDFFF < v) (ht : v ≤ 0xFFFF) :
    decodeFrom done none (UInt8.ofNat (v / 4096 % 16 + 224) :: UInt8.ofNat (v / 64 % 64 + 128) :: r)
      = decodeFrom done (some (awaiting (v / 64) 0)) r := by
  have hn : v / 4096 % 16 + 224 < 256 := by omega
  have hb : v / 4096 * 64 + (v / 64 % 64 + 128) % 64 = v / 64 := by omega
  by_cases h0 : v / 4096 = 0
  · rw [h0] at hb
    rw [decodeFrom_start hn (p := ⟨0, 1, 0xA0, 0xBF⟩) (by rw [h0]; rfl),
      decodeFrom_more (by omega) (by omega), hb]
  by_cases hd : v / 4096 = 13
  · rw [hd] at hb
    rw [decodeFrom_start hn (p := ⟨13, 1, 0x80, 0x9F⟩) (by rw [hd]; rfl),
      decodeFrom_more (by omega) (by omega), hb]
  · rw [decodeFrom_start hn (p := awaiting (v / 4096) 1), awaiting, decodeFrom_more (by omega) (by omega), hb]
    unfold start
    rw [if_neg (by omega), if_neg (by omega), if_neg (by omega), if_neg (by omega),
      if_neg (by omega), if_pos (by omega)]
    congr 2
    omega

/-- The three forms that a character of four bytes may begin with. -/
theorem decodeFrom_four {done : List (Option Char)} {v : Nat} {r : List UInt8}
    (hv : 0xFFFF < v) (ht : v < 0x110000) :
    decodeFrom done none (UInt8.ofNat (v / 262144 % 8 + 240) :: UInt8.ofNat (v / 4096 % 64 + 128) :: r)
      = decodeFrom done (some (awaiting (v / 4096) 1)) r := by
  have hn : v / 262144 % 8 + 240 < 256 := by omega
  have hb : v / 262144 * 64 + (v / 4096 % 64 + 128) % 64 = v / 4096 := by omega
  by_cases h0 : v / 262144 = 0
  · rw [h0] at hb
    rw [decodeFrom_start hn (p := ⟨0, 2, 0x90, 0xBF⟩) (by rw [h0]; rfl),
      decodeFrom_more (by omega) (by omega), hb]
  by_cases h4 : v / 262144 = 4
  · rw [h4] at hb
    rw [decodeFrom_start hn (p := ⟨4, 2, 0x80, 0x8F⟩) (by rw [h4]; rfl),
      decodeFrom_more (by omega) (by omega), hb]
  · rw [decodeFrom_start hn (p := awaiting (v / 262144) 2), awaiting,
      decodeFrom_more (by omega) (by omega), hb]
    unfold start
    rw [if_neg (by omega), if_neg (by omega), if_neg (by omega), if_neg (by omega),
      if_neg (by omega), if_neg (by omega), if_neg (by omega), if_pos (by omega)]
    congr 2
    omega

/-- A character that was written is read as one. -/
theorem decodeFrom_encodeChar (done : List (Option Char)) (c : Char) (r : List UInt8) :
    decodeFrom done none (String.utf8EncodeChar c ++ r) = decodeFrom (some c :: done) none r := by
  have hv : c.val.toNat < 0xD800 ∨ 0xDFFF < c.val.toNat ∧ c.val.toNat < 0x110000 := c.valid
  have hc : Char.ofNat c.val.toNat = c := Char.ofNat_toNat c
  unfold String.utf8EncodeChar
  simp only
  generalize c.val.toNat = v at hv hc
  split
  · rw [List.singleton_append, decodeFrom_none_cons, toNat_ofNat (by omega), start,
      if_pos (by omega), hc]
  split
  · simp only [List.cons_append, List.nil_append]
    rw [decodeFrom_start (p := awaiting (v / 64) 0) (by omega), awaiting,
      decodeFrom_last (by omega) (by omega)]
    · rw [← hc]; congr 1; omega
    · rw [start, if_neg (by omega), if_neg (by omega), if_pos (by omega)]
      congr 2
      omega
  split
  · simp only [List.cons_append, List.nil_append]
    rw [decodeFrom_three (by omega) (by omega) (by omega), awaiting,
      decodeFrom_last (by omega) (by omega)]
    rw [← hc]; congr 1; omega
  · simp only [List.cons_append, List.nil_append]
    rw [decodeFrom_four (by omega) (by omega), awaiting, decodeFrom_more (by omega) (by omega), awaiting,
      decodeFrom_last (by omega) (by omega)]
    rw [← hc]; congr 1; omega

theorem decode_encode (cs : List Char) : decode (encode cs) = cs.map some := by
  have from_ : ∀ (cs : List Char) (done : List (Option Char)),
      decodeFrom done none (encode cs) = done.reverse ++ cs.map some := by
    intro cs
    induction cs with
    | nil => intro done; simp [encode, decodeFrom_nil]
    | cons c cs ih =>
      intro done
      rw [encode, List.flatMap_cons, decodeFrom_encodeChar, ← encode, ih]
      simp
  exact from_ cs []

theorem lossy_encode (cs : List Char) : lossy (encode cs) = cs := by
  simp [lossy, decode_encode, Function.comp_def]

theorem strict?_encode (cs : List Char) : strict? (encode cs) = some cs := by
  simp [strict?, decode_encode, Function.comp_def]

end Utf8
end IssueTracker
