/-! Decimal numerals. Digits are held units first, so that `value` and `ofNat`
are plain recursions and `value (ofNat n) = n`. The readers take text: an
optional sign, then at least one digit and nothing else, and refuse a number
outside the given range without computing it when it has too many digits
(`atMost?_eq`). What was written is read back (`nat?_text`, `int64?_intText`). -/

namespace IssueTracker

abbrev Digit := Fin 10

namespace Digit

def char (d : Digit) : Char :=
  Char.ofNat (48 + d.val)

def ofChar? (c : Char) : Option Digit :=
  if h : 48 ≤ c.toNat ∧ c.toNat < 58 then some ⟨c.toNat - 48, by omega⟩ else none

@[simp] theorem ofChar?_char (d : Digit) : ofChar? d.char = some d := by
  revert d; decide
end Digit

namespace Decimal

/-- The number that digits stand for, units first. -/
def value : List Digit → Nat
  | [] => 0
  | d :: r => d.val + 10 * value r

def ofNat (n : Nat) : List Digit :=
  if n < 10 then [Fin.ofNat 10 n]
  else Fin.ofNat 10 n :: ofNat (n / 10)

def zeros (n : Nat) : List Digit :=
  List.replicate n (Fin.ofNat 10 0)

/-- Drops leading zeros, which stand at the end of the list. -/
def significant (ds : List Digit) : List Digit :=
  (ds.reverse.dropWhile fun d => d == 0).reverse

/-- The number, if it is at most `bound`. -/
def atMost? (bound : Nat) (ds : List Digit) : Option Nat :=
  let s := significant ds
  if s.length ≤ (ofNat bound).length then
    if value s ≤ bound then some (value s) else none
  else none

/-- The digits of a text that is nothing but digits, units first. -/
def digits? (cs : List Char) : Option (List Digit) :=
  if cs.isEmpty then none
  else if cs.all fun c => (Digit.ofChar? c).isSome then some (cs.filterMap Digit.ofChar?).reverse
  else none

/-- The text of a number without leading zeros. -/
def chars (n : Nat) : List Char :=
  (ofNat n).reverse.map Digit.char

/-- The last `width` digits of a number, with leading zeros. -/
def fixed : Nat → Nat → List Char
  | 0, _ => []
  | w + 1, n => fixed w (n / 10) ++ [Digit.char (Fin.ofNat 10 n)]

def text (n : Nat) : String :=
  String.ofList (chars n)

/-- An unsigned number of at most `bound`: a plus sign may stand in front. -/
def nat? (bound : Nat) (s : String) : Option Nat :=
  match s.toList with
  | '+' :: r => (digits? r).bind (atMost? bound)
  | cs => (digits? cs).bind (atMost? bound)

/-- The greatest 64-bit integer. -/
def int64Top : Nat := 9223372036854775807

/-- The 64-bit integer with this sign and these digits, if there is one. -/
def signed? (negative : Bool) (ds : List Digit) : Option Int64 :=
  if negative then (atMost? (int64Top + 1) ds).map fun (n : Nat) => Int64.ofInt (-n)
  else (atMost? int64Top ds).map fun (n : Nat) => Int64.ofInt n

/-- A signed 64-bit number: a plus or minus sign may stand in front. -/
def int64? (s : String) : Option Int64 :=
  match s.toList with
  | '+' :: r => (digits? r).bind (signed? false)
  | '-' :: r => (digits? r).bind (signed? true)
  | cs => (digits? cs).bind (signed? false)

/-- The text of an integer: a minus sign in front of a negative one. -/
def intText (i : Int) : String :=
  if i < 0 then String.ofList ('-' :: chars i.natAbs) else text i.natAbs

@[simp] theorem value_nil : value [] = 0 := rfl

@[simp] theorem value_cons (d : Digit) (r : List Digit) : value (d :: r) = d.val + 10 * value r :=
  rfl

theorem value_ofNat (n : Nat) : value (ofNat n) = n := by
  fun_induction ofNat n with
  | case1 n h => simp [Fin.ofNat]; omega
  | case2 n h ih => simp only [value_cons, ih, Fin.ofNat]; omega

theorem value_append (ds es : List Digit) :
    value (ds ++ es) = value ds + Nat.pow 10 ds.length * value es := by
  induction ds with
  | nil => simp
  | cons d ds ih =>
    simp only [List.cons_append, value_cons, ih, List.length_cons, Nat.pow_eq, Nat.pow_succ]; grind

theorem value_lt (ds : List Digit) : value ds < Nat.pow 10 ds.length := by
  induction ds with
  | nil => simp
  | cons d ds ih =>
    simp only [value_cons, List.length_cons, Nat.pow_eq, Nat.pow_succ] at ih ⊢; omega

theorem significant_append_zeros (ds : List Digit) :
    ∃ zs, ds = significant ds ++ zs ∧ ∀ z ∈ zs, z = 0 := by
  refine ⟨(ds.reverse.takeWhile fun d => d == 0).reverse, ?_, ?_⟩
  · rw [significant, ← List.reverse_append, List.takeWhile_append_dropWhile, List.reverse_reverse]
  · intro z hz
    simpa using List.all_eq_true.1 (List.all_takeWhile (p := fun d : Digit => d == 0)) z (List.mem_reverse.1 hz)

theorem value_eq_zero {zs : List Digit} (h : ∀ z ∈ zs, z = 0) : value zs = 0 := by
  induction zs with
  | nil => rfl
  | cons z zs ih => simp [h z, ih fun y hy => h y (List.mem_cons_of_mem _ hy)]

theorem value_significant (ds : List Digit) : value (significant ds) = value ds := by
  obtain ⟨zs, h, hz⟩ := significant_append_zeros ds
  conv => rhs; rw [h]
  rw [value_append, value_eq_zero hz, Nat.mul_zero, Nat.add_zero]

theorem significant_last {ds : List Digit} {d : Digit} (h : (significant ds).getLast? = some d) :
    d ≠ 0 := by
  rw [significant, List.getLast?_reverse] at h
  have := List.head?_dropWhile_not (fun d : Digit => d == 0) ds.reverse
  rw [h] at this
  simpa using this

theorem le_value_of_getLast {ds : List Digit} {d : Digit} (h : ds.getLast? = some d) (hd : d ≠ 0) :
    Nat.pow 10 ds.length ≤ 10 * value ds := by
  obtain ⟨es, rfl⟩ := List.getLast?_eq_some_iff.1 h
  have hd : d.val ≠ 0 := fun h => hd (Fin.ext h)
  rw [value_append]
  simp only [value_cons, value_nil, List.length_append, List.length_cons, List.length_nil,
    Nat.pow_eq, Nat.pow_succ, Nat.mul_zero, Nat.add_zero]
  have : 10 ^ es.length * 1 ≤ 10 ^ es.length * d.val := Nat.mul_le_mul_left _ (by omega)
  omega

/-- Digits are read as their value, if that is small enough. -/
theorem atMost?_eq (bound : Nat) (ds : List Digit) :
    atMost? bound ds = if value ds ≤ bound then some (value ds) else none := by
  unfold atMost?
  simp only [value_significant]
  split
  · rfl
  · next h =>
    rw [if_neg]
    intro hv
    cases hl : (significant ds).getLast? with
    | none => simp [List.getLast?_eq_none_iff.1 hl] at h
    | some d =>
      have h1 := le_value_of_getLast hl (significant_last hl)
      rw [value_significant] at h1
      have h2 := value_lt (ofNat bound)
      rw [value_ofNat] at h2
      have h3 : Nat.pow 10 (ofNat bound).length * 10 ≤ Nat.pow 10 (significant ds).length := by
        simp only [Nat.pow_eq]
        rw [← Nat.pow_succ]
        exact Nat.pow_le_pow_right (by omega) (by omega)
      omega

theorem atMost?_ofNat {bound n : Nat} (h : n ≤ bound) : atMost? bound (ofNat n) = some n := by
  rw [atMost?_eq, value_ofNat, if_pos h]

theorem ofNat_ne_nil (n : Nat) : ofNat n ≠ [] := by
  unfold ofNat; split <;> simp

/-- Only zero is written with a leading zero. -/
theorem eq_zero_of_getLast {n : Nat} (h : (ofNat n).getLast? = some 0) : n = 0 := by
  fun_induction ofNat n with
  | case1 n hn =>
    have : n % 10 = 0 := congrArg Fin.val (Option.some.inj h)
    omega
  | case2 n hn ih =>
    rw [List.getLast?_cons_of_ne_nil (ofNat_ne_nil _)] at h
    have := ih h
    omega

theorem digits?_map_char {ds : List Digit} (h : ds ≠ []) :
    digits? (ds.map Digit.char) = some ds.reverse := by
  have hs : (ds.map Digit.char).filterMap Digit.ofChar? = ds := by
    rw [List.filterMap_map, show Digit.ofChar? ∘ Digit.char = some from funext Digit.ofChar?_char,
      List.filterMap_some]
  unfold digits?
  rw [if_neg (by simpa using h), if_pos (by simp), hs]

theorem digits?_chars (n : Nat) : digits? (chars n) = some (ofNat n) := by
  rw [chars, digits?_map_char (by simpa using ofNat_ne_nil n), List.reverse_reverse]

theorem digits?_sign (c : Char) (cs : List Char) (h : Digit.ofChar? c = none) :
    digits? (c :: cs) = none := by
  simp [digits?, h]

theorem chars_ne_nil (n : Nat) : chars n ≠ [] := by
  simpa [chars] using ofNat_ne_nil n

/-- A number does not begin with a sign. -/
theorem head_chars {n : Nat} {c : Char} {r : List Char} (h : chars n = c :: r) :
    c ≠ '+' ∧ c ≠ '-' := by
  have hc : c ∈ chars n := h ▸ List.mem_cons_self
  obtain ⟨d, -, rfl⟩ := List.mem_map.1 hc
  exact (by decide : ∀ d : Digit, d.char ≠ '+' ∧ d.char ≠ '-') d

theorem nat?_text {bound n : Nat} (h : n ≤ bound) : nat? bound (text n) = some n := by
  obtain ⟨c, r, hc⟩ := List.exists_cons_of_ne_nil (chars_ne_nil n)
  have hs := head_chars hc
  have hd := digits?_chars n
  rw [hc] at hd
  unfold nat? text
  rw [String.toList_ofList, hc]
  split
  · next heq => exact absurd (List.cons.inj heq).1 hs.1
  · rw [hd, Option.bind_some, atMost?_ofNat h]

theorem int64?_intText (i : Int64) : int64? (intText i.toInt) = some i := by
  have lower := i.le_toInt
  have upper := i.toInt_lt
  unfold intText
  split
  · next h =>
    unfold int64?
    rw [String.toList_ofList]
    simp only
    rw [digits?_chars, Option.bind_some, signed?, if_pos rfl,
      atMost?_ofNat (by unfold int64Top; omega), Option.map_some,
      show -((i.toInt.natAbs : Nat) : Int) = i.toInt by omega, Int64.ofInt_toInt]
  · next h =>
    obtain ⟨c, r, hc⟩ := List.exists_cons_of_ne_nil (chars_ne_nil i.toInt.natAbs)
    have hs := head_chars hc
    have hd := digits?_chars i.toInt.natAbs
    rw [hc] at hd
    unfold int64? text
    rw [String.toList_ofList, hc]
    split
    · next heq => exact absurd (List.cons.inj heq).1 hs.1
    · next heq => exact absurd (List.cons.inj heq).1 hs.2
    · rw [hd, Option.bind_some, signed?, if_neg (by decide),
        atMost?_ofNat (by unfold int64Top; omega), Option.map_some,
        show ((i.toInt.natAbs : Nat) : Int) = i.toInt by omega, Int64.ofInt_toInt]

end Decimal
end IssueTracker
