import IssueTracker.Decimal
import Mathlib.Algebra.Group.Int.Defs
import Mathlib.Data.List.Induction

/-! Which texts are numbers. `Digits`, `Unsigned` and `Signed` say it as a grammar, the digit
that counts most in front, and the readers take these texts, as far as their range goes, and
no others. -/

namespace IssueTracker
namespace Decimal

/-- Digits and the number that they stand for. -/
inductive Digits : List Char → Nat → Prop where
  | one (d : Digit) : Digits [d.char] d.val
  | more {cs : List Char} {n : Nat} (h : Digits cs n) (d : Digit) :
    Digits (cs ++ [d.char]) (10 * n + d.val)

/-- Digits with or without a plus sign. -/
inductive Unsigned : List Char → Nat → Prop where
  | bare {cs : List Char} {n : Nat} (h : Digits cs n) : Unsigned cs n
  | plus {cs : List Char} {n : Nat} (h : Digits cs n) : Unsigned ('+' :: cs) n

/-- Digits with or without a sign. -/
inductive Signed : List Char → Int → Prop where
  | unsigned {cs : List Char} {n : Nat} (h : Unsigned cs n) : Signed cs n
  | minus {cs : List Char} {n : Nat} (h : Digits cs n) : Signed ('-' :: cs) (-n)

theorem char_of_ofChar? {c : Char} {d : Digit} (h : Digit.ofChar? c = some d) : d.char = c := by
  unfold Digit.ofChar? at h
  split at h
  · next range =>
    obtain rfl := Option.some.inj h
    rw [Digit.char, Nat.add_sub_cancel' range.1, Char.ofNat_toNat]
  · cases h

theorem digits?_eq_some {cs : List Char} {ds : List Digit} :
    digits? cs = some ds ↔ ds ≠ [] ∧ cs = ds.reverse.map Digit.char := by
  have written (cs : List Char) (every : ∀ c ∈ cs, (Digit.ofChar? c).isSome) :
      (cs.filterMap Digit.ofChar?).map Digit.char = cs := by
    induction cs with
    | nil => rfl
    | cons c cs ih =>
      obtain ⟨first, rest⟩ := List.forall_mem_cons.1 every
      obtain ⟨d, hd⟩ := Option.isSome_iff_exists.1 first
      rw [List.filterMap_cons_some hd, List.map_cons, char_of_ofChar? hd, ih rest]
  constructor
  · intro h
    unfold digits? at h
    split_ifs at h with empty every
    obtain rfl := Option.some.inj h
    have same := written cs (List.all_eq_true.1 every)
    refine ⟨fun none_ => empty ?_, by rw [List.reverse_reverse, same]⟩
    rw [← same, List.reverse_eq_nil_iff.1 none_]
    rfl
  · rintro ⟨some_, rfl⟩
    rw [digits?_map_char (by simpa using some_), List.reverse_reverse]

theorem digits_iff {cs : List Char} {n : Nat} :
    Digits cs n ↔ ∃ ds, digits? cs = some ds ∧ value ds = n := by
  simp only [digits?_eq_some]
  constructor
  · intro h
    induction h with
    | one d => exact ⟨[d], ⟨by simp, rfl⟩, by simp⟩
    | more _ d ih =>
      obtain ⟨ds, ⟨-, rfl⟩, rfl⟩ := ih
      exact ⟨d :: ds, ⟨by simp, by simp⟩, by rw [value_cons, Nat.add_comm]⟩
  · rintro ⟨ds, ⟨some_, rfl⟩, rfl⟩
    induction ds with
    | nil => exact absurd rfl some_
    | cons d ds ih =>
      rw [List.reverse_cons, List.map_append, value_cons, Nat.add_comm]
      cases ds with
      | nil => simpa using Digits.one d
      | cons e ds => exact (ih (by simp)).more d

/-- No sign begins the digits of a number. -/
theorem Digits.head {c : Char} {cs : List Char} {n : Nat} (h : Digits (c :: cs) n) :
    c ≠ '+' ∧ c ≠ '-' := by
  obtain ⟨ds, hds, -⟩ := digits_iff.1 h
  constructor
  · rintro rfl
    rw [digits?_sign _ _ (by decide)] at hds
    cases hds
  · rintro rfl
    rw [digits?_sign _ _ (by decide)] at hds
    cases hds

theorem bind_atMost?_eq_some {bound n : Nat} {cs : List Char} :
    (digits? cs).bind (atMost? bound) = some n ↔ Digits cs n ∧ n ≤ bound := by
  simp only [Option.bind_eq_some_iff, atMost?_eq, Option.ite_none_right_eq_some, digits_iff]
  constructor
  · rintro ⟨ds, hds, small, h⟩
    obtain rfl := Option.some.inj h
    exact ⟨⟨ds, hds, rfl⟩, small⟩
  · rintro ⟨⟨ds, hds, rfl⟩, small⟩
    exact ⟨ds, hds, small, rfl⟩

theorem unsigned_plus {cs : List Char} {n : Nat} : Unsigned ('+' :: cs) n ↔ Digits cs n := by
  refine ⟨fun h => ?_, .plus⟩
  cases h with
  | bare h => exact absurd rfl h.head.1
  | plus h => exact h

theorem unsigned_bare {cs : List Char} {n : Nat} (plain : ∀ r, cs ≠ '+' :: r) :
    Unsigned cs n ↔ Digits cs n := by
  refine ⟨fun h => ?_, .bare⟩
  cases h with
  | bare h => exact h
  | plus h => exact absurd rfl (plain _)

theorem nat?_eq_some {bound n : Nat} {s : String} :
    nat? bound s = some n ↔ Unsigned s.toList n ∧ n ≤ bound := by
  unfold nat?
  generalize s.toList = cs
  split
  · rw [bind_atMost?_eq_some, unsigned_plus]
  · next plain => rw [bind_atMost?_eq_some, unsigned_bare plain]

theorem signed_minus {cs : List Char} {i : Int} :
    Signed ('-' :: cs) i ↔ ∃ n : Nat, Digits cs n ∧ i = -n := by
  constructor
  · intro h
    cases h with
    | unsigned h =>
      cases h with
      | bare h => exact absurd rfl h.head.2
    | minus h => exact ⟨_, h, rfl⟩
  · rintro ⟨n, h, rfl⟩
    exact .minus h

theorem signed_unsigned {cs : List Char} {i : Int} (plain : ∀ r, cs ≠ '-' :: r) :
    Signed cs i ↔ ∃ n : Nat, Unsigned cs n ∧ i = n := by
  constructor
  · intro h
    cases h with
    | unsigned h => exact ⟨_, h, rfl⟩
    | minus h => exact absurd rfl (plain _)
  · rintro ⟨n, h, rfl⟩
    exact .unsigned h

/-- Digits behind a sign are read when the integer that they make is in range. -/
theorem map_ofInt_eq_some {bound : Nat} {sign : Nat → Int} {cs : List Char} {i : Int64}
    (range : ∀ n, n ≤ bound ↔ -2 ^ 63 ≤ sign n ∧ sign n < 2 ^ 63) :
    (((digits? cs).bind (atMost? bound)).map fun n => Int64.ofInt (sign n)) = some i ↔
      ∃ n, Digits cs n ∧ i.toInt = sign n := by
  rw [Option.map_eq_some_iff]
  constructor
  · rintro ⟨n, hn, rfl⟩
    obtain ⟨digits, small⟩ := bind_atMost?_eq_some.1 hn
    obtain ⟨low, high⟩ := (range n).1 small
    exact ⟨n, digits, Int64.toInt_ofInt_of_le low high⟩
  · rintro ⟨n, digits, same⟩
    have small : n ≤ bound := (range n).2 (same ▸ ⟨i.le_toInt, i.toInt_lt⟩)
    exact ⟨n, bind_atMost?_eq_some.2 ⟨digits, small⟩, by rw [← same, Int64.ofInt_toInt]⟩

theorem bind_signed?_false {cs : List Char} {i : Int64} :
    (digits? cs).bind (signed? false) = some i ↔ ∃ n : Nat, Digits cs n ∧ i.toInt = n := by
  have range (n : Nat) : n ≤ int64Top ↔ -2 ^ 63 ≤ (n : Int) ∧ (n : Int) < 2 ^ 63 := by
    unfold int64Top
    omega
  rw [← map_ofInt_eq_some range, Option.map_bind]
  rfl

theorem bind_signed?_true {cs : List Char} {i : Int64} :
    (digits? cs).bind (signed? true) = some i ↔ ∃ n : Nat, Digits cs n ∧ i.toInt = -n := by
  have range (n : Nat) : n ≤ int64Top + 1 ↔ -2 ^ 63 ≤ -(n : Int) ∧ -(n : Int) < 2 ^ 63 := by
    unfold int64Top
    omega
  rw [← map_ofInt_eq_some range, Option.map_bind]
  rfl

/-- Every 64-bit integer that a text writes is read, and nothing else is. -/
theorem int64?_eq_some {i : Int64} {s : String} :
    int64? s = some i ↔ Signed s.toList i.toInt := by
  unfold int64?
  generalize s.toList = cs
  split
  · rw [bind_signed?_false, signed_unsigned (by simp)]
    simp only [unsigned_plus]
  · rw [bind_signed?_true, signed_minus]
  · next plain bare =>
    rw [bind_signed?_false, signed_unsigned bare]
    simp only [unsigned_bare plain]

end Decimal
end IssueTracker
