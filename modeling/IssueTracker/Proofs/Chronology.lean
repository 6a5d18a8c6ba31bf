import IssueTracker.Proofs.Ordering
import IssueTracker.Timestamp.Printer
import Mathlib.Algebra.Group.Nat.Defs

/-! Instants sort by their texts, and the texts are in the order of time: every number
in them has a fixed width, the greatest unit stands first, and the fraction of a second is
only cut short where nothing but zeros would follow. This holds of years of four digits;
other years have a sign in front. -/

namespace IssueTracker

/-- Of two texts whose fronts are of one length, the fronts decide first. -/
theorem append_lt_append_iff {α : Type} [LT α] {p p' q q' : List α}
    (same : p.length = p'.length) : p ++ q < p' ++ q' ↔ p < p' ∨ p = p' ∧ q < q' := by
  induction p generalizing p' with
  | nil =>
    obtain rfl := List.length_eq_zero_iff.1 same.symm
    simp
  | cons a p ih =>
    cases p' with
    | nil => cases same
    | cons a' p' =>
      rw [List.cons_append, List.cons_append, List.cons_lt_cons_iff, List.cons_lt_cons_iff,
        ih (Nat.succ.inj same), List.cons.injEq]
      grind

theorem Digit.char_lt {d e : Digit} : d.char < e.char ↔ d < e := by
  revert d e
  decide

namespace Decimal

theorem length_fixed (w n : Nat) : (fixed w n).length = w := by
  induction w generalizing n with
  | zero => rfl
  | succ w ih => simp [fixed, ih]

theorem fixed_inj {w n m : Nat} (hn : n < 10 ^ w) (hm : m < 10 ^ w) :
    fixed w n = fixed w m ↔ n = m := by
  refine ⟨fun same => ?_, congrArg _⟩
  induction w generalizing n m with
  | zero => omega
  | succ w ih =>
    obtain ⟨front, last⟩ := List.append_inj' same rfl
    have digit : Fin.ofNat 10 n = Fin.ofNat 10 m := by
      have spelled := congrArg Digit.ofChar? (List.cons.inj last).1
      simpa using spelled
    have high := ih (by omega) (by omega) front
    have low : n % 10 = m % 10 := congrArg Fin.val digit
    omega

/-- Texts of one width are in the order of the numbers. -/
theorem fixed_lt {w n m : Nat} (hn : n < 10 ^ w) (hm : m < 10 ^ w) :
    fixed w n < fixed w m ↔ n < m := by
  induction w generalizing n m with
  | zero => simp [fixed]; omega
  | succ w ih =>
    have digit : Fin.ofNat 10 n < Fin.ofNat 10 m ↔ n % 10 < m % 10 := Iff.rfl
    rw [fixed, fixed, append_lt_append_iff (by rw [length_fixed, length_fixed]),
      ih (by omega) (by omega), fixed_inj (by omega) (by omega), List.cons_lt_cons_iff,
      Digit.char_lt, digit]
    simp only [List.lt_irrefl, and_false, or_false]
    omega

/-- A number of fixed width in front of other text. -/
theorem fixed_append_lt {w n m : Nat} (hn : n < 10 ^ w) (hm : m < 10 ^ w) {r r' : List Char} :
    fixed w n ++ r < fixed w m ++ r' ↔ n < m ∨ n = m ∧ r < r' := by
  rw [append_lt_append_iff (by rw [length_fixed, length_fixed]), fixed_lt hn hm, fixed_inj hn hm]

end Decimal

namespace Timestamp

/-- The numbers of an instant, the greatest unit first. -/
def units (t : Timestamp) : List Int :=
  [t.date.year, t.date.month, t.date.day, t.clock.hour, t.clock.minute, t.clock.second,
    t.clock.nano]

/-- The year is written with four digits. -/
def Common (t : Timestamp) : Prop :=
  0 ≤ t.date.year ∧ t.date.year ≤ 9999

/-- The zone, which ends a text in the store. -/
def zone : List Char := ['+', '0', '0', ':', '0', '0']

/-- Groups of three digits up to the last that is not zero, and the zone. -/
def groupChars : List Nat → List Char
  | [] => zone
  | g :: gs => if (g :: gs).all (· == 0) then zone else Decimal.fixed 3 g ++ groupChars gs

/-- Zeros are in front of all but zeros. -/
theorem zeros_lt {gs hs : List Nat} (same : gs.length = hs.length)
    (zeros : (gs.all fun g => g == 0) = true) : gs < hs ↔ (hs.all fun h => h == 0) = false := by
  induction gs generalizing hs with
  | nil =>
    obtain rfl := List.length_eq_zero_iff.1 same.symm
    simp
  | cons g gs ih =>
    cases hs with
    | nil => cases same
    | cons h hs =>
      simp only [List.all_cons, Bool.and_eq_true, beq_iff_eq] at zeros
      obtain ⟨rfl, zeros⟩ := zeros
      rw [List.cons_lt_cons_iff, ih (Nat.succ.inj same) zeros, List.all_cons,
        Bool.and_eq_false_iff, beq_eq_false_iff_ne]
      grind

theorem not_lt_zeros {gs hs : List Nat} (same : gs.length = hs.length)
    (zeros : (hs.all fun h => h == 0) = true) : ¬ gs < hs := by
  induction gs generalizing hs with
  | nil =>
    obtain rfl := List.length_eq_zero_iff.1 same.symm
    simp
  | cons g gs ih =>
    cases hs with
    | nil => cases same
    | cons h hs =>
      simp only [List.all_cons, Bool.and_eq_true, beq_iff_eq] at zeros
      rw [List.cons_lt_cons_iff]
      rintro (lt | ⟨-, lt⟩)
      · omega
      · exact ih (Nat.succ.inj same) zeros.2 lt

/-- The sign of the zone is in front of all digits. -/
theorem zone_lt_fixed (w n : Nat) (r : List Char) :
    zone < Decimal.fixed (w + 1) n ++ r ∧ ¬ Decimal.fixed (w + 1) n ++ r < zone := by
  have digits : ∀ w n, ∀ c ∈ Decimal.fixed w n, '+' < c := by
    intro w
    induction w with
    | zero => simp [Decimal.fixed]
    | succ w ih =>
      intro n
      rw [Decimal.fixed, List.forall_mem_append, List.forall_mem_singleton]
      refine ⟨ih _, ?_⟩
      have all : ∀ d : Digit, '+' < d.char := by decide
      exact all _
  cases hf : Decimal.fixed (w + 1) n with
  | nil => simp [Decimal.fixed] at hf
  | cons c cs =>
    have lt := digits _ _ c (hf ▸ List.mem_cons_self)
    rw [List.cons_append, zone, List.cons_lt_cons_iff, List.cons_lt_cons_iff]
    grind

theorem groupChars_lt {gs hs : List Nat} (same : gs.length = hs.length)
    (hg : ∀ g ∈ gs, g < 1000) (hh : ∀ h ∈ hs, h < 1000) :
    groupChars gs < groupChars hs ↔ gs < hs := by
  induction gs generalizing hs with
  | nil =>
    obtain rfl := List.length_eq_zero_iff.1 same.symm
    simp [groupChars]
  | cons g gs ih =>
    cases hs with
    | nil => cases same
    | cons h hs =>
      rw [groupChars, groupChars]
      split
      · next zeros =>
        rw [zeros_lt same zeros]
        split
        · next zeros' => simp [zeros']
        · next filled => simpa [(zone_lt_fixed 2 h _).1] using filled
      · next filled =>
        split
        · next zeros =>
          simp [(zone_lt_fixed 2 g _).2, not_lt_zeros same zeros]
        · rw [Decimal.fixed_append_lt (hg g List.mem_cons_self) (hh h List.mem_cons_self),
            List.cons_lt_cons_iff, ih (Nat.succ.inj same) (fun g' m => hg g' (.tail _ m))
              fun h' m => hh h' (.tail _ m)]

/-- The end of a text in the store. -/
theorem fractionChars_zone (n : Nat) : fractionChars n ++ zone =
    if n = 0 then zone
    else '.' :: groupChars [n / 1000000, n / 1000 % 1000, n % 1000] := by
  have low (k : Nat) : Decimal.fixed 3 (k % 1000) = Decimal.fixed 3 k := by
    have units : Fin.ofNat 10 (k % 1000) = Fin.ofNat 10 k := Fin.ext (by simp)
    have tens : Fin.ofNat 10 (k % 1000 / 10) = Fin.ofNat 10 (k / 10) := Fin.ext (by simp; omega)
    have hundreds : Fin.ofNat 10 (k % 1000 / 10 / 10) = Fin.ofNat 10 (k / 10 / 10) :=
      Fin.ext (by simp; omega)
    simp only [Decimal.fixed, units, tens, hundreds]
  have six (k : Nat) : Decimal.fixed 6 k = Decimal.fixed 3 (k / 1000) ++ Decimal.fixed 3 k := by
    simp [Decimal.fixed, Nat.div_div_eq_div_mul]
  have nine : Decimal.fixed 9 n =
      Decimal.fixed 3 (n / 1000000) ++ (Decimal.fixed 3 (n / 1000) ++ Decimal.fixed 3 n) := by
    simp [Decimal.fixed, Nat.div_div_eq_div_mul]
  unfold fractionChars
  split
  · simp
  simp only [groupChars, List.all_cons, List.all_nil, Bool.and_true, Bool.and_eq_true, beq_iff_eq,
    low]
  split
  · rw [if_neg (by omega), if_pos (by omega)]
    simp
  split
  · rw [if_neg (by omega), if_neg (by omega), six, Nat.div_div_eq_div_mul]
    simp
  · rw [if_neg (by omega), if_neg (by omega), nine]
    simp

theorem fraction_lt {n m : Nat} (hn : n < 1000000000) (hm : m < 1000000000) :
    fractionChars n ++ zone < fractionChars m ++ zone ↔ n < m := by
  have groups : groupChars [n / 1000000, n / 1000 % 1000, n % 1000] <
      groupChars [m / 1000000, m / 1000 % 1000, m % 1000] ↔ n < m := by
    rw [groupChars_lt (by rfl) (by simp; omega) (by simp; omega)]
    simp only [List.cons_lt_cons_iff, List.lt_irrefl, and_false, or_false]
    omega
  have sign : ∀ r : List Char, zone < '.' :: r ∧ ¬ '.' :: r < zone := by
    intro r
    rw [zone, List.cons_lt_cons_iff, List.cons_lt_cons_iff]
    exact ⟨.inl (by decide), by simp⟩
  rw [fractionChars_zone, fractionChars_zone]
  split
  · split
    · simp [*]
    · simp only [(sign _).1, true_iff]
      omega
  · split
    · simp only [(sign _).2, false_iff]
      omega
    · simp [groups]

theorem stored_lt {t u : Timestamp} (ht : t.Common) (hu : u.Common) :
    t.stored < u.stored ↔ t.units < u.units := by
  have text {t : Timestamp} (ht : t.Common) : t.stored.toList =
      Decimal.fixed 4 t.date.year.toNat ++ '-' :: (Decimal.fixed 2 t.date.month ++ '-' ::
        (Decimal.fixed 2 t.date.day ++ 'T' :: (Decimal.fixed 2 t.clock.hour ++ ':' ::
        (Decimal.fixed 2 t.clock.minute ++ ':' :: (Decimal.fixed 2 t.clock.second ++
        (fractionChars t.clock.nano ++ zone)))))) := by
    have year : yearChars t.date.year = Decimal.fixed 4 t.date.year.toNat := if_pos ht
    simp [stored, localChars, dateChars, year, clockChars, zone]
  have date (t : Timestamp) : t.date.month < 10 ^ 2 ∧ t.date.day < 10 ^ 2 := by
    have month := t.date.month_mem
    have day := t.date.day_mem
    have longest : daysIn t.date.year t.date.month ≤ 31 := by
      unfold daysIn
      split <;> (try split) <;> omega
    omega
  have clock (t : Timestamp) :
      t.clock.hour < 10 ^ 2 ∧ t.clock.minute < 10 ^ 2 ∧ t.clock.second < 10 ^ 2 := by
    have hour := t.clock.hour_lt
    have minute := t.clock.minute_lt
    have second := t.clock.second_le
    omega
  have year {t : Timestamp} (ht : t.Common) : t.date.year.toNat < 10 ^ 4 := by
    have := ht.2
    omega
  rw [String.lt_iff, text ht, text hu]
  simp only [Decimal.fixed_append_lt (year ht) (year hu),
    Decimal.fixed_append_lt (date t).1 (date u).1, Decimal.fixed_append_lt (date t).2 (date u).2,
    Decimal.fixed_append_lt (clock t).1 (clock u).1,
    Decimal.fixed_append_lt (clock t).2.1 (clock u).2.1,
    Decimal.fixed_append_lt (clock t).2.2 (clock u).2.2,
    fraction_lt t.clock.nano_lt u.clock.nano_lt, units, List.cons_lt_cons_iff, List.lt_irrefl, Char.lt_irrefl, true_and, false_or, and_false,
    or_false]
  have := ht.1
  have := hu.1
  omega

/-- Only the same instant has the same text. -/
theorem stored_inj {t u : Timestamp} (ht : t.Common) (hu : u.Common) :
    t.stored = u.stored ↔ t.units = u.units := by
  have lt := stored_lt ht hu
  have gt := stored_lt hu ht
  constructor
  · intro same
    rw [same] at lt gt
    rcases Std.lt_trichotomy t.units u.units with less | equal | more
    · exact absurd (lt.2 less) (String.lt_irrefl _)
    · exact equal
    · exact absurd (gt.2 more) (String.lt_irrefl _)
  · intro same
    rw [same] at lt gt
    rcases Std.lt_trichotomy t.stored u.stored with less | equal | more
    · exact absurd (lt.1 less) (List.lt_irrefl _)
    · exact equal
    · exact absurd (gt.1 more) (List.lt_irrefl _)

end Timestamp

namespace SortKey

/-- Issues in the order of their texts are in the order of time. -/
theorem Ordered.units {ks : List SortKey} {filed l : List Issue}
    (common : ∀ i ∈ l, i.created.Common ∧ i.updated.Common)
    (h : Ordered Timestamp.stored ks filed l) : Ordered Timestamp.units ks filed l := by
  have instant (k : SortKey) {i : Issue} (hi : i ∈ l) : (k.instant i).Common := by
    unfold SortKey.instant
    split
    · exact (common i hi).1
    · exact (common i hi).2
  refine List.Pairwise.imp_of_mem (fun {a b} ha hb before => ?_) h
  have ahead (k : SortKey) : k.Ahead Timestamp.units a b ↔ k.Ahead Timestamp.stored a b := by
    unfold Ahead
    split
    · exact (Timestamp.stored_lt (instant k hb) (instant k ha)).symm
    · exact (Timestamp.stored_lt (instant k ha) (instant k hb)).symm
  have same (k : SortKey) := Timestamp.stored_inj (instant k ha) (instant k hb)
  have precedes : Precedes Timestamp.units ks a b ↔ Precedes Timestamp.stored ks a b := by
    clear before h
    induction ks with
    | nil => rfl
    | cons k ks ih => rw [Precedes, Precedes, ahead, same, ih]
  rcases before with first | ⟨tie, kept⟩
  · exact .inl (precedes.2 first)
  · exact .inr ⟨fun k hk => (same k).1 (tie k hk), kept⟩

end SortKey
end IssueTracker
