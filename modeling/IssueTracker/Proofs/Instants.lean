import IssueTracker.Json.Lawful
import IssueTracker.Proofs.Chronology
import IssueTracker.Timestamp.Reader

/-! Instants are read as they were written: every number in the text is spelled by digits
that end where the next mark stands, and the zone is that of universal time, so nothing is
shifted. This holds of all years, those with a sign in front included, and of leap seconds. -/

namespace IssueTracker

namespace Decimal

/-- The text is nothing but digits, and they stand for the number. -/
def Spells (cs : List Char) (n : Nat) : Prop :=
  ∃ ds : List Digit, cs = ds.map Digit.char ∧ value ds.reverse = n

theorem spells_chars (n : Nat) : Spells (chars n) n :=
  ⟨(ofNat n).reverse, rfl, by rw [List.reverse_reverse, value_ofNat]⟩

theorem spells_fixed {w n : Nat} (h : n < 10 ^ w) : Spells (fixed w n) n := by
  induction w generalizing n with
  | zero => exact ⟨[], rfl, by simp; omega⟩
  | succ w ih =>
    obtain ⟨ds, hds, hv⟩ := ih (n := n / 10) (by omega)
    refine ⟨ds ++ [Fin.ofNat 10 n], by simp [fixed, hds], ?_⟩
    rw [List.reverse_append, List.reverse_singleton, List.singleton_append, value_cons, hv]
    simp only [Fin.val_ofNat]
    omega

end Decimal

theorem Digit.not_isBlank_char (d : Digit) : isBlank d.char = false := by
  revert d
  decide

theorem trimStart_cons {c : Char} {r : List Char} (h : isBlank c = false) :
    trimStart (c :: r) = c :: r := by
  simp [trimStart, h]

namespace Timestamp

/-- Digits are taken up to the greatest number of them, or to what is no digit. -/
theorem spanDigits_map_char {most : Nat} {ds : List Digit} {r : List Char}
    (few : ds.length ≤ most)
    (stop : ds.length = most ∨ ∀ c ∈ r.head?, Digit.ofChar? c = none) :
    spanDigits most (ds.map Digit.char ++ r) = (ds, r) := by
  have behind : ((r.take (most - ds.length)).takeWhile fun c => (Digit.ofChar? c).isSome) = [] := by
    rcases stop with full | mark
    · simp [full]
    · cases r with
      | nil => simp
      | cons c r =>
        cases most - ds.length with
        | zero => rfl
        | succ n => simp [mark c rfl]
  have front : (((ds.map Digit.char ++ r).take most).takeWhile fun c => (Digit.ofChar? c).isSome) =
      ds.map Digit.char := by
    rw [List.take_append, List.take_of_length_le (by simpa using few), List.length_map,
      List.takeWhile_append_of_pos (by simp), behind, List.append_nil]
  have digits : (ds.map Digit.char).filterMap Digit.ofChar? = ds := by
    rw [List.filterMap_map, show Digit.ofChar? ∘ Digit.char = some from funext Digit.ofChar?_char,
      List.filterMap_some]
  rw [spanDigits]
  simp only [front, digits, List.drop_left]

/-- A number is read where it ends. -/
theorem number_append {least most n : Nat} {cs r : List Char} (h : Decimal.Spells cs n)
    (many : least ≤ cs.length) (few : cs.length ≤ most) (fits : n ≤ Decimal.int64Top)
    (stop : cs.length = most ∨ ∀ c ∈ r.head?, Digit.ofChar? c = none) :
    number least most (cs ++ r) = some (n, r) := by
  obtain ⟨ds, rfl, rfl⟩ := h
  rw [List.length_map] at many few stop
  rw [number, spanDigits_map_char few stop]
  dsimp only
  rw [if_pos many, Decimal.atMost?_eq, if_pos fits]
  rfl

theorem number_fixed {least w n : Nat} (r : List Char) (h : n < 10 ^ w) (many : least ≤ w)
    (fits : n ≤ Decimal.int64Top) :
    number least w (Decimal.fixed w n ++ r) = some (n, r) := by
  have width := Decimal.length_fixed w n
  exact number_append (Decimal.spells_fixed h) (by omega) (by omega) fits (.inl width)

/-- There is a digit in front of a number. -/
theorem head_fixed (w n : Nat) : ∃ d r, Decimal.fixed (w + 1) n = Digit.char d :: r := by
  induction w generalizing n with
  | zero => exact ⟨_, _, rfl⟩
  | succ w ih =>
    obtain ⟨d, r, hd⟩ := ih (n / 10)
    exact ⟨d, _, by rw [Decimal.fixed, hd, List.cons_append]⟩

theorem trimStart_fixed (w n : Nat) (r : List Char) :
    trimStart (Decimal.fixed (w + 1) n ++ r) = Decimal.fixed (w + 1) n ++ r := by
  obtain ⟨d, cs, hd⟩ := head_fixed w n
  rw [hd, List.cons_append, trimStart_cons d.not_isBlank_char]

theorem readItems_cons {i : Item} {is : List Item} {f f' : Fields} {cs cs' : List Char}
    (h : i.read f cs = some (f', cs')) : readItems (i :: is) f cs = readItems is f' cs' := by
  rw [readItems, h]

namespace Item

/-- A year with a sign has as many digits as there are in front of the next mark. -/
theorem read_signed {sign : Char} {n : Nat} (f : Fields) (r : List Char)
    (hs : sign = '-' ∨ sign = '+') {cs : List Char} (spelled : Decimal.Spells cs n)
    (some_ : 1 ≤ cs.length) (fits : n ≤ Decimal.int64Top) :
    Item.year.read f (sign :: (cs ++ '-' :: r)) =
      some ({ f with year := if sign = '-' then -n else n }, '-' :: r) := by
  have digits : number 1 (cs ++ '-' :: r).length (cs ++ '-' :: r) = some (n, '-' :: r) :=
    number_append spelled some_ (by simp) fits (.inr (by simp; decide))
  rcases hs with rfl | rfl
  · exact congrArg (Option.map fun p => ({ f with year := -p.1 }, p.2)) digits
  · exact congrArg (Option.map fun p => ({ f with year := p.1 }, p.2)) digits

theorem read_year (f : Fields) {y : Int} (h : firstYear ≤ y ∧ y ≤ lastYear) (r : List Char) :
    Item.year.read f (yearChars y ++ '-' :: r) = some ({ f with year := y }, '-' :: r) := by
  have small : y.natAbs ≤ Decimal.int64Top := by
    unfold firstYear lastYear at h
    unfold Decimal.int64Top
    omega
  unfold yearChars
  split
  · obtain ⟨d, cs, hd⟩ := head_fixed 3 y.toNat
    have plain : ∀ d : Digit, d.char ≠ '-' ∧ d.char ≠ '+' := by decide
    have digits : number 1 4 (Decimal.fixed 4 y.toNat ++ '-' :: r) = some (y.toNat, '-' :: r) :=
      number_fixed ('-' :: r) (by omega) (by omega) (by omega)
    unfold Item.read
    rw [trimStart_fixed]
    rw [hd] at digits ⊢
    simp only [List.cons_append] at digits ⊢
    split
    · next heq => exact absurd (List.cons.inj heq).1 (plain d).1
    · next heq => exact absurd (List.cons.inj heq).1 (plain d).2
    · rw [digits, Option.map_some, Int.toNat_of_nonneg (by omega)]
  · have spelled : ∃ cs, Decimal.Spells cs y.natAbs ∧ 1 ≤ cs.length ∧
        (if y.natAbs ≤ 9999 then Decimal.fixed 4 y.natAbs else Decimal.chars y.natAbs) = cs := by
      split
      · exact ⟨_, Decimal.spells_fixed (by omega), by rw [Decimal.length_fixed]; omega, rfl⟩
      · exact ⟨_, Decimal.spells_chars _, List.length_pos_iff.2 (Decimal.chars_ne_nil _), rfl⟩
    obtain ⟨cs, spelled, some_, hcs⟩ := spelled
    dsimp only
    rw [hcs, List.cons_append]
    by_cases negative : y < 0
    · rw [if_pos negative, read_signed f r (.inl rfl) spelled some_ small, if_pos rfl,
        Int.ofNat_natAbs_of_nonpos (by omega), Int.neg_neg]
    · rw [if_neg negative, read_signed f r (.inr rfl) spelled some_ small, if_neg (by decide),
        Int.natAbs_of_nonneg (by omega)]

theorem read_part (p : Part) (f : Fields) {n : Nat} (h : n < 100) (r : List Char) :
    (Item.part p).read f (Decimal.fixed 2 n ++ r) = some (p.set n f, r) := by
  have read : number 1 2 (trimStart (Decimal.fixed 2 n ++ r)) = some (n, r) := by
    rw [trimStart_fixed, number_fixed r h (by omega) (by unfold Decimal.int64Top; omega)]
  exact congrArg (Option.map fun q => (p.set q.1 f, q.2)) read

theorem read_mark (m : Char) (f : Fields) (r : List Char) :
    (Item.mark m).read f (m :: r) = some (f, r) :=
  if_pos rfl

theorem read_blanks (f : Fields) {c : Char} (r : List Char) (h : isBlank c = false) :
    Item.blanks.read f (c :: r) = some (f, c :: r) :=
  congrArg (fun cs => some (f, cs)) (trimStart_cons h)

/-- Some of the nine digits of a fraction, as many as are needed. -/
theorem readFraction_fixed {w n : Nat} (h : n < 10 ^ (w + 1)) (few : w + 1 ≤ 9) :
    readFraction (Decimal.fixed (w + 1) n ++ ['Z']) = some (n * 10 ^ (9 - (w + 1)), ['Z']) := by
  obtain ⟨ds, hds, hv⟩ := Decimal.spells_fixed h
  have width : ds.length = w + 1 := by
    rw [← Decimal.length_fixed (w + 1) n, hds, List.length_map]
  have some_ : ds ≠ [] := List.ne_nil_of_length_eq_add_one width
  rw [readFraction, hds, spanDigits_map_char (by omega) (.inr (by rintro _ ⟨⟩; decide))]
  simp only [List.isEmpty_eq_false_iff.2 some_, hv, width]
  rfl

theorem read_fraction (f : Fields) (zero : f.nano = 0) {n : Nat} (h : n < 1000000000) :
    Item.fraction.read f (fractionChars n ++ ['Z']) = some ({ f with nano := n }, ['Z']) := by
  have read {w m : Nat} (hm : m < 10 ^ (w + 1)) (few : w + 1 ≤ 9)
      (exact_ : m * 10 ^ (9 - (w + 1)) = n) :
      Item.fraction.read f ('.' :: Decimal.fixed (w + 1) m ++ ['Z']) =
        some ({ f with nano := n }, ['Z']) := by
    rw [← exact_]
    exact congrArg (Option.map fun p => ({ f with nano := p.1 }, p.2)) (readFraction_fixed hm few)
  unfold fractionChars
  split
  · next none_ =>
    subst none_
    rw [← zero]
    rfl
  split
  · exact read (by omega) (by omega) (by omega)
  split
  · exact read (by omega) (by omega) (by omega)
  · exact read (by omega) (by omega) (by omega)

end Item

/-- The day of the instant is read, and what follows it is left. -/
theorem readItems_date (d : Date) (is : List Item) (f : Fields) {c : Char} (r : List Char) :
    readItems (datePattern ++ is) f (dateChars d ++ c :: r) =
      readItems is { f with year := d.year, month := d.month, day := d.day } (c :: r) := by
  have month := d.month_mem
  have day : d.day < 100 := by
    have last := d.day_mem
    have longest : daysIn d.year d.month ≤ 31 := by
      unfold daysIn
      split <;> (try split) <;> omega
    omega
  rw [datePattern, dateChars]
  simp only [List.append_assoc, List.cons_append, List.nil_append]
  rw [readItems_cons (Item.read_year _ d.year_mem _), readItems_cons (Item.read_blanks _ _ (by decide)),
    readItems_cons (Item.read_mark _ _ _), readItems_cons (Item.read_part _ _ (by omega) _),
    readItems_cons (Item.read_blanks _ _ (by decide)), readItems_cons (Item.read_mark _ _ _),
    readItems_cons (Item.read_part _ _ day _)]
  rfl

theorem readItems_clock (t : Clock) (is : List Item) (f : Fields) (zero : f.nano = 0) :
    readItems (timePattern ++ is) f (clockChars t ++ ['Z']) =
      readItems is { f with hour := t.hour, minute := t.minute, second := t.second, nano := t.nano }
        ['Z'] := by
  have hour := t.hour_lt
  have minute := t.minute_lt
  have second := t.second_le
  rw [timePattern, clockChars]
  simp only [List.append_assoc, List.cons_append, List.nil_append]
  rw [readItems_cons (Item.read_part _ _ (by omega) _),
    readItems_cons (Item.read_blanks _ _ (by decide)), readItems_cons (Item.read_mark _ _ _),
    readItems_cons (Item.read_part _ _ (by omega) _),
    readItems_cons (Item.read_blanks _ _ (by decide)), readItems_cons (Item.read_mark _ _ _),
    readItems_cons (Item.read_part _ _ (by omega) _),
    readItems_cons (Item.read_fraction _ (by exact zero) t.nano_lt),
    readItems_cons (Item.read_blanks _ _ (by decide))]
  rfl

theorem Clock.make?_eq (t : Clock) : Clock.make? t.hour t.minute t.second t.nano = some t := by
  rw [Clock.make?, dif_pos ⟨t.hour_lt, t.minute_lt, t.second_le, t.nano_lt⟩]

theorem Date.make?_eq (d : Date) : Date.make? d.year d.month d.day = some d := by
  rw [Date.make?, dif_pos d.year_mem, dif_pos d.month_mem, dif_pos d.day_mem]

/-- Without an offset a local time is one of universal time. -/
theorem ofLocal?_zero (d : Date) (t : Clock) : ofLocal? d t 0 = some ⟨d, t⟩ := by
  have hour := t.hour_lt
  have minute := t.minute_lt
  have same : t.atMinute (t.hour * 60 + t.minute) = t := by
    obtain ⟨h, m, s, n, hh, hm, hs, hn⟩ := t
    simp only [Clock.atMinute, Clock.mk.injEq, and_true]
    omega
  unfold ofLocal?
  dsimp only
  rw [if_neg (by omega), if_pos (by omega), Int.sub_zero, Int.toNat_natCast, same]

/-- An instant is read as it was written. -/
theorem ofString?_text (t : Timestamp) : ofString? t.text = some t := by
  have written : t.localChars ++ ['Z'] = dateChars t.date ++ 'T' :: (clockChars t.clock ++ ['Z']) := by
    rw [localChars, List.append_assoc, List.cons_append]
  have read : readItems wirePattern {} (t.localChars ++ ['Z']) = some
      ({ year := t.date.year, month := t.date.month, day := t.date.day, hour := t.clock.hour,
         minute := t.clock.minute, second := t.clock.second, nano := t.clock.nano,
         offset := some 0 }, []) := by
    rw [wirePattern, written, readItems_date, readItems_cons (i := .separator) rfl,
      readItems_clock _ _ _ rfl]
    rfl
  rw [ofString?, text, String.toList_ofList, ofChars?, read, Option.bind_some]
  rw [if_pos (by rfl), Fields.instant?, Fields.date?, Fields.clock?]
  simp only [Date.make?_eq, Clock.make?_eq]
  rw [if_pos (by decide), ofLocal?_zero]

theorem lawful_codec : Timestamp.codec.Lawful :=
  Codec.lawful_spelled ofString?_text

end Timestamp
end IssueTracker
