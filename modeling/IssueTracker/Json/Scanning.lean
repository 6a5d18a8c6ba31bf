import IssueTracker.Json.Token

/-! Scanning what was written. A piece, a number and a token are `Written` when
they have the form in which they are read; a list of such tokens is scanned as it
is if numbers stand only where a value may end. -/

namespace IssueTracker
namespace Json

namespace Piece

/-- The piece is written as it is read: junk has no writing of its own, and a control
character without a short escape is a `\u` escape. -/
def Written : Piece → Prop
  | .char c => 32 ≤ c.toNat ∨ (shortEscape? c).isSome
  | .unit _ => True
  | .junk => False

theorem written_ofChar (c : Char) : (ofChar c).Written := by
  unfold ofChar
  split
  · trivial
  · next h =>
    simp only [Written]
    by_cases hc : 32 ≤ c.toNat
    · exact .inl hc
    · right
      rw [Option.isSome_iff_ne_none]
      exact fun hn => h ⟨by omega, hn⟩

end Piece

theorem unescape?_of_shortEscape? {c e : Char} (h : shortEscape? c = some e) :
    e ≠ 'u' ∧ unescape? e = some c := by
  unfold shortEscape? at h
  split at h <;> simp_all <;> subst h <;> decide

theorem value?_unitChars (u : UInt16) :
    ∃ a b c d : Fin 16, unitChars u = [Hex.digit a.val, Hex.digit b.val, Hex.digit c.val, Hex.digit d.val]
      ∧ ((a.val * 16 + b.val) * 16 + c.val) * 16 + d.val = u.toNat := by
  have hu := u.toNat_lt
  refine ⟨⟨u.toNat / 4096, by omega⟩, ⟨u.toNat / 256 % 16, by omega⟩, ⟨u.toNat / 16 % 16, by omega⟩,
    ⟨u.toNat % 16, by omega⟩, rfl, ?_⟩
  simp only
  omega

theorem shortEscape?_eq_none {c : Char} (h : shortEscape? c = none) : c ≠ '"' ∧ c ≠ '\\' := by
  unfold shortEscape? at h
  constructor <;> rintro rfl <;> simp at h

theorem scanFrom_cons {done : List Token} {l : Lexeme} {c : Option Char} {r : List (Option Char)}
    (new : List Token) (l' : Lexeme) (h : l.next c = some (new, l')) :
    scanFrom done l (c :: r) = scanFrom (new ++ done) l' r := by
  rw [scanFrom, h]

theorem next_code_more (ps : List Piece) (v left : Nat) (h : Fin 16) :
    Lexeme.next (.code ps v (left + 2)) (some (Hex.digit h.val)) =
      some ([], .code ps (v * 16 + h.val) (left + 1)) := by
  simp [Lexeme.next, Hex.value?_digit]

theorem next_code_last (ps : List Piece) (v : Nat) (h : Fin 16) :
    Lexeme.next (.code ps v 1) (some (Hex.digit h.val)) =
      some ([], .text (.unit (v * 16 + h.val).toUInt16 :: ps)) := by
  simp [Lexeme.next, Hex.value?_digit]

/-- A piece that was written is read as one. -/
theorem scanFrom_piece {done : List Token} {ps : List Piece} {p : Piece} (hp : p.Written)
    (r : List (Option Char)) :
    scanFrom done (.text ps) (p.chars.map some ++ r) = scanFrom done (.text (p :: ps)) r := by
  cases p with
  | junk => exact absurd hp (by simp [Piece.Written])
  | char c =>
    simp only [Piece.chars]
    cases he : shortEscape? c with
    | some e =>
      obtain ⟨hu, hc⟩ := unescape?_of_shortEscape? he
      simp only [List.map_cons, List.map_nil, List.cons_append, List.nil_append]
      rw [scanFrom_cons [] (.escape ps) rfl,
        scanFrom_cons [] (.text (.char c :: ps)) (by simp [Lexeme.next, hu, hc])]
      rfl
    | none =>
      obtain ⟨hq, hb⟩ := shortEscape?_eq_none he
      have h32 : ¬ c.toNat < 32 := by
        rcases hp with hp | hp
        · omega
        · simp [he] at hp
      exact scanFrom_cons [] _ (by simp [Lexeme.next, hq, hb, h32])
  | unit u =>
    obtain ⟨a, b, c, d, hu, hv⟩ := value?_unitChars u
    have hv : (((0 * 16 + a.val) * 16 + b.val) * 16 + c.val) * 16 + d.val = u.toNat := by omega
    have ofNat : u.toNat.toUInt16 = u := UInt16.ofNat_toNat
    simp only [Piece.chars, hu, List.map_cons, List.map_nil, List.cons_append, List.nil_append]
    rw [scanFrom_cons [] (.escape ps) rfl,
      scanFrom_cons [] (.code ps 0 4) rfl, scanFrom_cons _ _ (next_code_more ps 0 2 a),
      scanFrom_cons _ _ (next_code_more ps _ 1 b), scanFrom_cons _ _ (next_code_more ps _ 0 c),
      scanFrom_cons _ _ (next_code_last ps _ d), hv, ofNat]
    rfl

/-- The pieces of a string and its closing quote. -/
theorem scanFrom_pieces {done : List Token} {ps : List Piece} {q : Quoted}
    (hq : ∀ p ∈ q, p.Written) (r : List (Option Char)) :
    scanFrom done (.text ps) ((q.flatMap Piece.chars).map some ++ some '"' :: r) =
      scanFrom (.str (ps.reverse ++ q) :: done) .gap r := by
  induction q generalizing ps with
  | nil =>
    rw [List.append_nil]
    exact scanFrom_cons [.str ps.reverse] .gap rfl
  | cons p q ih =>
    rw [List.flatMap_cons, List.map_append, List.append_assoc,
      scanFrom_piece (hq p List.mem_cons_self), ih fun x hx => hq x (List.mem_cons_of_mem _ hx)]
    simp

namespace Numeral

/-- There is a digit in front, a zero there stands alone, and an exponent has digits. -/
structure Written (n : Numeral) : Prop where
  whole_ne : n.whole ≠ []
  leading : n.whole.getLast? = some 0 → n.whole = [0]
  exponent_ne : ∀ e ∈ n.exponent, e.digits ≠ []

end Numeral

/-- The text ends here or goes on with a mark that ends a value. -/
def EndsValue (r : List (Option Char)) : Prop :=
  r = [] ∨ ∃ c ∈ [',', ']', '}'], ∃ r', r = some c :: r'

theorem next_number {phase phase' : Phase} {n n' : Numeral} {c : Char}
    (h : n.extend phase c = some (phase', n')) :
    Lexeme.next (.number phase n) (some c) = some ([], .number phase' n') := by
  simp [Lexeme.next, h]

theorem scanFrom_number_cons {done : List Token} {phase : Phase} {n : Numeral} {c : Char}
    {r : List (Option Char)} (phase' : Phase) (n' : Numeral)
    (h : n.extend phase c = some (phase', n')) :
    scanFrom done (.number phase n) (some c :: r) = scanFrom done (.number phase' n') r :=
  scanFrom_cons _ _ (next_number h)

/-- A complete number is a token where a value ends. -/
theorem scanFrom_number_end {done : List Token} {phase : Phase} {n : Numeral}
    {r : List (Option Char)} (hp : phase.complete) (hr : EndsValue r) :
    scanFrom done (.number phase n) r = scanFrom (.num n :: done) .gap r := by
  rcases hr with rfl | ⟨c, hc, r', rfl⟩
  · simp [scanFrom, Lexeme.finish, hp]
  · simp only [List.mem_cons, List.not_mem_nil, or_false] at hc
    have stop : n.extend phase c = none := by
      rcases hc with rfl | rfl | rfl <;> cases phase <;>
        simp [Numeral.extend, Digit.ofChar?, Phase.complete] at hp ⊢
    rcases hc with rfl | rfl | rfl <;> simp [scanFrom, Lexeme.next, stop, hp, Lexeme.start]

/-- A run of digits is pushed one after another. -/
theorem scanFrom_digits {done : List Token} {phase : Phase} {push : Numeral → Digit → Numeral}
    (h : ∀ n d, n.extend phase (Digit.char d) = some (phase, push n d)) (n : Numeral)
    (es : List Digit) (r : List (Option Char)) :
    scanFrom done (.number phase n) ((es.map Digit.char).map some ++ r) =
      scanFrom done (.number phase (es.foldl push n)) r := by
  induction es generalizing n with
  | nil => rfl
  | cons e es ih =>
    simp only [List.map_cons, List.cons_append, List.foldl_cons]
    rw [scanFrom_number_cons _ _ (h n e), ih]

/-- What a digit comes to, however far the number has been read. -/
theorem extend_digit (phase : Phase) (n : Numeral) (d : Digit) :
    n.extend phase d.char =
      match phase with
      | .sign => some (if d.val = 0 then .zero else .whole, { n with whole := [d] })
      | .zero => none
      | .whole => some (.whole, { n with whole := d :: n.whole })
      | .point | .fraction => some (.fraction, { n with fraction := d :: n.fraction })
      | .power | .powerSign | .powerDigits => some (.powerDigits, n.pushPower d) := by
  unfold Numeral.extend
  rw [Digit.ofChar?_char]
  cases phase <;> rfl

theorem foldl_whole (n : Numeral) (es : List Digit) :
    es.foldl (fun n d => { n with whole := d :: n.whole }) n =
      { n with whole := es.reverse ++ n.whole } := by
  induction es generalizing n with
  | nil => rfl
  | cons e es ih => simp [ih]

theorem foldl_fraction (n : Numeral) (es : List Digit) :
    es.foldl (fun n d => { n with fraction := d :: n.fraction }) n =
      { n with fraction := es.reverse ++ n.fraction } := by
  induction es generalizing n with
  | nil => rfl
  | cons e es ih => simp [ih]

theorem foldl_pushPower (n : Numeral) (b : Bool) (ds es : List Digit) :
    es.foldl Numeral.pushPower { n with exponent := some ⟨b, ds⟩ } =
      { n with exponent := some ⟨b, es.reverse ++ ds⟩ } := by
  induction es generalizing ds with
  | nil => rfl
  | cons e es ih => simp [Numeral.pushPower, ih]

theorem start_digit (d : Digit) :
    Lexeme.start d.char =
      some ([], .number (if d.val = 0 then .zero else .whole) { Numeral.blank with whole := [d] }) := by
  have all : ∀ d : Digit, Lexeme.start d.char =
      (Numeral.blank.extend .sign d.char).map fun p => ([], .number p.1 p.2) := by
    intro d
    obtain ⟨n, hn⟩ := d
    have : n = 0 ∨ n = 1 ∨ n = 2 ∨ n = 3 ∨ n = 4 ∨ n = 5 ∨ n = 6 ∨ n = 7 ∨ n = 8 ∨ n = 9 := by omega
    rcases this with rfl | rfl | rfl | rfl | rfl | rfl | rfl | rfl | rfl | rfl <;> rfl
  rw [all, extend_digit]
  rfl

/-- The sign and the digits in front of a number. -/
theorem scanFrom_whole (done : List Token) (neg : Bool) {ws : List Digit} (hw : ws ≠ [])
    (hl : ws.getLast? = some 0 → ws = [0]) (r : List (Option Char)) :
    ∃ phase, (phase = .zero ∨ phase = .whole) ∧
      scanFrom done .gap ((Numeral.signChars neg ++ digitChars ws).map some ++ r) =
        scanFrom done (.number phase ⟨neg, ws, [], none⟩) r := by
  obtain ⟨es, d, rfl⟩ : ∃ es d, ws = es ++ [d] :=
    ⟨ws.dropLast, ws.getLast hw, (List.dropLast_concat_getLast hw).symm⟩
  have first : scanFrom done .gap ((Numeral.signChars neg ++ digitChars (es ++ [d])).map some ++ r)
      = scanFrom done (.number (if d.val = 0 then .zero else .whole) ⟨neg, [d], [], none⟩)
        ((es.reverse.map Digit.char).map some ++ r) := by
    simp only [digitChars, List.reverse_append, List.reverse_cons, List.reverse_nil, List.nil_append,
      List.singleton_append, List.map_cons, List.map_append]
    cases neg with
    | false => exact scanFrom_cons [] _ (start_digit d)
    | true =>
      exact (scanFrom_cons [] (.number .sign { Numeral.blank with negative := true }) rfl).trans
        (scanFrom_number_cons _ _ (extend_digit .sign _ d))
  rw [first]
  by_cases hd : d.val = 0
  · have : es = [] := by
      have := hl (by simpa using Fin.ext hd)
      simpa using congrArg List.length this
    subst this
    exact ⟨.zero, .inl rfl, by simp [hd]⟩
  · refine ⟨.whole, .inr rfl, ?_⟩
    rw [if_neg hd, scanFrom_digits (extend_digit .whole), foldl_whole]
    simp

/-- The fraction of a number, if it has one. -/
theorem scanFrom_fraction (done : List Token) {phase : Phase} (neg : Bool) (ws fs : List Digit)
    (hp : phase = .zero ∨ phase = .whole) (r : List (Option Char)) :
    ∃ phase', (phase' = .zero ∨ phase' = .whole ∨ phase' = .fraction) ∧
      scanFrom done (.number phase ⟨neg, ws, [], none⟩)
          ((Numeral.fractionChars fs).map some ++ r) =
        scanFrom done (.number phase' ⟨neg, ws, fs, none⟩) r := by
  by_cases hf : fs = []
  · subst hf
    exact ⟨phase, by rcases hp with rfl | rfl <;> simp, rfl⟩
  · obtain ⟨es, d, rfl⟩ : ∃ es d, fs = es ++ [d] :=
      ⟨fs.dropLast, fs.getLast hf, (List.dropLast_concat_getLast hf).symm⟩
    refine ⟨.fraction, by simp, ?_⟩
    rw [Numeral.fractionChars, if_neg (by simp)]
    simp only [digitChars, List.reverse_append, List.reverse_cons, List.reverse_nil, List.nil_append,
      List.map_cons, List.cons_append]
    rw [scanFrom_number_cons .point ⟨neg, ws, [], none⟩
        (by rcases hp with rfl | rfl <;> rfl),
      scanFrom_number_cons .fraction ⟨neg, ws, [d], none⟩
        (extend_digit .point _ d), scanFrom_digits (extend_digit .fraction), foldl_fraction]
    simp

/-- The exponent of a number, if it has one. -/
theorem scanFrom_exponent (done : List Token) {phase : Phase} (neg : Bool) (ws fs : List Digit)
    {e : Option Exponent} (hp : phase = .zero ∨ phase = .whole ∨ phase = .fraction) (he : ∀ x ∈ e, x.digits ≠ [])
    (r : List (Option Char)) :
    ∃ phase', phase'.complete ∧
      scanFrom done (.number phase ⟨neg, ws, fs, none⟩)
          ((Numeral.exponentChars e).map some ++ r) =
        scanFrom done (.number phase' ⟨neg, ws, fs, e⟩) r := by
  match e with
  | none => exact ⟨phase, by rcases hp with rfl | rfl | rfl <;> rfl, rfl⟩
  | some ⟨b, ds⟩ =>
    obtain ⟨es, d, rfl⟩ : ∃ es d, ds = es ++ [d] :=
      ⟨_, _, (List.dropLast_concat_getLast (he ⟨b, ds⟩ rfl)).symm⟩
    refine ⟨.powerDigits, rfl, ?_⟩
    have mark : Numeral.extend phase ⟨neg, ws, fs, none⟩ 'e' = some (.power, ⟨neg, ws, fs, none⟩) := by
      rcases hp with rfl | rfl | rfl <;> rfl
    have rest : ∀ r, scanFrom done (.number .powerDigits ⟨neg, ws, fs, some ⟨b, [d]⟩⟩)
        ((es.reverse.map Digit.char).map some ++ r) =
          scanFrom done (.number .powerDigits ⟨neg, ws, fs, some ⟨b, es ++ [d]⟩⟩) r := by
      intro r
      rw [scanFrom_digits (extend_digit .powerDigits),
        foldl_pushPower ⟨neg, ws, fs, none⟩ b [d] es.reverse, List.reverse_reverse]
    simp only [Numeral.exponentChars, Exponent.chars, digitChars, List.reverse_append, List.reverse_cons, List.reverse_nil,
      List.nil_append, List.map_cons, List.cons_append]
    rw [scanFrom_number_cons _ _ mark]
    cases b with
    | false =>
      simp only [Bool.false_eq_true, if_false, List.map_cons, List.cons_append]
      rw [scanFrom_number_cons .powerDigits ⟨neg, ws, fs, some ⟨false, [d]⟩⟩
        (extend_digit .power _ d), rest]
    | true =>
      simp only [if_true, List.map_cons, List.cons_append]
      rw [scanFrom_number_cons .powerSign ⟨neg, ws, fs, some ⟨true, []⟩⟩ rfl,
        scanFrom_number_cons .powerDigits ⟨neg, ws, fs, some ⟨true, [d]⟩⟩
        (extend_digit .powerSign _ d), rest]

/-- A number that was written is read as one where a value ends. -/
theorem scanFrom_number {done : List Token} {n : Numeral} (hn : n.Written) {r : List (Option Char)}
    (hr : EndsValue r) :
    scanFrom done .gap (n.chars.map some ++ r) = scanFrom (.num n :: done) .gap r := by
  obtain ⟨neg, ws, fs, e⟩ := n
  simp only [Numeral.chars, List.map_append, List.append_assoc]
  obtain ⟨p, hp, h⟩ := scanFrom_whole done neg hn.whole_ne hn.leading
    ((Numeral.fractionChars fs).map some ++ ((Numeral.exponentChars e).map some ++ r))
  rw [List.map_append, List.append_assoc] at h
  rw [h]
  obtain ⟨q, hq, h⟩ := scanFrom_fraction done neg ws fs hp
    ((Numeral.exponentChars e).map some ++ r)
  rw [h]
  obtain ⟨s, hs, h⟩ := scanFrom_exponent done neg ws fs hq
    hn.exponent_ne r
  rw [h, scanFrom_number_end hs hr]

namespace Token

def Written : Token → Prop
  | .num n => n.Written
  | .str q => ∀ p ∈ q, p.Written
  | _ => True

/-- The token ends a value that stands in front of it. -/
def isEnd : Token → Bool
  | .comma | .closeBracket | .closeBrace => true
  | _ => false

end Token

/-- A number stands only where a value may end. -/
def Separated : List Token → Prop
  | [] => True
  | .num _ :: r => (∀ t ∈ r.head?, t.isEnd) ∧ Separated r
  | _ :: r => Separated r

theorem Separated.tail {t : Token} {ts : List Token} (h : Separated (t :: ts)) : Separated ts := by
  cases t with
  | num n => exact h.2
  | _ => exact h

theorem endsValue_chars {ts : List Token} (h : ∀ t ∈ ts.head?, t.isEnd) :
    EndsValue ((ts.flatMap Token.chars).map some) := by
  cases ts with
  | nil => exact .inl rfl
  | cons t ts =>
    right
    have ht := h t (by simp)
    match t, ht with
    | .comma, _ => exact ⟨',', by simp, _, rfl⟩
    | .closeBracket, _ => exact ⟨']', by simp, _, rfl⟩
    | .closeBrace, _ => exact ⟨'}', by simp, _, rfl⟩

/-- Tokens that were written one after another are scanned as they were. -/
theorem scanFrom_tokens {done ts : List Token} (hw : ∀ t ∈ ts, t.Written) (hs : Separated ts) :
    scanFrom done .gap ((ts.flatMap Token.chars).map some) = some (done.reverse ++ ts) := by
  induction ts generalizing done with
  | nil => simp [scanFrom, Lexeme.finish]
  | cons t ts ih =>
    have hw' : ∀ t ∈ ts, t.Written := fun x hx => hw x (List.mem_cons_of_mem _ hx)
    have ht := hw t List.mem_cons_self
    rw [List.flatMap_cons, List.map_append]
    have step : scanFrom done .gap (t.chars.map some ++ (ts.flatMap Token.chars).map some) =
        scanFrom (t :: done) .gap ((ts.flatMap Token.chars).map some) := by
      cases t with
      | num n => exact scanFrom_number ht (endsValue_chars hs.1)
      | str q =>
        simp only [Token.chars, Quoted.chars, List.map_cons, List.map_append, List.map_nil,
          List.cons_append, List.append_assoc, List.nil_append]
        rw [scanFrom_cons [] (.text []) rfl]
        exact scanFrom_pieces ht _
      | bool b => cases b <;> rfl
      | _ => rfl
    rw [step, ih hw' hs.tail]
    simp

end Json
end IssueTracker
