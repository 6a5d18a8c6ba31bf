import IssueTracker.ListQuery
import IssueTracker.Paging
import IssueTracker.Store.Selection
import Mathlib.Algebra.Group.Nat.Defs
import Mathlib.Data.List.TakeWhile

/-! Pages and the links between them. With limits that make sense a page is never empty
by itself, its successor starts where it ends, and the link to it asks for just that page of
the same list: what it says is read back, and everything else in the query is kept. -/

namespace IssueTracker

/-- The greatest number of rows that a table can have. -/
def mostRows : Nat := 9223372036854775807

theorem toInt_ofNat_rows {n : Nat} (h : n ≤ mostRows) : (Int64.ofNat n).toInt = n :=
  Int64.toInt_ofNat_of_lt (by unfold mostRows at h; omega)

theorem toInt_min (a b : Int64) : (min a b).toInt = min a.toInt b.toInt := by
  change (if a ≤ b then a else b).toInt = _
  split
  · next le =>
    rw [Int64.le_iff_toInt_le] at le
    omega
  · next gt =>
    rw [Int64.le_iff_toInt_le] at gt
    omega

theorem toInt_max (a b : Int64) : (max a b).toInt = max a.toInt b.toInt := by
  change (if a ≤ b then b else a).toInt = _
  split
  · next le =>
    rw [Int64.le_iff_toInt_le] at le
    omega
  · next gt =>
    rw [Int64.le_iff_toInt_le] at gt
    omega

theorem toInt_saturate (i : Int) :
    (saturate i).toInt = max (min i mostRows) (-mostRows - 1) := by
  unfold saturate mostRows
  rw [Int64.toInt_minValue, Int64.toInt_maxValue]
  split
  · rw [Int64.toInt_minValue]
    omega
  split
  · rw [Int64.toInt_maxValue]
    omega
  · rw [Int64.toInt_ofInt_of_le (by omega) (by omega)]
    omega

namespace PageLimits

/-- A page has room for at least one issue by default, and the default is not cut. -/
def Sound (l : PageLimits) : Prop :=
  1 ≤ l.standard ∧ l.standard ≤ l.largest

instance (l : PageLimits) : Decidable l.Sound :=
  inferInstanceAs (Decidable (_ ∧ _))

variable {l : PageLimits}

theorem page_limit (h : l.Sound) (skip limit : Option Int64) :
    0 < (l.page skip limit).limit ∧ (l.page skip limit).limit ≤ l.largest := by
  obtain ⟨least, cut⟩ := h
  have one : (1 : Int64).toInt = 1 := rfl
  have zero : (0 : Int64).toInt = 0 := rfl
  simp only [Int64.le_iff_toInt_le, Int64.lt_iff_toInt_lt] at *
  cases limit with
  | none =>
    simp only [page]
    omega
  | some n =>
    simp only [page, Int64.lt_iff_toInt_lt]
    split
    · rw [toInt_min]
      omega
    · omega

end PageLimits

namespace Page

/-- Where the page starts and how many rows it has, as plain integers. -/
def span (p : Page) : Int × Int :=
  (p.skip.toInt, p.limit.toInt)

/-- The page does not start before the first row, and has room for one. -/
structure Proper (p : Page) : Prop where
  start : 0 ≤ p.skip.toInt
  room : 1 ≤ p.limit.toInt

variable {l : PageLimits} {p p' : Page} {limit : Int64} {n count : Nat}

theorem span_inj : p.span = p'.span ↔ p = p' := by
  cases p
  cases p'
  rw [span, span, Prod.mk.injEq, Page.mk.injEq, Int64.toInt_inj, Int64.toInt_inj]

theorem proper_page (sound : l.Sound) (skip limit : Option Int64) :
    (l.page skip limit).Proper := by
  have room := (PageLimits.page_limit sound skip limit).1
  have start : (l.page skip limit).skip.toInt = max (skip.getD 0).toInt 0 := toInt_max _ _
  rw [Int64.lt_iff_toInt_lt, show (0 : Int64).toInt = 0 from rfl] at room
  exact ⟨by omega, room⟩

/-- A page that was given out is given out again. -/
theorem Proper.page (h : p.Proper) (cut : p.limit ≤ l.largest) :
    l.page (some p.skip) (some p.limit) = p := by
  have zero : (0 : Int64).toInt = 0 := rfl
  have positive : 0 < p.limit := Int64.lt_iff_toInt_lt.2 h.room
  refine span_inj.1 ?_
  simp only [PageLimits.page, span, Option.getD_some, if_pos positive, toInt_max, toInt_min, zero]
  rw [Int.max_eq_left h.start, Int.min_eq_left (Int64.le_iff_toInt_le.1 cut)]

/-- Where the sum is cut off at the greatest integer, no count is greater. -/
theorem Proper.next? (h : p.Proper) (count : Int64) : (p.next? count).map span =
    if p.skip.toInt + p.limit.toInt < count.toInt then
      some (p.skip.toInt + p.limit.toInt, p.limit.toInt)
    else none := by
  obtain ⟨start, room⟩ := h
  have most : count.toInt ≤ mostRows := Int.le_of_lt_add_one count.toInt_lt
  have end_ := toInt_saturate (p.skip.toInt + p.limit.toInt)
  rw [Int.max_eq_left (by omega)] at end_
  simp only [Page.next?, Int64.lt_iff_toInt_lt, end_]
  split
  · rw [if_pos (by omega), Option.map_some, span, end_, Int.min_eq_left (by omega)]
  · rw [if_neg (by omega), Option.map_none]

/-- The difference is never cut off. -/
theorem Proper.previous? (h : p.Proper) : p.previous?.map span =
    if 0 < p.skip.toInt then some (max (p.skip.toInt - p.limit.toInt) 0, p.limit.toInt)
    else none := by
  obtain ⟨start, room⟩ := h
  have zero : (0 : Int64).toInt = 0 := rfl
  have most : p.skip.toInt ≤ mostRows := Int.le_of_lt_add_one p.skip.toInt_lt
  have most' : p.limit.toInt ≤ mostRows := Int.le_of_lt_add_one p.limit.toInt_lt
  have start' := toInt_saturate (p.skip.toInt - p.limit.toInt)
  rw [Int.min_eq_left (by omega), Int.max_eq_left (by omega)] at start'
  simp only [Page.previous?, Int64.lt_iff_toInt_lt, zero]
  split
  · rw [Option.map_some, span, toInt_max, start', zero]
  · rfl

/-- The page that starts at a row. -/
def atRow (n : Nat) (limit : Int64) : Page :=
  ⟨Int64.ofNat n, limit⟩

theorem page_first {skip : Option Int64} (start : ∀ k ∈ skip, k ≤ 0) (limit : Option Int64) :
    l.page skip limit = atRow 0 (l.page skip limit).limit := by
  have first : max (skip.getD 0) 0 = 0 := by
    cases skip with
    | none => rfl
    | some k => exact if_pos (start k rfl)
  simp only [PageLimits.page, first]
  rfl

theorem span_atRow (small : n ≤ mostRows) : (atRow n limit).span = (↑n, limit.toInt) := by
  rw [span, atRow, toInt_ofNat_rows small]

theorem proper_atRow (small : n ≤ mostRows) (positive : 0 < limit) : (atRow n limit).Proper where
  start := by
    rw [atRow, toInt_ofNat_rows small]
    exact Int.natCast_nonneg n
  room := Int64.lt_iff_toInt_lt.1 positive

theorem window_atRow {α : Type} (small : n ≤ mostRows) (positive : 0 < limit) (as : List α) :
    Store.window (atRow n limit) as = (as.drop n).take limit.toInt.toNat := by
  have skip : (Int64.ofNat n).toInt.toNat = n := by rw [toInt_ofNat_rows small, Int.toNat_natCast]
  have not_negative : ¬ limit < 0 := by
    rw [Int64.lt_iff_toInt_lt] at *
    omega
  simp only [Store.window, atRow, skip, if_neg not_negative]

/-- There is a next page as long as rows are left, and it starts where this one ends. -/
theorem next?_atRow (small : n ≤ mostRows) (few : count ≤ mostRows) (positive : 0 < limit) :
    (atRow n limit).next? (Int64.ofNat count) =
      if n + limit.toInt.toNat < count then some (atRow (n + limit.toInt.toNat) limit)
      else none := by
  have rows : (limit.toInt.toNat : Int) = limit.toInt :=
    Int.toNat_of_nonneg (Int.le_of_lt (Int64.lt_iff_toInt_lt.1 positive))
  have start : (atRow n limit).skip.toInt = n := toInt_ofNat_rows small
  have next : ((atRow n limit).next? (Int64.ofNat count)).map span =
      if n + limit.toInt < count then some (n + limit.toInt, limit.toInt) else none := by
    rw [(proper_atRow small positive).next?, start, toInt_ofNat_rows few]
    rfl
  refine Option.map_injective (fun _ _ => span_inj.1) (next.trans ?_)
  split
  · rw [if_pos (by omega), Option.map_some, span_atRow (by omega)]
    push_cast
    rw [rows]
  · rw [if_neg (by omega), Option.map_none]

end Page

namespace Form

/-- What is written as a query stands in a query. -/
theorem render_isQueryChar (ps : List (String × String)) :
    ∀ c ∈ render ps, Uri.isQueryChar c = true := by
  have byte (b : UInt8) : ∀ c ∈ encodeByte b, Uri.isQueryChar c = true := by
    have all : ((List.range 256).all fun n =>
        (encodeByte (UInt8.ofNat n)).all Uri.isQueryChar) = true := by decide +kernel
    have := List.all_eq_true.1 all b.toNat (List.mem_range.2 b.toNat_lt)
    simpa using this
  have text (s : String) : ∀ c ∈ encode s, Uri.isQueryChar c = true := by
    intro c hc
    obtain ⟨b, -, hb⟩ := List.mem_flatMap.1 hc
    exact byte b c hb
  have pair (p : String × String) : ∀ c ∈ pairChars p, Uri.isQueryChar c = true := by
    rw [pairChars, List.forall_mem_append, List.forall_mem_cons]
    exact ⟨text _, by decide, text _⟩
  induction ps with
  | nil => simp [render]
  | cons p ps ih =>
    cases ps with
    | nil => simpa [render] using pair p
    | cons p' ps =>
      rw [render, List.map_cons, List.map_cons, List.intercalate_cons_cons,
        List.forall_mem_append, List.forall_mem_append, List.forall_mem_singleton]
      exact ⟨⟨pair p, by decide⟩, ih⟩

end Form

namespace Uri

theorem isQueryChar_ne_hash {c : Char} (h : isQueryChar c = true) : c ≠ '#' := by
  rintro rfl
  revert h
  decide

theorem isPathChar_ne {c : Char} (h : isPathChar c = true) : c ≠ '#' ∧ c ≠ '?' := by
  constructor
  all_goals
    rintro rfl
    revert h
    decide

theorem pathAndQuery?_append {path query : List Char} (hp : path.all isPathChar = true)
    (hq : query.all isQueryChar = true) :
    pathAndQuery? (path ++ '?' :: query) = some ⟨path, some query⟩ := by
  have chars := List.all_eq_true.1 hp
  have whole : (path ++ '?' :: query).takeWhile (· != '#') = path ++ '?' :: query := by
    rw [List.takeWhile_eq_self_iff]
    intro c hc
    rcases List.mem_append.1 hc with hc | hc
    · simpa using (isPathChar_ne (chars c hc)).1
    rcases List.mem_cons.1 hc with rfl | hc
    · decide
    · simpa using isQueryChar_ne_hash (List.all_eq_true.1 hq c hc)
  have front : (path ++ '?' :: query).takeWhile (· != '?') = path := by
    rw [List.takeWhile_append_of_pos fun c hc => by simpa using (isPathChar_ne (chars c hc)).2]
    simp
  rw [pathAndQuery?, whole, front]
  simp [hp, hq]

end Uri

namespace Page

/-- What the link to a page is read as. -/
def linked (p : Page) (uri : Uri) : Uri :=
  ⟨uri.path, some (Form.render (otherPairs (uri.query.getD []) ++ p.pairs))⟩

variable {p : Page} {uri : Uri}

theorem ofString?_link (rooted : uri.path.head? = some '/')
    (plain : uri.path.all Uri.isPathChar = true)
    (fits : (Utf8.encode (p.link uri).toList).length ≤ Uri.maxBytes) :
    Uri.ofString? (p.link uri) = some (p.linked uri) := by
  have text : (p.link uri).toList =
      uri.path ++ '?' :: Form.render (otherPairs (uri.query.getD []) ++ p.pairs) := by
    rw [link, String.toList_ofList]
  rw [text] at fits
  obtain ⟨path, hpath⟩ := List.head?_eq_some_iff.1 rooted
  rw [Uri.ofString?, text, Uri.ofChars?, if_neg (by simpa [hpath] using fits),
    if_neg (by simp [hpath]), if_pos (by simp [hpath])]
  exact Uri.pathAndQuery?_append plain (List.all_eq_true.2 (Form.render_isQueryChar _))

/-- All but the page is kept. -/
theorem otherPairs_linked :
    otherPairs ((p.linked uri).query.getD []) = otherPairs (uri.query.getD []) := by
  rw [linked, Option.getD_some, otherPairs, Form.parse_render, List.filter_append]
  have kept : (otherPairs (uri.query.getD [])).filter
      (fun p => p.1 != "skip" && p.1 != "limit") = otherPairs (uri.query.getD []) := by
    rw [otherPairs, List.filter_filter]
    simp
  rw [kept]
  simp [pairs]

/-- Links of a page that a link led to are those of the page that the link was on. -/
theorem link_linked (p p' : Page) (uri : Uri) : p'.link (p.linked uri) = p'.link uri := by
  rw [link, link, otherPairs_linked, linked]

theorem linked_linked (p p' : Page) (uri : Uri) : p'.linked (p.linked uri) = p'.linked uri := by
  rw [linked, otherPairs_linked, linked, linked]

/-- A key that does not say where a page is has the values that it had. -/
theorem value?_other {α : Type} {key : String} (hs : key ≠ "skip") (hl : key ≠ "limit")
    (p : Page) (query : List Char) (parse : String → Option α) :
    ListQuery.value? (otherPairs query ++ p.pairs) key parse =
      ListQuery.value? (Form.parse query) key parse := by
  have kept : (otherPairs query).filter (fun p => p.1 == key) =
      (Form.parse query).filter fun p => p.1 == key := by
    rw [otherPairs, List.filter_filter]
    refine List.filter_congr fun p _ => ?_
    by_cases hk : p.1 = key
    · simp [hk, hs, hl]
    · simp [hk]
  have added : p.pairs.filter (fun p => p.1 == key) = [] := by
    simp [pairs, hs.symm, hl.symm]
  rw [ListQuery.value?, ListQuery.value?, List.filter_append, kept, added, List.append_nil]

theorem value?_page (p : Page) (query : List Char) :
    ListQuery.value? (otherPairs query ++ p.pairs) "skip" Decimal.int64? = some (some p.skip)
    ∧ ListQuery.value? (otherPairs query ++ p.pairs) "limit" Decimal.int64? =
      some (some p.limit) := by
  have gone (key : String) (hk : key = "skip" ∨ key = "limit") :
      (otherPairs query).filter (fun p => p.1 == key) = [] := by
    rw [otherPairs, List.filter_filter, List.filter_eq_nil_iff]
    intro p _
    rcases hk with rfl | rfl <;> grind
  simp [ListQuery.value?, List.filter_append, gone, pairs, Decimal.int64?_intText]

/-- What a query asks for apart from the page, a link asks for too. -/
theorem ofQuery?_linked {q : ListQuery} (hq : ListQuery.ofQuery? uri.query = some q) :
    ListQuery.ofQuery? (p.linked uri).query =
      some { q with skip := some p.skip, limit := some p.limit } := by
  obtain ⟨skip, limit⟩ := value?_page p (uri.query.getD [])
  rw [ListQuery.ofQuery?, ListQuery.ofPairs?] at hq
  simp only [Option.bind_eq_bind, Option.bind_eq_some_iff, Option.pure_def, Option.some.injEq] at hq
  obtain ⟨_, h1, _, h2, _, h3, _, h4, _, h5, _, h6, _, h7, _, h8, _, h9, _, -, _, -, rfl⟩ := hq
  rw [ListQuery.ofQuery?, linked, Option.getD_some, Form.parse_render, ListQuery.ofPairs?, skip,
    limit]
  simp only [ne_eq, String.reduceEq, not_false_eq_true, value?_other, h1, h2, h3, h4, h5, h6, h7,
    h8, h9]
  rfl

end Page

namespace Decimal

/-- A number has no more digits than a greater power of ten. -/
theorem length_ofNat_le {n k : Nat} (some_ : 0 < k) (h : n < 10 ^ k) : (ofNat n).length ≤ k := by
  fun_induction ofNat n generalizing k with
  | case1 n small => exact some_
  | case2 n great ih =>
    obtain _ | k := k
    · cases some_
    rw [Nat.pow_succ] at h
    have more : 0 < k := Nat.pos_of_ne_zero (by rintro rfl; omega)
    exact Nat.succ_le_succ (ih more (by omega))

theorem length_intText_le (i : Int64) : (intText i.toInt).toList.length ≤ 20 := by
  have digits : (chars i.toInt.natAbs).length ≤ 19 := by
    rw [chars, List.length_map, List.length_reverse]
    have low : -9223372036854775808 ≤ i.toInt := i.le_toInt
    have high := i.toInt_lt
    exact length_ofNat_le (by omega) (by omega)
  unfold intText text
  split
  · rw [String.toList_ofList, List.length_cons]
    omega
  · rw [String.toList_ofList]
    omega

end Decimal

theorem Utf8.length_encode_le (cs : List Char) : (encode cs).length ≤ 4 * cs.length := by
  induction cs with
  | nil => simp [encode]
  | cons c cs ih =>
    have char : (String.utf8EncodeChar c).length ≤ 4 := by
      rw [String.length_utf8EncodeChar]
      exact c.utf8Size_le_four
    rw [encode, List.flatMap_cons, List.length_append, ← encode, List.length_cons]
    omega

theorem Form.length_encode_le (s : String) : (encode s).length ≤ 12 * s.toList.length := by
  have byte (b : UInt8) : (encodeByte b).length ≤ 3 := by
    unfold encodeByte
    split_ifs
    all_goals simp [percentEncode]
  have bytes (bs : List UInt8) : (bs.flatMap encodeByte).length ≤ 3 * bs.length := by
    induction bs with
    | nil => simp
    | cons b bs ih =>
      have := byte b
      rw [List.flatMap_cons, List.length_append, List.length_cons]
      omega
  have := bytes (Utf8.encode s.toList)
  have := Utf8.length_encode_le s.toList
  rw [encode]
  omega

/-- Links from an address without a query are short. -/
theorem Page.link_fits (p : Page) {uri : Uri} (plain : uri.query = none)
    (short : uri.path.length ≤ 1000) :
    (Utf8.encode (p.link uri).toList).length ≤ Uri.maxBytes := by
  have others : otherPairs (uri.query.getD []) = [] := by
    rw [plain]
    decide
  have value (key : String) (i : Int64) (named : key.toList.length ≤ 5) :
      (Form.pairChars (key, Decimal.intText i.toInt)).length ≤ 301 := by
    have := Form.length_encode_le key
    have := Form.length_encode_le (Decimal.intText i.toInt)
    have := Decimal.length_intText_le i
    rw [Form.pairChars, List.length_append, List.length_cons]
    dsimp only
    omega
  have skip := value "skip" p.skip (by decide)
  have limit := value "limit" p.limit (by decide)
  refine Nat.le_trans (Utf8.length_encode_le _) ?_
  rw [link, String.toList_ofList, others, List.nil_append, pairs, Form.render, List.map_cons,
    List.map_cons, List.map_nil, List.intercalate_cons_cons, List.intercalate_singleton]
  simp only [List.length_append, List.length_cons, List.length_nil, Uri.maxBytes]
  omega

end IssueTracker
