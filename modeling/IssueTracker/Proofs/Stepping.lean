import IssueTracker.Proofs.Paging

/-! Steps from page to page, compared with arithmetic on all integers. That sums and
differences stop at the ends of the 64-bit integers shows in no link: the next page starts
where this one ends, the way back from it leads to this one, and a client that goes on
backwards comes to the first row and passes over none. -/

namespace IssueTracker

namespace Page

/-- The link to the page of the listing that starts and ends at these integers. -/
def linkTo (uri : Uri) (start rows : Int) : String :=
  String.ofList (uri.path ++ '?' :: Form.render (otherPairs (uri.query.getD []) ++
    [("skip", Decimal.intText start), ("limit", Decimal.intText rows)]))

/-- The page so many steps back, if there are so many. -/
def back? (p : Page) : Nat → Option Page
  | 0 => some p
  | k + 1 => (p.back? k).bind previous?

variable {l : PageLimits} {p n b : Page} {count : Int64} {uri : Uri}

theorem Proper.of_previous? (h : p.Proper) (back : p.previous? = some b) :
    b.span = (max (p.skip.toInt - p.limit.toInt) 0, p.limit.toInt) ∧ 0 < p.skip.toInt
      ∧ b.Proper := by
  have spans := h.previous?
  rw [back, Option.map_some] at spans
  split at spans
  · next later =>
    have span := Option.some.inj spans
    obtain ⟨start, rows⟩ := Prod.mk.inj span
    have room := h.room
    exact ⟨span, later, by omega, by omega⟩
  · cases spans

theorem Proper.of_next? (h : p.Proper) (next : p.next? count = some n) :
    n.span = (p.skip.toInt + p.limit.toInt, p.limit.toInt) ∧ n.Proper := by
  have spans := h.next? count
  rw [next, Option.map_some] at spans
  split at spans
  · have span := Option.some.inj spans
    obtain ⟨start, rows⟩ := Prod.mk.inj span
    have start' := h.start
    have room := h.room
    exact ⟨span, by omega, by omega⟩
  · cases spans

/-- The way back from the next page leads to this one. -/
theorem Proper.previous?_next (h : p.Proper) (next : p.next? count = some n) :
    n.previous? = some p := by
  obtain ⟨span, proper⟩ := h.of_next? next
  obtain ⟨start, rows⟩ := Prod.mk.inj span
  have start' := h.start
  have room := h.room
  refine Option.map_injective (fun _ _ => span_inj.1) (proper.previous?.trans ?_)
  rw [start, rows, if_pos (by omega), Option.map_some, Int.add_sub_cancel, Int.max_eq_left start']
  rfl

theorem Proper.links (h : p.Proper) (uri : Uri) (count : Int64) :
    p.links uri count =
      (if 0 < p.skip.toInt then
          some (linkTo uri (max (p.skip.toInt - p.limit.toInt) 0) p.limit.toInt) else none,
        if p.skip.toInt + p.limit.toInt < count.toInt then
          some (linkTo uri (p.skip.toInt + p.limit.toInt) p.limit.toInt) else none) := by
  have through (o : Option Page) : o.map (fun q => q.link uri) =
      (o.map span).map fun s => linkTo uri s.1 s.2 := by
    cases o <;> rfl
  rw [Page.links, through, through, h.previous?, h.next?]
  congr 1
  · split <;> rfl
  · split <;> rfl

/-- Every step back goes over as many rows as a page has, the last one at most. -/
theorem Proper.back? (h : p.Proper) (k : Nat) : (p.back? (k + 1)).map span =
    if k * p.limit.toInt < p.skip.toInt then
      some (max (p.skip.toInt - (k + 1) * p.limit.toInt) 0, p.limit.toInt)
    else none := by
  induction k with
  | zero => simpa [Page.back?] using h.previous?
  | succ k ih =>
    have room := h.room
    have more : ((k + 1 : Nat) : Int) * p.limit.toInt = k * p.limit.toInt + p.limit.toInt := by
      rw [Int.natCast_succ, Int.add_mul, Int.one_mul]
    have most : ((k + 1 : Nat) + 1 : Int) * p.limit.toInt =
        k * p.limit.toInt + p.limit.toInt + p.limit.toInt := by
      rw [Int.add_mul, Int.one_mul, more]
    rw [Int.add_mul, Int.one_mul] at ih
    rw [more, most]
    rw [Page.back?]
    cases back : p.back? (k + 1) with
    | none =>
      rw [back] at ih
      split at ih
      · cases ih
      · rw [if_neg (by omega)]
        rfl
    | some b =>
      rw [back, Option.map_some] at ih
      split at ih
      · obtain ⟨start, rows⟩ := Prod.mk.inj (Option.some.inj ih)
        have proper : b.Proper := ⟨by omega, by omega⟩
        rw [Option.bind_some, proper.previous?, start, rows]
        split
        · rw [if_pos (by omega)]
          congr 2
          omega
        · rw [if_neg (by omega)]
      · cases ih

/-- A client that goes back step by step passes over no row. -/
theorem Proper.back?_covers (h : p.Proper) {row : Int} (least : 0 ≤ row)
    (before : row < p.skip.toInt) :
    ∃ k b, p.back? k = some b ∧ b.Proper ∧ b.skip.toInt ≤ row
      ∧ row < b.skip.toInt + b.limit.toInt := by
  have room := h.room
  -- so many whole pages lie between the row and the start of this page
  obtain ⟨k, whole⟩ : ∃ k : Nat, (k : Int) = (p.skip.toInt - 1 - row) / p.limit.toInt :=
    ⟨_, Int.toNat_of_nonneg (Int.ediv_nonneg (by omega) (by omega))⟩
  have cut := Int.emod_add_mul_ediv (p.skip.toInt - 1 - row) p.limit.toInt
  have rest := Int.emod_nonneg (p.skip.toInt - 1 - row) (show p.limit.toInt ≠ 0 by omega)
  have rest' := Int.emod_lt_of_pos (p.skip.toInt - 1 - row) (show 0 < p.limit.toInt by omega)
  rw [← whole, Int.mul_comm] at cut
  have spans := h.back? k
  rw [if_pos (by omega), Int.add_mul, Int.one_mul] at spans
  obtain ⟨b, back, span⟩ := Option.map_eq_some_iff.1 spans
  obtain ⟨start, rows⟩ := Prod.mk.inj span
  exact ⟨k + 1, b, back, ⟨by omega, by omega⟩, by omega, by omega⟩

/-- The way back ends at the first row. -/
theorem Proper.back?_first (h : p.Proper) :
    ∃ k first, p.back? k = some first ∧ first.skip = 0 ∧ first.previous? = none := by
  have front {b : Page} (proper : b.Proper) (first : b.skip.toInt ≤ 0) :
      b.skip = 0 ∧ b.previous? = none := by
    have zero : b.skip = 0 := Int64.toInt_inj.1 (Int.le_antisymm first proper.start)
    exact ⟨zero, if_neg (by rw [zero]; decide)⟩
  by_cases later : 0 < p.skip.toInt
  · obtain ⟨k, b, back, proper, first, -⟩ := h.back?_covers (Int.le_refl 0) later
    exact ⟨k, b, back, front proper first⟩
  · exact ⟨0, p, rfl, front h (by omega)⟩

/-- For limits that make sense pages and links are what they would be if integers had no end.
A request gets a page that starts at a row and has room for one, and that a link to it gets
again. There is a next page exactly when rows are left behind this one, it starts where this
one ends, and its link back is the link to this one. There is a previous page exactly when
rows are left in front, it starts before this one and ends no earlier than this one starts;
and from page to page the way back leads to the first row and past every row in front. -/
theorem page_links_exact (l : PageLimits) (sound : l.Sound) (skip limit : Option Int64)
    (count : Int64) (uri : Uri) :
    let p := l.page skip limit
    let start := p.skip.toInt
    let rows := p.limit.toInt
    (0 ≤ start ∧ 1 ≤ rows ∧ rows ≤ l.largest.toInt)
    ∧ l.page (some p.skip) (some p.limit) = p
    ∧ p.links uri count =
      (if 0 < start then some (linkTo uri (max (start - rows) 0) rows) else none,
        if start + rows < count.toInt then some (linkTo uri (start + rows) rows) else none)
    ∧ (∀ n, p.next? count = some n → n.span = (start + rows, rows)
      ∧ l.page (some n.skip) (some n.limit) = n
      ∧ ∀ count', (n.links (n.linked uri) count').1 = some (linkTo uri start rows))
    ∧ (∀ b, p.previous? = some b → b.span = (max (start - rows) 0, rows)
      ∧ l.page (some b.skip) (some b.limit) = b
      ∧ 0 ≤ b.skip.toInt ∧ b.skip.toInt < start ∧ start ≤ b.skip.toInt + rows)
    ∧ (∀ k : Nat, (p.back? (k + 1)).map span =
      if k * rows < start then some (max (start - (k + 1) * rows) 0, rows) else none)
    ∧ (∃ k first, p.back? k = some first ∧ first.skip = 0 ∧ first.previous? = none)
    ∧ ∀ row, 0 ≤ row → row < start → ∃ k b, p.back? k = some b ∧ b.skip.toInt ≤ row
      ∧ row < b.skip.toInt + b.limit.toInt := by
  intro p start rows
  have h : p.Proper := proper_page sound skip limit
  have cut : p.limit ≤ l.largest := (PageLimits.page_limit sound skip limit).2
  -- a page with as many rows is given out again as well
  have again {q : Page} (proper : q.Proper) (same : q.limit.toInt = rows) :
      l.page (some q.skip) (some q.limit) = q :=
    proper.page (Int64.toInt_inj.1 same ▸ cut)
  refine ⟨⟨h.start, h.room, Int64.le_iff_toInt_le.1 cut⟩, h.page cut, h.links uri count,
    fun n next => ?_, fun b back => ?_, h.back?, h.back?_first, fun row least before => ?_⟩
  · obtain ⟨span, proper⟩ := h.of_next? next
    refine ⟨span, again proper (Prod.mk.inj span).2, fun count' => ?_⟩
    rw [Page.links, h.previous?_next next, Option.map_some, link_linked]
    rfl
  · obtain ⟨span, later, proper⟩ := h.of_previous? back
    obtain ⟨start', rows'⟩ := Prod.mk.inj span
    have room := h.room
    exact ⟨span, again proper rows', proper.start, by omega, by omega⟩
  · obtain ⟨k, b, back, -, covers⟩ := h.back?_covers least before
    exact ⟨k, b, back, covers⟩

/-- The last page that can be asked for has none behind it, whatever the count is. -/
theorem page_links_exact_furthest :
    (PageLimits.page {} (some Int64.maxValue) none).links ⟨"/api/v1/issues".toList, none⟩
        Int64.maxValue =
      (some "/api/v1/issues?skip=9223372036854775787&limit=20", none)
    ∧ ∃ k first, (PageLimits.page {} (some Int64.maxValue) none).back? k = some first
      ∧ first.skip = 0 ∧ first.previous? = none := by
  obtain ⟨-, -, links, -, -, -, back, -⟩ := page_links_exact {} (by decide) (some Int64.maxValue)
    none Int64.maxValue ⟨"/api/v1/issues".toList, none⟩
  exact ⟨links.trans (by decide +kernel), back⟩

end Page
end IssueTracker
