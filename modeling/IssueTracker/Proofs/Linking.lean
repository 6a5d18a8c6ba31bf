import IssueTracker.Proofs.Paging

/-! What a link to a page says of the request that it stands in the answer to. Whatever the
query was, readable or not, the link has the same path and the same decoded pairs, but for
those that say where a page is; so a link that is followed gives out the links that the
first request would have given out. -/

namespace IssueTracker

namespace Uri

variable {uri : Uri}

/-- A path that was read has no character that would end it. -/
theorem pathAndQuery?_plain {cs : List Char} (h : pathAndQuery? cs = some uri) :
    uri.path.all isPathChar = true := by
  unfold pathAndQuery? at h
  extract_lets whole path query at h
  split at h
  next plain =>
    split at h
    · cases h
      exact plain
    split at h
    · cases h
      exact plain
    · cases h
  · cases h

theorem rooted_plain (h : uri.path.all isPathChar = true) :
    uri.rooted.path.all isPathChar = true := by
  unfold rooted
  split
  · rfl
  · exact h

theorem ofString?_plain {text : String} (h : ofString? text = some uri) :
    uri.path.all isPathChar = true := by
  unfold ofString? ofChars? at h
  split at h
  · cases h
  split at h
  · cases h
    decide
  split at h
  · exact pathAndQuery?_plain h
  split at h
  · cases h
  · split at h
    · cases h
      rfl
    · cases h
  · split at h
    · split at h
      · cases h
      · obtain ⟨behind, found, rfl⟩ := Option.map_eq_some_iff.1 h
        exact rooted_plain (pathAndQuery?_plain found)
    · cases h

end Uri

namespace Page

/-- The link to a page keeps the path and every pair of the query, as decoded, that is not
about the page, in order and with repetitions; behind them stand the two numbers of the
page, each once. If the link is short enough to be asked for, its links are those of the
request that it came from. -/
theorem link_keeps_query {text : String} {uri : Uri} (accepted : Uri.ofString? text = some uri)
    (rooted : uri.path.head? = some '/') (p : Page) :
    ∃ query, (p.link uri).toList = uri.path ++ '?' :: query
      ∧ Uri.pathAndQuery? (p.link uri).toList = some ⟨uri.path, some query⟩
      ∧ Form.parse query = ((Form.parse (uri.query.getD [])).filter fun q =>
            q.1 ≠ "skip" ∧ q.1 ≠ "limit")
          ++ [("skip", Decimal.intText p.skip.toInt), ("limit", Decimal.intText p.limit.toInt)]
      ∧ Decimal.int64? (Decimal.intText p.skip.toInt) = some p.skip
      ∧ Decimal.int64? (Decimal.intText p.limit.toInt) = some p.limit
      ∧ ((Utf8.encode (p.link uri).toList).length ≤ Uri.maxBytes →
        Uri.ofString? (p.link uri) = some ⟨uri.path, some query⟩
          ∧ ∀ p' : Page, p'.link ⟨uri.path, some query⟩ = p'.link uri) := by
  have plain : uri.path.all Uri.isPathChar = true := Uri.ofString?_plain accepted
  have written : (p.link uri).toList =
      uri.path ++ '?' :: Form.render (otherPairs (uri.query.getD []) ++ p.pairs) := by
    rw [link, String.toList_ofList]
  refine ⟨Form.render (otherPairs (uri.query.getD []) ++ p.pairs), written, ?_, ?_,
    Decimal.int64?_intText _, Decimal.int64?_intText _, fun fits => ?_⟩
  · rw [written]
    exact Uri.pathAndQuery?_append plain (List.all_eq_true.2 (Form.render_isQueryChar _))
  · -- what was written is read back, and the filter is the one that was written through
    rw [Form.parse_render, otherPairs, pairs]
    congr 1
    refine List.filter_congr fun q _ => Bool.eq_iff_iff.2 ?_
    simp
  · exact ⟨ofString?_link rooted plain fits, fun p' => link_linked p p' uri⟩

end Page

namespace Sample

/-- Escapes that spell `skip`, bad escapes, bytes that are no text, empty keys and values,
a missing `=` and repeated keys. -/
def oddQuery : String :=
  "%73kip=9&skip=1&q=a%2Bb+c%26%3D&%zz=%FF&=x&y&limit=5&tag=1&tag=2"

def oddAddress : Uri :=
  ⟨"/api/v1/issues".toList, some oddQuery.toList⟩

end Sample

open Sample in
theorem Page.link_keeps_query_odd :
    Uri.ofString? ("/api/v1/issues?" ++ oddQuery) = some oddAddress
      ∧ link ⟨40, 20⟩ oddAddress =
        "/api/v1/issues?q=a%2Bb+c%26%3D&%25zz=%EF%BF%BD&=x&y=&tag=1&tag=2&skip=40&limit=20"
      ∧ ∃ query, Form.parse query = [("q", "a+b c&="), ("%zz", "\uFFFD"), ("", "x"), ("y", ""),
          ("tag", "1"), ("tag", "2"), ("skip", "40"), ("limit", "20")]
        ∧ link ⟨60, 20⟩ ⟨oddAddress.path, some query⟩ = link ⟨60, 20⟩ oddAddress := by
  have accepted : Uri.ofString? ("/api/v1/issues?" ++ oddQuery) = some oddAddress := by
    decide +kernel
  obtain ⟨query, -, -, parsed, -, -, again⟩ :=
    link_keeps_query accepted (by decide +kernel) ⟨40, 20⟩
  refine ⟨accepted, by decide +kernel, query, parsed.trans (by decide +kernel), ?_⟩
  exact (again (by decide +kernel)).2 ⟨60, 20⟩

end IssueTracker
