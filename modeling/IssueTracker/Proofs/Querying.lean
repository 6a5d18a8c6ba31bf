import IssueTracker.Proofs.Provenance
import IssueTracker.Proofs.Walking

/-! What a request for the list of issues is answered, measured against a plain reading of
its query: the rows that are asked for are taken from the table, put in order, counted, and
cut to the page. A query that cannot be read is refused, then one for a project that is
closed to the caller, and then one with more sort keys than storage can order rows by. -/

namespace IssueTracker

/-- How many issues there are in front of the page that is asked for. -/
def ListQuery.skipped (q : ListQuery) : Nat :=
  (max (q.skip.getD 0).toInt 0).toNat

namespace PageLimits

/-- How many issues a page has at most. -/
def rows (l : PageLimits) (q : ListQuery) : Nat :=
  match q.limit with
  | some n => if 0 < n.toInt then (min n.toInt l.largest.toInt).toNat else l.standard.toInt.toNat
  | none => l.standard.toInt.toNat

variable {l : PageLimits}

theorem toInt_limit (l : PageLimits) (q : ListQuery) :
    (l.page q.skip q.limit).limit.toInt.toNat = l.rows q := by
  unfold page rows
  cases q.limit with
  | none => rfl
  | some n =>
    have positive : 0 < n ↔ 0 < n.toInt := Int64.lt_iff_toInt_lt
    simp only [positive]
    split
    · rw [toInt_min]
    · rfl

/-- The page of a list is cut out by these two numbers. -/
theorem window_page {α : Type} (sound : l.Sound) (q : ListQuery) (as : List α) :
    Store.window (l.page q.skip q.limit) as = (as.drop q.skipped).take (l.rows q) := by
  have positive := (page_limit sound q.skip q.limit).1
  have not_negative : ¬ (l.page q.skip q.limit).limit < 0 := by
    rw [Int64.lt_iff_toInt_lt] at *
    omega
  have skip : (l.page q.skip q.limit).skip.toInt.toNat = q.skipped := by
    change (max (q.skip.getD 0) 0).toInt.toNat = _
    rw [toInt_max]
    rfl
  rw [Store.window, if_neg not_negative, skip, toInt_limit]

end PageLimits

namespace Sample

/-- A request of the owner for the list. -/
def browsing (query : List Char) : Request :=
  { request "GET" "/api/v1/issues" {} with uri := ⟨"/api/v1/issues".toList, some query⟩ }

/-- A sort order that names one column so many times. -/
def crowded (n : Nat) : String :=
  String.ofList (List.intercalate [','] (List.replicate n "created".toList))

end Sample

/-- A query of nothing but a sort order is read. -/
theorem ListQuery.ofQuery?_sort (raw : String) :
    ofQuery? (some (Form.render [("sort", raw)])) = some { sort := some raw } := by
  rw [ofQuery?, Option.getD_some, Form.parse_render]
  rfl

namespace Service

/-- Every mention of a column is a key. -/
theorem length_keysOf_crowded {n : Nat} (some_ : n ≠ 0) :
    (keysOf { sort := some (Sample.crowded n) }).length = n := by
  have column : SortKey.ofField? sortable "created".toList = some ⟨"created", false⟩ := by decide
  have plain : ∀ p ∈ List.replicate n "created".toList, ',' ∉ p := by
    intro p hp
    rw [List.eq_of_mem_replicate hp]
    decide
  change (List.filterMap _ (pieces ',' (Sample.crowded n).toList)).length = n
  rw [Sample.crowded, String.toList_ofList, pieces_intercalate (by simpa using some_) plain, List.filterMap_replicate_of_some column,
    List.length_replicate]

section Answers

variable {config : Config} {s : Store} {u : User} {q : ListQuery} {all : List Issue}

/-- The list of a query is made up of the rows that it asks for. -/
theorem FullList.perm (full : FullList config s u q all) (sound : s.Sound) :
    all.Perm (s.issues.filter fun i => s.Entitles u i.project ∧ q.Asks config i) := by
  have nodup := (List.Nodup.of_map _ sound.issueIds).filter
    fun i => decide (s.Entitles u i.project ∧ q.Asks config i)
  refine (List.perm_ext_iff_of_nodup full.once nodup).2 fun i => ?_
  rw [full.shown, List.mem_filter, decide_eq_true_eq]

/-- How many issues a query asks for. -/
def asked (config : Config) (s : Store) (u : User) (q : ListQuery) : Nat :=
  s.issues.countP fun i => s.Entitles u i.project ∧ q.Asks config i

theorem FullList.length (full : FullList config s u q all) (sound : s.Sound) :
    all.length = asked config s u q := by
  rw [(full.perm sound).length_eq, asked, List.countP_eq_length_filter]

/-- The status of the answer to a request for the list, the first thing that is wrong
deciding. -/
def listStatus (s : Store) (u : User) (query : Option (List Char)) : Nat :=
  match ListQuery.ofQuery? query with
  | none => 400
  | some q =>
    if ∃ p ∈ q.project, ¬ s.Entitles u p then 403
    else if 2000 ≤ (keysOf q).length then 500
    else 200

theorem listResponse_status (config : Config) (s : Store) (u : User) (uri : Uri) :
    (listResponse config s u uri).status = listStatus s u uri.query := by
  have many (n : Nat) : Store.maxTerms < n + 1 ↔ 2000 ≤ n := by
    unfold Store.maxTerms
    omega
  unfold listResponse listStatus
  simp only [many]
  cases ListQuery.ofQuery? uri.query with
  | none => rfl
  | some q =>
    dsimp only
    split_ifs
    all_goals rfl

/-- The status of the answer is read off the query. -/
theorem handle_list_status (config : Config) (draw : Draw) {s : Service} {r : Request}
    (h : s.store.Untouched) (known : s.store.Knows r u) (hop : r.operation? = some .list) :
    (s.handle config draw Faults.none r).1.status = listStatus s.store u r.uri.query := by
  rw [handle_list_eq config draw h known hop, stamp_status, listResponse_status]

end Answers

/-- After any history a request for the list is answered as a plain reading of its query
says: which status it has, how many issues are counted, and which of them are on the page in
what order. -/
theorem run_lists (config before : Config) (limits : config.pages.Sound) (es : List Event)
    (u : User) (r : Request) (known : (run before es).store.Knows r u)
    (hop : r.operation? = some .list) (draw : Draw) :
    let s := (run before es).store
    let a := ((run before es).handle config draw Faults.none r).1
    a.status = listStatus s u r.uri.query
    ∧ (∀ q, ListQuery.ofQuery? r.uri.query = some q → a.status = 200 → r.method = "GET" →
      ∃ all l, FullList config s u q all
        ∧ ((∀ t ∈ readings es, t.Common) →
          SortKey.Ordered Timestamp.units (keysOf q) s.issues all)
        ∧ a.listing? = some l
        ∧ l.info.count = Int64.ofNat (asked config s u q)
        ∧ (s.issues.length ≤ mostRows → l.info.count.toInt = asked config s u q)
        ∧ l.results =
          ((all.drop q.skipped).take (config.pages.rows q)).map Issue.codec.encode) := by
  intro s a
  have h : s.Untouched := run_untouched before es
  have sound : s.Sound := (run_intact before es).sound
  have response : a = stamp draw r (listResponse config s u r.uri) :=
    handle_list_eq config draw h known hop
  refine ⟨by rw [response, stamp_status, listResponse_status], fun q hq status get => ?_⟩
  have ok : Listable s u q := by
    rw [response, stamp_status] at status
    exact listable_of_status hq status
  have full : FullList config s u q (s.listed config u q) := fullList_listed h sound
  have length := full.length sound
  refine ⟨_, _, full, fun common => full.inTime fun i hi => ?_,
    (handle_list h known get hop hq ok).2, ?_, fun few => ?_, ?_⟩
  · exact (run_stamps before es i hi).imp (common _) (common _)
  · rw [listing, length]
  · rw [listing, length]
    exact toInt_ofNat_rows (Nat.le_trans List.countP_le_length few)
  · rw [listing, PageLimits.window_page limits]

open Sample in
/-- Two issues are counted, and one is on the page that leaves out the other. -/
theorem run_lists_leafing :
    ∃ l, (respond leafing (worked ++ [filingAgain]) (draw Uuid.zero)
        (browsing "sort=-created&skip=1".toList)).listing? = some l
      ∧ l.info.count = 2 ∧ l.results.length = 1 := by
  obtain ⟨s, hs⟩ : ∃ s, run leafing (worked ++ [filingAgain]) = s := ⟨_, rfl⟩
  obtain ⟨r, hr⟩ : ∃ r, browsing "sort=-created&skip=1".toList = r := ⟨_, rfl⟩
  have rows : asked leafing s.store owner { sort := some "-created", skip := some 1 } = 2
      ∧ s.store.caller? r = .ok (some owner) ∧ listStatus s.store owner r.uri.query = 200 := by
    subst hs hr
    rw [run_leafing, run_filingAgain]
    decide +kernel
  have parts : r.method = "GET" ∧ r.operation? = some .list ∧ ListQuery.ofQuery? r.uri.query =
      some { sort := some "-created", skip := some 1 } := by
    subst hr
    decide +kernel
  obtain ⟨two, known, ok⟩ := rows
  obtain ⟨get, hop, hq⟩ := parts
  rw [respond, hr]
  subst hs
  obtain ⟨status, lists⟩ := run_lists leafing leafing (by decide) (worked ++ [filingAgain]) owner r
    known hop (draw Uuid.zero)
  obtain ⟨all, l, full, -, shown, count, -, results⟩ := lists _ hq (status.trans ok) get
  refine ⟨l, shown, by rw [count, two]; rfl, ?_⟩
  rw [results, List.length_map, List.length_take, List.length_drop,
    full.length (run_intact _ _).sound, two]
  decide

open Sample in
/-- A request whose query is read and names no project is not answered with a list, for its
sort order has as many keys as storage takes terms. -/
theorem run_lists_crowded :
    Sample.config.pages.Sound
      ∧ (run config worked).store.Knows (browsing (Form.render [("sort", crowded 2000)])) owner
      ∧ (browsing (Form.render [("sort", crowded 2000)])).operation? = some .list
      ∧ ListQuery.ofQuery? (browsing (Form.render [("sort", crowded 2000)])).uri.query =
        some { sort := some (crowded 2000) }
      ∧ (respond config worked (draw Uuid.zero)
        (browsing (Form.render [("sort", crowded 2000)]))).status = 500 := by
  obtain ⟨query, hquery⟩ : ∃ query, Form.render [("sort", crowded 2000)] = query := ⟨_, rfl⟩
  have read : ListQuery.ofQuery? (some query) = some { sort := some (crowded 2000) } := by
    rw [← hquery, ListQuery.ofQuery?_sort]
  rw [hquery]
  have known : (run config worked).store.Knows (browsing query) owner := by
    change (run config worked).store.caller? (browsing []) = _
    rw [run_worked]
    decide +kernel
  have hop : (browsing query).operation? = some .list := by
    change (browsing []).operation? = _
    decide +kernel
  refine ⟨by decide, known, hop, read, ?_⟩
  rw [respond, handle_list_eq config _ (run_untouched config worked) known hop, stamp_status,
    listResponse_status, listStatus]
  change (match ListQuery.ofQuery? (some query) with | none => 400 | some q => _) = _
  rw [read]
  dsimp only
  rw [if_neg (by simp), if_pos (Nat.le_of_eq (length_keysOf_crowded (by decide)).symm)]

end Service
end IssueTracker
