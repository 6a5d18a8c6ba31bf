import IssueTracker.Proofs.Chronology
import IssueTracker.Proofs.Listings
import IssueTracker.Proofs.Paging
import IssueTracker.Proofs.Unchanged

/-! Walking through a list: a client gets a page, follows the link to the next page, and so
on until there is none. While the store stays as it is, the walk ends, every page says how
many issues there are in all, and the pages in a row are the whole list, each issue once and
in the order that was asked for. -/

namespace IssueTracker

/-- The responses to a client that follows the links to the next page, from its first
request to the last page. The requests are answered by `serve`, one after another. -/
inductive Walk : (Nat → Request → Response) → Request → List Response → Prop where
  | last {serve : Nat → Request → Response} {r : Request} {l : Listing Json}
    (page : (serve 0 r).listing? = some l) (end_ : l.info.next = none) :
    Walk serve r [serve 0 r]
  | more {serve : Nat → Request → Response} {r : Request} {l : Listing Json} {link : String}
    {uri : Uri} {as : List Response} (page : (serve 0 r).listing? = some l)
    (next : l.info.next = some link) (parsed : Uri.ofString? link = some uri)
    (rest : Walk (fun n => serve (n + 1)) { r with uri := uri } as) :
    Walk serve r (serve 0 r :: as)

/-- A walk can go only one way. -/
theorem Walk.unique {serve : Nat → Request → Response} {r : Request} {as bs : List Response}
    (walk : Walk serve r as) (walk' : Walk serve r bs) : as = bs := by
  induction walk generalizing bs with
  | last page end_ =>
    cases walk' with
    | last => rfl
    | more page' next =>
      obtain rfl := Option.some.inj (page.symm.trans page')
      rw [end_] at next
      cases next
  | more page next parsed rest ih =>
    cases walk' with
    | last page' end_ =>
      obtain rfl := Option.some.inj (page.symm.trans page')
      rw [next] at end_
      cases end_
    | more page' next' parsed' rest' =>
      obtain rfl := Option.some.inj (page.symm.trans page')
      obtain rfl := Option.some.inj (next.symm.trans next')
      obtain rfl := Option.some.inj (parsed.symm.trans parsed')
      rw [ih rest']

/-- The results on a page. -/
def Response.results (a : Response) : List Json :=
  (a.listing?.map Listing.results).getD []

namespace Sample

/-- Pages of one issue each, unless more are asked for. -/
def leafing : Config := { config with pages := ⟨1, 5⟩ }

theorem run_leafing (es : List Event) : Service.run leafing es = Service.run config es :=
  Service.run_config (by rfl) es

/-- A second issue of the same target. -/
def filingAgain : Event :=
  .request (draw (Uuid.ofNat 6)) Faults.none (request "POST" "/api/v1/issues"
    { target := some target.text, summary := some "race", severity := some .low })

/-- What is there once both are filed. -/
def doubled : Service :=
  let race := { target := some target.text, summary := some "race", severity := some .low }
  ⟨{ counted.store with
      issues := counted.store.issues ++ [entry race (Uuid.ofNat 6)]
      numbers := counted.store.numbers ++ [⟨.issues, Uuid.ofNat 6, 2⟩] }, [target]⟩

theorem run_filingAgain : Service.run config (worked ++ [filingAgain]) = doubled := by
  rw [Service.run_append, run_worked]
  decide +kernel

end Sample

namespace Service

/-- Answers one request after another, each for itself. -/
def serving (config : Config) (s : Service) (draws : Nat → Draw) (n : Nat) (r : Request) :
    Response :=
  (s.handle config (draws n) Faults.none r).1

section Pages

variable {config : Config} {s : Service} {u : User} {r : Request} {q : ListQuery} {draw : Draw}

/-- What has to hold of a query apart from its being one. -/
def Listable (s : Store) (u : User) (q : ListQuery) : Prop :=
  (¬ ∃ p ∈ q.project, ¬ s.Entitles u p) ∧ ¬ Store.maxTerms < (keysOf q).length + 1

theorem listResponse_listable {s : Store} {uri : Uri} (hq : ListQuery.ofQuery? uri.query = some q)
    (ok : Listable s u q) : listResponse config s u uri =
      Response.of 200 (.json ((Listing.codec Issue.codec).encode (listing config s u uri q))) := by
  rw [listResponse_eq hq, if_neg ok.1, if_neg ok.2]

theorem listable_of_status {s : Store} {uri : Uri} (hq : ListQuery.ofQuery? uri.query = some q)
    (status : (listResponse config s u uri).status = 200) : Listable s u q := by
  rw [listResponse_eq hq] at status
  constructor
  · intro closed
    rw [if_pos closed] at status
    cases status
  · intro many
    rw [if_pos many] at status
    split at status <;> cases status

theorem handle_list_eq (config : Config) (draw : Draw) (h : s.store.Untouched)
    (known : s.store.Knows r u) (hop : r.operation? = some .list) :
    (s.handle config draw Faults.none r).1 =
      stamp draw r (listResponse config s.store u r.uri) :=
  congrArg (fun o : Outcome => stamp draw r o.response) (answer_list config draw h known hop)

/-- What a client gets for a list request that is in order. -/
theorem handle_list (h : s.store.Untouched) (known : s.store.Knows r u) (get : r.method = "GET")
    (hop : r.operation? = some .list) (hq : ListQuery.ofQuery? r.uri.query = some q)
    (ok : Listable s.store u q) :
    (s.handle config draw Faults.none r).1.status = 200
    ∧ (s.handle config draw Faults.none r).1.listing? =
      some ⟨(listing config s.store u r.uri q).info,
        (listing config s.store u r.uri q).results.map Issue.codec.encode⟩ := by
  rw [handle_list_eq config draw h known hop, listResponse_listable hq ok]
  refine ⟨stamp_status _ _ _, ?_⟩
  rw [Response.listing?, stamp_body draw _ (by simp [get])]
  exact Listing.decode_encode _

end Pages

/-- An address asks for the page of the same list as another one that starts at a row. -/
structure Continues (config : Config) (origin : Uri) (q : ListQuery) (n : Nat) (limit : Int64)
    (uri : Uri) : Prop where
  path : uri.path = origin.path
  query : ∃ skip most, ListQuery.ofQuery? uri.query = some { q with skip := skip, limit := most }
    ∧ config.pages.page skip most = Page.atRow n limit
  link : ∀ p : Page, p.link uri = p.link origin
  linked : ∀ p : Page, p.linked uri = p.linked origin

/-- The links that lead on through so many issues are not too long to be followed. -/
def LinksFit (uri : Uri) (limit : Int64) (count : Nat) : Prop :=
  ∀ k, (k + 1) * limit.toInt.toNat < count →
    (Utf8.encode ((Page.atRow ((k + 1) * limit.toInt.toNat) limit).link uri).toList).length ≤
      Uri.maxBytes

/-- The response is one page of a list of this many issues. -/
def Pages (count : Nat) (a : Response) : Prop :=
  a.status = 200 ∧ ∃ l, a.listing? = some l ∧ l.info.count.toInt = count

/-- These responses are the pages of a walk, and they count and show these issues. -/
structure Shows (config : Config) (s : Service) (draws : Nat → Draw) (r : Request)
    (as : List Response) (all : List Issue) : Prop where
  walk : Walk (serving config s draws) r as
  count : ∀ a ∈ as, Pages all.length a
  results : as.flatMap Response.results = all.map Issue.codec.encode

section Walks

variable {config : Config} {s : Service} {u : User} {r : Request} {q : ListQuery} {limit : Int64}
  {n : Nat} {uri : Uri}

/-- A link leads on to the page that it is the link of. -/
theorem continues_linked (hq : ListQuery.ofQuery? r.uri.query = some q) (positive : 0 < limit)
    (cut : limit ≤ config.pages.largest) (small : n ≤ mostRows) :
    Continues config r.uri q n limit ((Page.atRow n limit).linked r.uri) where
  path := rfl
  query := ⟨_, _, Page.ofQuery?_linked hq, (Page.proper_atRow small positive).page cut⟩
  link p := Page.link_linked _ p r.uri
  linked p := Page.linked_linked _ p r.uri

/-- The page at an address, and whether there is a next one. -/
theorem serving_page (h : s.store.Untouched) (known : s.store.Knows r u) (get : r.method = "GET")
    (hop : r.operation? = some .list) (ok : Listable s.store u q) (positive : 0 < limit)
    (few : (s.store.listed config u q).length ≤ mostRows) (draws : Nat → Draw)
    (origin : Continues config r.uri q n limit uri) (small : n ≤ mostRows) :
    (serving config s draws 0 { r with uri := uri }).status = 200
    ∧ (serving config s draws 0 { r with uri := uri }).listing? =
      some ⟨⟨Int64.ofNat (s.store.listed config u q).length,
          (Page.atRow n limit).previous?.map (·.link r.uri),
          if n + limit.toInt.toNat < (s.store.listed config u q).length then
            some ((Page.atRow (n + limit.toInt.toNat) limit).link r.uri) else none⟩,
        (((s.store.listed config u q).drop n).take limit.toInt.toNat).map Issue.codec.encode⟩ := by
  obtain ⟨skip, most, hq, page⟩ := origin.query
  have asked : ({ r with uri := uri } : Request).operation? = some .list := by
    rwa [Request.operation?, origin.path]
  have answered : (serving config s draws 0 { r with uri := uri }).status = 200 ∧ _ :=
    handle_list h known get asked hq ok
  obtain ⟨status, shown⟩ := answered
  refine ⟨status, shown.trans ?_⟩
  have same : s.store.listed config u { q with skip := skip, limit := most } =
      s.store.listed config u q := rfl
  simp only [listing, page, same, Page.links, origin.link, Page.next?_atRow small few positive,
    Page.window_atRow small positive]
  split <;> rfl

theorem path_of_list (hop : r.operation? = some .list) : r.uri.path = Service.issues.base := by
  obtain ⟨a, ha, op⟩ := Option.bind_eq_some_iff.1 hop
  obtain ⟨-, hp⟩ := Aim.ofPath?_eq_some.1 ha
  have all : a = .all := by
    unfold Aim.operation? at op
    split at op <;> simp_all
  rw [hp, all, Aim.path]

/-- From each of its pages on the rest of the list is walked through. -/
theorem walk_rest (h : s.store.Untouched) (known : s.store.Knows r u) (get : r.method = "GET")
    (hop : r.operation? = some .list) (hq : ListQuery.ofQuery? r.uri.query = some q)
    (ok : Listable s.store u q) (positive : 0 < limit) (cut : limit ≤ config.pages.largest)
    (few : (s.store.listed config u q).length ≤ mostRows)
    (fits : LinksFit r.uri limit (s.store.listed config u q).length)
    (draws : Nat → Draw) (k : Nat) (small : k * limit.toInt.toNat ≤ mostRows)
    (origin : Continues config r.uri q (k * limit.toInt.toNat) limit uri) :
    ∃ as, Walk (serving config s draws) { r with uri := uri } as
      ∧ (∀ a ∈ as, Pages (s.store.listed config u q).length a)
      ∧ as.flatMap Response.results =
        ((s.store.listed config u q).drop (k * limit.toInt.toNat)).map Issue.codec.encode := by
  have step : 0 < limit.toInt.toNat := by
    have : 0 < limit.toInt := Int64.lt_iff_toInt_lt.1 positive
    omega
  -- the induction is on how many issues are left
  obtain ⟨left, hleft⟩ : ∃ m, (s.store.listed config u q).length ≤ k * limit.toInt.toNat + m :=
    ⟨_, Nat.le_add_left _ _⟩
  induction left using Nat.strong_induction_on generalizing k uri draws with
  | h m ih =>
    obtain ⟨status, page⟩ := serving_page h known get hop ok positive few draws origin small
    have pages : Pages (s.store.listed config u q).length
        (serving config s draws 0 { r with uri := uri }) :=
      ⟨status, _, page, toInt_ofNat_rows few⟩
    have results : Response.results (serving config s draws 0 { r with uri := uri }) =
        (((s.store.listed config u q).drop (k * limit.toInt.toNat)).take limit.toInt.toNat).map
          Issue.codec.encode := by
      rw [Response.results, page]
      rfl
    have next_row : k * limit.toInt.toNat + limit.toInt.toNat = (k + 1) * limit.toInt.toNat :=
      (Nat.succ_mul _ _).symm
    rw [next_row] at page
    by_cases more : (k + 1) * limit.toInt.toNat < (s.store.listed config u q).length
    · rw [if_pos more] at page
      have rooted : r.uri.path.head? = some '/' := by rw [path_of_list hop]; decide
      have plain : r.uri.path.all Uri.isPathChar = true := by rw [path_of_list hop]; decide
      have parsed := Page.ofString?_link rooted plain (fits k more)
      obtain ⟨as, walk, paged, rest⟩ := ih (m - limit.toInt.toNat) (by omega)
        (fun n => draws (n + 1)) (k + 1) (by omega) (continues_linked hq positive cut (by omega))
        (by omega)
      refine ⟨_ :: as, .more page rfl parsed walk, List.forall_mem_cons.2 ⟨pages, paged⟩, ?_⟩
      rw [List.flatMap_cons, results, rest, ← next_row, ← List.drop_drop, ← List.map_append,
        List.take_append_drop]
    · rw [if_neg more] at page
      refine ⟨_, .last page rfl, List.forall_mem_singleton.2 pages, ?_⟩
      rw [List.flatMap_singleton, results, List.take_of_length_le]
      rw [List.length_drop]
      omega

/-- A walk that starts at the front of a list goes through all of it. -/
theorem walk_listed (h : s.store.Untouched) (known : s.store.Knows r u) (get : r.method = "GET")
    (hop : r.operation? = some .list) (hq : ListQuery.ofQuery? r.uri.query = some q)
    (start : ∀ k ∈ q.skip, k ≤ 0) (ok : Listable s.store u q) (limits : config.pages.Sound)
    (few : s.store.issues.length ≤ mostRows)
    (fits : LinksFit r.uri (config.pages.page q.skip q.limit).limit
      (s.store.listed config u q).length) (draws : Nat → Draw) :
    ∃ as, Shows config s draws r as (s.store.listed config u q) := by
  obtain ⟨positive, cut⟩ := PageLimits.page_limit limits q.skip q.limit
  have few : (s.store.listed config u q).length ≤ mostRows :=
    Nat.le_trans (Store.listed_perm.length_eq ▸ List.length_filter_le _ _) few
  have origin : Continues config r.uri q (0 * (config.pages.page q.skip q.limit).limit.toInt.toNat)
      (config.pages.page q.skip q.limit).limit r.uri := by
    rw [Nat.zero_mul]
    exact ⟨rfl, ⟨_, _, hq, Page.page_first start _⟩, fun _ => rfl, fun _ => rfl⟩
  obtain ⟨as, walk, pages, results⟩ := walk_rest h known get hop hq ok positive cut few fits draws
    0 (by simp) origin
  rw [Nat.zero_mul, List.drop_zero] at results
  exact ⟨as, walk, pages, results⟩

end Walks

/-- An event files one issue at most. -/
theorem Step.length_issues_le {config : Config} {s s' : Service} {e : Event}
    (h : s.store.Untouched) (step : Step config s e s') :
    s'.store.issues.length ≤ s.store.issues.length + 1 := by
  cases step with
  | enter entered => exact entered.issues ▸ Nat.le_succ _
  | request turn =>
    cases turn with
    | nothing => exact Nat.le_succ _
    | create => exact Nat.le_of_eq List.length_append
    | update => exact Nat.le_trans (Nat.le_of_eq (List.length_map _)) (Nat.le_succ _)
    | delete => exact Nat.le_trans (List.length_filter_le _ _) (Nat.le_succ _)
    | comment => exact Nat.le_succ _
  | idle => exact Nat.le_succ _
  | work _ leaves =>
    obtain ⟨ts, rfl⟩ := leaves.retargets h
    exact Nat.le_succ _

/-- There are never more issues than events. -/
theorem run_length_issues_le (config : Config) (es : List Event) :
    (run config es).store.issues.length ≤ es.length := by
  induction es using List.reverseRecOn with
  | nil => exact Nat.le_refl 0
  | append_singleton es e ih =>
    have untouched := run_untouched config es
    have step : Step config (run config es) e _ := after_step untouched e
    have one := step.length_issues_le untouched
    rw [run_concat, List.length_append, List.length_singleton]
    omega

/-- The issues that a user's request asks for, each of them once and in the order that it
asks for, those that come in no order as they were filed. -/
structure FullList (config : Config) (s : Store) (u : User) (q : ListQuery) (all : List Issue) :
    Prop where
  once : all.Nodup
  shown : ∀ i, i ∈ all ↔ i ∈ s.issues ∧ s.Entitles u i.project ∧ q.Asks config i
  sorted : SortKey.Ordered Timestamp.stored (keysOf q) s.issues all
  /-- Years of four digits are sorted as instants, not only as texts. -/
  inTime : (∀ i ∈ s.issues, i.created.Common ∧ i.updated.Common) →
    SortKey.Ordered Timestamp.units (keysOf q) s.issues all

theorem fullList_listed {config : Config} {s : Store} {u : User} {q : ListQuery} (h : s.Untouched)
    (sound : s.Sound) : FullList config s u q (s.listed config u q) where
  once := sound.nodup_listed
  shown _ := h.mem_listed
  sorted := h.ordered_listed sound
  inTime common := SortKey.Ordered.units
    (fun i hi => common i (h.mem_listed.1 hi).1) (h.ordered_listed sound)

/-- A client that follows the links from the front of a list gets through it, whatever the
list is of: each page says how many issues there are in all, and the pages in a row are all
issues that were asked for. -/
theorem walk_lists_once (config before : Config) (limits : config.pages.Sound) (es : List Event)
    (few : (run before es).store.issues.length ≤ mostRows) (u : User) (r : Request)
    (known : (run before es).store.Knows r u) (get : r.method = "GET")
    (hop : r.operation? = some .list) (q : ListQuery)
    (hq : ListQuery.ofQuery? r.uri.query = some q) (start : ∀ k ∈ q.skip, k ≤ 0)
    (draws : Nat → Draw) (status : (serving config (run before es) draws 0 r).status = 200)
    (fits : LinksFit r.uri (config.pages.page q.skip q.limit).limit
      ((run before es).store.listed config u q).length) :
    ∃ as all, Shows config (run before es) draws r as all
      ∧ FullList config (run before es).store u q all := by
  have h := run_untouched before es
  have ok : Listable (run before es).store u q := by
    rw [serving, handle_list_eq config _ h known hop, stamp_status] at status
    exact listable_of_status hq status
  obtain ⟨as, shows_⟩ := walk_listed h known get hop hq start ok limits few fits draws
  exact ⟨as, _, shows_, fullList_listed h (run_intact before es).sound⟩

open Sample in
/-- Two issues are on two pages. -/
theorem walk_lists_once_leafing :
    ∃ as, Walk (serving leafing (run config (worked ++ [filingAgain])) fun _ => draw Uuid.zero)
        (request "GET" "/api/v1/issues" {}) as
      ∧ (∀ a ∈ as, Pages 2 a) ∧ (as.flatMap Response.results).length = 2 := by
  obtain ⟨s, hs⟩ : ∃ s, run config (worked ++ [filingAgain]) = s := ⟨_, rfl⟩
  obtain ⟨r, hr⟩ : ∃ r, request "GET" "/api/v1/issues" {} = r := ⟨_, rfl⟩
  have rows : s.store.issues.length = 2 ∧ s.store.caller? r = .ok (some owner)
      ∧ ∀ i ∈ s.store.issues, s.store.Entitles owner i.project ∧ ListQuery.Asks leafing {} i := by
    subst hs hr
    rw [run_filingAgain]
    decide +kernel
  have asked : r.method = "GET" ∧ r.operation? = some .list
      ∧ ListQuery.ofQuery? r.uri.query = some {} := by
    subst hr
    decide +kernel
  obtain ⟨two, known, shown⟩ := rows
  obtain ⟨get, hop, hq⟩ := asked
  have answered : (serving leafing s (fun _ => draw Uuid.zero) 0 r).status = 200 :=
    (handle_list (hs ▸ run_untouched _ _) known get hop hq ⟨by simp, by decide⟩).1
  have fits : LinksFit r.uri 1 (s.store.listed leafing owner {}).length := by
    intro k hk
    have few : (s.store.listed leafing owner {}).length ≤ s.store.issues.length :=
      Store.listed_perm.length_eq ▸ List.length_filter_le _ _
    have first : k = 0 := by
      rw [show (1 : Int64).toInt.toNat = 1 from rfl] at hk
      omega
    subst first hr
    decide +kernel
  subst hs
  have few : (run config (worked ++ [filingAgain])).store.issues.length ≤ mostRows :=
    Nat.le_trans (run_length_issues_le _ _) (by decide)
  obtain ⟨as, all, ⟨walk, pages, results⟩, full⟩ := walk_lists_once leafing config
    (by decide) (worked ++ [filingAgain]) few owner r known get hop {} hq (by simp)
    (fun _ => draw Uuid.zero) answered fits
  have both : all.length = 2 := by
    have nodup := List.Nodup.of_map _ (run_intact config (worked ++ [filingAgain])).sound.issueIds
    refine ((List.perm_ext_iff_of_nodup full.once nodup).2 fun i => ?_).length_eq.trans two
    rw [full.shown]
    exact ⟨fun h => h.1, fun h => ⟨h, shown i h⟩⟩
  refine ⟨as, hr ▸ walk, both ▸ pages, ?_⟩
  rw [results, List.length_map, both]

end Service
end IssueTracker
