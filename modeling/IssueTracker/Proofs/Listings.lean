import IssueTracker.Json.Lawful
import IssueTracker.Proofs.Answers
import IssueTracker.Proofs.Integrity
import IssueTracker.Proofs.Ordering
import IssueTracker.Proofs.Sorting

/-! What a request for the list of issues is answered, as long as storage works: a plain
function of the rows (`answer_list`). A client reads in the answer how many issues there
are, which of them are on the page, and the links to other pages. -/

namespace IssueTracker

/-- Values that are left as they are. -/
def Codec.raw : Codec Json :=
  ⟨id, some⟩

/-- The listing that a client reads in a response. -/
def Response.listing? (a : Response) : Option (Listing Json) :=
  match a.body with
  | .json v => (Listing.record .raw).codec.decode v
  | _ => none

theorem Meta.lawful_record : Meta.record.Lawful := by
  have link (name : String) : (Record.optional name Codec.text).Lawful :=
    Record.lawful_optional name Codec.lawful_text fun _ => Json.noConfusion
  have links := Record.lawful_and (link "previous") (link "next") (by decide)
  exact Record.lawful_via (Record.lawful_and (Record.lawful_required "count" Codec.lawful_int64)
    links (by decide)) fun _ => rfl

/-- A client reads the numbers, the links and the results that were written. -/
theorem Listing.decode_encode (l : IssueList) :
    (Listing.record .raw).codec.decode ((Listing.codec Issue.codec).encode l) =
      some ⟨l.info, l.results.map Issue.codec.encode⟩ := by
  let vs := l.results.map Issue.codec.encode
  let ms := Meta.record.encode l.info ++ [("results", .arr vs)]
  have names : (ms.map Prod.fst).Sublist (Meta.record.names ++ ["results"]) := by
    simpa [ms] using (Meta.lawful_record.names l.info).append (List.Sublist.refl ["results"])
  have nodup : (ms.map Prod.fst).Nodup := names.nodup (by decide)
  have members : Record.members? (Meta.record.names ++ ["results"]) (Record.object ms) =
      some ms.reverse := by
    have known : Record.known? (Meta.record.names ++ ["results"]) []
        (ms.map fun m => (Json.Quoted.ofString m.1, m.2)) = some (ms.reverse ++ []) :=
      Record.known?_object (fun k hk => names.subset hk) nodup
    simpa [Record.members?, Record.object] using known
  have info : Meta.record.decode (fun k => ms.reverse.lookup k) = some l.info := by
    refine Meta.lawful_record.decode_encode _ _ fun k hk => ?_
    have other : (k == "results") = false := by
      revert k
      decide
    rw [Record.lookup_reverse nodup, Record.lookup_append, List.lookup_cons, other]
    exact Option.or_none
  have results : ms.reverse.lookup "results" = some (.arr vs) := by
    rw [Record.lookup_reverse nodup, Record.lookup_append, Record.lookup_eq_none]
    · rfl
    · intro written
      have named := (Meta.lawful_record.names l.info).subset written
      revert named
      decide
  have read : vs.mapM Codec.raw.decode = some vs :=
    (List.mapM_pure (f := id)).trans (by simp)
  change (Record.members? _ (Record.object ms)).bind _ = _
  rw [show (Listing.record .raw).names = Meta.record.names ++ ["results"] from rfl, members]
  simp [Listing.record, Record.and, Record.via, Record.required, info, results, Codec.list, read,
    vs]

namespace Store

variable {s : Store} {config : Config} {u : User} {q : ListQuery} {i : Issue}

/-- All issues that a user's request asks for, in the order that it asks for. -/
def listed (s : Store) (config : Config) (u : User) (q : ListQuery) : List Issue :=
  s.sorted (Service.keysOf q) (s.selected (Service.filterOf config u q))

theorem listed_perm : (s.listed config u q).Perm (s.selected (Service.filterOf config u q)) :=
  List.mergeSort_perm _ _

theorem Sound.nodup_listed (sound : s.Sound) : (s.listed config u q).Nodup :=
  listed_perm.nodup_iff.2 ((List.Nodup.of_map _ sound.issueIds).sublist List.filter_sublist)

namespace Untouched

variable (h : s.Untouched)
include h

theorem mem_listed : i ∈ s.listed config u q ↔
    i ∈ s.issues ∧ s.Entitles u i.project ∧ q.Asks config i := by
  rw [listed_perm.mem_iff, h.selected]
  simp [mem_issuesFor, and_assoc]

theorem ordered_listed (sound : s.Sound) :
    SortKey.Ordered Timestamp.stored (Service.keysOf q) s.issues (s.listed config u q) := by
  have nodup := (List.Nodup.of_map _ sound.issueIds).sublist
    (List.filter_sublist (p := s.selects (Service.filterOf config u q)))
  refine (h.ordered_sorted (Service.keysOf_sorts q) nodup).imp fun {a b} before => ?_
  exact before.imp_right fun ⟨tie, kept⟩ => ⟨tie, kept.trans List.filter_sublist⟩

theorem countIssues : Store.countIssues (Service.filterOf config u q) s =
    (.ok (Int64.ofNat (s.listed config u q).length), s) := by
  refine Prod.ext ?_ rfl
  change (do s.need _; _) = Except.ok _
  rw [h.need, ok_bind, listed_perm.length_eq]
  rfl

theorem pageIssues (p : Page) :
    Store.pageIssues (Service.filterOf config u q) (Service.keysOf q) p s =
    (if maxTerms < (Service.keysOf q).length + 1 then .error .tooManyTerms
      else .ok (window p (s.listed config u q)), s) := by
  refine Prod.ext ?_ rfl
  change (do s.need _; _) = _
  rw [h.need, ok_bind]
  dsimp only
  split
  · rfl
  · have view : s.viewIssue = fun i => pure i := funext fun i => h.view _ _ _ _
    rw [view, List.mapM_pure]
    simp [listed, pure, Except.pure]

end Untouched

end Store

namespace Service

variable {config : Config} {draw : Draw} {r : Request} {s : Store} {u : User}

/-- The page of a listing that a request with this query gets. -/
def listing (config : Config) (s : Store) (u : User) (uri : Uri) (q : ListQuery) : IssueList :=
  let all := s.listed config u q
  let page := config.pages.page q.skip q.limit
  let count := Int64.ofNat all.length
  ⟨⟨count, (page.links uri count).1, (page.links uri count).2⟩, Store.window page all⟩

/-- What a user's request for the list of issues is answered. -/
def listResponse (config : Config) (s : Store) (u : User) (uri : Uri) : Response :=
  match ListQuery.ofQuery? uri.query with
  | none => (Refusal.badRequest "wrong query").response
  | some q =>
    if ∃ p ∈ q.project, ¬ s.Entitles u p then Refusal.forbidden.response
    else if Store.maxTerms < (keysOf q).length + 1 then Refusal.storage.response
    else Response.of 200 (.json ((Listing.codec Issue.codec).encode (listing config s u uri q)))

theorem listResponse_eq {uri : Uri} {q : ListQuery} (hq : ListQuery.ofQuery? uri.query = some q) :
    listResponse config s u uri =
      if ∃ p ∈ q.project, ¬ s.Entitles u p then Refusal.forbidden.response
      else if Store.maxTerms < (keysOf q).length + 1 then Refusal.storage.response
      else Response.of 200 (.json ((Listing.codec Issue.codec).encode
        (listing config s u uri q))) := by
  rw [listResponse, hq]

theorem answer_list (config : Config) (draw : Draw) (h : s.Untouched) (known : s.Knows r u)
    (hop : r.operation? = some .list) :
    ((answer config draw r).run Faults.none s).1 = ⟨listResponse config s u r.uri, none⟩ := by
  refine Plan.wp_run (Q := fun (o : Outcome) _ => o = ⟨listResponse config s u r.uri, none⟩)
    (Faults.within_none False) ?_
  refine wp_answer known hop fun captures _ => ?_
  unfold Operation.handler listIssues
  refine Action.wp_fetch_ok h.acquire ?_
  refine Action.wp_require (fun q hq => ?_) fun hq => ?_
  · have response : listResponse config s u r.uri = _ := listResponse_eq hq
    extract_lets filter page rest
    -- what comes after the check of the project
    have answered (closed : ¬ ∃ p ∈ q.project, ¬ s.Entitles u p) : Action.wp False (rest ())
        (fun a _ => (⟨a.response, a.submit⟩ : Outcome) = ⟨listResponse config s u r.uri, none⟩)
        (fun e _ => (⟨e.response, none⟩ : Outcome) = ⟨listResponse config s u r.uri, none⟩)
        ⟨s, none⟩ := by
      rw [if_neg closed] at response
      refine Action.wp_fetch_ok h.countIssues ?_
      by_cases many : Store.maxTerms < (keysOf q).length + 1
      · refine Action.wp_fetch_error (e := .tooManyTerms) ?_ ?_
        · rw [h.pageIssues, if_pos many]
        · rw [response, if_pos many]
      · refine Action.wp_fetch_ok (b := Store.window page (s.listed config u q)) ?_ ?_
        · rw [h.pageIssues, if_neg many]
        · rw [response, if_neg many]
          rfl
    cases hp : q.project with
    | none => exact answered (by simp [hp])
    | some p =>
      by_cases access : s.Entitles u p
      · exact wp_ensureAccess_admitted h (h.admits_iff.2 access) (answered (by simp [hp, access]))
      · refine wp_ensureAccess_refused h (mt h.admits_iff.1 access) ?_
        rw [response, if_pos ⟨p, hp, access⟩]
  · rw [listResponse, show ListQuery.ofQuery? r.uri.query = none from hq]

end Service
end IssueTracker
