import IssueTracker.Proofs.Spelling
import IssueTracker.Proofs.Walking

/-! Who is let in. Lists, the filter of a list by project, requests on one issue and the
filing of an issue each have a check of their own; what they check is the same, that the
user is entitled to the project. So an issue is in a user's list just if the user can get
it. -/

namespace IssueTracker
namespace Service

section Handlers

variable {c : Context} {s : Store} {id : Uuid} {i : Issue} {op : Operation}

/-- The answer is not that the caller may not do this. -/
def Lets (s : Store) (a : Action Reply) : Prop :=
  Action.wp False a (fun r _ => r.status ≠ 403) (fun e _ => e.status ≠ 403) ⟨s, none⟩

theorem ofWrite_lets (fallback : String) (e : DbError) :
    (Refusal.ofWrite fallback e).status ≠ 403 := by
  unfold Refusal.ofWrite
  split_ifs <;> simp [Refusal.badRequest]

/-- Behind the guard of an issue no caller is turned away for want of access. -/
theorem lets_handler (h : s.Untouched) (guarded : op ≠ .list ∧ op ≠ .create)
    (named : pathId? c.captures = some id) (found : s.findIssueRow id = some i)
    (admitted : s.Admits c.user i.project) : Lets s (op.handler c) := by
  have ok : (200 : Nat) ≠ 403 := by decide
  have created : (201 : Nat) ≠ 403 := by decide
  have gone : (204 : Nat) ≠ 403 := by decide
  have wrong : (400 : Nat) ≠ 403 := by decide
  cases op with
  | list => exact absurd rfl guarded.1
  | create => exact absurd rfl guarded.2
  | get => exact wp_guardIssue_found h named found admitted ok
  | update =>
    refine wp_guardIssue_found h named found admitted ?_
    refine Action.wp_require (fun p _ => ?_) fun _ => by decide
    dsimp only
    split
    · exact wrong
    refine Action.wp_ask (fun _ _ => ?_) (fun e _ => ofWrite_lets _ e) False.elim
    exact Action.wp_require (fun _ _ => ok) fun _ => by decide
  | delete =>
    refine wp_guardIssue_found h named found admitted ?_
    refine Action.wp_begin ?_ False.elim
    refine Action.wp_ask (fun _ _ => ?_) (fun e _ => ofWrite_lets _ e) False.elim
    refine Action.wp_ask (fun found _ => ?_) (fun e _ => ofWrite_lets _ e) False.elim
    cases found with
    | false => exact (by decide : (404 : Nat) ≠ 403)
    | true => exact Action.wp_commit gone False.elim
  | comments =>
    refine wp_guardIssue_found h named found admitted ?_
    exact Action.wp_ask (fun _ _ => ok) (fun _ _ => by decide) False.elim
  | addComment =>
    refine wp_guardIssue_found h named found admitted ?_
    refine Action.wp_require (fun d _ => ?_) fun _ => by decide
    dsimp only
    split
    · exact wrong
    exact Action.wp_ask (fun _ _ => created) (fun e _ => ofWrite_lets _ e) False.elim

end Handlers

section Requests

variable {config : Config} {draw : Draw} {r : Request} {s : Service} {u : User} {op : Operation}
  {i : Issue} {q : ListQuery} {project : Uuid}

theorem handle_status : (s.handle config draw Faults.none r).1.status =
    ((answer config draw r).run Faults.none s.store).1.response.status :=
  stamp_status _ _ _

/-- A request on an issue gets past the guard just if the caller is entitled to its project. -/
theorem handle_issue_iff (h : s.store.Untouched) (sound : s.store.Sound) (known : s.store.Knows r u)
    (hop : r.operation? = some op) (hi : i ∈ s.store.issues) (named : r.subject? = some i.id) :
    (s.handle config draw Faults.none r).1.status ≠ 403 ↔ s.store.Entitles u i.project := by
  have found := sound.findIssueRow h hi
  rw [handle_status]
  constructor
  · intro passed
    by_contra closed
    refine passed ?_
    rw [answer_forbidden config draw h known hop named found (mt h.admits_iff.1 closed)]
    rfl
  · intro access
    refine Plan.wp_run (Q := fun (o : Outcome) _ => o.response.status ≠ 403)
      (Faults.within_none False) (wp_answer known hop fun captures hc => ?_)
    exact lets_handler h (guarded_of_subject hop named) (hc.trans named) found
      (h.admits_iff.2 access)

theorem handle_get_iff (h : s.store.Untouched) (sound : s.store.Sound) (known : s.store.Knows r u)
    (hop : r.operation? = some .get) (hi : i ∈ s.store.issues) (named : r.subject? = some i.id) :
    (s.handle config draw Faults.none r).1.status = 200 ↔ s.store.Entitles u i.project := by
  have found := sound.findIssueRow h hi
  rw [handle_status]
  by_cases access : s.store.Entitles u i.project
  · rw [answer_get config draw h known hop named found (h.admits_iff.2 access)]
    exact iff_of_true rfl access
  · rw [answer_forbidden config draw h known hop named found (mt h.admits_iff.1 access)]
    exact iff_of_false (by decide) access

/-- A list of one project's issues is refused just to those who are not entitled to it. -/
theorem handle_filter_iff (h : s.store.Untouched) (known : s.store.Knows r u)
    (hop : r.operation? = some .list) (hq : ListQuery.ofQuery? r.uri.query = some q)
    (named : q.project = some project) :
    (s.handle config draw Faults.none r).1.status ≠ 403 ↔ s.store.Entitles u project := by
  rw [handle_list_eq config draw h known hop, stamp_status, listResponse_eq hq, named]
  by_cases access : s.store.Entitles u project
  · rw [if_neg (by simpa using access)]
    refine iff_of_true ?_ access
    split
    · exact (by decide : (500 : Nat) ≠ 403)
    · exact (by decide : (200 : Nat) ≠ 403)
  · rw [if_pos (by simpa using access)]
    exact iff_of_false (by decide) access

/-- A caller who files what can be filed is turned away just if not entitled to the project
of the target. -/
theorem handle_create_iff (h : s.store.Untouched) (sound : s.store.Sound)
    (known : s.store.Knows r u) (hop : r.operation? = some .create) {p : Patch} {t : Target}
    (entity : r.entity? Patch.codec = some p) (valid : p.creationViolations = [])
    (ht : t ∈ s.store.targets) (named : targetId? p = some t.id) :
    (s.handle config draw Faults.none r).1.status ≠ 403 ↔ s.store.Entitles u t.project := by
  have found : s.store.findTargetRow t.id = some t :=
    (Store.find?_key_iff sound.targetIds).2 ⟨ht, rfl⟩
  rw [handle_status]
  refine Plan.wp_run
    (Q := fun (o : Outcome) _ => o.response.status ≠ 403 ↔ s.store.Entitles u t.project)
    (Faults.within_none False) (wp_answer known hop fun captures _ => ?_)
  unfold Operation.handler createIssue
  refine Action.wp_require (fun p' hp => ?_) fun hn => ?_
  · obtain rfl := Option.some.inj (entity.symm.trans hp)
    refine Action.wp_require (fun id hid => ?_) fun hn => ?_
    · obtain rfl := Option.some.inj (named.symm.trans hid)
      rw [valid]
      refine Action.wp_fetch_ok h.acquire (Action.wp_fetch_ok (h.findTarget_eq _) ?_)
      rw [found]
      by_cases access : s.store.Entitles u t.project
      · refine wp_ensureAccess_admitted h (h.admits_iff.2 access) ?_
        refine Action.wp_ask (fun _ _ => ?_) (fun e _ => ?_) False.elim
        · exact iff_of_true (by decide : (201 : Nat) ≠ 403) access
        · exact iff_of_true (ofWrite_lets _ e) access
      · refine wp_ensureAccess_refused h (mt h.admits_iff.1 access) ?_
        exact iff_of_false (by decide) access
    · cases named.symm.trans hn
  · cases entity.symm.trans hn

end Requests

/-- A request for a list of all that its user may see, from the front. -/
structure ListsAll (config : Config) (s : Store) (u : User) (r : Request) (q : ListQuery) :
    Prop where
  known : s.Knows r u
  get : r.method = "GET"
  list : r.operation? = some .list
  query : ListQuery.ofQuery? r.uri.query = some q
  start : ∀ k ∈ q.skip, k ≤ 0
  unfiltered : ∀ i, q.Asks config i
  listable : Listable s u q
  fits : LinksFit r.uri (config.pages.page q.skip q.limit).limit (s.listed config u q).length

/-- Without a query nothing is left out. -/
theorem listsAll_plain {config : Config} {s : Store} {u : User} {r : Request} (known : s.Knows r u)
    (get : r.method = "GET") (hop : r.operation? = some .list) (plain : r.uri.query = none) :
    ListsAll config s u r {} where
  known := known
  get := get
  list := hop
  query := by rw [plain]; decide
  start := by simp
  unfiltered := by simp [ListQuery.Asks]
  listable := ⟨by simp, by decide⟩
  fits k _ := Page.link_fits _ plain (by rw [path_of_list hop]; decide)

/-- What a user is let do in a store: lists, lists of one project, requests on one issue and the
filing of issues go by one relation. -/
structure Admission (config : Config) (s : Service) (u : User) : Prop where
  /-- Without a query a list has no filters. -/
  plain : ∀ r : Request, s.store.Knows r u → r.method = "GET" → r.operation? = some .list →
    r.uri.query = none → ListsAll config s.store u r {}
  /-- The issues that are counted and shown on the pages of a list are those of the projects
  to which the user is entitled. -/
  listed : config.pages.Sound → s.store.issues.length ≤ mostRows →
    ∀ r q draws, ListsAll config s.store u r q →
    ∃ as all, Shows config s draws r as all ∧ all.Nodup
      ∧ ∀ i, i ∈ all ↔ i ∈ s.store.issues ∧ s.store.Entitles u i.project
  filter : ∀ draw (r : Request) q project, s.store.Knows r u → r.operation? = some .list →
    ListQuery.ofQuery? r.uri.query = some q → q.project = some project →
    ((s.handle config draw Faults.none r).1.status ≠ 403 ↔ s.store.Entitles u project)
  guard : ∀ draw (r : Request) op, ∀ i ∈ s.store.issues, s.store.Knows r u →
    r.operation? = some op → r.subject? = some i.id →
    ((s.handle config draw Faults.none r).1.status ≠ 403 ↔ s.store.Entitles u i.project)
  create : ∀ draw (r : Request) p, ∀ t ∈ s.store.targets, s.store.Knows r u →
    r.operation? = some .create → r.entity? Patch.codec = some p → p.creationViolations = [] →
    targetId? p = some t.id →
    ((s.handle config draw Faults.none r).1.status ≠ 403 ↔ s.store.Entitles u t.project)
  /-- An issue is in a user's list just if the user can get it. -/
  shown : config.pages.Sound → s.store.issues.length ≤ mostRows →
    ∀ r q draws as, ListsAll config s.store u r q → Walk (serving config s draws) r as →
    ∀ draw (r' : Request), ∀ i ∈ s.store.issues, s.store.Knows r' u → r'.operation? = some .get →
    r'.subject? = some i.id → (Issue.codec.encode i ∈ as.flatMap Response.results ↔
      (s.handle config draw Faults.none r').1.status = 200)

section Lists

variable {config : Config} {s : Service} {u : User} {r : Request} {q : ListQuery} {i : Issue}

theorem ListsAll.listed (all : ListsAll config s.store u r q) (h : s.store.Untouched)
    (sound : s.store.Sound) (limits : config.pages.Sound)
    (few : s.store.issues.length ≤ mostRows) (draws : Nat → Draw) :
    ∃ as all, Shows config s draws r as all ∧ all.Nodup
      ∧ ∀ i, i ∈ all ↔ i ∈ s.store.issues ∧ s.store.Entitles u i.project := by
  obtain ⟨as, shown⟩ := walk_listed h all.known all.get all.list all.query all.start all.listable
    limits few all.fits draws
  refine ⟨as, _, shown, sound.nodup_listed, fun i => ?_⟩
  rw [h.mem_listed, and_iff_left (all.unfiltered i)]

/-- An issue is told from others by what is shown of it. -/
theorem mem_encoded (sound : s.store.Sound) {l : List Issue} (sub : l ⊆ s.store.issues)
    (hi : i ∈ s.store.issues) : Issue.codec.encode i ∈ l.map Issue.codec.encode ↔ i ∈ l := by
  constructor
  · intro shown
    obtain ⟨j, hj, same⟩ := List.mem_map.1 shown
    have ids := congrArg Json.id? same
    rw [Issue.id?_encode, Issue.id?_encode, Option.some.injEq] at ids
    rwa [← sound.eq_of_id (sub hj) hi ids]
  · exact List.mem_map_of_mem

end Lists

/-- After any history all ways in go by one relation. -/
theorem run_admission (config before : Config) (es : List Event) (u : User) :
    Admission config (run before es) u := by
  have h := run_untouched before es
  have sound := (run_intact before es).sound
  constructor
  case plain => exact fun r known get list plain => listsAll_plain known get list plain
  case listed => exact fun limits few r q draws all => all.listed h sound limits few draws
  case filter =>
    exact fun draw r q project known list query named => handle_filter_iff h known list query named
  case guard =>
    exact fun draw r op i hi known hop named => handle_issue_iff h sound known hop hi named
  case create =>
    exact fun draw r p t ht known hop entity valid named =>
      handle_create_iff h sound known hop entity valid ht named
  case shown =>
    intro limits few r q draws as all walk draw r' i hi known hop named
    obtain ⟨as', l, shown, -, mem⟩ := all.listed h sound limits few draws
    have sub : l ⊆ (run before es).store.issues := fun j hj => ((mem j).1 hj).1
    rw [walk.unique shown.walk, shown.results, mem_encoded sound sub hi, mem i, and_iff_right hi,
      handle_get_iff h sound known hop hi named]

open Sample in
/-- The owner of an issue gets it, the stranger does not, and has nothing in the list. -/
theorem run_admission_stranger :
    (respond config (worked ++ arrival) (draw Uuid.zero) (onIssue "GET" {})).status ≠ 403
      ∧ (respond config (worked ++ arrival) (draw Uuid.zero)
        (byStranger (onIssue "GET" {}))).status = 403
      ∧ ∃ as, Walk (serving config (run config (worked ++ arrival)) fun _ => draw Uuid.zero)
        (byStranger (request "GET" "/api/v1/issues" {})) as ∧ as.flatMap Response.results = [] := by
  obtain ⟨s, hs⟩ : ∃ s, run config (worked ++ arrival) = s := ⟨_, rfl⟩
  obtain ⟨get, hg⟩ : ∃ r, onIssue "GET" {} = r := ⟨_, rfl⟩
  obtain ⟨list, hl⟩ : ∃ r, byStranger (request "GET" "/api/v1/issues" {}) = r := ⟨_, rfl⟩
  have rows : s.store.caller? get = .ok (some owner)
      ∧ s.store.caller? (byStranger get) = .ok (some stranger)
      ∧ s.store.caller? list = .ok (some stranger)
      ∧ (∀ i ∈ s.store.issues, ¬ s.store.Entitles stranger i.project)
      ∧ ∃ i ∈ s.store.issues, i.id = issue ∧ s.store.Entitles owner i.project := by
    subst hs hg hl
    rw [run_arrival]
    decide +kernel
  have asked : get.operation? = some .get ∧ get.subject? = some issue ∧ list.method = "GET"
      ∧ list.operation? = some .list ∧ list.uri.query = none := by
    subst hg hl
    decide +kernel
  obtain ⟨gets, gets', lists, closed, i, hi, hid, access⟩ := rows
  obtain ⟨op, named, method, op', plain⟩ := asked
  rw [hg, hl]
  subst hs
  have few : (run config (worked ++ arrival)).store.issues.length ≤ mostRows :=
    Nat.le_trans (run_length_issues_le _ _) (by decide)
  have owners := run_admission config config (worked ++ arrival) owner
  have strangers := run_admission config config (worked ++ arrival) stranger
  refine ⟨?_, ?_, ?_⟩
  · exact (owners.guard (draw Uuid.zero) get .get i hi gets op (hid ▸ named)).2 access
  · by_contra passed
    exact closed i hi ((strangers.guard (draw Uuid.zero) (byStranger get) .get i hi gets' op
      (hid ▸ named)).1 passed)
  · obtain ⟨as, all, shown, -, mem⟩ :=
      strangers.listed (by decide) few list {} (fun _ => draw Uuid.zero)
        (strangers.plain _ lists method op' plain)
    have none_ : all = [] :=
      List.eq_nil_iff_forall_not_mem.2 fun i hi => closed i ((mem i).1 hi).1 ((mem i).1 hi).2
    exact ⟨as, shown.walk, by rw [shown.results, none_]; rfl⟩

end Service
end IssueTracker
