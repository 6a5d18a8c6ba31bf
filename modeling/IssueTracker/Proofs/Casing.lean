import IssueTracker.Proofs.Alike
import IssueTracker.Proofs.Querying
import Mathlib.Data.List.Forall2

/-! Searching in either case. A search looks for its term in the summary and the description
of an issue and takes the capital and the small form of an ASCII letter for one. So neither a
term nor stored texts that are written in the other case change what a list shows, as long
as the letters are ASCII; all other characters have to stand there as they are asked for, so
that it does make a difference in which case a letter of another alphabet is written. -/

namespace IssueTracker

/-- A capital letter of ASCII and its small letter. -/
def AsciiPair (c d : Char) : Prop :=
  'A' ≤ c ∧ c ≤ 'Z' ∧ d.toNat = c.toNat + 32

/-- A capital letter with a mark, of those that Western European languages use, and its
small letter. -/
def MarkedPair (c d : Char) : Prop :=
  'À' ≤ c ∧ c ≤ 'Þ' ∧ c ≠ '×' ∧ d.toNat = c.toNat + 32

/-- The texts are the same but for the case of letters that come in these pairs. -/
def Recased (pair : Char → Char → Prop) (s t : String) : Prop :=
  List.Forall₂ (fun c d => c = d ∨ pair c d ∨ pair d c) s.toList t.toList

/-- The issues are the same but for the case of letters in the summary and the description. -/
inductive Issue.Recased (pair : Char → Char → Prop) (i : Issue) : Issue → Prop where
  | mk {summary desc : String} (inSummary : IssueTracker.Recased pair i.summary summary)
    (inDesc : IssueTracker.Recased pair i.desc desc) :
    Recased pair i { i with summary := summary, desc := desc }

/-- The patches ask for the same but for the case of letters in those texts. -/
inductive Patch.Recased (pair : Char → Char → Prop) (p : Patch) : Patch → Prop where
  | mk {summary desc : Option String}
    (inSummary : Option.Rel (IssueTracker.Recased pair) p.summary summary)
    (inDesc : Option.Rel (IssueTracker.Recased pair) p.desc desc) :
    Recased pair p { p with summary := summary, desc := desc }

section Letters

variable {c d : Char} {s t : String}

theorem toNat_toLower (c : Char) : c.toLower.toNat =
    if 65 ≤ c.toNat ∧ c.toNat ≤ 90 then c.toNat + 32 else c.toNat := by
  have range : (c.val ≥ 'A'.val ∧ c.val ≤ 'Z'.val) ↔ 65 ≤ c.toNat ∧ c.toNat ≤ 90 := Iff.rfl
  unfold Char.toLower
  split
  · next capital =>
    rw [range] at capital
    have sum : (c.val + 32).toNat = (c.toNat + 32) % 2 ^ 32 := UInt32.toNat_add _ _
    rw [if_pos capital]
    exact sum.trans (Nat.mod_eq_of_lt (by omega))
  · next other => rw [if_neg (mt range.2 other)]

theorem toLower_eq_iff : c.toLower = d.toLower ↔ c = d ∨ AsciiPair c d ∨ AsciiPair d c := by
  have pair (c d : Char) : AsciiPair c d ↔ 65 ≤ c.toNat ∧ c.toNat ≤ 90 ∧ d.toNat = c.toNat + 32 :=
    Iff.rfl
  simp only [← Char.toNat_inj, toNat_toLower, pair]
  split_ifs
  all_goals omega

theorem isBlank_toLower (c : Char) : isBlank c.toLower = isBlank c := by
  unfold isBlank
  rw [toNat_toLower]
  split
  · rw [Bool.eq_iff_iff]
    simp
    omega
  · rfl

theorem folded_eq_iff : folded s = folded t ↔ Recased AsciiPair s t := by
  simp only [folded, Recased, ← toLower_eq_iff]
  rw [← List.forall₂_eq_eq_eq, List.forall₂_map_left_iff, List.forall₂_map_right_iff]

/-- Whether a text is blank can be told from its letters, whatever their case. -/
theorem filled_iff : (∃ c ∈ s.toList, isBlank c = false) ↔ ∃ c ∈ folded s, isBlank c = false := by
  simp [folded, isBlank_toLower]

/-- A term stands in a text just if some part of the text is the term, but for the case of
ASCII letters. -/
theorem mentions_iff_exists {term text : String} : mentions term text = true ↔
    ∃ part : String, part.toList <:+: text.toList ∧ Recased AsciiPair term part := by
  simp only [← folded_eq_iff]
  rw [mentions_iff, folded.eq_1 text, List.infix_map_iff]
  constructor
  · rintro ⟨part, stands, same⟩
    exact ⟨String.ofList part, by rwa [String.toList_ofList], by rw [same, folded, String.toList_ofList]⟩
  · rintro ⟨part, stands, same⟩
    exact ⟨part.toList, stands, same⟩

end Letters

section Lists

variable {α : Type} {R : α → α → Prop} {l m : List α}

/-- Sorting keeps lists in step whose members compare alike. -/
theorem forall₂_mergeSort {le le' : α → α → Bool} (h : List.Forall₂ R l m)
    (same : ∀ a a' b b', R a a' → R b b' → le a b = le' a' b') :
    List.Forall₂ R (l.mergeSort le) (m.mergeSort le') := by
  obtain ⟨length, related⟩ := List.forall₂_iff_zip.1 h
  -- both lists are sorted just as the list of their pairs is
  let pairs := (l.zip m).mergeSort fun p p' => le p.1 p'.1
  have left : pairs.map Prod.fst = l.mergeSort le := by
    rw [List.map_mergeSort (s := le) fun _ _ _ _ => rfl, List.map_fst_zip (Nat.le_of_eq length)]
  have right : pairs.map Prod.snd = m.mergeSort le' := by
    rw [List.map_mergeSort (s := le') fun p hp p' hp' => same _ _ _ _ (related hp) (related hp'),
      List.map_snd_zip (Nat.le_of_eq length.symm)]
  rw [← left, ← right, List.forall₂_map_left_iff, List.forall₂_map_right_iff, List.forall₂_same]
  exact fun p hp => related (List.mem_mergeSort.1 hp)

end Lists

section Patches

variable {pair : Char → Char → Prop} {p p' : Patch} {i j : Issue}

/-- A text that is given, or else the one that is there. -/
theorem Recased.getD {given given' : Option String} {s t : String} (old : Recased pair s t)
    (new : Option.Rel (Recased pair) given given') :
    Recased pair (given.getD s) (given'.getD t) := by
  cases new with
  | none => exact old
  | some new => exact new

/-- What is stored is in the case in which it is given. -/
theorem Patch.apply_recased (again : p.Recased pair p') (stored : i.Recased pair j) :
    (p.apply i).Recased pair (p'.apply j) := by
  obtain ⟨inSummary, inDesc⟩ := again
  obtain ⟨inSummary', inDesc'⟩ := stored
  exact .mk (inSummary'.getD inSummary) (inDesc'.getD inDesc)

theorem newIssue_recased (again : p.Recased pair p') (t : Target) (user : Uuid) (draw : Draw) :
    (Service.newIssue p t user draw).Recased pair (Service.newIssue p' t user draw) := by
  have blank : (Issue.blank draw.id t.project t.id draw.now).Recased pair
      (Issue.blank draw.id t.project t.id draw.now) := .mk .nil .nil
  have filed := Patch.apply_recased again blank
  unfold Service.newIssue
  generalize p.apply _ = i at filed
  generalize p'.apply _ = j at filed
  obtain ⟨inSummary, inDesc⟩ := filed
  exact .mk inSummary inDesc

end Patches

/-- Texts have no part in the order of a list. -/
theorem SortKey.allows_recased {pair : Char → Char → Prop} {ks : List SortKey} {i i' j j' : Issue}
    (again : i.Recased pair i') (again' : j.Recased pair j') :
    Allows ks i' j' ↔ Allows ks i j := by
  obtain ⟨-, -⟩ := again
  obtain ⟨-, -⟩ := again'
  induction ks with
  | nil => simp [Allows, Ties]
  | cons k ks ih => rw [allows_cons, allows_cons, ih]; rfl

/-- A filter agrees with an issue whatever the case of ASCII letters in it and in the term. -/
theorem ListQuery.asks_recased {config : Config} {q : ListQuery} {search : Option String}
    {i j : Issue} (term : Option.Rel (Recased AsciiPair) q.search search)
    (again : i.Recased AsciiPair j) :
    q.Asks config i ↔ { q with search := search }.Asks config j := by
  obtain ⟨inSummary, inDesc⟩ := again
  simp only [Asks, filled_iff, ← folded_eq_iff.2 inSummary, ← folded_eq_iff.2 inDesc]
  generalize q.search = asked at term
  cases term with
  | none => simp
  | some same => simp [folded_eq_iff.2 same]

namespace Store

variable {s : Store} {config : Config} {q : ListQuery} {u : User} {search : Option String}
  {is : List Issue}

/-- The store with other issues. -/
def refiled (is : List Issue) (s : Store) : Store :=
  { s with issues := is }

/-- Lists of stores that differ in the case of their texts are in step. -/
theorem Untouched.listed_refiled (h : s.Untouched)
    (term : Option.Rel (Recased AsciiPair) q.search search)
    (stored : List.Forall₂ (Issue.Recased AsciiPair) s.issues is) :
    List.Forall₂ (Issue.Recased AsciiPair) (s.listed config u q)
      ((s.refiled is).listed config u { q with search := search }) := by
  have h' : (s.refiled is).Untouched := h.of_marks rfl
  have selected {i j : Issue} (again : i.Recased AsciiPair j) :
      s.selects (Service.filterOf config u q) i = true ↔
        (s.refiled is).selects (Service.filterOf config u { q with search := search }) j = true := by
    have home : j.project = i.project := by
      obtain ⟨-, -⟩ := again
      rfl
    rw [h.selects, h'.selects, ListQuery.asks_recased term again, home]
    rfl
  refine forall₂_mergeSort (List.rel_filter (fun i j again => selected again) stored)
    fun i i' j j' again again' => ?_
  rw [Bool.eq_iff_iff, h.keysLe (Service.keysOf_sorts q), h'.keysLe (Service.keysOf_sorts _)]
  exact (SortKey.allows_recased again again').symm

/-- Who is known does not hang on the issues. -/
theorem Untouched.knows_refiled (h : s.Untouched) {r : Request} :
    (s.refiled is).Knows r u ↔ s.Knows r u := by
  have h' : (s.refiled is).Untouched := h.of_marks rfl
  unfold Knows caller?
  split
  · rfl
  · rw [h.userOfToken, h'.userOfToken]
    rfl

end Store

theorem forall₂_window {α : Type} {R : α → α → Prop} {l m : List α} (h : List.Forall₂ R l m)
    (p : Page) : List.Forall₂ R (Store.window p l) (Store.window p m) := by
  unfold Store.window
  dsimp only
  split
  · exact List.forall₂_drop _ h
  · exact List.forall₂_take _ (List.forall₂_drop _ h)

namespace Sample

/-- Searches count. -/
def searching : Config := { config with textSearch := true }

theorem run_searching (es : List Event) : Service.run searching es = Service.run config es :=
  Service.run_config (by rfl) es

/-- An issue is filed whose summary starts with a letter beyond ASCII. -/
def marked : List Event :=
  founding ++ [.request (draw issue) Faults.none (request "POST" "/api/v1/issues"
    { target := some target.text, summary := some "Évier", severity := some .high })]

theorem run_marked : Service.run config marked =
    stockOf { target := some target.text, summary := some "Évier", severity := some .high } := by
  decide +kernel

/-- The issues with their summaries in capital letters. -/
def shouted (is : List Issue) : List Issue :=
  is.map fun i => { i with summary := "LEAK" }

end Sample

namespace Service

/-- The service with other issues in its store. -/
def retold (is : List Issue) (s : Service) : Service :=
  { s with store := s.store.refiled is }

/-- Whatever case the ASCII letters of a search term are in, and those of the texts that are
stored, a request for the list is answered alike: with the same status, the same count, and
issue by issue with the same page. Texts are stored in the case in which they are given, so a
patch in another case makes an issue that is the same but for the case. This is all that a
search overlooks: a term stands in a text just if some part of the text is the term but for
the case of ASCII letters. -/
theorem run_search_recased (config before : Config) (es : List Event) (u : User) (r r' : Request)
    (known : (run before es).store.Knows r u) (known' : (run before es).store.Knows r' u)
    (hop : r.operation? = some .list) (hop' : r'.operation? = some .list) (q : ListQuery)
    (search : Option String) (hq : ListQuery.ofQuery? r.uri.query = some q)
    (hq' : ListQuery.ofQuery? r'.uri.query = some { q with search := search })
    (term : Option.Rel (Recased AsciiPair) q.search search) (is : List Issue)
    (stored : List.Forall₂ (Issue.Recased AsciiPair) (run before es).store.issues is)
    (draw draw' : Draw) :
    let s := run before es
    let s' := s.retold is
    let a := (s.handle config draw Faults.none r).1
    let a' := (s'.handle config draw' Faults.none r').1
    a'.status = a.status
    ∧ (a.status = 200 → r.method = "GET" → r'.method = "GET" →
      ∃ l l' shown shown', a.listing? = some l ∧ a'.listing? = some l'
        ∧ l'.info.count = l.info.count
        ∧ l.results = shown.map Issue.codec.encode ∧ l'.results = shown'.map Issue.codec.encode
        ∧ List.Forall₂ (Issue.Recased AsciiPair) shown shown')
    ∧ (∀ p p' : Patch, p.Recased AsciiPair p' →
      (∀ t user d, (newIssue p t user d).Recased AsciiPair (newIssue p' t user d))
      ∧ ∀ i j : Issue, i.Recased AsciiPair j → (p.apply i).Recased AsciiPair (p'.apply j))
    ∧ ∀ term text, mentions term text = true ↔
      ∃ part : String, part.toList <:+: text.toList ∧ Recased AsciiPair term part := by
  intro s s' a a'
  have h : s.store.Untouched := run_untouched before es
  have h' : s'.store.Untouched := h.of_marks rfl
  have known'' : s'.store.Knows r' u := h.knows_refiled.2 known'
  have status := handle_list_status config draw h known hop
  have status' := handle_list_status config draw' h' known'' hop'
  refine ⟨?_, fun ok get get' => ?_, fun p p' again => ⟨newIssue_recased again, fun i j =>
    Patch.apply_recased again⟩, fun term text => mentions_iff_exists⟩
  · -- whatever is wrong with one query is wrong with the other
    rw [status, status', listStatus, listStatus, hq, hq']
    rfl
  · have ok : Listable s.store u q :=
      listable_of_status hq ((listResponse_status config _ _ _).trans (status.symm.trans ok))
    have lists : List.Forall₂ (Issue.Recased AsciiPair) (s.store.listed config u q)
        (s'.store.listed config u { q with search := search }) := h.listed_refiled term stored
    refine ⟨_, _, _, _, (handle_list h known get hop hq ok).2,
      (handle_list h' known'' get' hop' hq' ok).2, ?_, rfl, rfl, forall₂_window lists _⟩
    exact congrArg Int64.ofNat lists.length_eq.symm

open Sample in
/-- A list shows the issue for a term in mixed case when it was filed in capital letters, just
as it does for the same words in small letters. -/
theorem run_search_recased_shouted :
    ∃ l l', ((run searching worked).handle searching (draw Uuid.zero) Faults.none
        (browsing "search=leak".toList)).1.listing? = some l
      ∧ (((run searching worked).retold (shouted (run searching worked).store.issues)).handle
        searching (draw Uuid.zero) Faults.none (browsing "search=LeAk".toList)).1.listing? = some l'
      ∧ l.info.count = 1 ∧ l'.info.count = 1 ∧ l'.results.length = l.results.length := by
  obtain ⟨s, hs⟩ : ∃ s, run searching worked = s := ⟨_, rfl⟩
  obtain ⟨r, hr⟩ : ∃ r, browsing "search=leak".toList = r := ⟨_, rfl⟩
  obtain ⟨r', hr'⟩ : ∃ r, browsing "search=LeAk".toList = r := ⟨_, rfl⟩
  have found : (s.handle searching (draw Uuid.zero) Faults.none r).1.status = 200
      ∧ (s.handle searching (draw Uuid.zero) Faults.none r).1.listing?.map (·.info.count) =
        some 1 := by
    subst hs hr
    rw [run_searching, run_worked]
    decide +kernel
  have rows : s.store.caller? r = .ok (some owner) ∧ s.store.caller? r' = .ok (some owner)
      ∧ ∀ i ∈ s.store.issues, folded i.summary = folded "LEAK" := by
    subst hs hr hr'
    rw [run_searching, run_worked]
    decide +kernel
  have asked : r.method = "GET" ∧ r.operation? = some .list
      ∧ ListQuery.ofQuery? r.uri.query = some { search := some "leak" } := by
    subst hr
    decide +kernel
  have asked' : r'.method = "GET" ∧ r'.operation? = some .list
      ∧ ListQuery.ofQuery? r'.uri.query = some { search := some "LeAk" } := by
    subst hr'
    decide +kernel
  obtain ⟨ok, one⟩ := found
  obtain ⟨known, known', titles⟩ := rows
  obtain ⟨get, hop, hq⟩ := asked
  obtain ⟨get', hop', hq'⟩ := asked'
  have term : Recased AsciiPair "leak" "LeAk" := folded_eq_iff.1 (by decide)
  have stored : List.Forall₂ (Issue.Recased AsciiPair) s.store.issues (shouted s.store.issues) := by
    rw [shouted, List.forall₂_map_right_iff, List.forall₂_same]
    exact fun i hi => .mk (folded_eq_iff.1 (titles i hi)) (folded_eq_iff.1 rfl)
  rw [hr, hr', hs]
  subst hs
  obtain ⟨-, lists, -⟩ := run_search_recased searching searching worked owner r r' known known' hop
    hop' _ _ hq hq' (.some term) _ stored (draw Uuid.zero) (draw Uuid.zero)
  obtain ⟨l, l', shown, shown', list, list', count, results, results', again⟩ := lists ok get get'
  have one : l.info.count = 1 := by simpa [list] using one
  refine ⟨l, l', list, list', one, count.trans one, ?_⟩
  rw [results, results', List.length_map, List.length_map, again.length_eq]

open Sample in
/-- A letter with a mark is one letter with its other form, and yet a list that shows the issue
for the one does not show it for the other. -/
theorem run_search_marked :
    Recased MarkedPair "Évier" "évier"
    ∧ (respond searching marked (draw Uuid.zero)
      (browsing (Form.render [("search", "Évier")]))).listing?.map (·.info.count) = some 1
    ∧ (respond searching marked (draw Uuid.zero)
      (browsing (Form.render [("search", "évier")]))).listing?.map (·.info.count) = some 0 := by
  rw [respond, respond, run_searching, run_marked]
  refine ⟨.cons (.inr (.inl ?_)) ?_, by decide +kernel, by decide +kernel⟩
  · exact ⟨by decide, by decide, by decide, by decide⟩
  · exact List.forall₂_same.2 fun c _ => .inl rfl

end Service

end IssueTracker
