import IssueTracker.Proofs.Serving
import Mathlib.Data.List.Forall2

/-! A resource is built by calls, and its router and its documentation say the same: a
request runs the handler of a call exactly if the record of the call has its method and a
path that takes its path. -/

namespace IssueTracker

universe u

/-- The template of the record takes a path. -/
def RouteDoc.takes (d : RouteDoc) (path : List Char) : Bool :=
  takesPath d.path.toList path

/-- One of the calls that build a resource. -/
inductive Registration (η : Type u) where
  | list (envelope : String) (h : η)
  | create (payload : String) (h : η)
  | get (h : η)
  | update (payload : String) (h : η)
  | delete (h : η)
  | subList (segment : List Char) (operation envelope : String) (h : η)
  | subCreate (segment : List Char) (operation payload response : String) (h : η)

namespace Registration

variable {η : Type u}

def apply (r : Resource η) : Registration η → Resource η
  | list envelope h => r.list envelope h
  | create payload h => r.create payload h
  | get h => r.get h
  | update payload h => r.update payload h
  | delete h => r.delete h
  | subList segment operation envelope h => r.subList segment operation envelope h
  | subCreate segment operation payload response h =>
    r.subCreate segment operation payload response h

def method : Registration η → String
  | list .. | get .. | subList .. => "GET"
  | create .. | subCreate .. => "POST"
  | update .. => "PUT"
  | delete .. => "DELETE"

def place : Registration η → Place
  | list .. | create .. => .collection
  | get .. | update .. | delete .. => .item
  | subList segment .. | subCreate segment .. => .nested segment

def handler : Registration η → η
  | list _ h | create _ h | get h | update _ h | delete h | subList _ _ _ h
  | subCreate _ _ _ _ h => h

/-- The call is what is registered. -/
def Makes (g : Registration η) (c : Call η) : Prop :=
  c.place = g.place ∧ c.method = g.method ∧ c.handler = g.handler

theorem apply_eq (r : Resource η) (g : Registration η) : ∃ c, g.Makes c ∧ g.apply r = r.add c := by
  cases g <;> exact ⟨_, ⟨rfl, rfl, rfl⟩, rfl⟩

theorem method_ne_head (g : Registration η) : g.method ≠ "HEAD" := by
  cases g <;> simp [method]

end Registration

namespace Resource

variable {η : Type u}

/-- The resource that is built by some calls, one after another. -/
def build (typeName : String) (base : List (List Char)) (param : List Char)
    (gs : List (Registration η)) : Resource η :=
  gs.foldl Registration.apply { typeName, base := base.flatMap ('/' :: ·), param }

theorem foldl_apply (r : Resource η) (gs : List (Registration η)) :
    ∃ cs, List.Forall₂ Registration.Makes gs cs
      ∧ gs.foldl Registration.apply r = { r with calls := r.calls ++ cs } := by
  induction gs generalizing r with
  | nil => exact ⟨[], .nil, by simp⟩
  | cons g gs ih =>
    obtain ⟨c, makes, applied⟩ := g.apply_eq r
    obtain ⟨cs, rest, built⟩ := ih (r.add c)
    refine ⟨c :: cs, .cons makes rest, ?_⟩
    rw [List.foldl_cons, applied, built]
    simp [add]

theorem exists_zip {α β : Type*} {R : α → β → Prop} {l : List α} {l' : List β} {b : β}
    (h : List.Forall₂ R l l') (hb : b ∈ l') : ∃ a, (a, b) ∈ l.zip l' := by
  induction h with
  | nil => cases hb
  | cons _ _ ih =>
    rcases List.mem_cons.1 hb with rfl | hb
    · exact ⟨_, List.mem_cons_self⟩
    · obtain ⟨a, ha⟩ := ih hb
      exact ⟨a, List.mem_cons_of_mem _ ha⟩

/-- The calls of a sequence may stand together: no method twice on one path. -/
theorem build_sound {typeName : String} {base : List (List Char)} {param : List Char}
    {gs : List (Registration η)} (some_ : base ≠ []) (static : ∀ s ∈ base, IsStatic s)
    (name : IsName param) (nested : ∀ g ∈ gs, ∀ s, g.place = .nested s → IsStatic s)
    (once : (gs.map fun g => (g.place.path base param, g.method)).Nodup) {cs : List (Call η)}
    (makes : List.Forall₂ Registration.Makes gs cs) :
    Sound ⟨typeName, base.flatMap ('/' :: ·), param, cs⟩ base := by
  have made : ∀ c ∈ cs, ∃ g ∈ gs, g.Makes c := by
    intro c hc
    obtain ⟨g, mem⟩ := exists_zip makes hc
    exact ⟨g, (List.of_mem_zip mem).1, List.forall₂_zip makes mem⟩
  refine ⟨?_, some_, static, name, ?_, ?_, ?_⟩
  · simp only [Segment.path, List.flatMap_map]
    rfl
  · intro c hc s hs
    obtain ⟨g, hg, place, -⟩ := made c hc
    exact nested g hg s (place.symm.trans hs)
  · have pairs : gs.map (fun g => (g.place, g.method)) = cs.map fun c => (c.place, c.method) := by
      rw [← List.forall₂_eq_eq_eq, List.forall₂_map_left_iff, List.forall₂_map_right_iff]
      exact makes.imp fun g c made => Prod.ext made.1.symm made.2.1.symm
    have once : ((gs.map fun g => (g.place, g.method)).map
        (Prod.map (Place.path base param) id)).Nodup := by
      rwa [List.map_map]
    rw [← pairs]
    exact List.Nodup.of_map _ once
  · intro c hc
    obtain ⟨g, -, -, method, -⟩ := made c hc
    exact method ▸ g.method_ne_head

/-- The templates that have a route: of the collection, of one resource, and those that are
documented. -/
def paths (r : Resource η) : List (List Char) :=
  r.path .collection :: r.path .item :: r.docs.map fun d => d.path.toList

section Documented

variable {r : Resource η} {base : List (List Char)} {gs : List (Registration η)} {c : Call η}
  {place : Place} {m : String} {h : η} {p t : List Char}

theorem path_doc (r : Resource η) (c : Call η) : (r.doc c).path.toList = r.path c.place := by
  rw [doc, String.toList_ofList]

theorem mem_docs {d : RouteDoc} : d ∈ r.docs ↔ ∃ c ∈ r.calls, r.doc c = d :=
  List.mem_map

theorem place_mem (hc : c ∈ r.calls) : c.place ∈ r.places :=
  mem_places.2 (.inr (.inr ⟨c, hc, rfl⟩))

theorem takes_doc : (r.doc c).takes p = true ↔ r.Takes c.place p := by
  rw [RouteDoc.takes, path_doc, Takes]

/-- The templates with a route are the paths of the places. -/
theorem mem_paths : t ∈ r.paths ↔ ∃ q ∈ r.places, t = r.path q := by
  simp only [paths, docs, List.map_map, List.mem_cons, List.mem_map, Function.comp, path_doc]
  constructor
  · rintro (rfl | rfl | ⟨c, hc, rfl⟩)
    · exact ⟨_, mem_places.2 (.inl rfl), rfl⟩
    · exact ⟨_, mem_places.2 (.inr (.inl rfl)), rfl⟩
    · exact ⟨_, place_mem hc, rfl⟩
  · rintro ⟨q, hq, rfl⟩
    rcases mem_places.1 hq with rfl | rfl | ⟨c, hc, rfl⟩
    · exact .inl rfl
    · exact .inr (.inl rfl)
    · exact .inr (.inr ⟨c, hc, rfl⟩)

theorem mem_zip_docs {g : Registration η} {d : RouteDoc} :
    (g, d) ∈ gs.zip r.docs ↔ ∃ c, (g, c) ∈ gs.zip r.calls ∧ r.doc c = d := by
  rw [docs, List.zip_map_right]
  simp

namespace Sound

variable (sound : r.Sound base)
include sound

/-- The handler of a call runs for the method and the paths of its record. -/
theorem serve_documented (makes : List.Forall₂ Registration.Makes gs r.calls) :
    (∃ cs, r.routes.serve m p = .run h cs) ↔
      ∃ e ∈ gs.zip r.docs, e.1.handler = h ∧ e.2.method = verb m ∧ e.2.takes p := by
  constructor
  · rintro ⟨caps, run_⟩
    by_cases there : ∃ q ∈ r.places, r.Takes q p
    · obtain ⟨q, hq, hqt⟩ := there
      obtain ⟨c, hc, rfl, hm, hh⟩ := (sound.serve_run hq hqt).1 ⟨caps, run_⟩
      obtain ⟨g, hg⟩ := exists_zip makes hc
      obtain ⟨-, -, handler⟩ := List.forall₂_zip makes hg
      exact ⟨(g, r.doc c), mem_zip_docs.2 ⟨c, hg, rfl⟩, handler.symm.trans hh, hm,
        takes_doc.2 hqt⟩
    · rw [sound.serve_notFound fun q hq hqt => there ⟨q, hq, hqt⟩] at run_
      cases run_
  · rintro ⟨⟨g, d⟩, mem, hh, hm, taken⟩
    obtain ⟨c, hg, rfl⟩ := mem_zip_docs.1 mem
    obtain ⟨-, -, handler⟩ := List.forall₂_zip makes hg
    have hc : c ∈ r.calls := (List.of_mem_zip hg).2
    exact (sound.serve_run (place_mem hc) (takes_doc.1 taken)).2
      ⟨c, hc, rfl, hm, handler.trans hh⟩

/-- A path with a route, but without the method, names the methods documented for it. -/
theorem serve_undocumented (ht : t ∈ r.paths) (taken : takesPath t p = true)
    (missing : ∀ d ∈ r.docs, d.path.toList = t → d.method ≠ verb m) :
    ∃ allow, r.routes.serve m p = .notAllowed allow ∧ allow.Nodup
      ∧ ∀ a, a ∈ allow ↔ ∃ d ∈ r.docs, d.path.toList = t
        ∧ (d.method = a ∨ a = "HEAD" ∧ d.method = "GET") := by
  obtain ⟨q, hq, rfl⟩ := mem_paths.1 ht
  -- a call whose record has the path of the place is a call of the place
  have same {c : Call η} (hc : c ∈ r.calls) : (r.doc c).path.toList = r.path q ↔ c.place = q := by
    rw [path_doc]
    refine ⟨fun here => sound.takes_unique (place_mem hc) hq ?_ taken, fun here => by rw [here]⟩
    rwa [Takes, here]
  refine ⟨_, sound.serve_notAllowed hq taken fun c hc here => ?_, sound.nodup_allow q, fun a => ?_⟩
  · exact missing (r.doc c) (mem_docs.2 ⟨c, hc, rfl⟩) ((same hc).2 here)
  · rw [sound.mem_allow]
    constructor
    · rintro ⟨c, hc, here, hm⟩
      exact ⟨r.doc c, mem_docs.2 ⟨c, hc, rfl⟩, (same hc).2 here, hm⟩
    · rintro ⟨d, hd, here, hm⟩
      obtain ⟨c, hc, rfl⟩ := mem_docs.1 hd
      exact ⟨c, hc, (same hc).1 here, hm⟩

theorem serve_elsewhere (none_ : ∀ t ∈ r.paths, takesPath t p = false) :
    r.routes.serve m p = .notFound := by
  refine sound.serve_notFound fun q hq hqt => ?_
  have absent := none_ _ (mem_paths.2 ⟨q, hq, rfl⟩)
  rw [Takes, absent] at hqt
  cases hqt

end Sound

end Documented

/-- Router and documentation agree on every resource that calls build without registering a
method twice on a path. There is one record for each call, in their order. A call's handler
is run for the method and the paths of its record. A path with a route but without the method
names the methods documented for it, and every other path is not found. -/
theorem build_agrees (typeName : String) (base : List (List Char)) (param : List Char)
    (gs : List (Registration η)) (some_ : base ≠ []) (static : ∀ s ∈ base, IsStatic s)
    (name : IsName param) (nested : ∀ g ∈ gs, ∀ s, g.place = .nested s → IsStatic s)
    (once : (gs.map fun g => (g.place.path base param, g.method)).Nodup) :
    let r := build typeName base param gs
    let paths := Place.path base param .collection :: Place.path base param .item ::
      r.docs.map fun d => d.path.toList
    r.error? = none
    ∧ List.Forall₂ (fun g d => d.method = g.method
        ∧ d.path = String.ofList (g.place.path base param)) gs r.docs
    ∧ (∀ method path h, (∃ cs, r.routes.serve method path = .run h cs) ↔
        ∃ e ∈ gs.zip r.docs, e.1.handler = h ∧ e.2.method = verb method ∧ e.2.takes path)
    ∧ (∀ method path, ∀ t ∈ paths, takesPath t path →
        (∀ d ∈ r.docs, d.path.toList = t → d.method ≠ verb method) →
        ∃ allow, r.routes.serve method path = .notAllowed allow ∧ allow.Nodup
          ∧ ∀ a, a ∈ allow ↔ ∃ d ∈ r.docs, d.path.toList = t
            ∧ (d.method = a ∨ a = "HEAD" ∧ d.method = "GET"))
    ∧ ∀ method path, (∀ t ∈ paths, takesPath t path = false) →
        r.routes.serve method path = .notFound := by
  intro r paths
  obtain ⟨cs, makes, built⟩ :=
    foldl_apply { typeName, base := base.flatMap ('/' :: ·), param } gs
  have whole : r = ⟨typeName, base.flatMap ('/' :: ·), param, cs⟩ := by
    rw [← List.nil_append cs]
    exact built
  have sound : r.Sound base := whole ▸ build_sound some_ static name nested once makes
  have calls : r.calls = cs := by rw [whole]
  have path (q : Place) : r.path q = q.path base param := by
    rw [sound.path_eq, Place.path, whole]
  have listed : paths = r.paths := by rw [Resource.paths, path, path]
  refine ⟨sound.error?_eq_none, ?_, fun _ _ _ => sound.serve_documented (calls ▸ makes),
    fun _ _ t ht => sound.serve_undocumented (listed ▸ ht),
    fun _ _ none_ => sound.serve_elsewhere (listed ▸ none_)⟩
  rw [docs, calls, List.forall₂_map_right_iff]
  refine makes.imp fun g c made => ⟨made.2.1, ?_⟩
  rw [doc, path, made.1]

/-- The calls that build the operations on issues. -/
def issueCalls : List (Registration Handler) :=
  [.list "TargetIssueList" Service.listIssues, .create "TargetIssueEntity" Service.createIssue,
    .get Service.getIssue, .update "TargetIssueEntity" Service.updateIssue,
    .delete Service.deleteIssue,
    .subList "comments".toList "comments" "CommentList" Service.listComments,
    .subCreate "comments".toList "commentsAdd" "CommentEntity" "Comment" Service.addComment]

theorem issues_eq : Service.issues =
    build "TargetIssue" ["api".toList, "v1".toList, "issues".toList] "issueId".toList issueCalls :=
  rfl

/-- The comments of an issue are listed for `HEAD` too, and nothing is put on all issues. -/
theorem build_agrees_issues :
    (∃ cs, Service.issues.routes.serve "HEAD" "/api/v1/issues/7/comments".toList =
        .run Service.listComments cs)
      ∧ ∃ allow, Service.issues.routes.serve "PUT" "/api/v1/issues".toList = .notAllowed allow
        ∧ "HEAD" ∈ allow ∧ "PUT" ∉ allow := by
  have nested : ∀ g ∈ issueCalls, ∀ s, g.place = .nested s → IsStatic s := by
    intro g hg s hs
    obtain rfl : "comments".toList = s := by
      simp only [issueCalls, List.mem_cons, List.not_mem_nil, or_false] at hg
      rcases hg with rfl | rfl | rfl | rfl | rfl | rfl | rfl <;> cases hs <;> rfl
    decide
  rw [issues_eq]
  obtain ⟨-, -, run_, notAllowed, -⟩ := build_agrees "TargetIssue"
    ["api".toList, "v1".toList, "issues".toList] "issueId".toList issueCalls (by simp) (by decide)
    (by decide) nested (by decide)
  refine ⟨(run_ _ _ _).2 ⟨_, List.mem_iff_getElem?.2 ⟨5, rfl⟩, rfl, by decide, by decide⟩, ?_⟩
  obtain ⟨allow, served, -, mem⟩ := notAllowed "PUT" "/api/v1/issues".toList _ List.mem_cons_self
    (by decide) (by decide)
  refine ⟨allow, served, (mem _).2 (by decide), fun put => ?_⟩
  exact absurd ((mem _).1 put) (by decide)

end Resource
end IssueTracker
