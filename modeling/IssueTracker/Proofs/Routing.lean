import IssueTracker.Service.App
import Mathlib.Data.List.TakeWhile

/-! Which operation a request is for. `Aim.ofPath?` reads it off the pieces of the
path between slashes, and `find?_issues` says that the router finds just that; so what
a request does is decided by `Request.operation?`, and which issue it is about by
`Request.subject?`. -/

namespace IssueTracker

/-- What a path is about: all issues, one of them, or its comments. The text that names
the issue is as it stands in the path. -/
inductive Aim where
  | all
  | one (raw : List Char)
  | comments (raw : List Char)
  deriving DecidableEq

inductive Operation where
  | list
  | create
  | get
  | update
  | delete
  | comments
  | addComment
  deriving DecidableEq

namespace Operation

def handler : Operation → Handler
  | .list => Service.listIssues
  | .create => Service.createIssue
  | .get => Service.getIssue
  | .update => Service.updateIssue
  | .delete => Service.deleteIssue
  | .comments => Service.listComments
  | .addComment => Service.addComment

def method : Operation → String
  | .list => "GET"
  | .create => "POST"
  | .get => "GET"
  | .update => "PUT"
  | .delete => "DELETE"
  | .comments => "GET"
  | .addComment => "POST"

end Operation

namespace Aim

/-- The pieces of the path that all paths of the service begin with. -/
def base : List (List Char) :=
  [[], "api".toList, "v1".toList, "issues".toList]

def ofPath? (path : List Char) : Option Aim :=
  let ps := pieces '/' path
  if ps.take 4 = base then
    match ps.drop 4 with
    | [] => some .all
    | [raw] => if raw.isEmpty then none else some (.one raw)
    | [raw, last] => if last = "comments".toList then some (.comments raw) else none
    | _ => none
  else none

/-- The operation with this method; `HEAD` is for what `GET` is for. -/
def operation? (a : Aim) (method : String) : Option Operation :=
  match a, if method = "HEAD" then "GET" else method with
  | .all, "GET" => some .list
  | .all, "POST" => some .create
  | .one _, "GET" => some .get
  | .one _, "PUT" => some .update
  | .one _, "DELETE" => some .delete
  | .comments _, "GET" => some .comments
  | .comments _, "POST" => some .addComment
  | _, _ => none

/-- The id that a text in a path spells. -/
def idOf? (raw : List Char) : Option Uuid :=
  (Utf8.strict? (percentDecode (Utf8.encode raw))).bind Uuid.ofChars?

def subject? : Aim → Option Uuid
  | .all => none
  | .one raw => idOf? raw
  | .comments raw => idOf? raw

end Aim

namespace Request

def operation? (r : Request) : Option Operation :=
  (Aim.ofPath? r.uri.path).bind fun a => a.operation? r.method

/-- The issue that the path names, if it names one. -/
def subject? (r : Request) : Option Uuid :=
  (Aim.ofPath? r.uri.path).bind Aim.subject?

end Request

namespace Template

theorem captures?_chars_eq_some {cs : List Char} {t : Template} {p : List Char} {c : List Capture} :
    captures? (cs.map Part.char ++ t) p = some c ↔ ∃ q, p = cs ++ q ∧ captures? t q = some c := by
  constructor
  · intro h
    induction cs generalizing p with
    | nil => exact ⟨p, rfl, h⟩
    | cons a r ih =>
      cases p with
      | nil => simp [captures?] at h
      | cons d p =>
        rw [List.map_cons, List.cons_append, captures?] at h
        split at h
        · next ha =>
          obtain ⟨q, rfl, hq⟩ := ih h
          exact ⟨q, by rw [ha, List.cons_append], hq⟩
        · cases h
  · rintro ⟨q, rfl, h⟩
    rw [captures?_chars, h]

theorem drop_takeWhile {α : Type} (f : α → Bool) (l : List α) :
    l.drop (l.takeWhile f).length = l.dropWhile f := by
  have whole : (l.takeWhile f ++ l.dropWhile f).drop (l.takeWhile f).length = l.dropWhile f :=
    List.drop_left
  rwa [List.takeWhile_append_dropWhile] at whole

/-- A capture takes all up to the next slash or the end. -/
theorem captures?_segment_eq_some {n : List Char} {t : Template} {p : List Char}
    {c : List Capture} :
    captures? (.segment n :: t) p = some c ↔ p ≠ [] ∧ ∃ raw q c', p = raw ++ q ∧ '/' ∉ raw
      ∧ (q = [] ∨ q.head? = some '/') ∧ captures? t q = some c' ∧ c = ⟨n, raw⟩ :: c' := by
  cases p with
  | nil => simp [captures?]
  | cons d p =>
    rw [captures?]
    constructor
    · intro h
      obtain ⟨c', hc, rfl⟩ := Option.map_eq_some_iff.1 h
      refine ⟨by simp, _, _, c', (List.takeWhile_append_dropWhile (p := (· != '/'))).symm, ?_, ?_,
        ?_, rfl⟩
      · intro hm
        simpa using List.mem_takeWhile_imp hm
      · cases hq : (d :: p).dropWhile (· != '/') with
        | nil => exact .inl rfl
        | cons e q =>
          right
          have := List.head?_dropWhile_not (· != '/') (d :: p)
          simpa [hq] using this
      · rwa [drop_takeWhile] at hc
    · rintro ⟨-, raw, q, c', hp, hn, hq, hc, rfl⟩
      have hraw : (d :: p).takeWhile (· != '/') = raw := by
        have plain : ∀ a ∈ raw, a ≠ '/' := fun a ha => ne_of_mem_of_not_mem ha hn
        rw [hp, List.takeWhile_append_of_pos (by simpa using plain)]
        rcases hq with rfl | hq
        · simp
        · cases q with
          | nil => simp
          | cons e q => simp_all
      simp only [hraw, Option.map_eq_some_iff]
      exact ⟨c', by rw [hp, List.drop_left, hc], rfl⟩

theorem preferred_self (t : Template) : preferred t t = false := by
  induction t with
  | nil => rfl
  | cons p t ih => simp [preferred, ih]

end Template

namespace Aim

def path : Aim → List Char
  | .all => Service.issues.base
  | .one raw => Service.issues.base ++ '/' :: raw
  | .comments raw => Service.issues.base ++ '/' :: (raw ++ "/comments".toList)

/-- The text that names an issue is one piece, and not empty at the end of a path. -/
def Sound : Aim → Prop
  | .all => True
  | .one raw => '/' ∉ raw ∧ raw ≠ []
  | .comments raw => '/' ∉ raw

theorem base_eq : Service.issues.base = "/api/v1/issues".toList :=
  rfl

theorem pieces_base (r : List Char) :
    pieces '/' (Service.issues.base ++ '/' :: r) = base ++ pieces '/' r := by
  change pieces '/' ([] ++ '/' :: ("api".toList ++ '/' :: ("v1".toList ++ '/' ::
    ("issues".toList ++ '/' :: r)))) = _
  rw [pieces_append_sep _ (by simp), pieces_append_sep _ (by decide),
    pieces_append_sep _ (by decide), pieces_append_sep _ (by decide)]
  rfl

theorem ofPath?_path {a : Aim} (h : a.Sound) : ofPath? a.path = some a := by
  cases a with
  | all => rfl
  | one raw =>
    obtain ⟨hn, he⟩ := h
    rw [ofPath?, path, pieces_base, pieces_of_not_mem hn]
    simp [base, he]
  | comments raw =>
    have hc : pieces '/' (raw ++ "/comments".toList) = [raw, "comments".toList] := by
      rw [show "/comments".toList = '/' :: "comments".toList from rfl, pieces_append_sep _ h,
        pieces_of_not_mem (by decide)]
    rw [ofPath?, path, pieces_base, hc]
    rfl

theorem path_of_ofPath? {p : List Char} {a : Aim} (h : ofPath? p = some a) :
    a.Sound ∧ p = a.path := by
  have join : List.intercalate ['/'] (pieces '/' p) = p := intercalate_pieces p
  have plain : ∀ q ∈ pieces '/' p, '/' ∉ q := fun q hq => not_mem_of_mem_pieces hq
  rw [ofPath?] at h
  split at h
  · next hb =>
    rw [← List.take_append_drop 4 (pieces '/' p), hb] at join plain
    split at h
    · next hd =>
      obtain rfl := Option.some.inj h
      rw [hd] at join
      exact ⟨trivial, join.symm⟩
    · next raw hd =>
      split at h
      · cases h
      · next he =>
        obtain rfl := Option.some.inj h
        rw [hd] at join plain
        exact ⟨⟨plain raw (by simp), by simpa using he⟩,
          join.symm.trans (by simp [base, path, base_eq])⟩
    · next raw last hd =>
      split at h
      · next hl =>
        obtain rfl := Option.some.inj h
        rw [hd, hl] at join
        rw [hd] at plain
        exact ⟨plain raw (by simp), join.symm.trans (by simp [base, path, base_eq])⟩
      · cases h
    · cases h
  · cases h

theorem ofPath?_eq_some {p : List Char} {a : Aim} : ofPath? p = some a ↔ a.Sound ∧ p = a.path :=
  ⟨path_of_ofPath?, fun ⟨h, hp⟩ => hp ▸ ofPath?_path h⟩

/-- The place of a resource that the path is about, and what is captured there. -/
def place : Aim → Place
  | .all => .collection
  | .one _ => .item
  | .comments _ => .nested "comments".toList

def captures : Aim → List Capture
  | .all => []
  | .one raw => [⟨Service.issues.param, raw⟩]
  | .comments raw => [⟨Service.issues.param, raw⟩]

def template : Aim → Template
  | .all => Service.issues.base.map Part.char
  | .one _ => (Service.issues.base ++ ['/']).map Part.char ++ [.segment Service.issues.param]
  | .comments _ => (Service.issues.base ++ ['/']).map Part.char
      ++ .segment Service.issues.param :: "/comments".toList.map Part.char

def dispatch (a : Aim) : Dispatch Handler :=
  ⟨Service.issues.route a.place, a.template, a.captures⟩

theorem captures?_all {p : List Char} {c : List Capture} :
    (template .all).captures? p = some c ↔ p = path .all ∧ c = captures .all := by
  have end_ : ∀ q, Template.captures? [] q = some c ↔ q = [] ∧ c = [] := by
    intro q
    cases q <;> simp [Template.captures?, eq_comm]
  rw [template, ← List.append_nil (List.map _ _), Template.captures?_chars_eq_some]
  simp only [end_, path, captures]
  constructor
  · rintro ⟨q, rfl, rfl, rfl⟩
    exact ⟨List.append_nil _, rfl⟩
  · rintro ⟨rfl, rfl⟩
    exact ⟨[], (List.append_nil _).symm, rfl, rfl⟩

theorem captures?_one {p : List Char} {c : List Capture} :
    (template (.one [])).captures? p = some c ↔
      ∃ raw, (one raw).Sound ∧ p = path (.one raw) ∧ c = captures (.one raw) := by
  rw [template, Template.captures?_chars_eq_some]
  constructor
  · rintro ⟨q, rfl, h⟩
    obtain ⟨hq, raw, r, c', rfl, hn, -, hc, rfl⟩ := Template.captures?_segment_eq_some.1 h
    cases r with
    | cons => simp [Template.captures?] at hc
    | nil =>
      obtain rfl : c' = [] := by simpa [Template.captures?, eq_comm] using hc
      exact ⟨raw, ⟨hn, by simpa using hq⟩, by simp [path], rfl⟩
  · rintro ⟨raw, ⟨hn, he⟩, rfl, rfl⟩
    refine ⟨raw, by simp [path], Template.captures?_segment_eq_some.2 ⟨he, raw, [], [], ?_⟩⟩
    simp [hn, Template.captures?, captures]

theorem captures?_comments {p : List Char} {c : List Capture} :
    (template (.comments [])).captures? p = some c ↔
      ∃ raw, (comments raw).Sound ∧ p = path (.comments raw) ∧ c = captures (.comments raw) := by
  rw [template, Template.captures?_chars_eq_some]
  constructor
  · rintro ⟨q, rfl, h⟩
    obtain ⟨-, raw, r, c', rfl, hn, -, hc, rfl⟩ := Template.captures?_segment_eq_some.1 h
    rw [← List.append_nil (List.map _ _), Template.captures?_chars_eq_some] at hc
    obtain ⟨r, rfl, hc⟩ := hc
    cases r with
    | cons => simp [Template.captures?] at hc
    | nil =>
      obtain rfl : c' = [] := by simpa [Template.captures?, eq_comm] using hc
      exact ⟨raw, hn, by simp [path], rfl⟩
  · rintro ⟨raw, hn, rfl, rfl⟩
    refine ⟨raw ++ "/comments".toList, by simp [path], Template.captures?_segment_eq_some.2 ?_⟩
    refine ⟨by simp, raw, "/comments".toList, [], rfl, hn, .inr rfl, ?_, rfl⟩
    rw [← List.append_nil (List.map _ _), Template.captures?_chars_eq_some]
    exact ⟨[], by simp, rfl⟩

/-- A route takes the paths that are about its place, and no others. -/
def Takes (place : Place) : Prop :=
  ∀ p, (Service.issues.route place).dispatch? p =
    (ofPath? p).bind fun a => if a.place = place then some a.dispatch else none

theorem takes_all : Takes .collection := by
  intro p
  ext d
  change Option.map _ ((template .all).captures? p) = some d ↔ _
  simp only [Option.map_eq_some_iff, captures?_all, Option.bind_eq_some_iff, ofPath?_eq_some,
    Option.ite_none_right_eq_some]
  constructor
  · rintro ⟨_, ⟨rfl, rfl⟩, rfl⟩
    exact ⟨.all, ⟨trivial, rfl⟩, rfl, rfl⟩
  · rintro ⟨a, ⟨-, rfl⟩, hp, hd⟩
    cases a with
    | all => exact ⟨_, ⟨rfl, rfl⟩, Option.some.inj hd⟩
    | one => cases hp
    | comments => cases hp

theorem takes_one : Takes .item := by
  intro p
  ext d
  change Option.map _ ((template (.one [])).captures? p) = some d ↔ _
  simp only [Option.map_eq_some_iff, captures?_one, Option.bind_eq_some_iff, ofPath?_eq_some,
    Option.ite_none_right_eq_some]
  constructor
  · rintro ⟨_, ⟨raw, h, rfl, rfl⟩, rfl⟩
    exact ⟨.one raw, ⟨h, rfl⟩, rfl, rfl⟩
  · rintro ⟨a, ⟨h, rfl⟩, hp, hd⟩
    cases a with
    | all => cases hp
    | one raw => exact ⟨_, ⟨raw, h, rfl, rfl⟩, Option.some.inj hd⟩
    | comments => cases hp

theorem takes_comments : Takes (.nested "comments".toList) := by
  intro p
  ext d
  change Option.map _ ((template (.comments [])).captures? p) = some d ↔ _
  simp only [Option.map_eq_some_iff, captures?_comments, Option.bind_eq_some_iff, ofPath?_eq_some,
    Option.ite_none_right_eq_some]
  constructor
  · rintro ⟨_, ⟨raw, h, rfl, rfl⟩, rfl⟩
    exact ⟨.comments raw, ⟨h, rfl⟩, rfl, rfl⟩
  · rintro ⟨a, ⟨h, rfl⟩, hp, hd⟩
    cases a with
    | all => cases hp
    | one => cases hp
    | comments raw => exact ⟨_, ⟨raw, h, rfl, rfl⟩, Option.some.inj hd⟩

theorem candidates_issues (p : List Char) :
    Service.issues.routes.candidates p = ((ofPath? p).map dispatch).toList := by
  change (List.map Service.issues.route [.collection, .item, .nested "comments".toList]).filterMap
    (fun r => r.dispatch? p) = _
  simp only [List.map_cons, List.map_nil, List.filterMap_cons, List.filterMap_nil,
    takes_all p, takes_one p, takes_comments p]
  cases ofPath? p with
  | none => rfl
  | some a => cases a <;> rfl

/-- The router finds what the path is about. -/
theorem find?_issues (p : List Char) :
    Service.issues.routes.find? p = (ofPath? p).map dispatch := by
  rw [Router.find?, candidates_issues]
  cases ofPath? p with
  | none => rfl
  | some a => simp [Template.preferred_self]

theorem handler?_dispatch (a : Aim) (method : String) :
    a.dispatch.route.handler? method = (a.operation? method).map Operation.handler := by
  by_cases get : method = "GET"
  · subst get; cases a <;> rfl
  by_cases head : method = "HEAD"
  · subst head; cases a <;> rfl
  by_cases post : method = "POST"
  · subst post; cases a <;> rfl
  by_cases put : method = "PUT"
  · subst put; cases a <;> rfl
  by_cases delete : method = "DELETE"
  · subst delete; cases a <;> rfl
  -- no route has a handler for any other method
  have none_ : a.operation? method = none := by
    cases a <;> simp [operation?, get, head, post, put, delete]
  have lookup (h : Handler) (hs : List (String × Handler)) {m : String} (hm : method ≠ m) :
      ((m, h) :: hs).lookup method = hs.lookup method := by
    rw [List.lookup_cons, beq_eq_false_iff_ne.2 hm]
  rw [none_, Route.handler?, if_neg (by simpa using head), Option.or_none]
  cases a with
  | all => exact (lookup _ _ get).trans (lookup _ _ post)
  | one raw => exact (lookup _ _ get).trans ((lookup _ _ put).trans (lookup _ _ delete))
  | comments raw => exact (lookup _ _ get).trans (lookup _ _ post)

theorem pathId?_captures (a : Aim) : Service.pathId? a.captures = a.subject? := by
  have one (raw : List Char) : Service.pathId? [⟨Service.issues.param, raw⟩] = idOf? raw := by
    have passed : Capture.passed [⟨Service.issues.param, raw⟩] =
        [⟨Service.issues.param, raw⟩] := rfl
    rw [Service.pathId?, Capture.only, passed, idOf?]
    cases h : Capture.text? ⟨Service.issues.param, raw⟩ with
    | none =>
      rw [Capture.text?] at h
      simp [h, Capture.text?]
    | some t =>
      rw [Capture.text?] at h
      simp [h, Capture.text?]
  cases a with
  | all => rfl
  | one raw => exact one raw
  | comments raw => exact one raw

theorem method_of_operation? {a : Aim} {m : String} {op : Operation}
    (h : a.operation? m = some op) : m = op.method ∨ m = "HEAD" ∧ op.method = "GET" := by
  unfold operation? at h
  by_cases head : m = "HEAD"
  · rw [if_pos head] at h
    cases a <;> obtain rfl := Option.some.inj h <;> exact .inr ⟨head, rfl⟩
  · rw [if_neg head] at h
    split at h <;> cases h <;> exact .inl rfl

end Aim

namespace Request

variable {r : Request} {op : Operation}

theorem method_of_operation? (h : r.operation? = some op) :
    r.method = op.method ∨ r.method = "HEAD" ∧ op.method = "GET" := by
  obtain ⟨a, -, ha⟩ := Option.bind_eq_some_iff.1 h
  exact Aim.method_of_operation? ha

/-- The operations that write have methods of their own. -/
theorem not_reads (h : r.operation? = some op) (writes : op.method ≠ "GET") :
    r.method ≠ "GET" ∧ r.method ≠ "HEAD" := by
  rcases method_of_operation? h with hm | ⟨-, hm⟩
  · rw [hm]
    refine ⟨writes, ?_⟩
    cases op <;> decide
  · exact absurd hm writes

end Request

end IssueTracker
