import IssueTracker.Proofs.Answers
import IssueTracker.Proofs.Integrity
import IssueTracker.Proofs.Spelling

/-! Seen from outside, the service is a map from ids to issues. A ledger is kept of what
requests are answered: the body of the last creation or update of each id, or that it was
deleted. After every history a caller with access reads exactly what the ledger says, and
nothing is found under an id that was deleted. -/

namespace IssueTracker

/-- What the answers so far say of an id. -/
inductive Entry where
  | unknown
  | present (v : Json)
  | gone

/-- An id that was deleted stays so. -/
def Entry.write (v : Json) : Entry → Entry
  | .gone => .gone
  | _ => .present v

abbrev Ledger := Uuid → Entry

namespace Ledger

def blank : Ledger := fun _ => .unknown

def change (l : Ledger) (id : Uuid) (f : Entry → Entry) : Ledger :=
  fun k => if k = id then f (l k) else l k

/-- The ledger after a request and its answer. A creation is answered with the id, an
update and a deletion name it. -/
def note (l : Ledger) (r : Request) (a : Response) : Ledger :=
  match r.operation?, a.status, a.body with
  | some .create, 201, .json v => v.id?.elim l fun id => l.change id (Entry.write v)
  | some .update, 200, .json v => r.subject?.elim l fun id => l.change id (Entry.write v)
  | some .delete, 204, _ => r.subject?.elim l fun id => l.change id fun _ => .gone
  | _, _, _ => l

/-- The ledger after an event that meets the service. -/
def after (config : Config) (s : Service) (l : Ledger) : Event → Ledger
  | .request draw faults r => l.note r (s.handle config draw faults r).1
  | _ => l

/-- The ledger of a history that starts from a service. -/
def along (config : Config) : Service → Ledger → List Event → Ledger
  | _, l, [] => l
  | s, l, e :: es => along config (s.after config e) (l.after config s e) es

variable {l : Ledger} {id k : Uuid} {f : Entry → Entry} {r : Request} {a : Response} {v : Json}

theorem change_self : l.change id f id = f (l id) :=
  if_pos rfl

theorem change_of_ne (h : k ≠ id) : l.change id f k = l k :=
  if_neg h

theorem note_create (op : r.operation? = some .create) (status : a.status = 201)
    (body : a.body = .json v) (written : v.id? = some id) :
    l.note r a = l.change id (Entry.write v) := by
  rw [note, op, status, body]
  simp only [written, Option.elim_some]

theorem note_update (op : r.operation? = some .update) (status : a.status = 200)
    (body : a.body = .json v) (named : r.subject? = some id) :
    l.note r a = l.change id (Entry.write v) := by
  rw [note, op, status, body]
  simp only [named, Option.elim_some]

theorem note_delete (op : r.operation? = some .delete) (status : a.status = 204)
    (named : r.subject? = some id) : l.note r a = l.change id fun _ => .gone := by
  rw [note, op, status]
  cases a.body <;> rw [named] <;> rfl

/-- Other operations, and requests that do not succeed, are not noted. -/
theorem note_other (h : a.isSuccess → r.operation? ≠ some .create ∧ r.operation? ≠ some .update
    ∧ r.operation? ≠ some .delete) : l.note r a = l := by
  unfold note
  split
  · next op status _ => exact absurd op (h (by simp [Response.isSuccess, status])).1
  · next op status _ => exact absurd op (h (by simp [Response.isSuccess, status])).2.1
  · next op status => exact absurd op (h (by simp [Response.isSuccess, status])).2.2
  · rfl

end Ledger

/-- The id that is drawn for a creation. -/
def Event.drawn? : Event → Option Uuid
  | .request draw _ r => if r.operation? = some .create then some draw.id else none
  | _ => none

/-- The ledger is right about the store, whose issues have ids that were drawn. -/
structure Ledger.Agrees (l : Ledger) (s : Store) (ids : List Uuid) : Prop where
  untouched : s.Untouched
  sound : s.Sound
  drawn : ∀ i ∈ s.issues, i.id ∈ ids
  present : ∀ id v, l id = .present v → ∃ i ∈ s.issues, i.id = id ∧ Issue.codec.encode i = v
  gone : ∀ id, l id = .gone → id ∈ ids ∧ ∀ i ∈ s.issues, i.id ≠ id

theorem Entry.write_of_ne_gone {e : Entry} {v : Json} (h : e ≠ .gone) : e.write v = .present v := by
  cases e with
  | unknown => rfl
  | present => rfl
  | gone => exact absurd rfl h

namespace Ledger.Agrees

variable {l : Ledger} {s s' : Store} {ids ids' : List Uuid} {i j : Issue}

/-- A ledger that says nothing is right. -/
theorem blank (untouched : s.Untouched) (sound : s.Sound) (drawn : ∀ i ∈ s.issues, i.id ∈ ids) :
    Ledger.blank.Agrees s ids where
  untouched := untouched
  sound := sound
  drawn := drawn
  present _ _ h := by cases h
  gone _ h := by cases h

theorem mono (h : l.Agrees s ids) (more : ids ⊆ ids') : l.Agrees s ids' where
  untouched := h.untouched
  sound := h.sound
  drawn i hi := more (h.drawn i hi)
  present := h.present
  gone id hg := ⟨more (h.gone id hg).1, (h.gone id hg).2⟩

/-- Nothing has happened to the issues. -/
theorem same (h : l.Agrees s ids) (untouched : s'.Untouched) (sound : s'.Sound)
    (issues : s'.issues = s.issues) : l.Agrees s' ids := by
  refine ⟨untouched, sound, ?_, ?_, ?_⟩
  · rw [issues]
    exact h.drawn
  · rw [issues]
    exact h.present
  · rw [issues]
    exact h.gone

/-- An issue was written, and the others are what they were. -/
theorem write (h : l.Agrees s ids) (untouched : s'.Untouched) (sound : s'.Sound)
    (mem : j ∈ s'.issues) (others : ∀ o, o.id ≠ j.id → (o ∈ s'.issues ↔ o ∈ s.issues))
    (drawn : j.id ∈ ids) (alive : l j.id ≠ .gone) :
    (l.change j.id (Entry.write (Issue.codec.encode j))).Agrees s' ids := by
  refine ⟨untouched, sound, fun o ho => ?_, fun id v hv => ?_, fun id hg => ?_⟩
  · by_cases same : o.id = j.id
    · rw [same]
      exact drawn
    · exact h.drawn o ((others o same).1 ho)
  · by_cases same : id = j.id
    · subst same
      rw [change_self, Entry.write_of_ne_gone alive] at hv
      exact ⟨j, mem, rfl, Entry.present.inj hv⟩
    · rw [change_of_ne same] at hv
      obtain ⟨o, ho, rfl, he⟩ := h.present id v hv
      exact ⟨o, (others o same).2 ho, rfl, he⟩
  · by_cases same : id = j.id
    · subst same
      rw [change_self, Entry.write_of_ne_gone alive] at hg
      cases hg
    · rw [change_of_ne same] at hg
      obtain ⟨hid, none_⟩ := h.gone id hg
      refine ⟨hid, fun o ho hk => ?_⟩
      exact none_ o ((others o (hk ▸ same)).1 ho) hk

theorem remove (h : l.Agrees s ids) (untouched : s'.Untouched) (sound : s'.Sound)
    (old : i ∈ s.issues) (issues : s'.issues = s.issues.filter fun o => o.id != i.id) :
    (l.change i.id fun _ => .gone).Agrees s' ids := by
  have left {o : Issue} : o ∈ s'.issues ↔ o ∈ s.issues ∧ o.id ≠ i.id := by simp [issues]
  refine ⟨untouched, sound, fun o ho => h.drawn o (left.1 ho).1, fun id v hv => ?_, fun id hg => ?_⟩
  · by_cases same : id = i.id
    · subst same
      rw [change_self] at hv
      cases hv
    · rw [change_of_ne same] at hv
      obtain ⟨o, ho, rfl, he⟩ := h.present id v hv
      exact ⟨o, left.2 ⟨ho, same⟩, rfl, he⟩
  · by_cases same : id = i.id
    · subst same
      exact ⟨h.drawn i old, fun o ho => (left.1 ho).2⟩
    · rw [change_of_ne same] at hg
      obtain ⟨hid, none_⟩ := h.gone id hg
      exact ⟨hid, fun o ho => none_ o (left.1 ho).1⟩

end Ledger.Agrees

namespace Service

section Steps

variable {config : Config} {l : Ledger} {ids : List Uuid}

theorem Turn.agrees {draw : Draw} {r : Request} {o : Outcome} {s s' : Store} (h : l.Agrees s ids)
    (fresh : r.operation? = some .create → draw.id ∉ ids) (turn : Turn draw r s o s') :
    (l.note r (stamp draw r o.response)).Agrees s'
      (ids ++ (if r.operation? = some .create then some draw.id else none).toList) := by
  have untouched := turn.untouched h.untouched
  have sound := turn.sound h.sound
  have drawn : ids ⊆ ids ++ (if r.operation? = some .create then some draw.id else none).toList :=
    List.subset_append_left _ _
  have status := stamp_status draw r o.response
  cases turn with
  | nothing reads =>
    rw [Ledger.note_other fun ok => ?_]
    · exact h.mono drawn
    · have reads := reads (by rwa [stamp_isSuccess] at ok)
      refine ⟨fun op => ?_, fun op => ?_, fun op => ?_⟩
      all_goals
        obtain ⟨get, head⟩ := Request.not_reads op (by decide)
        exact reads.elim get head
  | @create u p t i ns op target made apart new =>
    have body := stamp_body draw (Response.of 201 (.json (Issue.codec.encode i)))
      (Request.not_reads op (by decide)).2
    rw [Ledger.note_create op status body i.id?_encode]
    have id : i.id = draw.id := by rw [made]; rfl
    refine (h.mono drawn).write untouched sound (by simp) (fun o other => ?_) (by simp [op, id]) ?_
    · have ne : o ≠ i := fun same => other (congrArg _ same)
      simp [ne]
    · intro hg
      exact fresh op (id ▸ (h.gone _ hg).1)
  | @update p i j op named old made apart =>
    have body := stamp_body draw (Response.of 200 (.json (Issue.codec.encode j)))
      (Request.not_reads op (by decide)).2
    have id : j.id = i.id := by rw [made]; rfl
    rw [Ledger.note_update op status body named, ← id]
    refine (h.mono drawn).write untouched sound (Issue.replaced_mem old id.symm) (fun o other => ?_)
      (drawn (id ▸ h.drawn i old)) ?_
    · refine ⟨fun ho => ?_, fun ho => Issue.mem_replaced_of_ne ho other⟩
      rcases Issue.mem_replaced ho with rfl | ⟨ho, -⟩
      · exact absurd rfl other
      · exact ho
    · intro hg
      exact (h.gone _ hg).2 i old id.symm
  | @delete i ns op named old =>
    rw [Ledger.note_delete op status named]
    exact (h.mono drawn).remove untouched sound old rfl
  | comment op =>
    rw [Ledger.note_other fun _ => by simp [op]]
    exact (h.mono drawn).same untouched sound rfl

variable {s s' : Service} {e : Event}

/-- Only requests change the issues. -/
theorem Step.issues (step : Step config s e s') (untouched : s.store.Untouched)
    (other : ∀ draw faults r, e ≠ .request draw faults r) : s'.store.issues = s.store.issues := by
  cases step with
  | enter entered => exact entered.issues
  | request => exact absurd rfl (other _ _ _)
  | idle => rfl
  | work _ leaves =>
    obtain ⟨ts, rfl⟩ := leaves.retargets untouched
    rfl

theorem agrees_after (h : l.Agrees s.store ids) (e : Event)
    (fresh : ∀ id, e.drawn? = some id → id ∉ ids) :
    (l.after config s e).Agrees (s.after config e).store (ids ++ e.drawn?.toList) := by
  have step : Step config s e (s.after config e) := after_step h.untouched e
  cases e with
  | request draw faults r =>
    obtain ⟨o, store, turn, he⟩ := handle_turn config draw faults r h.untouched
    rw [Ledger.after, after, he]
    exact turn.agrees h fun op => fresh draw.id (if_pos op)
  | _ =>
    have issues := step.issues h.untouched (by simp)
    refine (h.same (step.untouched h.untouched) (step.sound h.untouched h.sound) issues).mono ?_
    exact List.subset_append_left _ _

theorem agrees_along (config : Config) {es : List Event} (h : l.Agrees s.store ids)
    (fresh : (ids ++ es.filterMap Event.drawn?).Nodup) :
    (Ledger.along config s l es).Agrees (es.foldl (after config) s).store
      (ids ++ es.filterMap Event.drawn?) := by
  induction es generalizing s l ids with
  | nil => exact h.mono (List.subset_append_left _ _)
  | cons e es ih =>
    have split : (e :: es).filterMap Event.drawn? =
        e.drawn?.toList ++ es.filterMap Event.drawn? := by
      cases hd : e.drawn? <;> simp [hd]
    rw [split, ← List.append_assoc] at fresh ⊢
    refine ih (agrees_after h e fun id hd taken => ?_) fresh
    have apart := List.nodup_append.1 (List.nodup_append.1 fresh).1
    exact apart.2.2 id taken id (by simp [hd]) rfl

end Steps

/-- The ledger of any part of a history is right about the store at its end. -/
theorem agrees_run (config : Config) (es fs : List Event)
    (fresh : ((es ++ fs).filterMap Event.drawn?).Nodup) :
    (Ledger.along config (run config es) .blank fs).Agrees (run config (es ++ fs)).store
      ((es ++ fs).filterMap Event.drawn?) := by
  rw [List.filterMap_append] at fresh ⊢
  rw [run_append]
  have empty : Ledger.blank.Agrees ({} : Service).store [] :=
    .blank ⟨rfl, rfl, rfl, rfl⟩ sound_empty (by simp)
  have before := agrees_along config empty (List.nodup_append.1 fresh).1
  exact agrees_along config (.blank before.untouched before.sound before.drawn) fresh

/-- The service refines a map from ids to issues. Whatever came between, a caller with
access who gets an issue is answered what its last creation or update in the history was
answered; and once it was deleted, whatever is asked of it is answered that it is not
found. -/
theorem run_refines_ledger (config : Config) (es fs : List Event)
    (fresh : ((es ++ fs).filterMap Event.drawn?).Nodup) (id : Uuid) :
    (∀ v, Ledger.along config (run config es) .blank fs id = .present v →
      ∃ i ∈ (run config (es ++ fs)).store.issues, i.id = id ∧ ∀ draw r u,
        (run config (es ++ fs)).store.Knows r u →
        (run config (es ++ fs)).store.Admits u i.project →
        r.method = "GET" → r.operation? = some .get → r.subject? = some id →
        (respond config (es ++ fs) draw r).status = 200
          ∧ (respond config (es ++ fs) draw r).body = .json v)
    ∧ (Ledger.along config (run config es) .blank fs id = .gone → ∀ draw r u op,
      (run config (es ++ fs)).store.Knows r u → r.operation? = some op → r.subject? = some id →
      (respond config (es ++ fs) draw r).status = 404) := by
  have agrees := agrees_run config es fs fresh
  constructor
  · intro v hv
    obtain ⟨i, hi, rfl, rfl⟩ := agrees.present id v hv
    refine ⟨i, hi, rfl, fun draw r u known admitted method op named => ?_⟩
    have found := agrees.sound.findIssueRow agrees.untouched hi
    have answered := congrArg Outcome.response
      (answer_get config draw agrees.untouched known op named found admitted)
    refine ⟨(stamp_status _ _ _).trans (congrArg Response.status answered), ?_⟩
    exact (stamp_body _ _ (by simp [method])).trans (congrArg Response.body answered)
  · intro hg draw r u op known hop named
    have missing : (run config (es ++ fs)).store.findIssueRow id = none := by
      rw [agrees.untouched.findIssueRow, List.find?_eq_none]
      exact fun i hi => by simpa using (agrees.gone id hg).2 i hi
    exact (stamp_status _ _ _).trans (answer_missing _ _ agrees.untouched known hop named missing)

open Sample in
/-- The owner reads what the filing was answered, and after the deletion cannot update it. -/
theorem run_refines_ledger_filed :
    (∃ v, Ledger.along config (run config founding) .blank [filing] issue = .present v
      ∧ (respond config (founding ++ [filing]) (draw issue) (onIssue "GET" {})).body = .json v)
    ∧ (respond config (founding ++ [filing, erasing]) (draw issue) (onIssue "PUT" {})).status =
      404 := by
  have present :
      (match Ledger.along config (run config founding) .blank [filing] issue with
        | .present _ => true
        | _ => false) = true := by
    decide +kernel
  have rows : (run config (founding ++ [filing])).store.caller? (onIssue "GET" {}) =
        .ok (some owner)
      ∧ (run config (founding ++ [filing])).store.grants project.id owner.id = true
      ∧ ∀ i ∈ (run config (founding ++ [filing])).store.issues, i.project = project.id := by
    rw [run_filing]
    decide +kernel
  have erased : (filed.handle config (draw issue) Faults.none (onIssue "DELETE" {})).1.status = 204
      ∧ (run config (founding ++ [filing, erasing])).store.caller? (onIssue "PUT" {}) =
        .ok (some owner) := by
    rw [run_filing, filed_eq]
    decide +kernel
  obtain ⟨known, granted, projects⟩ := rows
  obtain ⟨done, known'⟩ := erased
  constructor
  · split at present
    · next v hv =>
      obtain ⟨i, hi, -, get⟩ :=
        (run_refines_ledger config founding [filing] (by decide +kernel) issue).1 v hv
      have admitted : (run config (founding ++ [filing])).store.Admits owner i.project := by
        rw [projects i hi]
        refine .inr ?_
        rw [(run_untouched _ _).hasAccess, granted]
      exact ⟨v, hv, (get _ _ owner known admitted rfl (by decide +kernel) (by decide +kernel)).2⟩
    · cases present
  · have op : (onIssue "DELETE" {}).operation? = some .delete := by decide +kernel
    have named : (onIssue "DELETE" {}).subject? = some issue := by decide +kernel
    have gone : Ledger.along config (run config founding) .blank [filing, erasing] issue = .gone := by
      rw [Ledger.along, Ledger.along, Ledger.along, ← run_concat, ← filed, erasing, Ledger.after,
        Ledger.note_delete op done named, Ledger.change_self]
    exact (run_refines_ledger config founding [filing, erasing] (by decide +kernel) issue).2 gone
      _ _ owner .update known' (by decide +kernel) (by decide +kernel)

end Service

end IssueTracker
