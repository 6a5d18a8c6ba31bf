import IssueTracker.Proofs.Outcomes
import IssueTracker.Proofs.Tallies

/-! What a request to update an issue comes to. Behind the guard three more checks decide it,
and the last of them asks about the other issues of the target only: an issue is not in its
own way. What is written is the issue itself with the fields that the patch has, so to ask for
the same once more changes nothing but the time. -/

namespace IssueTracker

/-- The issue is the old one with the fields that the patch has in their places. -/
structure Issue.Revises (j : Issue) (p : Patch) (i : Issue) (now : Timestamp) : Prop where
  id : j.id = i.id
  project : j.project = i.project
  target : j.target = i.target
  unnamed : p.uniqId = none → j.uniqId = i.uniqId
  uniqId : ∀ n, p.uniqId = some n → j.uniqId = if n = "" then none else some n
  summary : j.summary = p.summary.getD i.summary
  desc : j.desc = p.desc.getD i.desc
  severity : j.severity = p.severity.getD i.severity
  urls : j.urls = p.urls.getD i.urls
  extras : j.extras = p.extras.getD i.extras
  references : j.references = p.references.getD i.references
  confirmed : j.confirmed = p.confirmed.getD i.confirmed
  falsePositive : j.falsePositive = p.falsePositive.getD i.falsePositive
  muted : j.muted = p.muted.getD i.muted
  resolved : j.resolved = p.resolved.getD i.resolved
  activities : j.activities = i.activities
  created : j.created = i.created
  updated : j.updated = now

/-- One of the two counts otherwise than the other: for another severity, or not as open. -/
def Issue.Moves (i j : Issue) : Prop :=
  j.severity ≠ i.severity ∨ j.falsePositive ≠ i.falsePositive ∨ j.muted ≠ i.muted
    ∨ j.resolved ≠ i.resolved

instance (i j : Issue) : Decidable (i.Moves j) :=
  inferInstanceAs (Decidable (_ ∨ _))

/-- What takes the place of a row that took a place stands there itself. -/
theorem Issue.replaced_replaced {i j : Issue} (same : j.id = i.id) (is : List Issue) :
    j.replaced (i.replaced is) = j.replaced is := by
  rw [replaced, replaced, replaced, List.map_map]
  refine List.map_congr_left fun o _ => ?_
  by_cases hit : o.id = i.id
  · simp [hit, same]
  · simp [hit]

namespace Patch

variable {p : Patch} {i j : Issue} {now : Timestamp}

theorem uniqId_apply_of_some {n : String} (sets : p.uniqId = some n) :
    (p.apply i).uniqId = if n = "" then none else some n := by
  rw [apply, sets]
  simp [storedUniqId, String.isEmpty_iff]

theorem revises_iff : j.Revises p i now ↔ j = { p.apply i with updated := now } := by
  constructor
  · intro h
    obtain ⟨_, _, _, _, _, _, _, _, _, _, _, _, _, _, _, _, _⟩ := j
    obtain ⟨rfl, rfl, rfl, unnamed, uniqId, rfl, rfl, rfl, rfl, rfl, rfl, rfl, rfl, rfl, rfl,
      rfl, rfl, rfl⟩ := h
    cases named : p.uniqId with
    | none =>
      obtain rfl := unnamed named
      simp only [apply, named, Option.map_none, Option.getD_none]
    | some n =>
      have written := uniqId_apply_of_some (i := i) named
      obtain rfl := (uniqId n named).trans written.symm
      rfl
  · rintro rfl
    refine ⟨rfl, rfl, rfl, fun none_ => ?_, fun n some_ => uniqId_apply_of_some some_, rfl, rfl,
      rfl, rfl, rfl, rfl, rfl, rfl, rfl, rfl, rfl, rfl, rfl⟩
    simp only [apply, none_, Option.map_none, Option.getD_none]

theorem differs_iff {α : Type} [DecidableEq α] {new : Option α} {old : α} :
    differs new old = true ↔ new.getD old ≠ old := by
  cases new with
  | none => simp [differs]
  | some a => simp [differs]

theorem affectsSummary_iff :
    p.affectsSummary i = true ↔ i.Moves { p.apply i with updated := now } := by
  simp only [affectsSummary, Bool.or_eq_true, differs_iff, or_assoc]
  rfl

/-- What was merged once is there already. -/
theorem apply_again (p : Patch) (i : Issue) (now later : Timestamp) :
    { p.apply { p.apply i with updated := now } with updated := later } =
      { p.apply i with updated := later } := by
  have again {α : Type} (o : Option α) (a : α) : o.getD (o.getD a) = o.getD a := by
    cases o <;> rfl
  simp only [apply, again]

end Patch

namespace Service

/-- How a request to update an issue is decided: the first check that fails is what is
answered, and if none does the issue is revised. -/
inductive Revised (s : Store) (r : Request) (u : User) (now : Timestamp) :
    Except Refusal (Issue × Issue) → Prop where
  | guarded {e : Refusal} (refused : Guarded s r u (.error e)) : Revised s r u now (.error e)
  | unreadable {i : Issue} (passed : Guarded s r u (.ok i))
    (entity : r.entity? Patch.codec = none) : Revised s r u now (.error .wrongEntity)
  | invalid {i : Issue} {p : Patch} (passed : Guarded s r u (.ok i))
    (entity : r.entity? Patch.codec = some p) (invalid : p.violations ≠ []) :
    Revised s r u now (.error (validationRefusal p.violations))
  | held {i : Issue} {p : Patch} (passed : Guarded s r u (.ok i))
    (entity : r.entity? Patch.codec = some p) (valid : p.violations = [])
    (held : ∃ o ∈ s.issues, o.id ≠ i.id ∧ o.Holds i.target p.uniqId) :
    Revised s r u now (.error .taken)
  | revised {i j : Issue} {p : Patch} (passed : Guarded s r u (.ok i))
    (entity : r.entity? Patch.codec = some p) (valid : p.violations = [])
    (free : ∀ o ∈ s.issues, o.id ≠ i.id → ¬ o.Holds i.target p.uniqId)
    (made : j.Revises p i now) : Revised s r u now (.ok (i, j))

/-- One of the cases always applies. -/
theorem revised_total (s : Store) (r : Request) (u : User) (now : Timestamp) :
    ∃ v, Revised s r u now v := by
  obtain ⟨v, guarded⟩ := guarded_total s r u
  cases v with
  | error e => exact ⟨_, .guarded guarded⟩
  | ok i =>
  cases entity : r.entity? Patch.codec with
  | none => exact ⟨_, .unreadable guarded entity⟩
  | some p =>
  by_cases valid : p.violations = []
  · by_cases held : ∃ o ∈ s.issues, o.id ≠ i.id ∧ o.Holds i.target p.uniqId
    · exact ⟨_, .held guarded entity valid held⟩
    · have free : ∀ o ∈ s.issues, o.id ≠ i.id → ¬ o.Holds i.target p.uniqId := by simpa using held
      exact ⟨_, .revised guarded entity valid free (Patch.revises_iff.2 rfl)⟩
  · exact ⟨_, .invalid guarded entity valid⟩

/-- What a decision is answered with. -/
def Outcome.ofRevision : Except Refusal (Issue × Issue) → Outcome
  | .error e => ⟨e.response, none⟩
  | .ok (i, j) => ⟨Response.of 200 (.json (Issue.codec.encode j)),
      if i.Moves j then some j.target else none⟩

/-- The store after a decision. -/
def revisedIn (s : Store) : Except Refusal (Issue × Issue) → Store
  | .error _ => s
  | .ok (_, j) => { s with issues := j.replaced s.issues }

section Handler

variable {s : Store} {i o : Issue} {p : Patch} {now : Timestamp}

/-- Another issue is in the way of a revised one just if it holds the unique id that the
patch has; what the issue had before was its own. -/
theorem clashes_revised_iff (sound : s.Sound) (hi : i ∈ s.issues) (ho : o ∈ s.issues)
    (other : o.id ≠ i.id) : ({ p.apply i with updated := now } : Issue).clashes o = true ↔
      o.Holds i.target p.uniqId := by
  unfold Issue.clashes Issue.Holds
  cases named : p.uniqId with
  | none =>
    refine iff_of_false (fun clash => ?_) (by simp)
    have own : (p.apply i).uniqId = i.uniqId := by rw [Patch.apply, named]; rfl
    simp only [own, Bool.and_eq_true, beq_iff_eq, Option.isSome_iff_ne_none] at clash
    obtain ⟨⟨some_, target⟩, same⟩ := clash
    exact (sound.apart i hi o ho target same).elim some_ (Ne.symm other)
  | some n =>
    have written : (p.apply i).uniqId = if n = "" then none else some n :=
      Patch.uniqId_apply_of_some named
    have target : (p.apply i).target = i.target := rfl
    dsimp only
    rw [written, target]
    by_cases empty : n = ""
    · simp [empty]
    · simp [empty, @eq_comm _ i.target, @eq_comm _ (some n)]

/-- The statement that updates an issue which is there fails only for the sake of another. -/
theorem updateIssue_apply (h : s.Untouched) (sound : s.Sound) (hi : i ∈ s.issues) (p : Patch)
    (now : Timestamp) : Store.updateIssue (p.apply i) now s =
      if ∃ o ∈ s.issues, o.id ≠ i.id ∧ o.Holds i.target p.uniqId then
        (.error (.notUnique s.uniqIdColumns), s)
      else (.ok (some { p.apply i with updated := now }),
        { s with issues := Issue.replaced { p.apply i with updated := now } s.issues }) := by
  have found : s.findIssueRow (p.apply i).id = some i := sound.findIssueRow h hi
  have new : (p.apply i).written i now = { p.apply i with updated := now } := rfl
  rw [h.updateIssue_eq, found]
  dsimp only
  rw [new]
  congr 1
  rw [List.any_eq_true, eq_iff_iff]
  refine exists_congr fun o => and_congr_right fun ho => ?_
  rw [Bool.and_eq_true, bne_iff_ne]
  exact and_congr_right fun other => clashes_revised_iff sound hi ho other

variable {c : Context} (h : s.Untouched) (sound : s.Sound)
  (named : pathId? c.captures = c.request.subject?)
include h sound named

theorem comes_update {v : Except Refusal (Issue × Issue)}
    (decided : Revised s c.request c.user c.draw.now v) :
    Comes (Operation.handler .update c) ⟨s, none⟩ (.ofRevision v) (revisedIn s v) := by
  cases decided with
  | guarded refused => exact .turned h sound named refused
  | unreadable passed entity => exact .passed h sound named passed (.require_none entity)
  | invalid passed entity invalid =>
    refine .passed h sound named passed (.require_some entity ?_)
    dsimp only
    rw [if_pos (by simpa using invalid)]
    exact .refused
  | @held i p passed entity valid held =>
    refine .passed h sound named passed (.require_some entity ?_)
    rw [valid]
    have rejected := updateIssue_apply h sound passed.of_ok.2.1 p c.draw.now
    exact .ask_error (rejected.trans (if_pos held)) rfl
  | @revised i j p passed entity valid free made =>
    refine .passed h sound named passed (.require_some entity ?_)
    rw [valid]
    obtain rfl := Patch.revises_iff.1 made
    have updated := updateIssue_apply h sound passed.of_ok.2.1 p c.draw.now
    refine .ask_ok (updated.trans (if_neg (by simpa using free))) (.require_some rfl ?_)
    have counts : (if p.affectsSummary i then some i.target else none) =
        if i.Moves { p.apply i with updated := c.draw.now } then some i.target else none :=
      if_congr Patch.affectsSummary_iff rfl rfl
    change Comes _ _ ⟨_, if i.Moves _ then some i.target else none⟩ _
    rw [← counts]
    exact .reply

end Handler

/-- A request that is decided this way is answered accordingly, and nothing comes of it but
the revised issue in the place of the old one, and a recomputation if it counts otherwise. -/
def Concluded (s : Service) (draw : Draw) (r : Request) (v : Except Refusal (Issue × Issue))
    (result : Response × Service) : Prop :=
  match v with
  | .error e => result = (stamp draw r e.response, s)
  | .ok (i, j) => result = (stamp draw r (Response.of 200 (.json (Issue.codec.encode j))),
      ⟨{ s.store with issues := j.replaced s.store.issues },
        s.queue ++ if i.Moves j then [j.target] else []⟩)

theorem handle_update (config : Config) (draw : Draw) {r : Request} {s : Service} {u : User}
    (h : s.store.Untouched) (sound : s.store.Sound) (known : s.store.Knows r u)
    (op : r.operation? = some .update) {v : Except Refusal (Issue × Issue)}
    (decided : Revised s.store r u draw.now v) :
    Concluded s draw r v (s.handle config draw Faults.none r) := by
  have comes := handle_comes known op fun captures named =>
    @comes_update s.store ⟨config, draw, r, captures, u⟩ h sound named v decided
  cases v with
  | error e => simpa [Concluded, Outcome.ofRevision, revisedIn] using comes
  | ok p =>
    obtain ⟨i, j⟩ := p
    refine comes.trans ?_
    dsimp only [Outcome.ofRevision, revisedIn]
    split
    · rfl
    · rfl

section Repeating

variable {s : Store} {r : Request} {u : User} {now : Timestamp} {p : Patch} {i j : Issue}

/-- The guard does not look at the body. -/
theorem Guarded.rebodied {v : Except Refusal Issue} (b : List UInt8) (g : Guarded s r u v) :
    Guarded s { r with body := b } u v := by
  cases g with
  | unnamed named => exact .unnamed named
  | missing named missing => exact .missing named missing
  | closed named there closed => exact .closed named there closed
  | passed named there access => exact .passed named there access

/-- Nothing looks at the target that the patch names. -/
theorem Revised.retargeted {x : Option String} {b : List UInt8}
    {v : Except Refusal (Issue × Issue)} (entity : r.entity? Patch.codec = some p)
    (entity' : ({ r with body := b } : Request).entity? Patch.codec = some { p with target := x })
    (decided : Revised s r u now v) : Revised s { r with body := b } u now v := by
  cases decided with
  | guarded refused => exact .guarded (refused.rebodied b)
  | unreadable passed unread => cases entity.symm.trans unread
  | invalid passed there invalid =>
    obtain rfl := Option.some.inj (entity.symm.trans there)
    have same : ({ p with target := x } : Patch).violations = p.violations := rfl
    rw [← same] at invalid ⊢
    exact .invalid (passed.rebodied b) entity' invalid
  | held passed there valid held =>
    obtain rfl := Option.some.inj (entity.symm.trans there)
    exact .held (passed.rebodied b) entity' valid held
  | revised passed there valid free made =>
    obtain rfl := Option.some.inj (entity.symm.trans there)
    obtain rfl := Patch.revises_iff.1 made
    exact .revised (passed.rebodied b) entity' valid free (Patch.revises_iff.2 rfl)

/-- What was revised is revised again in the same way, at another time. -/
theorem Revised.again (decided : Revised s r u now (.ok (i, j))) (later : Timestamp) :
    Revised { s with issues := j.replaced s.issues } r u later
      (.ok (j, { j with updated := later })) := by
  cases decided with
  | @revised _ _ p passed entity valid free made =>
    obtain ⟨named, there, access⟩ := passed.of_ok
    obtain rfl := Patch.revises_iff.1 made
    refine .revised (.passed named (Issue.replaced_mem there rfl) access) entity valid ?_
      (Patch.revises_iff.2 (Patch.apply_again p i now later).symm)
    intro o ho other
    rcases Issue.mem_replaced ho with rfl | ⟨mem, -⟩
    · exact absurd rfl other
    · exact free o mem other

/-- An issue is not in its own way: a unique id that it has may be set again, or cleared. -/
theorem Revised.of_own {e : Refusal} (sound : s.Sound) (hi : i ∈ s.issues)
    (named : r.subject? = some i.id) (entity : r.entity? Patch.codec = some p)
    (own : p.uniqId = none ∨ p.uniqId = some "" ∨ p.uniqId = i.uniqId)
    (decided : Revised s r u now (.error e)) : e.status ≠ 409 := by
  cases decided with
  | guarded refused => cases refused <;> decide
  | unreadable => decide
  | invalid => exact (by decide : (400 : Nat) ≠ 409)
  | held passed there valid held =>
    obtain rfl := Option.some.inj (entity.symm.trans there)
    obtain ⟨named', there, -⟩ := passed.of_ok
    obtain rfl := sound.eq_of_id hi there (Option.some.inj (named.symm.trans named'))
    obtain ⟨o, ho, other, target, n, asks, filled, has⟩ := held
    rcases own with own | own | own
    · simp [own] at asks
    · exact absurd (Option.some.inj (own.symm.trans asks)).symm filled
    · rcases sound.apart o ho i hi target (has.trans (asks.symm.trans own)) with none_ | same
      · cases has.symm.trans none_
      · exact absurd same other

end Repeating

/-- After any history a request to update an issue is decided by the first check that fails,
and answered accordingly. The unique id that an issue has is never in its way, nor is the
target that the patch names looked at; and the same request made once more finds all as it
asks for, so that only the time is new. -/
theorem run_update_decided (config : Config) (es : List Event) (draw : Draw) {u : User}
    {r : Request} (known : (run config es).store.Knows r u) (op : r.operation? = some .update) :
    (∃ v, Revised (run config es).store r u draw.now v)
    ∧ (∀ v, Revised (run config es).store r u draw.now v →
      Concluded (run config es) draw r v ((run config es).handle config draw Faults.none r))
    ∧ (∀ i ∈ (run config es).store.issues, ∀ p, r.subject? = some i.id →
      r.entity? Patch.codec = some p →
      p.uniqId = none ∨ p.uniqId = some "" ∨ p.uniqId = i.uniqId →
      (respond config es draw r).status ≠ 409)
    ∧ (∀ p x b, r.entity? Patch.codec = some p →
      ({ r with body := b } : Request).entity? Patch.codec = some { p with target := x } →
      (run config es).handle config draw Faults.none { r with body := b } =
        (run config es).handle config draw Faults.none r)
    ∧ ∀ i j, Revised (run config es).store r u draw.now (.ok (i, j)) → ∀ draw' : Draw,
      (run config (es ++ [.request draw Faults.none r])).handle config draw' Faults.none r =
        (stamp draw' r (Response.of 200 (.json (Issue.codec.encode
          { j with updated := draw'.now }))),
        ⟨{ (run config es).store with
          issues := Issue.replaced { j with updated := draw'.now } (run config es).store.issues },
          (run config (es ++ [.request draw Faults.none r])).queue⟩) := by
  obtain ⟨h, sound⟩ := run_intact config es
  obtain ⟨v, decided⟩ := revised_total (run config es).store r u draw.now
  have concluded := handle_update config draw h sound known op decided
  refine ⟨⟨v, decided⟩, fun v => handle_update config draw h sound known op, ?_, ?_, ?_⟩
  · intro i hi p named entity own
    rw [respond]
    cases v with
    | error e =>
      rw [concluded, stamp_status]
      exact decided.of_own sound hi named entity own
    | ok v =>
      rw [concluded, stamp_status]
      exact (by decide : (200 : Nat) ≠ 409)
  · intro p x b entity entity'
    have concluded' := handle_update config draw h sound (r := { r with body := b }) known op
      (decided.retargeted entity entity')
    cases v with
    | error e => exact concluded'.trans concluded.symm
    | ok v => exact concluded'.trans concluded.symm
  · intro i j revised draw'
    obtain ⟨h', sound'⟩ := run_intact config (es ++ [.request draw Faults.none r])
    have before := handle_update config draw h sound known op revised
    have left : run config (es ++ [.request draw Faults.none r]) = _ :=
      (run_concat config es _).trans (congrArg Prod.snd before)
    rw [left] at h' sound' ⊢
    have still : ¬ j.Moves { j with updated := draw'.now } := by simp [Issue.Moves]
    have known' := (h.knows_iff h' rfl rfl).2 known
    have again := handle_update config draw' h' sound' known' op (revised.again draw'.now)
    rw [Concluded, if_neg still, List.append_nil] at again
    dsimp only at again
    rw [Issue.replaced_replaced (by rfl)] at again
    exact again

end Service

namespace Sample

def silencing : Request := onIssue "PUT" { muted := some true }

end Sample

namespace Service

open Sample in
/-- The issue that was filed is muted, which counts; to mute it once more does not. -/
theorem run_update_decided_muted :
    (respond config (founding ++ [filing]) (draw Uuid.zero) silencing).status = 200
      ∧ (run config (founding ++ [filing] ++ [.request (draw Uuid.zero) Faults.none
        silencing])).queue = [target, target]
      ∧ ((run config (founding ++ [filing] ++ [.request (draw Uuid.zero) Faults.none
        silencing])).handle config (draw Uuid.zero) Faults.none silencing).2.queue =
          [target, target] := by
  have rows : (run config (founding ++ [filing])).store.caller? silencing = .ok (some owner)
      ∧ (run config (founding ++ [filing])).queue = [target]
      ∧ ∃ i ∈ (run config (founding ++ [filing])).store.issues, i.id = issue ∧ i.target = target
        ∧ i.muted = false ∧ (run config (founding ++ [filing])).store.Entitles owner i.project := by
    rw [run_filing]
    decide +kernel
  have asked : silencing.operation? = some .update ∧ silencing.subject? = some issue
      ∧ silencing.entity? Patch.codec = some { muted := some true } := by
    decide +kernel
  obtain ⟨known, queue, i, hi, hid, home, unmuted, access⟩ := rows
  obtain ⟨op, named, entity⟩ := asked
  obtain ⟨j, made, moves⟩ : ∃ j : Issue, j.Revises { muted := some true } i start ∧ i.Moves j :=
    ⟨_, Patch.revises_iff.2 rfl, .inr (.inr (.inl (by simp [Patch.apply, unmuted])))⟩
  obtain ⟨-, concluded, -, -, again⟩ :=
    run_update_decided config (founding ++ [filing]) (draw Uuid.zero) known op
  have revised : Revised (run config (founding ++ [filing])).store silencing owner start
      (.ok (i, j)) :=
    .revised (.passed (hid ▸ named) hi access) entity rfl (by simp [Issue.Holds]) made
  have once : (run config (founding ++ [filing])).handle config (draw Uuid.zero) Faults.none
      silencing = _ := concluded _ revised
  have twice : (run config (founding ++ [filing] ++ [.request (draw Uuid.zero) Faults.none
      silencing])).queue = [target, target] := by
    rw [run_concat, after, once, queue]
    dsimp only
    rw [if_pos moves, made.target, home]
    rfl
  refine ⟨?_, twice, ?_⟩
  · rw [respond, once, stamp_status]
    rfl
  · have same := again i j revised (draw Uuid.zero)
    rw [twice] at same
    rw [same]

end Service
end IssueTracker
