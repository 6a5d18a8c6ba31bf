import IssueTracker.Proofs.Isolation

/-! The worker under failures. Whatever fails, on whatever store, a target is taken from the
queue, and either its summary is written, with the counts of what is stored, or nothing is.
When every target in the queue gets an attempt that meets no failure, only the times of
update depend on the order of the queue and on how often a target stands in it: each turn
does to its own target what no other turn does to that one or undoes
(`recounted_putSummary`). -/

namespace IssueTracker

namespace Target

variable {t t' : Target}

theorem setCell_keeps {column text : String} (h : t.setCell column text = some t') :
    (column ≠ "summary" → t'.summary = t.summary) ∧
      (column ≠ "updated" → t'.updated = t.updated) := by
  unfold setCell at h
  split at h
  case h_6 => cases h
  all_goals
    obtain ⟨v, -, rfl⟩ := Option.map_eq_some_iff.1 h
    simp

/-- Cells other than these two leave the summary and the time of update. -/
theorem foldlM_setCell {es : List Edit}
    (h : es.foldlM (fun t e => t.setCell e.column e.text) t = some t')
    (other : ∀ e ∈ es, e.column ≠ "summary" ∧ e.column ≠ "updated") :
    t'.summary = t.summary ∧ t'.updated = t.updated := by
  induction es generalizing t with
  | nil =>
    obtain rfl := Option.some.inj h
    exact ⟨rfl, rfl⟩
  | cons e es ih =>
    obtain ⟨he, hes⟩ := List.forall_mem_cons.1 other
    rw [List.foldlM_cons] at h
    obtain ⟨u, hu, h⟩ := Option.bind_eq_some_iff.1 h
    obtain ⟨summary, updated⟩ := ih h hes
    exact ⟨summary.trans ((setCell_keeps hu).1 he.1), updated.trans ((setCell_keeps hu).2 he.2)⟩

end Target

namespace Store

variable {s s' : Store} {target : Uuid} {v : Summary} {now : Timestamp}

/-- The summary of a target is written, and nothing else is changed. -/
structure SummaryWritten (s : Store) (target : Uuid) (v : Summary) (now : Timestamp)
    (s' : Store) : Prop where
  others : { s' with targets := s.targets, edits := s.edits } = s
  rows : s'.targets = s.targets.map fun t =>
    if t.id = target then { t with summary := v, updated := now } else t
  /-- What was written by hand stays, but for these two cells of the row. -/
  cells : s'.edits = s.edits.filter fun e =>
    ¬ (e.table = .targets ∧ e.row = target ∧ (e.column = "summary" ∨ e.column = "updated"))
  /-- It is what the target is read with. -/
  read : ∀ t, (findTarget target s').1 = .ok (some t) → t.summary = v ∧ t.updated = now

theorem findTarget_some {t : Target} (h : (findTarget target s).1 = .ok (some t)) :
    ∃ row, s.findTargetRow target = some row ∧ s.viewTarget row = .ok t := by
  by_cases place : s.inPlace .targets = true
  · change (do s.need [.targets]; _) = _ at h
    rw [need_ok place, ok_bind] at h
    cases found : s.findTargetRow target with
    | none =>
      rw [found] at h
      cases h
    | some row =>
      rw [found] at h
      dsimp only at h
      cases seen : s.viewTarget row with
      | error e =>
        rw [seen] at h
        cases h
      | ok t' =>
        rw [seen] at h
        cases h
        exact ⟨row, rfl, seen⟩
  · change (do s.need [.targets]; _) = _ at h
    rw [need_error place] at h
    cases h

theorem findTarget_putSummary {t : Target}
    (h : (findTarget target (s.putSummary target v now)).1 = .ok (some t)) :
    t.summary = v ∧ t.updated = now := by
  obtain ⟨row, found, seen⟩ := findTarget_some h
  have hid : row.id = target := by simpa using List.find?_some found
  have own : row.summary = v ∧ row.updated = now := by
    obtain ⟨old, -, rfl⟩ := List.mem_map.1 (List.mem_of_find?_eq_some found)
    by_cases hit : old.id = target
    · simp [hit]
    · simp [hit] at hid
  -- neither of the two cells of the row is written by hand any more
  have other : ∀ e ∈ (s.putSummary target v now).editsOf .targets row.id,
      e.column ≠ "summary" ∧ e.column ≠ "updated" := by
    intro e he
    obtain ⟨he, here⟩ := List.mem_filter.1 he
    obtain ⟨-, apart⟩ := List.mem_filter.1 he
    rw [hid] at here
    simpa [here] using apart
  unfold viewTarget view at seen
  split at seen
  · next folded =>
    obtain rfl := Except.ok.inj seen
    obtain ⟨summary, updated⟩ := Target.foldlM_setCell folded other
    exact ⟨summary.trans own.1, updated.trans own.2⟩
  · cases seen

theorem putSummary_written (s : Store) (target : Uuid) (v : Summary) (now : Timestamp) :
    s.SummaryWritten target v now (s.putSummary target v now) where
  others := rfl
  rows := List.map_congr_left fun t _ => by simp
  cells := List.filter_congr fun e _ => by rw [Bool.eq_iff_iff]; simp [or_assoc]
  read _ := findTarget_putSummary

/-- The store with these targets counted again, and one time of update for all. -/
def recounted (s : Store) (p : Uuid → Bool) (now : Timestamp) : Store :=
  { s with
    targets := s.targets.map fun t =>
      { t with summary := if p t.id then s.tally t.id else t.summary, updated := now }
    edits := s.edits.filter fun e =>
      !(e.table == .targets && p e.row && ["summary", "updated"].contains e.column) }

/-- The store with one time of update for all targets. -/
def restamped (s : Store) (now : Timestamp) : Store :=
  { s with targets := s.targets.map fun t => { t with updated := now } }

theorem restamped_eq (s : Store) (now : Timestamp) :
    s.restamped now = s.recounted (fun _ => false) now := by
  simp [restamped, recounted]

theorem edited_putSummary (s : Store) (target : Uuid) (v : Summary) (now : Timestamp)
    {table : Table} (other : table ≠ .targets) (row : Uuid) (column : String) :
    (s.putSummary target v now).edited table row column = s.edited table row column := by
  rw [edited, edited, putSummary, forgetCells, List.find?_filter]
  congr 2
  funext e
  by_cases h : e.table = table
  · have apart : (e.table == .targets) = false := beq_eq_false_iff_ne.2 (h ▸ other)
    rw [Bool.eq_iff_iff]
    simp [apart]
  · have apart : (e.table == table) = false := beq_eq_false_iff_ne.2 h
    simp [apart]

theorem openTally_putSummary (x : Uuid) (w : Severity) :
    (s.putSummary target v now).openTally x w = s.openTally x w := by
  have edited := s.edited_putSummary target v now (by decide : Table.issues ≠ .targets)
  simp only [openTally, opens, flagIs, severityText, edited]
  rfl

theorem tally_putSummary (x : Uuid) : (s.putSummary target v now).tally x = s.tally x := by
  simp only [tally, openTally_putSummary]

theorem serves_putSummary (x : Uuid) :
    (s.putSummary target v now).Serves x ↔ s.Serves x := by
  have edited := s.edited_putSummary target v now (by decide : Table.issues ≠ .targets)
  have readable : (∀ i ∈ (s.putSummary target v now).issues,
      (s.putSummary target v now).opens x i = true →
        (Severity.ofName? ((s.putSummary target v now).severityText i)).isSome) ↔
      ∀ i ∈ s.issues, s.opens x i = true → (Severity.ofName? (s.severityText i)).isSome := by
    simp only [opens, flagIs, severityText, edited]
    rfl
  exact ⟨fun h => ⟨⟨h.issues, readable.1 h.readable⟩, h.running, h.targets⟩,
    fun h => ⟨⟨h.issues, readable.2 h.readable⟩, h.running, h.targets⟩⟩

theorem findTargetRow_putSummary (x : Uuid) :
    ((s.putSummary target v now).findTargetRow x).isSome = (s.findTargetRow x).isSome := by
  have ids : (fun t : Target => t.id == x) ∘ (fun t : Target =>
      if t.id == target then { t with summary := v, updated := now } else t) =
        fun t => t.id == x := by
    funext t
    dsimp only [Function.comp]
    split <;> rfl
  rw [findTargetRow, putSummary, forgetCells, List.find?_map, ids, Option.isSome_map]
  rfl

theorem recounted_putSummary (p : Uuid → Bool) (now' : Timestamp) :
    (s.putSummary target (s.tally target) now).recounted p now' =
      s.recounted (fun x => x == target || p x) now' := by
  unfold recounted
  simp only [tally_putSummary]
  simp only [putSummary, forgetCells, List.map_map, List.filter_filter]
  congr 1
  · refine List.map_congr_left fun t _ => ?_
    by_cases hit : t.id = target
    · simp [hit]
    · simp [hit]
  · refine List.filter_congr fun e _ => ?_
    cases e.row == target
    · simp
    · cases p e.row <;> simp

end Store

namespace Service

open Recompute

variable {config : Config} {s : Store} {faults : Nat → Faults}

/-- Some attempt of the turn meets no failure. -/
def Passes (config : Config) (faults : Nat → Faults) : Prop :=
  ∃ k < config.attempts, ∀ i < 5, faults k i = none

theorem passes_none (some_ : 1 ≤ config.attempts) : Passes config fun _ => Faults.none :=
  ⟨0, some_, fun _ _ => rfl⟩

/-- Such a turn recounts a target that is there, unless what was done by hand is in the way. -/
theorem work_of_passes (passes : Passes config faults) (target : Uuid) (rest : List Uuid)
    (now : Timestamp) : Service.work config now faults ⟨s, target :: rest⟩ =
      ⟨if s.Serves target ∧ (s.findTargetRow target).isSome then
        s.putSummary target (s.tally target) now else s, rest⟩ := by
  have tried := run_retried config.attempts faults s target now
  rw [work]
  dsimp only
  split
  · next effective =>
    obtain ⟨v, hv⟩ := tried.committed_iff.2 ⟨effective.2, effective.1, passes⟩
    obtain ⟨rfl, written⟩ := tried.writes v hv
    rw [written]
  · next idle =>
    rw [tried.keeps fun v hv => idle ?_]
    obtain ⟨there, serves, -⟩ := tried.committed_iff.1 ⟨v, hv⟩
    exact ⟨serves, there⟩

/-- After such turns the targets that were taken from the queue are counted again. -/
theorem restamped_drain (ws : List (Timestamp × (Nat → Faults)))
    (passes : ∀ w ∈ ws, Passes config w.2) (s : Store) (q : List Uuid) (now : Timestamp) :
    (drain config ⟨s, q⟩ ws).store.restamped now = s.recounted (fun x =>
      x ∈ q.take ws.length ∧ s.Serves x ∧ (s.findTargetRow x).isSome) now := by
  induction ws generalizing s q with
  | nil => simp [drain, Store.restamped_eq]
  | cons w ws ih =>
    obtain ⟨first, later⟩ := List.forall_mem_cons.1 passes
    cases q with
    | nil =>
      change (drain config ⟨s, []⟩ ws).store.restamped now = _
      rw [ih later]
      simp
    | cons y q =>
      change (drain config (Service.work config w.1 w.2 ⟨s, y :: q⟩) ws).store.restamped now = _
      rw [work_of_passes first, ih later]
      split
      · next effective =>
        simp only [Store.serves_putSummary, Store.findTargetRow_putSummary,
          Store.recounted_putSummary]
        congr 1
        funext x
        by_cases own : x = y
        · simp [own, effective]
        · simp [own]
      · next idle =>
        congr 1
        funext x
        by_cases own : x = y
        · simp [own, idle]
        · simp [own]

/-- On every store and under every pattern of failures: a target gets at most so many attempts,
up to the first that goes through or finds no such target; what is written are the counts of its
open issues, in its own row, and if nothing is written the store is as it was. Then the next
target has its turn, so that any queue is emptied. As long as some attempt of every turn meets no
failure, all but the times of update is the same for queues of the same targets. -/
theorem drain_regardless (config : Config) :
    (∀ (s : Store) (target : Uuid) (now : Timestamp) (n : Nat) (faults : Nat → Faults) rs s',
      Recompute.run target now n faults s = (rs, s') →
      Retried n faults s target now rs s'
      ∧ (∀ v, .ok v ∈ rs → s.SummaryWritten target v now s'
        ∧ (∀ w, v.get w = Int64.ofNat (s.openTally target w))
        ∧ (s.edits = [] → s.Tallies target v))
      ∧ ((∀ v, .ok v ∉ rs) ∨ s.findTargetRow target = none → s' = s)
      ∧ ((∃ v, .ok v ∈ rs) ↔ (s.findTargetRow target).isSome ∧ s.Serves target ∧
        ∃ k < n, ∀ i < 5, faults k i = none)
      ∧ (n = config.attempts → ∀ rest,
        Service.work config now faults ⟨s, target :: rest⟩ = ⟨s', rest⟩))
    ∧ (∀ (s : Service) ws, s.queue.length ≤ ws.length → (drain config s ws).queue = [])
    ∧ ∀ (s : Store) q q' ws ws', (∀ x, x ∈ q ↔ x ∈ q') → q.length ≤ ws.length →
      q'.length ≤ ws'.length → (∀ w ∈ ws, Passes config w.2) → (∀ w ∈ ws', Passes config w.2) →
      ∀ now, (drain config ⟨s, q⟩ ws).store.restamped now =
        (drain config ⟨s, q'⟩ ws').store.restamped now := by
  refine ⟨fun s target now n faults rs s' ran => ?_, fun s ws long => ?_,
    fun s q q' ws ws' same long long' passes passes' now => ?_⟩
  · have tried := run_retried n faults s target now
    rw [ran] at tried
    refine ⟨tried, fun v hv => ?_, fun none_ => ?_, tried.committed_iff, fun hn rest => ?_⟩
    · obtain ⟨rfl, rfl⟩ := tried.writes v hv
      refine ⟨s.putSummary_written target _ now, s.get_tally target, fun unedited w => ?_⟩
      rw [Store.get_tally, Store.openTally_of_unedited unedited]
    · refine tried.keeps fun v hv => ?_
      rcases none_ with failed | gone
      · exact failed v hv
      · simpa [gone] using (tried.committed_iff.1 ⟨v, hv⟩).1
    · subst hn
      rw [work]
      dsimp only
      rw [ran]
  · rw [drain_queue]
    exact List.drop_eq_nil_of_le long
  · rw [restamped_drain ws passes, restamped_drain ws' passes', List.take_of_length_le long,
      List.take_of_length_le long']
    simp only [same]

end Service

namespace Sample

def second : Uuid := Uuid.ofNat 9

/-- Two targets, with an issue filed against the first. -/
def paired : Store :=
  (Service.run config (founding ++ [.addTarget second project.id "app" start, filing])).store

/-- First the summary cannot be written, then it does not last. -/
def troubled : Nat → Faults :=
  fun k n => if k < 2 ∧ n = k + 3 then some .closed else none

end Sample

namespace Service

open Sample in
/-- The third attempt goes through; it makes no difference that the target comes twice. -/
theorem drain_regardless_troubled :
    Recompute.run target start 3 troubled paired =
        ([.error (.database .closed), .error (.database .closed), .ok { high := 1 }],
          paired.putSummary target { high := 1 } start)
      ∧ paired.SummaryWritten target { high := 1 } start
        (paired.putSummary target { high := 1 } start)
      ∧ (drain config ⟨paired, [target, second, target]⟩
        (List.replicate 3 (start, troubled))).queue = []
      ∧ (drain config ⟨paired, [target, second, target]⟩
        (List.replicate 3 (start, troubled))).store.restamped start =
        (drain config ⟨paired, [second, target]⟩
          (List.replicate 2 (start, fun _ => Faults.none))).store.restamped start := by
  have ran : Recompute.run target start 3 troubled paired =
      ([.error (.database .closed), .error (.database .closed), .ok { high := 1 }],
        paired.putSummary target { high := 1 } start) := by
    decide +kernel
  have twice (a b x : Uuid) : x ∈ [a, b, a] ↔ x ∈ [b, a] := by
    rw [List.mem_cons, or_iff_right_of_imp]
    rintro rfl
    exact List.mem_cons_of_mem _ List.mem_cons_self
  have passes : Passes config troubled := ⟨2, by decide, fun i _ => rfl⟩
  have calm : Passes config fun _ => Faults.none := passes_none (by decide)
  obtain ⟨jobs, emptied, same⟩ := drain_regardless config
  refine ⟨ran, ((jobs _ _ _ _ _ _ _ ran).2.1 _ (by simp)).1, emptied _ _ (Nat.le_refl 3), ?_⟩
  refine same paired _ _ (List.replicate 3 (start, troubled)) (List.replicate 2 (start, _))
    (twice target second) (Nat.le_refl 3) (Nat.le_refl 2) ?_ ?_ start
  · intro w hw
    obtain rfl := List.eq_of_mem_replicate hw
    exact passes
  · intro w hw
    obtain rfl := List.eq_of_mem_replicate hw
    exact calm

end Service
end IssueTracker
