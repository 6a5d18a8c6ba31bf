import IssueTracker.Proofs.Untouched
import IssueTracker.Proofs.Wp
import IssueTracker.Recompute

/-! What recomputing a summary comes to, on any store and whatever fails. An attempt either
goes through, with the counts of what is stored, or leaves the store as it is (`Attempted`);
the last attempt is the first that settles the matter, so that at most one of them writes
(`Retried`). On a store that only the service has written to, what is stored is exact. -/

namespace IssueTracker

namespace Summary

theorem ext_get {s v : Summary} (h : ∀ w, s.get w = v.get w) : s = v := by
  obtain ⟨error, high, medium, low, info⟩ := s
  exact congr (congr (congr (congr (congrArg Summary.mk (h .error)) (h .high)) (h .medium))
    (h .low)) (h .info)

theorem get_add (s : Summary) (v w : Severity) (n : Int64) :
    (s.add v n).get w = s.get w + if w = v then n else 0 := by
  cases v <;> cases w <;> simp [add, get]

/-- Counts of different severities do not get in each other's way. -/
theorem get_foldl_add {f : Severity → Int64} {vs : List Severity} (apart : vs.Nodup) (s : Summary)
    (w : Severity) :
    ((vs.map fun v => (v, f v)).foldl (fun s c => s.add c.1 c.2) s).get w =
      s.get w + if w ∈ vs then f w else 0 := by
  induction vs generalizing s with
  | nil => simp
  | cons v vs ih =>
    obtain ⟨hv, apart⟩ := List.nodup_cons.1 apart
    rw [List.map_cons, List.foldl_cons, ih apart, get_add]
    by_cases hw : w = v
    · subst hw
      simp [hv]
    · simp [hw]

theorem get_ofCounts {f : Severity → Int64} {vs : List Severity} (apart : vs.Nodup)
    (w : Severity) : (ofCounts (vs.map fun v => (v, f v))).get w = if w ∈ vs then f w else 0 := by
  rw [ofCounts, get_foldl_add apart]
  cases w <;> exact Int64.zero_add _

end Summary

namespace Store

/-- How many issues of the target are of this severity and neither false, muted nor resolved. -/
def openCount (s : Store) (target : Uuid) (v : Severity) : Nat :=
  s.issues.countP fun i => i.target == target && i.isOpen && i.severity == v

/-- The same by what is stored, some of which may have been written by hand. -/
def openTally (s : Store) (target : Uuid) (v : Severity) : Nat :=
  s.issues.countP fun i => s.opens target i && s.severityText i == v.name

/-- The summary that counts the open issues of the target. -/
def tally (s : Store) (target : Uuid) : Summary where
  error := Int64.ofNat (s.openTally target .error)
  high := Int64.ofNat (s.openTally target .high)
  medium := Int64.ofNat (s.openTally target .medium)
  low := Int64.ofNat (s.openTally target .low)
  info := Int64.ofNat (s.openTally target .info)

/-- The summary counts the open issues of the target. -/
def Tallies (s : Store) (target : Uuid) (v : Summary) : Prop :=
  ∀ w, v.get w = Int64.ofNat (s.openCount target w)

/-- The open issues of the target can be counted. -/
structure Countable (s : Store) (target : Uuid) : Prop where
  issues : s.inPlace .issues = true
  readable : ∀ i ∈ s.issues, s.opens target i = true →
    (Severity.ofName? (s.severityText i)).isSome

/-- Nothing that was done by hand keeps the target's summary from being recomputed. -/
structure Serves (s : Store) (target : Uuid) : Prop extends s.Countable target where
  running : s.closed = false
  targets : s.inPlace .targets = true

instance (s : Store) (target : Uuid) : Decidable (s.Countable target) :=
  decidable_of_iff _ ⟨fun h => ⟨h.1, h.2⟩, fun h => And.intro h.issues h.readable⟩

instance (s : Store) (target : Uuid) : Decidable (s.Serves target) :=
  decidable_of_iff _ ⟨fun h => ⟨h.1, h.2.1, h.2.2⟩, fun h =>
    And.intro h.toCountable (And.intro h.running h.targets)⟩

variable {s : Store} {target : Uuid}

theorem ofName?_name (v : Severity) : Severity.ofName? v.name = some v := by
  cases v <;> decide

theorem name_inj {v w : Severity} (h : v.name = w.name) : v = w :=
  Option.some.inj (by rw [← ofName?_name v, h, ofName?_name])

theorem get_tally (s : Store) (target : Uuid) (w : Severity) :
    (s.tally target).get w = Int64.ofNat (s.openTally target w) := by
  cases w <;> rfl

theorem countSeverity_openIssues (s : Store) (target : Uuid) (v : Severity) :
    s.countSeverity (s.openIssues target) v = s.openTally target v := by
  rw [Store.countSeverity, openIssues, List.countP_filter, openTally]
  exact List.countP_congr fun i _ => by rw [Bool.and_comm]

theorem need_ok {t : Table} (h : s.inPlace t = true) : s.need [t] = .ok () := by
  simp [Store.need, h]

theorem need_error {t : Table} (h : ¬ s.inPlace t = true) :
    s.need [t] = .error (.noTable t.name) := by
  simp [Store.need, h]

theorem readable_iff : ((s.openIssues target).any fun i =>
      (Severity.ofName? (s.severityText i)).isNone) = false ↔
    ∀ i ∈ s.issues, s.opens target i = true → (Severity.ofName? (s.severityText i)).isSome := by
  simp [openIssues, Option.isSome_iff_ne_none]

theorem ofCounts_eq_tally (s : Store) (target : Uuid) :
    .ofCounts ((Severity.all.filter fun v => 0 < s.openTally target v).map fun v =>
      (v, Int64.ofNat (s.openTally target v))) = s.tally target := by
  refine Summary.ext_get fun w => ?_
  rw [Summary.get_ofCounts ((by decide : Severity.all.Nodup).filter _), get_tally]
  by_cases hw : 0 < s.openTally target w
  · have mem : w ∈ Severity.all := by cases w <;> decide
    simp [hw, mem]
  · simp [Nat.eq_zero_of_not_pos hw]

/-- The issues cannot be counted, or the counts are those of the open ones. -/
theorem openCounts_cases (s : Store) (target : Uuid) :
    (¬ s.Countable target ∧ ∃ e, openCounts target s = (.error e, s)) ∨
      s.Countable target ∧ ∃ counts, openCounts target s = (.ok counts, s) ∧
        .ofCounts counts = s.tally target := by
  by_cases place : s.inPlace .issues = true
  · have counted : openCounts target s = (do
        if (s.openIssues target).any fun i => (Severity.ofName? (s.severityText i)).isNone then
          throw .undecodable
        return (Severity.all.filter fun v => 0 < s.openTally target v).map fun v =>
          (v, Int64.ofNat (s.openTally target v)), s) := by
      refine Prod.ext ?_ rfl
      change (do s.need [.issues]; _) = _
      simp only [need_ok place, ok_bind, countSeverity_openIssues]
    by_cases readable : ∀ i ∈ s.issues, s.opens target i = true →
      (Severity.ofName? (s.severityText i)).isSome
    · refine .inr ⟨⟨place, readable⟩, _, ?_, s.ofCounts_eq_tally target⟩
      rw [counted, readable_iff.2 readable]
      rfl
    · refine .inl ⟨fun countable => readable countable.readable, .undecodable, ?_⟩
      rw [counted, Bool.of_not_eq_false (mt readable_iff.1 readable)]
      rfl
  · refine .inl ⟨fun countable => place countable.issues, .noTable Table.issues.name,
      Prod.ext ?_ rfl⟩
    change (do s.need [.issues]; _) = _
    rw [need_error place]
    rfl

theorem writeSummary_cases (s : Store) (target : Uuid) (v : Summary) (now : Timestamp) :
    (¬ s.inPlace .targets = true ∧ ∃ e, writeSummary target v now s = (.error e, s)) ∨
      s.inPlace .targets = true ∧
        writeSummary target v now s =
          (.ok (s.findTargetRow target).isSome, s.putSummary target v now) := by
  by_cases place : s.inPlace .targets = true
  · refine .inr ⟨place, Query.write_ok.2 ?_⟩
    rw [need_ok place, ok_bind]
    rfl
  · refine .inl ⟨place, .noTable Table.targets.name, ?_⟩
    simp only [writeSummary, Query.write, need_error place]
    rfl

theorem openTally_of_unedited (h : s.edits = []) (target : Uuid) (v : Severity) :
    s.openTally target v = s.openCount target v := by
  have unedited (row : Uuid) (column : String) : s.edited .issues row column = none := by
    rw [Store.edited, h]
    rfl
  refine List.countP_congr fun i _ => ?_
  have same : i.severity.name = v.name ↔ i.severity = v := ⟨name_inj, congrArg _⟩
  simp [Store.opens, flagIs, unedited, Store.severityText, Issue.isOpen, same, Bool.and_assoc]

theorem Untouched.severityText (h : s.Untouched) (i : Issue) :
    s.severityText i = i.severity.name := by
  rw [Store.severityText, h.edited, Option.getD_none]

theorem Untouched.serves (h : s.Untouched) (target : Uuid) : s.Serves target where
  issues := h.inPlace .issues
  readable i _ _ := by simp [h.severityText, ofName?_name]
  running := h.closed
  targets := h.inPlace .targets

theorem Untouched.tallies (h : s.Untouched) (target : Uuid) :
    s.Tallies target (s.tally target) := by
  intro w
  rw [get_tally, openTally_of_unedited h.edits]

end Store

namespace Recompute

variable {fails : Prop} {s s' : Store} {target : Uuid} {now : Timestamp}

/-- The statements of an attempt are carried out, up to the one that writes the summary. -/
structure Reached (f : Faults) (s : Store) (target : Uuid) : Prop where
  spared : ∀ n < 4, f n = none
  serves : s.Serves target

/-- What one attempt comes to, and the store after it. -/
inductive Attempted (f : Faults) (s : Store) (target : Uuid) (now : Timestamp) :
    Except Error Summary → Store → Prop where
  | committed (reached : Reached f s target) (there : (s.findTargetRow target).isSome)
    (lasts : f 4 = none) :
    Attempted f s target now (.ok (s.tally target)) (s.putSummary target (s.tally target) now)
  | absent (reached : Reached f s target) (gone : s.findTargetRow target = none) :
    Attempted f s target now (.error .notFound) s
  | refused {e : Error} (unreached : ¬ Reached f s target) (again : settled (.error e) = false) :
    Attempted f s target now (.error e) s
  /-- All was done, but did not last. -/
  | lost {e : DbError} (reached : Reached f s target) (there : (s.findTargetRow target).isSome)
    (failed : f 4 = some e) : Attempted f s target now (.error (.database e)) s

theorem not_reached {f : Faults} {n : Nat} {e : DbError} (hn : n < 4) (failed : f n = some e) :
    ¬ Reached f s target :=
  fun reached => by simp [reached.spared n hn] at failed

/-- What is left to do of an attempt when its transaction is open. -/
theorem attempted_opened {f : Faults} (h0 : f 0 = none) (h1 : f 1 = none)
    (running : s.closed = false) {out : Except Error Summary × Session}
    (ho : (do let v ← summarize target now; onConnection Plan.finish; return v).run.runFrom
      f.later.later ⟨s, some s⟩ = out) : Attempted f s target now out.1 out.2.store := by
  -- counting: until the transaction is committed, leaving it takes everything back
  cases h2 : f 2 with
  | some e =>
    obtain rfl := (Plan.runFrom_query h2).symm.trans ho
    exact .refused (not_reached (by decide) h2) rfl
  | none =>
  replace ho := (Plan.runFrom_query h2).symm.trans ho
  dsimp only [Option.elim] at ho
  rcases s.openCounts_cases target with ⟨uncountable, e, he⟩ | ⟨countable, counts, hc, tally⟩
  · rw [he] at ho
    obtain rfl := ho
    exact .refused (fun reached => uncountable reached.serves.toCountable) rfl
  rw [hc] at ho
  -- writing what was counted
  cases h3 : f 3 with
  | some e =>
    obtain rfl := (Plan.runFrom_query h3).symm.trans ho
    exact .refused (not_reached (by decide) h3) rfl
  | none =>
  replace ho := (Plan.runFrom_query h3).symm.trans ho
  dsimp only [Option.elim] at ho
  rw [tally] at ho
  rcases s.writeSummary_cases target (s.tally target) now with ⟨away, e, he⟩ | ⟨place, hw⟩
  · rw [he] at ho
    obtain rfl := ho
    exact .refused (fun reached => away reached.serves.targets) rfl
  rw [hw] at ho
  have spared : ∀ n < 4, f n = none := by
    intro n hn
    match n with
    | 0 => exact h0
    | 1 => exact h1
    | 2 => exact h2
    | 3 => exact h3
  have reached : Reached f s target := ⟨spared, countable, running, place⟩
  cases there : s.findTargetRow target with
  | none =>
    rw [there] at ho
    obtain rfl := ho
    exact .absent reached there
  | some t =>
  rw [there] at ho
  cases h4 : f 4 with
  | some e =>
    obtain rfl := (Plan.runFrom_commit h4).symm.trans ho
    exact .lost reached (by simp [there]) h4
  | none =>
    obtain rfl := (Plan.runFrom_commit h4).symm.trans ho
    exact .committed reached (by simp [there]) h4

theorem attempted (f : Faults) (s : Store) (target : Uuid) (now : Timestamp) :
    Attempted f s target now ((attempt target now).run.run f s).1
      ((attempt target now).run.run f s).2 := by
  suffices came : ∀ out, (attempt target now).run.runFrom f ⟨s, none⟩ = out →
      Attempted f s target now out.1 out.2.store from came _ rfl
  intro out ho
  cases h0 : f 0 with
  | some e =>
    obtain rfl := (Plan.runFrom_query h0).symm.trans ho
    exact .refused (not_reached (by decide) h0) rfl
  | none =>
  replace ho := (Plan.runFrom_query h0).symm.trans ho
  dsimp only [Option.elim, Query.acquire, Query.read] at ho
  cases running : s.closed with
  | true =>
    rw [running] at ho
    obtain rfl := ho
    exact .refused (fun reached => by simp [reached.serves.running] at running) rfl
  | false =>
  rw [running] at ho
  cases h1 : f 1 with
  | some e =>
    obtain rfl := (Plan.runFrom_start h1).symm.trans ho
    exact .refused (not_reached (by decide) h1) rfl
  | none =>
    replace ho := (Plan.runFrom_start h1).symm.trans ho
    exact attempted_opened h0 h1 running ho

/-- What at most `n` attempts come to: each of them in turn, and the store after them. -/
structure Retried (n : Nat) (faults : Nat → Faults) (s : Store) (target : Uuid) (now : Timestamp)
    (rs : List (Except Error Summary)) (s' : Store) : Prop where
  few : rs.length ≤ n
  /-- All start on the store as it was. -/
  each : ∀ k r, rs[k]? = some r → ∃ x, Attempted (faults k) s target now r x
  stops : ∀ k r, rs[k]? = some r → settled r = true → k + 1 = rs.length
  goesOn : (∀ r ∈ rs, settled r = false) → rs.length = n
  writes : ∀ v, .ok v ∈ rs → v = s.tally target ∧ s' = s.putSummary target v now
  keeps : (∀ v, .ok v ∉ rs) → s' = s

namespace Attempted

variable {f : Faults} {r : Except Error Summary} {v : Summary}

theorem of_ok (h : Attempted f s target now (.ok v) s') :
    v = s.tally target ∧ s' = s.putSummary target v now := by
  cases h with
  | committed => exact ⟨rfl, rfl⟩

theorem of_not_ok (h : Attempted f s target now r s') (failed : ∀ v, r ≠ .ok v) : s' = s := by
  cases h with
  | committed => exact absurd rfl (failed _)
  | absent => rfl
  | refused => rfl
  | lost => rfl

theorem of_unsettled (h : Attempted f s target now r s') (again : settled r = false) : s' = s :=
  h.of_not_ok fun v hv => by rw [hv] at again; cases again

end Attempted

namespace Retried

variable {n : Nat} {faults : Nat → Faults} {r : Except Error Summary}
  {rs : List (Except Error Summary)}

theorem last (h : Attempted (faults 0) s target now r s') (done : settled r = true) :
    Retried (n + 1) faults s target now [r] s' where
  few := Nat.le_add_left 1 n
  each k r' hr := by
    cases k with
    | zero => exact ⟨s', Option.some.inj hr ▸ h⟩
    | succ k => cases hr
  stops k r' hr _ := by
    cases k with
    | zero => rfl
    | succ k => cases hr
  goesOn unsettled := by simp [done] at unsettled
  writes v hv := by
    obtain rfl := List.mem_singleton.1 hv
    exact h.of_ok
  keeps failed := h.of_not_ok fun v hv => failed v (List.mem_singleton.2 hv.symm)

theorem again (h : Attempted (faults 0) s target now r s) (undone : settled r = false)
    (rest : Retried n (fun k => faults (k + 1)) s target now rs s') :
    Retried (n + 1) faults s target now (r :: rs) s' where
  few := Nat.succ_le_succ rest.few
  each k r' hr := by
    cases k with
    | zero => exact ⟨s, Option.some.inj hr ▸ h⟩
    | succ k => exact rest.each k r' hr
  stops k r' hr done := by
    cases k with
    | zero =>
      obtain rfl := Option.some.inj hr
      rw [undone] at done
      cases done
    | succ k => exact congrArg (· + 1) (rest.stops k r' hr done)
  goesOn unsettled :=
    congrArg (· + 1) (rest.goesOn fun r hr => unsettled r (List.mem_cons_of_mem _ hr))
  writes v hv := by
    rcases List.mem_cons.1 hv with rfl | hv
    · cases undone
    · exact rest.writes v hv
  keeps failed := rest.keeps fun v hv => failed v (List.mem_cons_of_mem _ hv)

theorem attempted_of_mem (h : Retried n faults s target now rs s') (hr : r ∈ rs) :
    ∃ k < n, ∃ x, Attempted (faults k) s target now r x := by
  obtain ⟨k, hk⟩ := List.mem_iff_getElem?.1 hr
  obtain ⟨inside, -⟩ := List.getElem?_eq_some_iff.1 hk
  exact ⟨k, Nat.lt_of_lt_of_le inside h.few, h.each k r hk⟩

/-- The summary is written if one of the attempts meets no failure, as long as there is such a
target and nothing else is in the way. -/
theorem committed_iff (h : Retried n faults s target now rs s') :
    (∃ v, .ok v ∈ rs) ↔ (s.findTargetRow target).isSome ∧ s.Serves target ∧
      ∃ k < n, ∀ i < 5, faults k i = none := by
  constructor
  · rintro ⟨v, hv⟩
    obtain ⟨k, hk, x, done⟩ := h.attempted_of_mem hv
    cases done with
    | committed reached there lasts =>
      refine ⟨there, reached.serves, k, hk, fun i hi => ?_⟩
      rcases Nat.lt_succ_iff_lt_or_eq.1 hi with before | rfl
      · exact reached.spared i before
      · exact lasts
  · rintro ⟨there, serves, k, hk, clear⟩
    refine Classical.byContradiction fun failed => ?_
    have unsettled : ∀ r ∈ rs, settled r = false := by
      intro r hr
      obtain ⟨j, -, x, done⟩ := h.attempted_of_mem hr
      cases done with
      | committed => exact absurd ⟨_, hr⟩ failed
      | absent reached gone => simp [gone] at there
      | refused unreached again => exact again
      | lost => rfl
    have hk : k < rs.length := h.goesOn unsettled ▸ hk
    obtain ⟨x, done⟩ := h.each k _ (List.getElem?_eq_getElem hk)
    have reached : Reached (faults k) s target := ⟨fun i hi => clear i (by omega), serves⟩
    generalize hr : rs[k] = r at done
    cases done with
    | committed => exact failed ⟨_, hr ▸ List.getElem_mem hk⟩
    | absent reached gone => simp [gone] at there
    | refused unreached => exact unreached reached
    | lost _ _ failed => simp [clear 4] at failed

end Retried

/-- However often it is tried, with whatever failures. -/
theorem run_retried (n : Nat) (faults : Nat → Faults) (s : Store) (target : Uuid)
    (now : Timestamp) :
    Retried n faults s target now (run target now n faults s).1 (run target now n faults s).2 := by
  induction n generalizing faults with
  | zero => exact ⟨Nat.le_refl 0, by nofun, by nofun, fun _ => rfl, by nofun, fun _ => rfl⟩
  | succ n ih =>
    have first := attempted (faults 0) s target now
    rw [run]
    generalize (attempt target now).run.run (faults 0) s = out at first ⊢
    obtain ⟨r, x⟩ := out
    dsimp only at first ⊢
    split
    · next done => exact .last first done
    · next undone =>
      have undone : settled r = false := by simpa using undone
      obtain rfl := first.of_unsettled undone
      exact .again first undone (ih _)

/-- The store is as it was, since storage failed or there is no such target, or the
target has the exact counts. -/
def Leaves (fails : Prop) (s : Store) (target : Uuid) (now : Timestamp) (s' : Store) : Prop :=
  (s' = s ∧ (fails ∨ s.findTargetRow target = none)) ∨
    ∃ v, s.Tallies target v ∧ s' = s.putSummary target v now

/-- Nothing but targets is written. -/
theorem Leaves.retargets (h : s.Untouched) {s' : Store} (leaves : Leaves fails s target now s') :
    ∃ ts, s' = s.retarget ts := by
  rcases leaves with ⟨rfl, -⟩ | ⟨v, -, rfl⟩
  · exact ⟨s'.targets, rfl⟩
  · exact ⟨_, h.putSummary target v now⟩

theorem Leaves.targetIds (h : s.Untouched) {s' : Store} (leaves : Leaves fails s target now s') :
    s'.targets.map Target.id = s.targets.map Target.id := by
  rcases leaves with ⟨rfl, -⟩ | ⟨v, -, rfl⟩
  · rfl
  · exact h.targetIds_putSummary target v now

/-- Unless storage failed, the target has the exact counts, and the others are as they were. -/
theorem Leaves.targets (h : s.Untouched) {s' : Store} (leaves : Leaves fails s target now s')
    (steady : ¬ fails) {t : Target} (ht : t ∈ s'.targets) :
    t.id = target ∧ s.Tallies target t.summary ∨ t ∈ s.targets ∧ t.id ≠ target := by
  rcases leaves with ⟨rfl, failed | gone⟩ | ⟨v, counted, rfl⟩
  · exact absurd failed steady
  · exact .inr ⟨ht, by simpa using List.find?_eq_none.1 gone t ht⟩
  · rw [h.putSummary] at ht
    obtain ⟨o, ho, rfl⟩ := List.mem_map.1 ht
    by_cases hit : o.id = target
    · simp only [hit, beq_self_eq_true, if_true]
      exact .inl ⟨trivial, counted⟩
    · simp only [hit, beq_iff_eq, if_false]
      exact .inr ⟨ho, hit⟩

/-- Without failures one attempt settles the matter. -/
theorem run_leaves (h : s.Untouched) {faults : Nat → Faults} (hf : ∀ k, (faults k).Within fails)
    (n : Nat) : Leaves (fails ∨ n = 0) s target now (run target now n faults s).2 := by
  have tried := run_retried n faults s target now
  by_cases committed : ∃ v, .ok v ∈ (run target now n faults s).1
  · obtain ⟨v, hv⟩ := committed
    obtain ⟨rfl, written⟩ := tried.writes v hv
    exact .inr ⟨_, h.tallies target, written⟩
  refine .inl ⟨tried.keeps fun v hv => committed ⟨v, hv⟩, ?_⟩
  cases there : s.findTargetRow target with
  | none => exact .inr rfl
  | some t =>
  rcases Nat.eq_zero_or_pos n with none_ | some_
  · exact .inl (.inr none_)
  by_cases clear : ∀ i < 5, faults 0 i = none
  · have goesThrough := tried.committed_iff.2 ⟨by simp [there], h.serves target, 0, some_, clear⟩
    exact absurd goesThrough committed
  · simp only [Classical.not_forall] at clear
    obtain ⟨i, -, failed⟩ := clear
    obtain ⟨e, he⟩ := Option.ne_none_iff_exists'.1 failed
    exact .inl (.inl (hf 0 i e he))

end Recompute
end IssueTracker
