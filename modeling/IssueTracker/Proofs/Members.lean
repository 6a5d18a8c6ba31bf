import IssueTracker.Json.Lawful
import IssueTracker.Proofs.Routing

/-! What a request says in its body. Of an object only those members count whose names are
fields of what is read, and in whatever order they stand. So members with other names can be
put into a body and its members in another order, and nothing comes of it. -/

namespace IssueTracker
namespace Record

section Lookup

variable {α : Type*} {as bs : List (String × α)} {k : String} {v : α}

theorem lookup_eq_some_iff (nodup : (as.map Prod.fst).Nodup) :
    as.lookup k = some v ↔ (k, v) ∈ as := by
  induction as with
  | nil => simp
  | cons a as ih =>
    obtain ⟨name, w⟩ := a
    rw [List.map_cons, List.nodup_cons] at nodup
    obtain ⟨fresh, nodup⟩ := nodup
    rw [List.lookup_cons, List.mem_cons, Prod.mk.injEq]
    by_cases same : k = name
    · subst same
      have gone : (k, v) ∉ as := fun there => fresh (List.mem_map.2 ⟨_, there, rfl⟩)
      simp [gone, eq_comm]
    · rw [beq_eq_false_iff_ne.2 same]
      simpa [same] using ih nodup

/-- What is looked up does not depend on an order, as long as no name comes twice. -/
theorem lookup_perm (h : as.Perm bs) (nodup : (as.map Prod.fst).Nodup) (k : String) :
    as.lookup k = bs.lookup k := by
  have nodup' := (h.map Prod.fst).nodup_iff.1 nodup
  refine Option.ext fun v => ?_
  rw [lookup_eq_some_iff nodup, lookup_eq_some_iff nodup', h.mem_iff]

theorem isSome_lookup (nodup : (as.map Prod.fst).Nodup) :
    (as.lookup k).isSome = true ↔ k ∈ as.map Prod.fst := by
  rw [Option.isSome_iff_exists]
  simp only [lookup_eq_some_iff nodup, List.mem_map, Prod.exists, exists_and_right, exists_eq_right]

end Lookup

section Objects

variable {α : Type} {names : List String} {found as : List (String × Json)}
  {ms ns extra : List (Json.Quoted × Json)}

/-- The member, if its name is one of these. -/
def named? (names : List String) (m : Json.Quoted × Json) : Option (String × Json) :=
  (m.1.text?.filter names.contains).map fun k => (k, m.2)

/-- The name is text, and not one of these. -/
def Foreign (names : List String) (m : Json.Quoted × Json) : Prop :=
  ∃ k ∈ m.1.text?, k ∉ names

theorem named?_eq {m : Json.Quoted × Json} {k : String} (text : m.1.text? = some k) :
    named? names m = if names.contains k = true then some (k, m.2) else none := by
  rw [named?, text, Option.filter_some]
  split <;> rfl

/-- Members are found just if every name is text and none that counts comes twice. -/
theorem known?_eq_some_iff (nodup : (found.map Prod.fst).Nodup) :
    known? names found ms = some as ↔ (∀ m ∈ ms, m.1.text?.isSome = true)
      ∧ ((found ++ ms.filterMap (named? names)).map Prod.fst).Nodup
      ∧ as = (ms.filterMap (named? names)).reverse ++ found := by
  induction ms generalizing found with
  | nil =>
    rw [known?, List.filterMap_nil, List.append_nil]
    simp [nodup, @eq_comm _ as]
  | cons m ms ih =>
    obtain ⟨q, v⟩ := m
    rw [known?, List.forall_mem_cons]
    cases text : q.text? with
    | none => simp
    | some k =>
      rw [List.filterMap_cons, named?_eq text]
      dsimp only
      by_cases counts : names.contains k = true
      · have again : (found.lookup k).isSome = true ↔ k ∈ found.map Prod.fst :=
          isSome_lookup nodup
        rw [if_pos counts, if_pos counts]
        by_cases twice : k ∈ found.map Prod.fst
        · rw [if_pos (again.2 twice)]
          refine iff_of_false (by simp) fun found_ => ?_
          obtain ⟨-, once, -⟩ := found_
          rw [List.map_append, List.nodup_append] at once
          exact once.2.2 k twice k (by simp) rfl
        · have next : (((k, v) :: found).map Prod.fst).Nodup := List.nodup_cons.2 ⟨twice, nodup⟩
          have order : (((k, v) :: found ++ ms.filterMap (named? names)).map Prod.fst).Perm
              ((found ++ (k, v) :: ms.filterMap (named? names)).map Prod.fst) :=
            List.perm_middle.symm.map _
          rw [if_neg (mt again.1 twice), ih next, order.nodup_iff]
          simp
      · rw [if_neg counts, if_neg counts, ih nodup]
        simp

theorem filterMap_foreign (foreign : ∀ m ∈ extra, Foreign names m) :
    extra.filterMap (named? names) = [] := by
  refine List.filterMap_eq_nil_iff.2 fun m hm => ?_
  obtain ⟨k, text, other⟩ := foreign m hm
  rw [named?, text]
  simp [other]

/-- Members with other names, and another order, change nothing about what is read. -/
theorem decode_perm (r : Record α) (h : ns.Perm (ms ++ extra))
    (foreign : ∀ m ∈ extra, Foreign r.names m) :
    r.codec.decode (.obj ns) = r.codec.decode (.obj ms) := by
  have kept : (ns.filterMap (named? r.names)).Perm (ms.filterMap (named? r.names)) := by
    refine (h.filterMap _).trans ?_
    rw [List.filterMap_append, filterMap_foreign foreign, List.append_nil]
  have text : (∀ m ∈ ns, m.1.text?.isSome = true) ↔ ∀ m ∈ ms, m.1.text?.isSome = true := by
    simp only [h.mem_iff, List.forall_mem_append, and_iff_left_iff_imp]
    intro _ m hm
    obtain ⟨k, text, -⟩ := foreign m hm
    exact Option.isSome_of_mem text
  have found (as : List (String × Json)) (ls : List (Json.Quoted × Json)) :
      known? r.names [] ls = some as ↔ _ := known?_eq_some_iff List.nodup_nil
  change (known? r.names [] ns).bind _ = (known? r.names [] ms).bind _
  by_cases readable : (∀ m ∈ ms, m.1.text?.isSome = true)
      ∧ ((ms.filterMap (named? r.names)).map Prod.fst).Nodup
  · have nodup := (kept.map Prod.fst).nodup_iff.2 readable.2
    rw [(found _ ms).2 ⟨readable.1, readable.2, rfl⟩,
      (found _ ns).2 ⟨text.2 readable.1, nodup, rfl⟩]
    simp only [List.append_nil, Option.bind_some]
    refine congrArg r.decode (funext fun k => lookup_perm ?_ ?_ k)
    · exact (List.reverse_perm _).trans (kept.trans (List.reverse_perm _).symm)
    · exact ((List.reverse_perm _).map Prod.fst).nodup_iff.2 nodup
  · have unread (ls : List (Json.Quoted × Json)) (bad : ¬ ((∀ m ∈ ls, m.1.text?.isSome = true)
        ∧ ((ls.filterMap (named? r.names)).map Prod.fst).Nodup)) : known? r.names [] ls = none :=
      Option.eq_none_iff_forall_ne_some.2 fun as has => bad (by
        obtain ⟨text, nodup, -⟩ := (found as ls).1 has
        exact ⟨text, nodup⟩)
    rw [unread ms readable, unread ns (by rwa [text, (kept.map Prod.fst).nodup_iff])]

end Objects

end Record

/-- The names of the members that an operation reads in a body. -/
def Operation.fields : Operation → List String
  | .create | .update => Patch.record.names
  | .addComment => CommentDraft.record.names
  | .list | .get | .delete | .comments => []

namespace Request

/-- The body is of a size that is read, and it is an object with these members. -/
structure Holds (r : Request) (ms : List (Json.Quoted × Json)) : Prop where
  size : r.body.length ≤ maxBody
  object : Json.ofSymbols? (Utf8.decode r.body) = some (.obj ms)

theorem Holds.entity? {α : Type} {r : Request} {ms : List (Json.Quoted × Json)}
    (holds : r.Holds ms) (c : Codec α) :
    r.entity? c = if r.saysJson then c.decode (.obj ms) else none := by
  rw [Request.entity?, Codec.readBytes?, holds.object, decide_eq_true holds.size]
  simp

/-- A body that was written holds what was written. -/
theorem holds_object {r : Request} {as : List (String × Json)} (written : ∀ m ∈ as, m.2.Written)
    (body : r.body = Utf8.encode (Record.object as).text.toList)
    (size : r.body.length ≤ maxBody) :
    r.Holds (as.map fun m => (Json.Quoted.ofString m.1, m.2)) := by
  refine ⟨size, ?_⟩
  rw [body, Utf8.decode_encode]
  exact Json.ofString?_text (Json.written_object written)

end Request

namespace Service

variable {config : Config} {draw : Draw} {r : Request} {b : List UInt8}

/-- What is answered depends on the body only as far as the operation does. -/
theorem answer_body (handled : ∀ op, r.operation? = some op → ∀ captures user,
      op.handler ⟨config, draw, { r with body := b }, captures, user⟩ =
        op.handler ⟨config, draw, r, captures, user⟩) :
    answer config draw { r with body := b } = answer config draw r := by
  unfold answer
  rw [Aim.find?_issues]
  dsimp only
  cases ha : Aim.ofPath? r.uri.path with
  | none => rfl
  | some a =>
    have dispatched : dispatch config draw { r with body := b } a.dispatch =
        dispatch config draw r a.dispatch := by
      unfold dispatch
      refine congrArg (authenticate r >>= ·) (funext fun caller => ?_)
      cases caller with
      | none => rfl
      | some user =>
        dsimp only
        rw [a.handler?_dispatch]
        cases hop : a.operation? r.method with
        | none => rfl
        | some op =>
          have named : r.operation? = some op := by rw [Request.operation?, ha]; exact hop
          dsimp only [Option.map_some]
          rw [handled op named]
    dsimp only [Option.map_some]
    rw [dispatched]
    rfl

/-- The members of other names that a body has, and the order in which all of them stand,
have no part in what comes of a request. -/
theorem handle_padded (s : Service) (config : Config) (draw : Draw) (faults : Faults) {op : Operation}
    (hop : r.operation? = some op) {ms ns extra : List (Json.Quoted × Json)} (holds : r.Holds ms)
    (holds' : { r with body := b }.Holds ns) (padded : ns.Perm (ms ++ extra))
    (foreign : ∀ m ∈ extra, Record.Foreign op.fields m) :
    s.handle config draw faults { r with body := b } = s.handle config draw faults r := by
  have same {α : Type} (rec : Record α) (fields : op.fields = rec.names) :
      { r with body := b }.entity? rec.codec = r.entity? rec.codec := by
    rw [holds.entity?, holds'.entity?, rec.decode_perm padded (fields ▸ foreign)]
    rfl
  have answered : answer config draw { r with body := b } = answer config draw r := by
    refine answer_body fun op' hop' captures user => ?_
    obtain rfl := Option.some.inj (hop.symm.trans hop')
    cases op with
    | list | get | delete | comments => rfl
    | create =>
      unfold Operation.handler createIssue
      dsimp only
      rw [Patch.codec, same Patch.record rfl]
    | update =>
      unfold Operation.handler updateIssue
      dsimp only
      rw [Patch.codec, same Patch.record rfl]
      rfl
    | addComment =>
      unfold Operation.handler addComment
      dsimp only
      rw [CommentDraft.codec, same CommentDraft.record rfl]
      rfl
  unfold handle
  rw [answered]
  rfl

end Service
end IssueTracker
