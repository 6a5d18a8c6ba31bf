import IssueTracker.Json.Record
import IssueTracker.Json.RoundTrip

/-! Codecs and records that read what they wrote. The atoms are lawful; lists,
optional members, records side by side and records for other types are lawful
when what they are made of is; and so `read?_write` holds of every structure that
is put together from them. -/

namespace IssueTracker
namespace Json

theorem written_quoted (s : String) : ∀ p ∈ Quoted.ofString s, p.Written := by
  intro p hp
  obtain ⟨c, -, rfl⟩ := List.mem_map.1 hp
  exact Piece.written_ofChar c

theorem written_str (s : String) : Written (.str (Quoted.ofString s)) := by
  intro t ht
  obtain rfl := List.mem_singleton.1 ht
  exact written_quoted s

theorem written_int (i : Int) : Written (.num (Numeral.ofInt i)) := by
  intro t ht
  obtain rfl := List.mem_singleton.1 ht
  refine ⟨Decimal.ofNat_ne_nil _, fun h => ?_, by simp [Numeral.ofInt]⟩
  simp only [Numeral.ofInt] at h ⊢
  have := Decimal.eq_zero_of_getLast h
  simp [this, Decimal.ofNat]

theorem written_items {items : List Json} (h : ∀ v ∈ items, v.Written) :
    ∀ t ∈ moreItemTokens items, t.Written := by
  induction items with
  | nil => simp [moreItemTokens, Token.Written]
  | cons v vs ih =>
    intro t ht
    simp only [moreItemTokens, List.mem_cons, List.mem_append] at ht
    rcases ht with rfl | ht | ht
    · trivial
    · exact h v List.mem_cons_self t ht
    · exact ih (fun w hw => h w (List.mem_cons_of_mem _ hw)) t ht

theorem written_arr {items : List Json} (h : ∀ v ∈ items, v.Written) : Written (.arr items) := by
  intro t ht
  cases items with
  | nil => simp [tokens, itemTokens] at ht; rcases ht with rfl | rfl <;> trivial
  | cons v vs =>
    simp only [tokens, itemTokens, List.mem_cons, List.mem_append] at ht
    rcases ht with rfl | ht | ht
    · trivial
    · exact h v List.mem_cons_self t ht
    · exact written_items (fun w hw => h w (List.mem_cons_of_mem _ hw)) t ht

theorem written_members {ms : List (String × Json)} (h : ∀ m ∈ ms, m.2.Written) :
    ∀ t ∈ moreMemberTokens (ms.map fun m => (Quoted.ofString m.1, m.2)), t.Written := by
  induction ms with
  | nil => simp [moreMemberTokens, Token.Written]
  | cons m ms ih =>
    intro t ht
    simp only [List.map_cons, moreMemberTokens, List.mem_cons, List.mem_append] at ht
    rcases ht with rfl | rfl | rfl | ht | ht
    · trivial
    · exact written_quoted m.1
    · trivial
    · exact h m List.mem_cons_self t ht
    · exact ih (fun w hw => h w (List.mem_cons_of_mem _ hw)) t ht

theorem written_object {ms : List (String × Json)} (h : ∀ m ∈ ms, m.2.Written) :
    Written (Record.object ms) := by
  intro t ht
  cases ms with
  | nil => simp [Record.object, tokens, memberTokens] at ht; rcases ht with rfl | rfl <;> trivial
  | cons m ms =>
    simp only [Record.object, List.map_cons, tokens, memberTokens, List.mem_cons, List.mem_append] at ht
    rcases ht with rfl | rfl | rfl | ht | ht
    · trivial
    · exact written_quoted m.1
    · trivial
    · exact h m List.mem_cons_self t ht
    · exact written_members (fun w hw => h w (List.mem_cons_of_mem _ hw)) t ht

end Json

namespace Codec

variable {α : Type}

/-- What the codec writes can be written, and it reads it back. -/
structure Lawful (c : Codec α) : Prop where
  written : ∀ a, (c.encode a).Written
  decode_encode : ∀ a, c.decode (c.encode a) = some a

theorem Lawful.read?_write {c : Codec α} (h : c.Lawful) (a : α) : c.read? (c.write a) = some a := by
  rw [read?, write, Json.ofString?_text (h.written a), Option.bind_some, h.decode_encode]

theorem lawful_text : text.Lawful :=
  ⟨Json.written_str, fun s => Json.Quoted.text?_ofString s⟩

theorem lawful_bool : bool.Lawful :=
  ⟨fun b t ht => by obtain rfl := List.mem_singleton.1 ht; trivial, fun _ => rfl⟩

theorem lawful_int64 : int64.Lawful :=
  ⟨fun i => Json.written_int i.toInt, fun i => Json.Numeral.int64?_ofInt i⟩

theorem lawful_list {c : Codec α} (h : c.Lawful) : (list c).Lawful := by
  refine ⟨fun as => Json.written_arr ?_, fun as => ?_⟩
  · simpa using fun a _ => h.written a
  · simp only [list]
    induction as with
    | nil => rfl
    | cons a as ih => simp [h.decode_encode, ih]

theorem lawful_spelled {spell : α → String} {parse : String → Option α}
    (h : ∀ a, parse (spell a) = some a) : (spelled spell parse).Lawful := by
  refine ⟨fun a => Json.written_str _, fun a => ?_⟩
  simp only [spelled, lawful_text.decode_encode, Option.bind_some, h]

theorem lawful_enumeration {all : List α} {name : α → String}
    (h : ∀ a, named? all name (name a) = some a) : (enumeration all name).Lawful := by
  refine ⟨fun a => Json.written_str _, fun a => ?_⟩
  simp only [enumeration, text, Json.Quoted.text?_ofString, Option.bind_some, h]

end Codec

namespace Record

variable {α β : Type}

/-- The record reads what it wrote, whatever other members stand beside its own. -/
structure Lawful (r : Record α) : Prop where
  names : ∀ a, ((r.encode a).map Prod.fst).Sublist r.names
  written : ∀ a, ∀ m ∈ r.encode a, m.2.Written
  decode_encode : ∀ a (find : String → Option Json),
    (∀ k ∈ r.names, find k = (r.encode a).lookup k) → r.decode find = some a

theorem lawful_required (name : String) {c : Codec α} (h : c.Lawful) : (required name c).Lawful := by
  refine ⟨fun a => List.Sublist.refl _, fun a m hm => ?_, fun a find hf => ?_⟩
  · obtain rfl := List.mem_singleton.1 hm
    exact h.written a
  · simp [required, hf name (by simp [required]), h.decode_encode]

theorem lawful_defaulted (name : String) {c : Codec α} (h : c.Lawful) (default : α) :
    (defaulted name c default).Lawful := by
  refine ⟨fun a => List.Sublist.refl _, fun a m hm => ?_, fun a find hf => ?_⟩
  · obtain rfl := List.mem_singleton.1 hm
    exact h.written a
  · simp [defaulted, hf name (by simp [defaulted]), h.decode_encode]

theorem lawful_optional (name : String) {c : Codec α} (h : c.Lawful) (hn : ∀ a, c.encode a ≠ .null) :
    (optional name c).Lawful := by
  refine ⟨fun a => ?_, fun a m hm => ?_, fun a find hf => ?_⟩
  · cases a <;> simp [optional]
  · cases a with
    | none => simp [optional] at hm
    | some a => obtain rfl := List.mem_singleton.1 hm; exact h.written a
  · have hf := hf name (by simp [optional])
    cases a with
    | none => simp [optional, hf]
    | some a =>
      simp only [optional, hf, List.lookup_cons, beq_self_eq_true]
      split
      · contradiction
      · next he => exact absurd (Option.some.inj he) (hn a)
      · next he => rw [← Option.some.inj he, h.decode_encode]; rfl

theorem lookup_append (as bs : List (String × Json)) (k : String) :
    (as ++ bs).lookup k = (as.lookup k).or (bs.lookup k) := by
  induction as with
  | nil => rfl
  | cons a as ih =>
    obtain ⟨name, v⟩ := a
    simp only [List.cons_append, List.lookup_cons]
    cases k == name <;> simp [ih]

theorem lookup_eq_none {as : List (String × Json)} {k : String} (h : k ∉ as.map Prod.fst) :
    as.lookup k = none := by
  induction as with
  | nil => rfl
  | cons a as ih =>
    obtain ⟨name, v⟩ := a
    simp only [List.map_cons, List.mem_cons, not_or] at h
    rw [List.lookup_cons, beq_eq_false_iff_ne.2 h.1]
    exact ih h.2

theorem lawful_and {r : Record α} {s : Record β} (hr : r.Lawful) (hs : s.Lawful)
    (hd : ∀ k ∈ r.names, k ∉ s.names) : (r.and s).Lawful := by
  refine ⟨fun p => ?_, fun p m hm => ?_, fun p find hf => ?_⟩
  · simpa [Record.and] using (hr.names p.1).append (hs.names p.2)
  · rcases List.mem_append.1 hm with hm | hm
    · exact hr.written p.1 m hm
    · exact hs.written p.2 m hm
  · have first : r.decode find = some p.1 := hr.decode_encode p.1 find fun k hk => by
      rw [hf k (List.mem_append_left _ hk), Record.and, lookup_append,
        lookup_eq_none (fun h => hd k hk ((hs.names p.2).subset h)), Option.or_none]
    have second : s.decode find = some p.2 := hs.decode_encode p.2 find fun k hk => by
      rw [hf k (List.mem_append_right _ hk), Record.and, lookup_append,
        lookup_eq_none (fun h => hd k ((hr.names p.1).subset h) hk), Option.none_or]
    simp [Record.and, first, second]

theorem lawful_via {r : Record α} (hr : r.Lawful) {into : α → β} {out : β → α}
    (h : ∀ b, into (out b) = b) : (r.via into out).Lawful :=
  ⟨fun b => hr.names (out b), fun b => hr.written (out b), fun b find hf => by
    simp [via, hr.decode_encode (out b) find hf, h]⟩

/-- The members of an object that was written are found again. -/
theorem known?_object {names : List String} {found ms : List (String × Json)}
    (hk : ∀ k ∈ ms.map Prod.fst, k ∈ names)
    (hn : ((found ++ ms).map Prod.fst).Nodup) :
    known? names found (ms.map fun m => (Json.Quoted.ofString m.1, m.2)) =
      some (ms.reverse ++ found) := by
  induction ms generalizing found with
  | nil => rfl
  | cons m ms ih =>
    have fresh : m.1 ∉ found.map Prod.fst := by
      intro h
      rw [List.map_append, List.nodup_append] at hn
      exact hn.2.2 m.1 h m.1 (by simp) rfl
    have next : (((m :: found) ++ ms).map Prod.fst).Nodup := by
      refine (List.Perm.nodup_iff ?_).1 hn
      simp
    have hm : names.contains m.1 = true := by simpa using hk m.1 (by simp)
    simp only [List.map_cons, known?, Json.Quoted.text?_ofString, hm, if_true,
      lookup_eq_none fresh, Option.isSome_none, Bool.false_eq_true, if_false]
    rw [ih (fun k hk' => hk k (List.mem_cons_of_mem _ hk')) next]
    simp

theorem lookup_reverse {ms : List (String × Json)} (hn : (ms.map Prod.fst).Nodup) (k : String) :
    ms.reverse.lookup k = ms.lookup k := by
  induction ms with
  | nil => rfl
  | cons m ms ih =>
    obtain ⟨name, v⟩ := m
    simp only [List.map_cons, List.nodup_cons] at hn
    rw [List.reverse_cons, lookup_append, ih hn.2]
    by_cases hk : k = name
    · subst hk
      simp [lookup_eq_none hn.1]
    · simp [List.lookup_cons, beq_eq_false_iff_ne.2 hk]

theorem Lawful.codec {r : Record α} (h : r.Lawful) (hn : r.names.Nodup) : r.codec.Lawful := by
  refine ⟨fun a => Json.written_object (h.written a), fun a => ?_⟩
  have nodup := (h.names a).nodup hn
  have read : members? r.names (object (r.encode a)) = some (r.encode a).reverse := by
    have := @known?_object r.names [] (r.encode a) (fun k hk => (h.names a).subset hk) nodup
    simpa [members?, object] using this
  simp only [Record.codec, read, Option.bind_some]
  exact h.decode_encode a _ fun k _ => lookup_reverse nodup k

end Record
end IssueTracker
