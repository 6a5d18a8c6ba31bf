import IssueTracker.Service.Operations
import Mathlib.Data.List.Forall2
import Mathlib.Data.List.TakeWhile

/-! How a sort order is read. It falls into fields at its commas, and each field is read by
itself: it is a key just if, blanks around it aside, it is the name of a column that is
allowed, after a minus sign if the key is descending. So what is sorted by is always one of
the allowed names, and keys that are written down are read back. -/

namespace IssueTracker

section Trimming

variable {before after cs : List Char}

theorem trimEnd_append (blank : ∀ c ∈ after, isBlank c = true) :
    trimEnd (cs ++ after) = trimEnd cs := by
  rw [trimEnd, List.reverse_append,
    List.dropWhile_append_of_pos fun c hc => blank c (List.mem_reverse.1 hc)]
  rfl

/-- Blanks around a text are trimmed with it. -/
theorem trim_padded (blank : ∀ c ∈ before, isBlank c = true)
    (blank' : ∀ c ∈ after, isBlank c = true) : trim (before ++ cs ++ after) = trim cs := by
  have front : trimStart (before ++ cs ++ after) = trimStart (cs ++ after) := by
    rw [List.append_assoc, trimStart, List.dropWhile_append_of_pos blank]
    rfl
  rw [trim, front, trimStart, List.dropWhile_append]
  split
  · next nothing =>
    have none_ : after.dropWhile isBlank = [] := List.dropWhile_eq_nil_iff.2 blank'
    rw [trim, trimStart, List.isEmpty_iff.1 nothing, none_]
  · exact trimEnd_append blank'

/-- A text without blanks at its ends is trimmed to itself. -/
theorem trim_eq_self (first : ∀ c ∈ cs.head?, isBlank c = false)
    (last : ∀ c ∈ cs.getLast?, isBlank c = false) : trim cs = cs := by
  have kept {l : List Char} (h : ∀ c ∈ l.head?, isBlank c = false) : l.dropWhile isBlank = l := by
    cases l with
    | nil => rfl
    | cons c l => exact List.dropWhile_cons_of_neg (by simp [h c rfl])
  rw [trim, trimStart, kept first, trimEnd, kept (by rwa [List.head?_reverse]),
    List.reverse_reverse]

end Trimming

namespace SortKey

/-- A key as it is written. -/
def field (k : SortKey) : List Char :=
  if k.descending then '-' :: k.column.toList else k.column.toList

/-- Keys as they are written, one after another. -/
def render (ks : List SortKey) : List Char :=
  List.intercalate [','] (ks.map field)

/-- A name that a field can hold and that starts with no sign. -/
structure Plain (name : String) : Prop where
  filled : name ≠ ""
  whole : ',' ∉ name.toList
  unsigned : name.toList.head? ≠ some '-'
  first : ∀ c ∈ name.toList.head?, isBlank c = false
  last : ∀ c ∈ name.toList.getLast?, isBlank c = false

/-- The second text is the first one with blanks around it. -/
def Padded (f f' : List Char) : Prop :=
  ∃ before after, (∀ c ∈ before, isBlank c = true) ∧ (∀ c ∈ after, isBlank c = true)
    ∧ f' = before ++ f ++ after

variable {allowed : List String} {f f' raw : List Char} {k : SortKey} {ks : List SortKey}

theorem find?_name {name : List Char} {column : String} :
    (allowed.find? fun a => a == String.ofList name) = some column ↔
      column ∈ allowed ∧ name = column.toList := by
  constructor
  · intro found
    have same := List.find?_some found
    rw [beq_iff_eq] at same
    exact ⟨List.mem_of_find?_eq_some found, by rw [same, String.toList_ofList]⟩
  · rintro ⟨mem, rfl⟩
    rw [String.ofList_toList]
    cases found : allowed.find? fun a => a == column with
    | none => simpa using List.find?_eq_none.1 found column mem
    | some a =>
      have same := List.find?_some found
      rw [beq_iff_eq.1 same]

/-- A field is a key just if it is the key as it is written, blanks aside. A name that starts
with a sign is read as one without it that is sorted by backwards. -/
theorem ofField?_eq_some : ofField? allowed f = some k ↔ k.column ∈ allowed ∧ trim f = k.field
    ∧ (k.descending = false → k.column.toList.head? ≠ some '-') := by
  obtain ⟨column, descending⟩ := k
  have read (name : List Char) (d : Bool) :
      ((allowed.find? fun a => a == String.ofList name).map fun a => ⟨a, d⟩) =
        some (⟨column, descending⟩ : SortKey) ↔
      column ∈ allowed ∧ name = column.toList ∧ d = descending := by
    simp only [Option.map_eq_some_iff, find?_name, SortKey.mk.injEq]
    grind
  unfold ofField? field
  split
  next name d cut =>
  rw [read]
  split at cut
  · next rest signed =>
    obtain ⟨rfl, rfl⟩ := Prod.mk.inj cut
    rw [signed]
    cases descending with
    | false => grind
    | true => simp
  · next unsigned =>
    obtain ⟨rfl, rfl⟩ := Prod.mk.inj cut
    cases descending with
    | false =>
      have first : (trim f).head? ≠ some '-' := fun h => by
        obtain ⟨rest, signed⟩ := List.head?_eq_some_iff.1 h
        exact unsigned rest signed
      grind
    | true =>
      have other : trim f ≠ '-' :: column.toList := unsigned _
      simp [other]

theorem mem_parse : k ∈ parse allowed raw ↔ ∃ f ∈ pieces ',' raw, ofField? allowed f = some k :=
  List.mem_filterMap

theorem column_mem_of_mem_parse (h : k ∈ parse allowed raw) : k.column ∈ allowed := by
  obtain ⟨f, -, key⟩ := mem_parse.1 h
  exact (ofField?_eq_some.1 key).1

/-- Blanks around a field make no other key of it. -/
theorem Padded.ofField? (h : Padded f f') : ofField? allowed f' = ofField? allowed f := by
  obtain ⟨before, after, blank, blank', rfl⟩ := h
  ext k
  rw [ofField?_eq_some, ofField?_eq_some, trim_padded blank blank']

/-- A field that is padded is one field still. -/
theorem Padded.whole (h : Padded f f') (whole : ',' ∉ f) : ',' ∉ f' := by
  obtain ⟨before, after, blank, blank', rfl⟩ := h
  have comma : isBlank ',' = false := by decide
  simp only [List.mem_append, not_or]
  refine ⟨⟨fun mem => ?_, whole⟩, fun mem => ?_⟩
  · simpa [comma] using blank _ mem
  · simpa [comma] using blank' _ mem

theorem filterMap_padded {fields fields' : List (List Char)}
    (padded : List.Forall₂ Padded fields fields') (whole : ∀ f ∈ fields, ',' ∉ f) :
    (∀ f ∈ fields', ',' ∉ f)
      ∧ fields'.filterMap (ofField? allowed) = fields.filterMap (ofField? allowed) := by
  induction padded with
  | nil => simp
  | cons pad _ ih =>
    obtain ⟨first, whole⟩ := List.forall_mem_cons.1 whole
    obtain ⟨whole', same⟩ := ih whole
    exact ⟨List.forall_mem_cons.2 ⟨pad.whole first, whole'⟩,
      by rw [List.filterMap_cons, List.filterMap_cons, pad.ofField?, same]⟩

/-- Blanks around the fields of a text are read over. -/
theorem parse_padded {fields : List (List Char)}
    (padded : List.Forall₂ Padded (pieces ',' raw) fields) :
    parse allowed (List.intercalate [','] fields) = parse allowed raw := by
  have some_ : fields ≠ [] := fun none_ => by
    rw [none_, List.forall₂_nil_right_iff] at padded
    exact pieces_ne_nil raw padded
  obtain ⟨whole, same⟩ := filterMap_padded padded fun f hf => not_mem_of_mem_pieces hf
  rw [parse, pieces_intercalate some_ whole, same, parse]

namespace Plain

variable (h : Plain k.column)
include h

theorem field_whole : ',' ∉ k.field := by
  unfold field
  split
  · simpa using h.whole
  · exact h.whole

theorem field_ne_nil : k.field ≠ [] := by
  unfold field
  split
  · exact List.cons_ne_nil _ _
  · simpa using h.filled

theorem trim_field : trim k.field = k.field := by
  unfold field
  split
  · refine trim_eq_self (by simp; decide) ?_
    have filled : k.column.toList ≠ [] := by simpa using h.filled
    rw [List.getLast?_cons_of_ne_nil filled]
    exact h.last
  · exact trim_eq_self h.first h.last

end Plain

/-- Keys that are written down are read back. -/
theorem parse_render (plain : ∀ a ∈ allowed, Plain a) (mem : ∀ k ∈ ks, k.column ∈ allowed) :
    parse allowed (render ks) = ks := by
  have read (k : SortKey) (hk : k ∈ ks) : ofField? allowed k.field = some k :=
    ofField?_eq_some.2 ⟨mem k hk, (plain _ (mem k hk)).trim_field,
      fun _ => (plain _ (mem k hk)).unsigned⟩
  cases ks with
  | nil =>
    -- an empty text is one empty field, which no name is written as
    have nothing : ofField? allowed [] = none := Option.eq_none_iff_forall_ne_some.2 fun k key => by
      obtain ⟨named, empty, -⟩ := ofField?_eq_some.1 key
      exact (plain _ named).field_ne_nil empty.symm
    exact List.filterMap_cons_none nothing
  | cons k ks =>
    have whole : ∀ f ∈ (k :: ks).map field, ',' ∉ f := List.forall_mem_map.2 fun k hk =>
      (plain _ (mem k hk)).field_whole
    rw [parse, render, pieces_intercalate (by simp) whole, List.filterMap_map]
    exact (List.filterMap_congr read).trans (List.filterMap_some)

end SortKey

/-- Requests are sorted by what callers may sort by, and by nothing else. -/
theorem Service.keysOf_sorts (q : ListQuery) : ∀ k ∈ keysOf q, k.column ∈ sortable := by
  intro k hk
  unfold keysOf at hk
  split at hk
  · exact SortKey.column_mem_of_mem_parse hk
  · cases hk

namespace SortKey

/-- What the reader of sort orders does on every text. Only allowed names come out of it, so
nothing else is ever sorted by; texts on either side of a comma are read by themselves; blanks
around a field do not matter; and where every allowed name can be told in a list of fields,
keys that are written down are read back, with their order and repetitions. -/
theorem parse_laws (allowed : List String) :
    (∀ raw, ∀ k ∈ parse allowed raw, k.column ∈ allowed)
    ∧ (∀ q : ListQuery, ∀ k ∈ Service.keysOf q, k.column ∈ Service.sortable)
    ∧ (∀ a b, parse allowed (a ++ ',' :: b) = parse allowed a ++ parse allowed b)
    ∧ (∀ raw fields, List.Forall₂ Padded (pieces ',' raw) fields →
      parse allowed (List.intercalate [','] fields) = parse allowed raw)
    ∧ ((∀ a ∈ allowed, Plain a) → ∀ ks : List SortKey, (∀ k ∈ ks, k.column ∈ allowed) →
      parse allowed (render ks) = ks) := by
  refine ⟨fun raw k => column_mem_of_mem_parse, Service.keysOf_sorts, fun a b => ?_,
    fun raw fields => parse_padded, fun plain ks => parse_render plain⟩
  rw [parse, pieces_append, List.filterMap_append]
  rfl

/-- The columns of the service can be told in a list of fields. -/
theorem parse_laws_sortable :
    parse Service.sortable " -created,summary , updated,--created,\u00A0created\t".toList =
      [⟨"created", true⟩, ⟨"updated", false⟩, ⟨"created", false⟩]
    ∧ parse Service.sortable (render [⟨"created", true⟩, ⟨"updated", false⟩, ⟨"created", false⟩]) =
      [⟨"created", true⟩, ⟨"updated", false⟩, ⟨"created", false⟩] := by
  refine ⟨by decide +kernel, ?_⟩
  obtain ⟨-, -, -, -, read⟩ := parse_laws Service.sortable
  have plain : ∀ a ∈ Service.sortable, Plain a := by
    rw [Service.sortable, List.forall_mem_cons, List.forall_mem_singleton]
    exact ⟨⟨by decide, by decide, by decide, by simp [isBlank], by simp [isBlank]⟩,
      by decide, by decide, by decide, by simp [isBlank], by simp [isBlank]⟩
  exact read plain _ (by decide)

end SortKey
end IssueTracker
