import IssueTracker.Issue.Basic
import IssueTracker.Json.Lawful

/-! Ids as they are written and read: every id is read back from its text, and the id of
an issue stands in its JSON form. -/

namespace IssueTracker

namespace Uuid

theorem hexDigit?_digit (d : Fin 16) : hexDigit? (Hex.digit d.val) = some d := by
  rw [hexDigit?, Hex.value?_digit]
  simp

theorem ofSimple?_simple (u : Uuid) : ofSimple? u.simple = some u := by
  have digits (ds : List (Fin 16)) :
      (ds.map fun d => Hex.digit d.val).mapM hexDigit? = some ds := by
    induction ds with
    | nil => rfl
    | cons d ds ih => simp [hexDigit?_digit, ih]
  rw [ofSimple?, simple, digits, Option.bind_some, ofDigits?, dif_pos u.length_eq]

/-- Five groups with hyphens between them are read as the groups alone. -/
theorem ofHyphenated?_groups {a b c d e : List Char} (ha : a.length = 8) (hb : b.length = 4)
    (hc : c.length = 4) (hd : d.length = 4) (he : e.length = 12) :
    ofHyphenated? (a ++ '-' :: (b ++ '-' :: (c ++ '-' :: (d ++ '-' :: e)))) =
      ofSimple? (a ++ (b ++ (c ++ (d ++ e)))) := by
  simp [ofHyphenated?, ha, hb, hc, hd, he, List.drop_append, List.drop_of_length_le]

theorem ofHyphenated?_hyphenate {cs : List Char} (h : cs.length = 32) :
    ofHyphenated? (hyphenate cs) = ofSimple? cs := by
  have join (n : Nat) : (cs.drop n).take 4 ++ cs.drop (n + 4) = cs.drop n := by
    rw [← List.drop_drop, List.take_append_drop]
  have groups : cs.take 8 ++ ((cs.drop 8).take 4 ++ ((cs.drop 12).take 4
      ++ ((cs.drop 16).take 4 ++ cs.drop 20))) = cs := by
    rw [join 16, join 12, join 8, List.take_append_drop]
  have parts := ofHyphenated?_groups (a := cs.take 8) (b := (cs.drop 8).take 4)
    (c := (cs.drop 12).take 4) (d := (cs.drop 16).take 4) (e := cs.drop 20)
    (by simp [h]) (by simp [h]) (by simp [h]) (by simp [h]) (by simp [h])
  rwa [groups] at parts

theorem ofString?_text (u : Uuid) : ofString? u.text = some u := by
  have length : u.simple.length = 32 := by rw [simple, List.length_map, u.length_eq]
  have hyphenated : u.chars.length = 36 := by
    rw [chars, hyphenate]
    simp [length]
  rw [ofString?, text, String.toList_ofList, ofChars?, hyphenated]
  exact (ofHyphenated?_hyphenate length).trans (ofSimple?_simple u)

theorem lawful_codec : Uuid.codec.Lawful :=
  Codec.lawful_spelled ofString?_text

end Uuid

namespace Record

variable {α β : Type} {name k : String}

/-- Members that are not asked for are passed over. -/
theorem known?_others {names : List String} {found ms : List (String × Json)}
    (h : ∀ m ∈ ms, m.1 ∉ names) :
    known? names found (ms.map fun m => (Json.Quoted.ofString m.1, m.2)) = some found := by
  induction ms with
  | nil => rfl
  | cons m ms ih =>
    obtain ⟨hm, hms⟩ := List.forall_mem_cons.1 h
    rw [List.map_cons, known?, Json.Quoted.text?_ofString]
    simp only [List.contains_eq_mem, hm, decide_false, Bool.false_eq_true, if_false]
    exact ih hms

/-- No member is written under this name. -/
def Avoids (k : String) (r : Record α) : Prop :=
  ∀ a, ∀ m ∈ r.encode a, m.1 ≠ k

theorem avoids_required (c : Codec α) (h : name ≠ k) : (required name c).Avoids k := by
  intro a m hm
  obtain rfl := List.mem_singleton.1 hm
  exact h

theorem avoids_defaulted (c : Codec α) (default : α) (h : name ≠ k) :
    (defaulted name c default).Avoids k := by
  intro a m hm
  obtain rfl := List.mem_singleton.1 hm
  exact h

theorem avoids_optional (c : Codec α) (h : name ≠ k) : (optional name c).Avoids k := by
  intro a m hm
  cases a with
  | none => cases hm
  | some a =>
    obtain rfl := List.mem_singleton.1 hm
    exact h

theorem avoids_and {r : Record α} {s : Record β} (hr : r.Avoids k) (hs : s.Avoids k) :
    (r.and s).Avoids k := by
  intro p m hm
  rcases List.mem_append.1 hm with hm | hm
  · exact hr p.1 m hm
  · exact hs p.2 m hm

end Record

/-- The id that stands in an object. -/
def Json.id? (v : Json) : Option Uuid :=
  (Record.required "id" Uuid.codec).codec.decode v

theorem Json.id?_object (u : Uuid) {ms : List (String × Json)} (others : ∀ m ∈ ms, m.1 ≠ "id") :
    (Record.object (("id", Uuid.codec.encode u) :: ms)).id? = some u := by
  have rest : Record.known? ["id"] [("id", Uuid.codec.encode u)]
      (ms.map fun m => (Json.Quoted.ofString m.1, m.2)) = some [("id", Uuid.codec.encode u)] :=
    Record.known?_others (by simpa using others)
  have members : Record.members? ["id"] (Record.object (("id", Uuid.codec.encode u) :: ms)) =
      some [("id", Uuid.codec.encode u)] := by
    rw [Record.object, List.map_cons, Record.members?, Record.known?, Json.Quoted.text?_ofString]
    exact rest
  change (Record.members? ["id"] _).bind _ = _
  rw [members]
  exact Uuid.lawful_codec.decode_encode u

theorem Issue.id?_encode (i : Issue) : (Issue.codec.encode i).id? = some i.id := by
  refine Json.id?_object i.id ((?_ : Record.Avoids "id" _) _)
  -- one goal for each of the other members
  repeat' apply Record.avoids_and
  all_goals first
    | exact Record.avoids_required _ (by decide)
    | exact Record.avoids_defaulted _ _ (by decide)
    | exact Record.avoids_optional _ (by decide)

end IssueTracker
