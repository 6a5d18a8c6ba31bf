import IssueTracker.Proofs.Instants
import IssueTracker.Proofs.Listings
import IssueTracker.Proofs.Recomputing
import IssueTracker.Proofs.Spelling

/-! The types of data on the wire. What is written of any of them is read back, down to
which members were left out; so reading a text in whatever spelling and writing what was
read gives a text that stays as it is from then on (`rewritten`). A record is gone through
member by member, in the order in which it is declared. -/

namespace IssueTracker

namespace Record.Lawful

variable {α β : Type} {name : String} {c : Codec α} {s : Record β}

theorem required (h : c.Lawful) (rest : s.names.Nodup → s.Lawful)
    (once : ((Record.required name c).and s).names.Nodup) :
    ((Record.required name c).and s).Lawful := by
  obtain ⟨fresh, once⟩ := List.nodup_cons.1 once
  exact lawful_and (lawful_required name h) (rest once) (List.forall_mem_singleton.2 fresh)

theorem defaulted {default : α} (h : c.Lawful) (rest : s.names.Nodup → s.Lawful)
    (once : ((Record.defaulted name c default).and s).names.Nodup) :
    ((Record.defaulted name c default).and s).Lawful := by
  obtain ⟨fresh, once⟩ := List.nodup_cons.1 once
  exact lawful_and (lawful_defaulted name h default) (rest once)
    (List.forall_mem_singleton.2 fresh)

theorem optional (h : c.Lawful) (some_ : ∀ a, c.encode a ≠ .null)
    (rest : s.names.Nodup → s.Lawful)
    (once : ((Record.optional name c).and s).names.Nodup) :
    ((Record.optional name c).and s).Lawful := by
  obtain ⟨fresh, once⟩ := List.nodup_cons.1 once
  exact lawful_and (lawful_optional name h some_) (rest once)
    (List.forall_mem_singleton.2 fresh)

/-- The codec of a structure, through the tuple of its members. Their names are compared once,
for all of them. -/
theorem structured {r : Record α} {into : α → β} {out : β → α} (once : r.names.Nodup)
    (same : ∀ b, into (out b) = b) (h : r.names.Nodup → r.Lawful) :
    (r.via into out).codec.Lawful :=
  (lawful_via (h once) same).codec once

end Record.Lawful

section Records

open Codec Record

theorem Severity.lawful_codec : Severity.codec.Lawful :=
  lawful_enumeration Store.ofName?_name

theorem IssueUrl.lawful_codec : IssueUrl.codec.Lawful := by
  have method : (Record.optional "method" Codec.text).Lawful :=
    lawful_optional _ lawful_text fun _ => nofun
  exact Lawful.structured (by decide) (fun _ => rfl) (.required lawful_text fun _ => method)

theorem Extra.lawful_codec : Extra.codec.Lawful :=
  Lawful.structured (by decide) (fun _ => rfl) <|
    .required lawful_text fun _ => lawful_defaulted _ lawful_text _

theorem Reference.lawful_codec : Reference.codec.Lawful :=
  Lawful.structured (by decide) (fun _ => rfl) <|
    .required lawful_text fun _ => lawful_defaulted _ lawful_text _

theorem ActivityKind.lawful_codec : ActivityKind.codec.Lawful :=
  lawful_enumeration fun a => by cases a; decide

theorem Activity.lawful_codec : Activity.codec.Lawful := by
  have user : (Record.optional "user" Uuid.codec).Lawful :=
    lawful_optional _ Uuid.lawful_codec fun _ => nofun
  refine Lawful.structured (by decide) (fun _ => rfl) ?_
  exact .required ActivityKind.lawful_codec <| .required Timestamp.lawful_codec fun _ => user

theorem Issue.lawful_codec : Issue.codec.Lawful := by
  have id := Uuid.lawful_codec
  have time := Timestamp.lawful_codec
  have updated : (Record.required "updated" Timestamp.codec).Lawful := lawful_required _ time
  refine Lawful.structured (by decide) (fun _ => rfl) ?_
  exact .required id <| .required id <| .required id <| .optional lawful_text (fun _ => nofun) <|
    .required lawful_text <| .defaulted lawful_text <| .required Severity.lawful_codec <|
    .defaulted (lawful_list IssueUrl.lawful_codec) <| .defaulted (lawful_list Extra.lawful_codec) <|
    .defaulted (lawful_list Reference.lawful_codec) <| .required lawful_bool <|
    .required lawful_bool <| .required lawful_bool <| .required lawful_bool <|
    .defaulted (lawful_list Activity.lawful_codec) <| .required time fun _ => updated

theorem Patch.lawful_codec : Patch.codec.Lawful := by
  have resolved : (Record.optional "resolved" Codec.bool).Lawful :=
    lawful_optional _ lawful_bool fun _ => nofun
  refine Lawful.structured (by decide) (fun _ => rfl) ?_
  exact .optional lawful_text (fun _ => nofun) <| .optional lawful_text (fun _ => nofun) <|
    .optional lawful_text (fun _ => nofun) <| .optional lawful_text (fun _ => nofun) <|
    .optional Severity.lawful_codec (fun _ => nofun) <|
    .optional (lawful_list IssueUrl.lawful_codec) (fun _ => nofun) <|
    .optional (lawful_list Extra.lawful_codec) (fun _ => nofun) <|
    .optional (lawful_list Reference.lawful_codec) (fun _ => nofun) <|
    .optional lawful_bool (fun _ => nofun) <| .optional lawful_bool (fun _ => nofun) <|
    .optional lawful_bool (fun _ => nofun) fun _ => resolved

theorem Meta.lawful_codec : Meta.codec.Lawful :=
  Meta.lawful_record.codec (by decide)

theorem CommentKind.lawful_codec : CommentKind.codec.Lawful :=
  lawful_enumeration fun a => by cases a; decide

theorem Comment.lawful_codec : Comment.codec.Lawful := by
  have id := Uuid.lawful_codec
  have time := Timestamp.lawful_codec
  refine Lawful.structured (by decide) (fun _ => rfl) ?_
  exact .required id <| .required id <| .required CommentKind.lawful_codec <| .required id <|
    .required lawful_text <| .required time fun _ => lawful_required _ time

theorem CommentDraft.lawful_codec : CommentDraft.codec.Lawful :=
  Lawful.structured (by decide) (fun _ => rfl) fun _ => lawful_defaulted _ lawful_text _

theorem Summary.lawful_codec : Summary.codec.Lawful := by
  refine Lawful.structured (by decide) (fun _ => rfl) ?_
  exact .required lawful_int64 <| .required lawful_int64 <| .required lawful_int64 <|
    .required lawful_int64 fun _ => lawful_required _ lawful_int64

theorem Target.lawful_codec : Target.codec.Lawful := by
  have id := Uuid.lawful_codec
  have time := Timestamp.lawful_codec
  refine Lawful.structured (by decide) (fun _ => rfl) ?_
  exact .required id <| .required id <| .required lawful_text <| .required Summary.lawful_codec <|
    .required time fun _ => lawful_required _ time

theorem Project.lawful_codec : Project.codec.Lawful := by
  have id := Uuid.lawful_codec
  refine Lawful.structured (by decide) (fun _ => rfl) ?_
  exact .required id <| .required lawful_text <| .required id
    fun _ => lawful_required _ Timestamp.lawful_codec

theorem User.lawful_codec : User.codec.Lawful := by
  refine Lawful.structured (by decide) (fun _ => rfl) ?_
  exact .required Uuid.lawful_codec <| .required lawful_text <| .required lawful_text
    fun _ => lawful_required _ lawful_bool

end Records

namespace Json

/-- No digit is left out of a number that fits in 64 bits. -/
theorem significand_fits {n : Nat} {ds : List Digit}
    (h : n * 10 ^ ds.length + Decimal.value ds.reverse < UInt64.size) : (significand n ds).2 = 0 := by
  induction ds generalizing n with
  | nil => rfl
  | cons d ds ih =>
    rw [List.reverse_cons, Decimal.value_append, List.length_reverse, Decimal.value,
      Decimal.value, List.length_cons, Nat.pow_succ] at h
    have shifted : (n * 10 + d.val) * 10 ^ ds.length + Decimal.value ds.reverse < UInt64.size := by
      simp only [Nat.pow_eq, Nat.mul_zero, Nat.add_zero] at h
      grind
    have small : n * 10 + d.val < UInt64.size :=
      Nat.lt_of_le_of_lt (Nat.le_mul_of_pos_right _ (Nat.pow_pos (by decide)))
        (Nat.lt_of_le_of_lt (Nat.le_add_right _ _) shifted)
    rw [significand, if_pos small]
    exact ih shifted

/-- An integer is within the range of a binary float. -/
theorem Numeral.finite_ofInt (i : Int64) : (ofInt i.toInt).finite = true := by
  have lower := i.le_toInt
  have upper := i.toInt_lt
  have whole : (significand 0 (ofInt i.toInt).whole.reverse).2 = 0 := by
    refine significand_fits ?_
    rw [List.reverse_reverse]
    simp only [ofInt, Decimal.value_ofNat, UInt64.size]
    omega
  obtain ⟨s, hs⟩ : ∃ s, significand 0 (ofInt i.toInt).whole.reverse = (s, 0) :=
    ⟨_, Prod.ext rfl whole⟩
  have scaled : (ofInt i.toInt).scaled = (s, 0) := by
    rw [Numeral.scaled, hs]
    rfl
  rw [Numeral.finite, scaled]
  simp [ofInt]

end Json

namespace Listing

/-- The members beside the results can be held until the results are found. -/
theorem holdsRest_object (info : Meta) (v : Json) :
    holdsRest ((Meta.record.encode info ++ [("results", v)]).map fun m =>
      (Json.Quoted.ofString m.1, m.2)) = true := by
  have rest : ∀ m ∈ Meta.record.encode info, m.2.holdable heldDepth = true := by
    have link {name : String} (o : Option String) :
        ∀ m ∈ (Record.optional name .text).encode o, m.2.holdable heldDepth = true := by
      intro m hm
      cases o with
      | none => cases hm
      | some s =>
        obtain rfl := List.mem_singleton.1 hm
        exact Option.isSome_of_mem (Json.Quoted.text?_ofString s)
    intro m hm
    rcases List.mem_append.1 hm with count | links
    · obtain rfl := List.mem_singleton.1 count
      exact Json.Numeral.finite_ofInt info.count
    · rcases List.mem_append.1 links with previous | next
      · exact link _ m previous
      · exact link _ m next
  rw [holdsRest, List.map_append, List.all_append, Bool.and_eq_true, List.all_eq_true,
    List.all_eq_true]
  refine ⟨?_, ?_⟩
  · intro m hm
    obtain ⟨m, named, rfl⟩ := List.mem_map.1 hm
    rw [rest m named, Bool.or_true]
  · simp [Json.Quoted.text?_ofString]

theorem lawful_codec {α : Type} {c : Codec α} (h : c.Lawful) : (Listing.codec c).Lawful := by
  have once : (Meta.record.names ++ ["results"]).Nodup := by decide
  have apart : ∀ k ∈ Meta.record.names, k ∉ ["results"] := by decide
  have results := Record.lawful_required "results" (Codec.lawful_list h)
  have record : (Listing.record c).codec.Lawful :=
    Record.Lawful.structured once (fun _ => rfl) fun _ =>
      Record.lawful_and Meta.lawful_record results apart
  refine ⟨record.written, fun l => ?_⟩
  have held := holdsRest_object l.info ((Codec.list c).encode l.results)
  exact (if_pos held).trans (record.decode_encode l)

end Listing

/-- The types of data that callers and the service exchange. -/
inductive DataType where
  | severity
  | issueUrl
  | extra
  | reference
  | activityKind
  | activity
  | issue
  | patch
  | info
  | issueList
  | commentKind
  | comment
  | commentDraft
  | commentList
  | summary
  | target
  | project
  | user

namespace DataType

def Value : DataType → Type
  | .severity => Severity
  | .issueUrl => IssueUrl
  | .extra => Extra
  | .reference => Reference
  | .activityKind => ActivityKind
  | .activity => Activity
  | .issue => Issue
  | .patch => Patch
  | .info => Meta
  | .issueList => IssueList
  | .commentKind => CommentKind
  | .comment => Comment
  | .commentDraft => CommentDraft
  | .commentList => CommentList
  | .summary => Summary
  | .target => Target
  | .project => Project
  | .user => User

def codec : (t : DataType) → Codec t.Value
  | .severity => Severity.codec
  | .issueUrl => IssueUrl.codec
  | .extra => Extra.codec
  | .reference => Reference.codec
  | .activityKind => ActivityKind.codec
  | .activity => Activity.codec
  | .issue => Issue.codec
  | .patch => Patch.codec
  | .info => Meta.codec
  | .issueList => Listing.codec Issue.codec
  | .commentKind => CommentKind.codec
  | .comment => Comment.codec
  | .commentDraft => CommentDraft.codec
  | .commentList => Listing.codec Comment.codec
  | .summary => Summary.codec
  | .target => Target.codec
  | .project => Project.codec
  | .user => User.codec

theorem lawful_codec (t : DataType) : t.codec.Lawful := by
  cases t with
  | severity => exact Severity.lawful_codec
  | issueUrl => exact IssueUrl.lawful_codec
  | extra => exact Extra.lawful_codec
  | reference => exact Reference.lawful_codec
  | activityKind => exact ActivityKind.lawful_codec
  | activity => exact Activity.lawful_codec
  | issue => exact Issue.lawful_codec
  | patch => exact Patch.lawful_codec
  | info => exact Meta.lawful_codec
  | issueList => exact Listing.lawful_codec Issue.lawful_codec
  | commentKind => exact CommentKind.lawful_codec
  | comment => exact Comment.lawful_codec
  | commentDraft => exact CommentDraft.lawful_codec
  | commentList => exact Listing.lawful_codec Comment.lawful_codec
  | summary => exact Summary.lawful_codec
  | target => exact Target.lawful_codec
  | project => exact Project.lawful_codec
  | user => exact User.lawful_codec

/-- Every value is read back from its text, and a text that is read as a value, however it
spells it, is written again as a text that stands for the same value and stays as it is. -/
theorem rewritten (t : DataType) :
    (∀ v : t.Value, t.codec.read? (t.codec.write v) = some v) ∧
    ∀ s : String, let again := (t.codec.read? s).map t.codec.write
      again.bind t.codec.read? = t.codec.read? s
        ∧ (again.bind t.codec.read?).map t.codec.write = again := by
  have kept := t.lawful_codec.read?_write
  refine ⟨kept, fun s => ?_⟩
  intro again
  have same : again.bind t.codec.read? = t.codec.read? s := by
    cases h : t.codec.read? s with
    | none => simp [again, h]
    | some v => simp [again, h, kept]
  exact ⟨same, congrArg _ same⟩

end DataType
end IssueTracker
