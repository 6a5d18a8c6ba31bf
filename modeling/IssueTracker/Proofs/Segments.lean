import IssueTracker.Proofs.Routing
import IssueTracker.Route.Resource

/-! Paths made of segments: some texts that stand for themselves, some names that capture.
The router reads such a path as the template that is meant, takes by it the paths that have
the same pieces, and tells two such templates apart unless they are the same but for
names. -/

namespace IssueTracker

/-- A segment of a path: a text that stands for itself, or a capture. -/
inductive Segment where
  | fixed (text : List Char)
  | capture (name : List Char)
  deriving DecidableEq

/-- A text that may stand for itself between slashes. -/
def IsStatic (s : List Char) : Prop :=
  s ≠ [] ∧ (∀ c ∈ s, c ≠ '/' ∧ c ≠ '{' ∧ c ≠ '}') ∧ s.head? ≠ some ':' ∧ s.head? ≠ some '*'

instance (s : List Char) : Decidable (IsStatic s) :=
  -- Membership in the list is what is walked, never all characters.
  have := List.decidableBAll (fun c => c ≠ '/' ∧ c ≠ '{' ∧ c ≠ '}') s
  inferInstanceAs (Decidable (_ ∧ _ ∧ _ ∧ _))

/-- The name of a capture. -/
def IsName (n : List Char) : Prop :=
  n ≠ [] ∧ ∀ c ∈ n, c ≠ '/' ∧ c ≠ '{' ∧ c ≠ '}' ∧ c ≠ '*'

instance (n : List Char) : Decidable (IsName n) :=
  have := List.decidableBAll (fun c => c ≠ '/' ∧ c ≠ '{' ∧ c ≠ '}' ∧ c ≠ '*') n
  inferInstanceAs (Decidable (_ ∧ _))

theorem pieces_append_rest {α : Type} [DecidableEq α] {sep : α} {p r : List α} (h : sep ∉ p)
    (hr : r = [] ∨ r.head? = some sep) : pieces sep (p ++ r) = p :: (pieces sep r).tail := by
  cases r with
  | nil => rw [List.append_nil, pieces_of_not_mem h]; rfl
  | cons c r =>
    obtain rfl : c = sep := by simpa using hr
    rw [pieces_append_sep r h, pieces_cons_sep, List.tail_cons]

namespace Segment

def text : Segment → List Char
  | fixed s => s
  | capture n => '{' :: (n ++ ['}'])

def parts : Segment → Template
  | fixed s => s.map Part.char
  | capture n => [.segment n]

def captures : Segment → Bool
  | fixed _ => false
  | capture _ => true

def Sound : Segment → Prop
  | fixed s => IsStatic s
  | capture n => IsName n

/-- The path of some segments, each behind a slash. -/
def path (ss : List Segment) : List Char :=
  ss.flatMap fun s => '/' :: s.text

def template (ss : List Segment) : Template :=
  ss.flatMap fun s => .char '/' :: s.parts

end Segment

/-- A piece of a template that stands for any piece of a path. -/
def isCapture (t : List Char) : Bool :=
  t.head? == some '{' && t.getLast? == some '}'

/-- The pieces of a path match those of a template: one in braces stands for any piece, but
at the end not for an empty one; the others stand for themselves. -/
def fits : List (List Char) → List (List Char) → Bool
  | [], [] => true
  | t :: ts, p :: ps =>
    (if isCapture t then !(ts.isEmpty && p.isEmpty) else t == p) && fits ts ps
  | _, _ => false

/-- The text of a template takes a path. -/
def takesPath (t p : List Char) : Bool :=
  fits (pieces '/' t) (pieces '/' p)

namespace Segment

variable {s : Segment} {ss : List Segment}

theorem not_mem_text (h : s.Sound) : '/' ∉ s.text := by
  cases s with
  | fixed t => exact fun m => (h.2.1 _ m).1 rfl
  | capture n =>
    intro m
    simp only [text, List.mem_cons, List.mem_append, List.not_mem_nil, or_false] at m
    rcases m with m | m | m
    · exact absurd m (by decide)
    · exact (h.2 _ m).1 rfl
    · exact absurd m (by decide)

theorem isCapture_text (h : s.Sound) : isCapture s.text = true ↔ ∃ n, s = capture n := by
  cases s with
  | fixed t =>
    have head : t.head? ≠ some '{' := fun m => (h.2.1 _ (List.mem_of_head? m)).2.1 rfl
    simp [text, isCapture, head]
  | capture n => simp [text, isCapture, List.getLast?_cons]

theorem path_append (ss ts : List Segment) : path (ss ++ ts) = path ss ++ path ts :=
  List.flatMap_append

theorem template_append (ss ts : List Segment) :
    template (ss ++ ts) = template ss ++ template ts :=
  List.flatMap_append

theorem path_head (ss : List Segment) : path ss = [] ∨ (path ss).head? = some '/' := by
  cases ss with
  | nil => exact .inl rfl
  | cons s ss => exact .inr rfl

theorem pieces_path (h : ∀ s ∈ ss, s.Sound) : pieces '/' (path ss) = [] :: ss.map text := by
  induction ss with
  | nil => rfl
  | cons s ss ih =>
    obtain ⟨hs, hss⟩ := List.forall_mem_cons.1 h
    change pieces '/' ([] ++ '/' :: (s.text ++ path ss)) = _
    rw [pieces_append_sep _ (by simp), pieces_append_rest (not_mem_text hs) (path_head ss), ih hss]
    rfl

/-- Nothing is wrong with the path by itself. -/
theorem ofPath?_path (some_ : ss ≠ []) (h : ∀ s ∈ ss, s.Sound) :
    RouteError.ofPath? (path ss) = none := by
  obtain ⟨s, rest, rfl⟩ := List.exists_cons_of_ne_nil some_
  rw [RouteError.ofPath?, if_neg (by simp [path]), if_neg (by simp [path]), pieces_path h]
  refine List.findSome?_eq_none_iff.2 fun p hp => ?_
  have lead : p.head? ≠ some ':' ∧ p.head? ≠ some '*' := by
    rcases List.mem_cons.1 hp with rfl | hp
    · simp
    · obtain ⟨s, hs, rfl⟩ := List.mem_map.1 hp
      cases s with
      | fixed t => exact (h _ hs).2.2
      | capture n => simp [text]
  split
  · exact absurd rfl lead.1
  · exact absurd rfl lead.2
  · rfl

section Reading

variable {n : List Char} {r : List Char}

theorem marks_cons {c : Char} (h : (c ≠ '{' ∧ c ≠ '}') ∨ r.head? ≠ some c) :
    Template.marks (c :: r) = ⟨c, false⟩ :: Template.marks r := by
  rw [Template.marks]
  · rintro q rfl rfl
    simp at h
  · rintro q rfl rfl
    simp at h

theorem marks_plain_append {cs : List Char} (h : ∀ c ∈ cs, c ≠ '{' ∧ c ≠ '}') :
    Template.marks (cs ++ r) = cs.map (fun c => ⟨c, false⟩) ++ Template.marks r := by
  induction cs with
  | nil => rfl
  | cons c cs ih =>
    obtain ⟨hc, hcs⟩ := List.forall_mem_cons.1 h
    rw [List.cons_append, marks_cons (.inl hc), ih hcs]
    rfl

/-- Braces that do not stand beside their like are marked as they are. -/
theorem marks_path (h : ∀ s ∈ ss, s.Sound) :
    Template.marks (path ss) = (path ss).map fun c => ⟨c, false⟩ := by
  induction ss with
  | nil => rfl
  | cons s ss ih =>
    obtain ⟨hs, hss⟩ := List.forall_mem_cons.1 h
    have slash (r : List Char) : Template.marks ('/' :: r) = ⟨'/', false⟩ :: Template.marks r :=
      marks_cons (.inl (by decide))
    change Template.marks ('/' :: (s.text ++ path ss)) = _
    rw [slash]
    cases s with
    | fixed t =>
      change _ :: Template.marks (t ++ path ss) = (('/' :: t) ++ path ss).map _
      rw [marks_plain_append fun c hc => (hs.2.1 c hc).2, ih hss]
      simp
    | capture n =>
      have plain : ∀ c ∈ n, c ≠ '{' ∧ c ≠ '}' := fun c hc => ⟨(hs.2 c hc).2.1, (hs.2 c hc).2.2.1⟩
      obtain ⟨c, m, rfl⟩ := List.exists_cons_of_ne_nil hs.1
      have opened : ((c :: m) ++ '}' :: path ss).head? ≠ some '{' := by
        simpa using (plain c List.mem_cons_self).1
      have closed : (path ss).head? ≠ some '}' := by
        rcases path_head ss with hp | hp <;> simp [hp]
      change _ :: Template.marks ('{' :: (((c :: m) ++ ['}']) ++ path ss)) = _
      rw [List.append_assoc, List.singleton_append, marks_cons (.inr opened),
        marks_plain_append plain, marks_cons (.inr closed), ih hss]
      simp [path, text]

theorem read_inside {room : Nat} {ms : List Template.Mark} (acc : List Char)
    (h : ∀ c ∈ n, c ≠ '/' ∧ c ≠ '{' ∧ c ≠ '}' ∧ c ≠ '*') :
    Template.read room (.inside acc) (n.map (fun c => ⟨c, false⟩) ++ ms) =
      Template.read room (.inside (n.reverse ++ acc)) ms := by
  induction n generalizing acc with
  | nil => rfl
  | cons c n ih =>
    obtain ⟨⟨slash, -, close, star⟩, hn⟩ := List.forall_mem_cons.1 h
    rw [List.map_cons, List.cons_append, Template.read, if_neg (by simp [close]),
      if_neg (by simp [slash, star]), ih _ hn]
    simp

/-- A capture is read as it is written, if another segment may be captured. -/
theorem read_capture {room : Nat} {ms : List Template.Mark} (h : IsName n)
    (behind : ms = [] ∨ ms.head? = some ⟨'/', false⟩) :
    Template.read (room + 1) .outside
        (⟨'{', false⟩ :: (n.map (fun c => ⟨c, false⟩) ++ ⟨'}', false⟩ :: ms)) =
      (Template.read room .outside ms).map (.segment n :: ·) := by
  obtain ⟨c, m, rfl⟩ := List.exists_cons_of_ne_nil h.1
  obtain ⟨⟨-, -, close, star⟩, hm⟩ := List.forall_mem_cons.1 h.2
  have named : Template.capture (c :: m) = .segment (c :: m) := by
    rw [Template.capture]
    intro r he
    exact star (List.cons.inj he).1
  have some_ : m.reverse ++ [c] ≠ ['*'] := by
    intro he
    have mem : c ∈ ['*'] := he ▸ by simp
    exact star (by simpa using mem)
  have free : ¬ (ms.head?.any fun f => f.char != '/') := by
    rcases behind with hb | hb <;> simp [hb]
  rw [Template.read, if_pos (by simp), List.map_cons, List.cons_append, Template.read,
    if_neg (by simpa using close), read_inside _ hm, Template.read, if_pos (by simp), if_neg some_,
    if_neg free]
  have whole : (m.reverse ++ [c]).reverse = c :: m := by simp
  rw [whole, named, Template.roomBehind?, if_neg (by omega)]
  rfl

theorem read_path {room : Nat} (h : ∀ s ∈ ss, s.Sound)
    (fit : ss.countP captures ≤ room) :
    Template.read room .outside ((path ss).map fun c => ⟨c, false⟩) = .ok (template ss) := by
  induction ss generalizing room with
  | nil => rfl
  | cons s ss ih =>
    obtain ⟨hs, hss⟩ := List.forall_mem_cons.1 h
    cases s with
    | fixed t =>
      have plain : ∀ c ∈ '/' :: t, c ≠ '{' ∧ c ≠ '}' := by
        rw [List.forall_mem_cons]
        exact ⟨by decide, fun c hc => (hs.2.1 c hc).2⟩
      change Template.read room .outside ((('/' :: t) ++ path ss).map _) = _
      rw [List.map_append, Template.read_plain room _ plain, ih hss (by simpa [captures] using fit)]
      rfl
    | capture n =>
      rw [List.countP_cons_of_pos (by rfl)] at fit
      obtain ⟨room, rfl⟩ : ∃ k, room = k + 1 := ⟨room - 1, by omega⟩
      have slash : ∀ c ∈ ['/'], c ≠ '{' ∧ c ≠ '}' := List.forall_mem_singleton.2 (by decide)
      have behind : (path ss).map (fun c => (⟨c, false⟩ : Template.Mark)) = []
          ∨ ((path ss).map fun c => (⟨c, false⟩ : Template.Mark)).head? = some ⟨'/', false⟩ := by
        rcases path_head ss with hp | hp <;> simp [hp]
      have marked : (path (capture n :: ss)).map (fun c => (⟨c, false⟩ : Template.Mark)) =
          ['/'].map (fun c => ⟨c, false⟩) ++ (⟨'{', false⟩ :: (n.map (fun c => ⟨c, false⟩)
            ++ ⟨'}', false⟩ :: (path ss).map fun c => ⟨c, false⟩)) := by
        simp [path, text]
      rw [marked, Template.read_plain _ _ slash, read_capture hs behind, ih hss (by omega)]
      rfl

/-- The path is the text of the template that is meant. -/
theorem ofChars_path (h : ∀ s ∈ ss, s.Sound)
    (fit : ss.countP captures ≤ Template.maxSegments) :
    Template.ofChars (path ss) = .ok (template ss) := by
  rw [Template.ofChars, marks_path h, read_path h fit]

end Reading

section Taking

variable {p q : List Char}

theorem captures?_nil : (∃ cs, Template.captures? [] p = some cs) ↔ p = [] := by
  cases p <;> simp [Template.captures?]

theorem template_head {cs : List Capture} (h : (template ss).captures? p = some cs) :
    p = [] ∨ p.head? = some '/' := by
  cases ss with
  | nil => exact .inl (captures?_nil.1 ⟨cs, h⟩)
  | cons s ss =>
    cases p with
    | nil => simp
    | cons d p =>
      change (if '/' = d then _ else none) = some cs at h
      split at h
      · next hd => exact .inr (by simp [← hd])
      · cases h

/-- The first piece of a path, and what is behind it. -/
theorem exists_piece (q : List Char) : ∃ raw z, q = raw ++ z ∧ '/' ∉ raw
    ∧ (z = [] ∨ z.head? = some '/') := by
  refine ⟨q.takeWhile (· != '/'), q.dropWhile (· != '/'), List.takeWhile_append_dropWhile.symm,
    fun m => by simpa using List.mem_takeWhile_imp m, ?_⟩
  cases hz : q.dropWhile (· != '/') with
  | nil => exact .inl rfl
  | cons d z =>
    have := List.head?_dropWhile_not (· != '/') q
    exact .inr (by simpa [hz] using this)

theorem pieces_tail {z : List Char} (hz : z = [] ∨ z.head? = some '/') :
    pieces '/' z = [] :: (pieces '/' z).tail :=
  pieces_append_rest (p := []) (by simp) hz

/-- The segment takes the first piece of a path, and the others what is behind it. -/
theorem captures?_parts (hs : s.Sound)
    (rest : ∀ z, (∃ cs, (template ss).captures? z = some cs) ↔
      fits ([] :: ss.map text) (pieces '/' z) = true) :
    (∃ cs, (s.parts ++ template ss).captures? q = some cs) ↔
      fits (s.text :: ss.map text) (pieces '/' q) = true := by
  obtain ⟨raw, z, rfl, hraw, hz⟩ := exists_piece q
  have behind : (∃ cs, (template ss).captures? z = some cs) ↔
      fits (ss.map text) (pieces '/' z).tail = true := by
    rw [rest, pieces_tail hz]
    simp [fits, isCapture]
  rw [pieces_append_rest hraw hz, fits, Bool.and_eq_true, ← behind]
  cases s with
  | fixed t =>
    have stands : isCapture (fixed t).text = false := by
      rw [← Bool.not_eq_true, isCapture_text hs]
      rintro ⟨n, hn⟩
      cases hn
    rw [stands, if_neg (by simp), beq_iff_eq]
    constructor
    · rintro ⟨cs, taken⟩
      obtain ⟨y, hy, h⟩ := Template.captures?_chars_eq_some.1 taken
      -- both ways of splitting the path have the same first piece
      have same : pieces '/' (raw ++ z) = pieces '/' (t ++ y) := by rw [hy]
      rw [pieces_append_rest hraw hz,
        pieces_append_rest (p := t) (not_mem_text hs) (template_head h)] at same
      obtain rfl : raw = t := (List.cons.inj same).1
      obtain rfl : z = y := List.append_cancel_left hy
      exact ⟨rfl, cs, h⟩
    · rintro ⟨rfl, cs, h⟩
      exact ⟨cs, Template.captures?_chars_eq_some.2 ⟨z, rfl, h⟩⟩
  | capture n =>
    have captures : isCapture (capture n).text = true := (isCapture_text hs).2 ⟨n, rfl⟩
    rw [captures, if_pos rfl]
    constructor
    · rintro ⟨cs, h⟩
      obtain ⟨some_, raw', y, c', hy, hn, hb, h, -⟩ := Template.captures?_segment_eq_some.1 h
      have same : pieces '/' (raw ++ z) = pieces '/' (raw' ++ y) := by rw [hy]
      rw [pieces_append_rest hraw hz, pieces_append_rest hn hb] at same
      obtain rfl : raw = raw' := (List.cons.inj same).1
      obtain rfl : z = y := List.append_cancel_left hy
      refine ⟨?_, c', h⟩
      -- at the end of the template nothing is behind the piece
      cases ss with
      | nil =>
        obtain rfl : z = [] := captures?_nil.1 ⟨c', h⟩
        simpa using some_
      | cons s ss => rfl
    · rintro ⟨some_, c', h⟩
      refine ⟨_, Template.captures?_segment_eq_some.2 ⟨?_, raw, z, c', rfl, hraw, hz, h, rfl⟩⟩
      cases ss with
      | nil =>
        intro empty
        obtain ⟨rfl, -⟩ := List.append_eq_nil_iff.1 empty
        simp at some_
      | cons s ss =>
        intro empty
        obtain ⟨-, rfl⟩ := List.append_eq_nil_iff.1 empty
        cases h

/-- What a template takes is seen on the pieces. -/
theorem captures?_template (h : ∀ s ∈ ss, s.Sound) (p : List Char) :
    (∃ cs, (template ss).captures? p = some cs) ↔ takesPath (path ss) p = true := by
  rw [takesPath, pieces_path h]
  induction ss generalizing p with
  | nil =>
    rw [template, List.flatMap_nil, captures?_nil]
    obtain ⟨raw, z, rfl, hraw, hz⟩ := exists_piece p
    rw [pieces_append_rest hraw hz, List.append_eq_nil_iff]
    cases z with
    | nil => cases raw <;> simp [fits, isCapture]
    | cons d z =>
      obtain rfl : d = '/' := by simpa using hz
      obtain ⟨q, qs, hq⟩ := exists_pieces_eq '/' z
      simp [fits, hq]
  | cons s ss ih =>
    obtain ⟨hs, hss⟩ := List.forall_mem_cons.1 h
    change (∃ cs, Template.captures? (.char '/' :: (s.parts ++ template ss)) p = some cs) ↔ _
    cases p with
    | nil => simp [Template.captures?, fits]
    | cons d q =>
      by_cases hd : d = '/'
      · subst hd
        rw [Template.captures?, if_pos rfl, captures?_parts hs (ih hss), pieces_cons_sep]
        simp [fits, isCapture]
      · obtain ⟨r, rs, hr⟩ := exists_pieces_eq '/' q
        rw [Template.captures?, if_neg (Ne.symm hd), pieces_cons_of_ne hd hr]
        simp [fits, isCapture]

end Taking

end Segment

/-- A step apart from the name of its capture. -/
def Step.kind : Step → Option UInt8
  | .inl b => some b
  | .inr _ => none

theorem Step.kind_of_alike {x y : Step} (h : x.alike y = true) : x.kind = y.kind := by
  cases x <;> cases y <;> simp_all [Step.alike, Step.kind]

namespace Earlier

variable {x : Step} {xs : List Step} {es : List Earlier} {e : Earlier}

theorem mem_behind (h : e ∈ behind x es) : ∃ f ∈ es, ∃ y, f.left = y :: e.left ∧ x.alike y = true := by
  obtain ⟨f, hf, he⟩ := List.mem_filterMap.1 h
  split at he
  · next y r hl =>
    split at he
    · next like =>
      obtain rfl := Option.some.inj he
      exact ⟨f, hf, y, hl, like⟩
    · cases he
  · cases he

/-- What lies behind several steps began with steps like them. -/
theorem mem_behind_all (h : e ∈ xs.foldl (fun es x => behind x es) es) :
    ∃ f ∈ es, ∃ ys, f.left = ys ++ e.left ∧ ys.map Step.kind = xs.map Step.kind := by
  induction xs generalizing es with
  | nil => exact ⟨e, h, [], rfl, rfl⟩
  | cons x xs ih =>
    obtain ⟨g, hg, ys, left, kinds⟩ := ih h
    obtain ⟨f, hf, y, hl, like⟩ := mem_behind hg
    refine ⟨f, hf, y :: ys, by rw [hl, left, List.cons_append], ?_⟩
    rw [List.map_cons, List.map_cons, kinds, Step.kind_of_alike like]

end Earlier

namespace Clash

/-- What two templates have in common that clash without capturing the rest of a path. -/
def kinds (t : Template) : List (Option UInt8) :=
  (t.flatMap Part.bytes).map Step.kind

theorem kinds_append (t u : Template) : kinds (t ++ u) = kinds t ++ kinds u := by
  simp [kinds]

theorem kinds_chars (cs : List Char) : kinds (cs.map Part.char) = (Utf8.encode cs).map some := by
  induction cs with
  | nil => rfl
  | cons c cs ih =>
    have one : kinds [.char c] = (Utf8.encode [c]).map some := by
      simp [kinds, Part.bytes, Step.kind]
    rw [← List.singleton_append, Utf8.encode_append, List.map_append, List.map_append, ← ih, ← one,
      ← kinds_append]
    rfl

theorem find?_eq_none (before : Template) {t : Template} {es : List Earlier}
    (whole : ∀ n, Part.remainder n ∉ t)
    (apart : ∀ e ∈ es, (∀ n, .inr (.remainder n) ∉ e.left) ∧ e.left.map Step.kind ≠ kinds t) :
    find? before t es = none := by
  induction t generalizing before es with
  | nil =>
    rw [find?, Option.map_eq_none_iff, List.find?_eq_none]
    intro e he empty
    exact (apart e he).2 (by simp [List.isEmpty_iff.1 empty, kinds])
  | cons p t ih =>
    have later : ∀ n, Part.remainder n ∉ t := fun n hn => whole n (List.mem_cons_of_mem _ hn)
    -- what is left of an earlier template is apart from what is left of this one
    have next (xs : List Step) (hx : xs = p.bytes) (before : Template) :
        find? before t (xs.foldl (fun es x => Earlier.behind x es) es) = none := by
      refine ih before later fun e he => ?_
      obtain ⟨f, hf, ys, left, same⟩ := Earlier.mem_behind_all he
      obtain ⟨free, differ⟩ := apart f hf
      refine ⟨fun n hn => free n (left ▸ List.mem_append_right _ hn), fun h => differ ?_⟩
      rw [left, List.map_append, same, h, hx]
      simp [kinds]
    cases p with
    | char c => exact next _ rfl _
    | segment n =>
      rw [find?]
      have none_ : es.find? (fun e => e.left.head?.any (Step.alike (.inr (.remainder n)))) =
          none := by
        refine List.find?_eq_none.2 fun e he hit => ?_
        cases left : e.left with
        | nil => simp [left] at hit
        | cons x r =>
          have mem : x ∈ e.left := by simp [left]
          match x with
          | .inl b => simp [left, Step.alike] at hit
          | .inr (.char c) => simp [left, Step.alike, Part.alike] at hit
          | .inr (.segment m) => simp [left, Step.alike, Part.alike] at hit
          | .inr (.remainder m) => exact (apart e he).1 m mem
      rw [none_]
      exact next [.inr (.segment n)] rfl _
    | remainder n => exact absurd List.mem_cons_self (whole n)

/-- Templates that do not capture the rest of a path clash only if they are the same but
for names. -/
theorem among_eq_none {t : Template} {earlier : List Template}
    (whole : ∀ n, Part.remainder n ∉ t)
    (apart : ∀ e ∈ earlier, (∀ n, Part.remainder n ∉ e) ∧ kinds e ≠ kinds t) :
    among t earlier = none := by
  refine find?_eq_none [] whole fun e he => ?_
  obtain ⟨f, hf, rfl⟩ := List.mem_map.1 he
  refine ⟨fun n hn => ?_, (apart f hf).2⟩
  obtain ⟨p, hp, hx⟩ := List.mem_flatMap.1 hn
  cases p with
  | char c => simp [Part.bytes] at hx
  | segment m => simp [Part.bytes] at hx
  | remainder m => exact (apart f hf).1 m hp

end Clash

namespace Segment

theorem remainder_not_mem (ss : List Segment) (n : List Char) : Part.remainder n ∉ template ss := by
  intro h
  obtain ⟨s, -, hs⟩ := List.mem_flatMap.1 h
  cases s <;> simp [parts] at hs

end Segment
end IssueTracker
