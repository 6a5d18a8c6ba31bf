import IssueTracker.Proofs.Members
import IssueTracker.Proofs.Segments
import Mathlib.Data.List.Nodup

/-! What the router of a resource does with a request. The paths of its places are read as
the templates that are meant and do not clash, so there is a router; no path is taken by two
places, so the place that takes a path decides, and its calls answer. -/

namespace IssueTracker

universe u

/-- What a router does with a request. -/
inductive Served (η : Type u) where
  | run (handler : η) (captures : List Capture)
  /-- The path has a route, but not for the method; these are the methods it has. -/
  | notAllowed (allow : List String)
  | notFound

def Router.serve {η : Type u} (rs : Router η) (method : String) (path : List Char) : Served η :=
  match rs.find? path with
  | none => .notFound
  | some d =>
    match d.route.handler? method with
    | some h => .run h d.captures
    | none => .notAllowed d.route.allow

/-- The method by which handlers are registered: `HEAD` runs that of `GET`. -/
def verb (method : String) : String :=
  if method = "HEAD" then "GET" else method

/-- What a place adds to the path of its resource. -/
def Place.tail (param : List Char) : Place → List Segment
  | .collection => []
  | .item => [.capture param]
  | .nested s => [.capture param, .fixed s]

def Place.segments (base : List (List Char)) (param : List Char) (place : Place) : List Segment :=
  base.map .fixed ++ place.tail param

def Place.path (base : List (List Char)) (param : List Char) (place : Place) : List Char :=
  Segment.path (place.segments base param)

namespace Resource

variable {η : Type u} {r : Resource η} {base : List (List Char)} {place place' : Place}
  {m : String} {p : List Char} {h : η}

/-- A resource from whose paths a router can be made, and no method twice on one of them. -/
structure Sound (r : Resource η) (base : List (List Char)) : Prop where
  path : r.base = Segment.path (base.map .fixed)
  some_ : base ≠ []
  static : ∀ s ∈ base, IsStatic s
  name : IsName r.param
  nested : ∀ c ∈ r.calls, ∀ s, c.place = .nested s → IsStatic s
  once : (r.calls.map fun c => (c.place, c.method)).Nodup
  head : ∀ c ∈ r.calls, c.method ≠ "HEAD"

section Places

/-- The places below one resource: a call moves its own to the end. -/
def nestedPlaces (ps : List Place) (cs : List (Call η)) : List Place :=
  cs.foldl (fun ps c =>
    match c.place with
    | .nested s => ps.filter (· != .nested s) ++ [.nested s]
    | _ => ps) ps

variable {ps : List Place} {cs : List (Call η)} {c : Call η}

theorem nestedPlaces_cons : nestedPlaces ps (c :: cs) =
    nestedPlaces (match c.place with
      | .nested s => ps.filter (· != .nested s) ++ [.nested s]
      | _ => ps) cs :=
  rfl

theorem mem_nestedPlaces : place ∈ nestedPlaces ps cs ↔
    place ∈ ps ∨ (∃ s, place = .nested s) ∧ ∃ c ∈ cs, c.place = place := by
  induction cs generalizing ps with
  | nil => simp [nestedPlaces]
  | cons c cs ih =>
    rw [nestedPlaces_cons, ih]
    cases hc : c.place with
    | collection =>
      have other : (∃ s, place = .nested s) → place ≠ .collection := by rintro ⟨s, rfl⟩; simp
      simp only [List.mem_cons, exists_eq_or_imp, hc]
      grind
    | item =>
      have other : (∃ s, place = .nested s) → place ≠ .item := by rintro ⟨s, rfl⟩; simp
      simp only [List.mem_cons, exists_eq_or_imp, hc]
      grind
    | nested s =>
      have mem : place ∈ ps.filter (· != .nested s) ++ [.nested s] ↔ place ∈ ps ∨ place = .nested s := by
        simp only [List.mem_append, List.mem_filter, List.mem_singleton, bne_iff_ne]
        grind
      simp only [mem, List.mem_cons, exists_eq_or_imp, hc]
      grind

theorem nodup_nestedPlaces (h : ps.Nodup) : (nestedPlaces ps cs).Nodup := by
  induction cs generalizing ps with
  | nil => exact h
  | cons c cs ih =>
    rw [nestedPlaces_cons]
    refine ih ?_
    split
    · next s _ =>
      rw [List.nodup_append]
      refine ⟨h.filter _, by simp, fun a ha b hb => ?_⟩
      obtain rfl := List.mem_singleton.1 hb
      simpa using (List.mem_filter.1 ha).2
    · exact h

theorem places_eq (r : Resource η) : r.places = .collection :: .item :: nestedPlaces [] r.calls :=
  rfl

/-- There is a route for the collection, for one resource, and for every path of a call. -/
theorem mem_places : place ∈ r.places ↔
    place = .collection ∨ place = .item ∨ ∃ c ∈ r.calls, c.place = place := by
  rw [places_eq, List.mem_cons, List.mem_cons, mem_nestedPlaces]
  cases place <;> simp

theorem nodup_places (r : Resource η) : r.places.Nodup := by
  rw [places_eq, List.nodup_cons, List.nodup_cons, List.mem_cons, mem_nestedPlaces,
    mem_nestedPlaces]
  exact ⟨by simp, by simp, nodup_nestedPlaces List.nodup_nil⟩

end Places

theorem overlap?_eq_none {earlier cs : List (Call η)}
    (apart : ∀ e ∈ earlier, ∀ c ∈ cs, (e.place, e.method) ≠ (c.place, c.method))
    (once : (cs.map fun c => (c.place, c.method)).Nodup) : overlap? earlier cs = none := by
  induction cs generalizing earlier with
  | nil => rfl
  | cons c cs ih =>
    rw [List.map_cons, List.nodup_cons] at once
    obtain ⟨fresh, once⟩ := once
    have none_ : ¬ earlier.any fun e => e.place == c.place && e.method == c.method := by
      intro hit
      obtain ⟨e, he, same⟩ := List.any_eq_true.1 hit
      simp only [Bool.and_eq_true, beq_iff_eq] at same
      exact apart e he c List.mem_cons_self (Prod.ext same.1 same.2)
    rw [overlap?, if_neg none_]
    refine ih (fun e he d hd => ?_) once
    rcases List.mem_cons.1 he with rfl | he
    · intro same
      exact fresh (same ▸ List.mem_map_of_mem hd)
    · exact apart e he d (List.mem_cons_of_mem _ hd)

section Templates

/-- The templates of two places are not the same but for names. -/
theorem segments_injective {param : List Char}
    (h : Clash.kinds (Segment.template (place.segments base param)) =
      Clash.kinds (Segment.template (place'.segments base param))) : place = place' := by
  simp only [Place.segments, Segment.template_append, Clash.kinds_append,
    List.append_cancel_left_eq] at h
  have slash : Clash.kinds [.char '/'] = [some 47] := by decide
  have item : Clash.kinds (Segment.template (Place.item.tail param)) = [some 47, none] := by
    rw [← List.singleton_append, ← slash]
    rfl
  have nested (s : List Char) : Clash.kinds (Segment.template ((Place.nested s).tail param)) =
      [some 47, none, some 47] ++ (Utf8.encode s).map some := by
    have split : Segment.template ((Place.nested s).tail param) =
        Segment.template (Place.item.tail param) ++ ([.char '/'] ++ s.map Part.char) := by
      simp [Place.tail, Segment.template, Segment.parts]
    rw [split, Clash.kinds_append, Clash.kinds_append, item, slash, Clash.kinds_chars]
    rfl
  have none_ : Clash.kinds (Segment.template (Place.collection.tail param)) = [] := rfl
  cases place <;> cases place' <;> simp only [item, nested, none_] at h <;> try simp at h
  all_goals first
    | rfl
    | skip
  next s t =>
    have bytes : Utf8.encode s = Utf8.encode t :=
      (List.map_inj_right fun _ _ same => Option.some.inj same).1 h
    have text := congrArg Utf8.strict? bytes
    rw [Utf8.strict?_encode, Utf8.strict?_encode] at text
    rw [Option.some.inj text]

variable (sound : r.Sound base)
include sound

namespace Sound

theorem path_eq (place : Place) :
    r.path place = Segment.path (place.segments base r.param) := by
  rw [Place.segments, Segment.path_append, ← sound.path]
  cases place <;> simp [Resource.path, itemPath, Place.tail, Segment.path, Segment.text]

theorem segments (mem : place ∈ r.places) : ∀ s ∈ place.segments base r.param, s.Sound := by
  intro s hs
  rcases List.mem_append.1 hs with hs | hs
  · obtain ⟨t, ht, rfl⟩ := List.mem_map.1 hs
    exact sound.static t ht
  · cases place with
    | collection => cases hs
    | item =>
      obtain rfl := List.mem_singleton.1 hs
      exact sound.name
    | nested t =>
      simp only [Place.tail, List.mem_cons, List.not_mem_nil, or_false] at hs
      rcases hs with rfl | rfl
      · exact sound.name
      · obtain ⟨c, hc, hp⟩ := by simpa using mem_places.1 mem
        exact sound.nested c hc t hp

theorem ofChars_path (mem : place ∈ r.places) :
    Template.ofChars (r.path place) = .ok (Segment.template (place.segments base r.param)) := by
  rw [sound.path_eq]
  refine Segment.ofChars_path (sound.segments mem) ?_
  have none_ : (base.map Segment.fixed).countP Segment.captures = 0 := by
    simp [List.countP_eq_zero, Segment.captures]
  rw [Place.segments, List.countP_append, none_, Nat.zero_add]
  refine (List.countP_le_length).trans ?_
  cases place <;> simp [Place.tail, Template.maxSegments]

/-- The template of a place can be added to those of others. -/
theorem check_path {earlier : List Place} (mem : place ∈ r.places)
    (others : ∀ e ∈ earlier, e ≠ place) :
    RouteError.check (earlier.map fun e => Segment.template (e.segments base r.param))
        (r.path place) = .ok (Segment.template (place.segments base r.param)) := by
  have some_ : place.segments base r.param ≠ [] := by simp [Place.segments, sound.some_]
  have fine : RouteError.ofPath? (r.path place) = none := by
    rw [sound.path_eq]
    exact Segment.ofPath?_path some_ (sound.segments mem)
  have apart : Clash.among (Segment.template (place.segments base r.param))
      (earlier.map fun e => Segment.template (e.segments base r.param)) = none := by
    refine Clash.among_eq_none (Segment.remainder_not_mem _) fun t ht => ?_
    obtain ⟨e, he, rfl⟩ := List.mem_map.1 ht
    exact ⟨Segment.remainder_not_mem _, fun same => others e he (segments_injective same)⟩
  rw [RouteError.check, fine]
  dsimp only
  rw [sound.ofChars_path mem]
  dsimp only
  rw [apart]

theorem ofPaths?_eq_none (earlier : List Place) {qs : List Place} (mem : ∀ q ∈ qs, q ∈ r.places)
    (nodup : (earlier ++ qs).Nodup) :
    RouteError.ofPaths? (earlier.map fun e => Segment.template (e.segments base r.param))
      (qs.map r.path) = none := by
  induction qs generalizing earlier with
  | nil => rfl
  | cons q qs ih =>
    obtain ⟨hq, hqs⟩ := List.forall_mem_cons.1 mem
    have others : ∀ e ∈ earlier, e ≠ q := fun e he =>
      (List.nodup_append.1 nodup).2.2 e he q List.mem_cons_self
    rw [List.map_cons, RouteError.ofPaths?, sound.check_path hq others]
    have next : RouteError.ofPaths? ((earlier ++ [q]).map fun e =>
        Segment.template (e.segments base r.param)) (qs.map r.path) = none :=
      ih _ hqs (by simpa using nodup)
    rwa [List.map_append] at next

/-- A router is made of the resource. -/
theorem error?_eq_none : r.error? = none := by
  have apart : overlap? [] r.calls = none :=
    overlap?_eq_none (fun e he => by cases he) sound.once
  rw [error?, apart, Option.none_or]
  exact sound.ofPaths?_eq_none [] (fun _ hq => hq) (nodup_places r)

end Sound

end Templates

section Serving

/-- The path of the place takes the path. -/
def Takes (r : Resource η) (place : Place) (p : List Char) : Prop :=
  takesPath (r.path place) p = true

theorem mem_handlers : (m, h) ∈ (r.route place).handlers ↔
    ∃ c ∈ r.calls, c.place = place ∧ c.method = m ∧ c.handler = h := by
  simp [route, List.mem_map, List.mem_filter, and_assoc]

theorem mem_methods {a : String} : a ∈ (r.route place).methods ↔
    ∃ c ∈ r.calls, c.place = place ∧ c.method = a := by
  simp [Route.methods, route, List.mem_map, List.mem_filter, and_assoc]

theorem fits_length {ts ps : List (List Char)} (h : fits ts ps = true) : ts.length = ps.length := by
  induction ts generalizing ps with
  | nil => cases ps <;> simp_all [fits]
  | cons t ts ih =>
    cases ps with
    | nil => simp [fits] at h
    | cons p ps =>
      rw [fits, Bool.and_eq_true] at h
      simp [ih h.2]

/-- A last piece that is no capture stands for itself. -/
theorem fits_getLast (ts : List (List Char)) {ps : List (List Char)} {t : List Char} (h : fits (ts ++ [t]) ps = true)
    (fixed : isCapture t = false) : ps.getLast? = some t := by
  induction ts generalizing ps with
  | nil =>
    match ps with
    | [] => simp [fits] at h
    | [p] =>
      simp only [List.nil_append, fits, fixed, Bool.false_eq_true, if_false, Bool.and_true,
        beq_iff_eq] at h
      simp [h]
    | p :: q :: ps => simp [fits] at h
  | cons u ts ih =>
    cases ps with
    | nil => simp [fits] at h
    | cons p ps =>
      rw [List.cons_append, fits, Bool.and_eq_true] at h
      rw [List.getLast?_cons, ih h.2]
      rfl

namespace Sound

variable (sound : r.Sound base)
include sound

theorem pieces_path (mem : place ∈ r.places) : pieces '/' (r.path place) =
    ([] :: base) ++ (place.tail r.param).map Segment.text := by
  have base_ : (base.map Segment.fixed).map Segment.text = base := by
    rw [List.map_map]
    exact List.map_id' _
  rw [sound.path_eq, Segment.pieces_path (sound.segments mem), Place.segments, List.map_append,
    base_]
  rfl

/-- No path is taken by two places. -/
theorem takes_unique (mem : place ∈ r.places) (mem' : place' ∈ r.places) (h : r.Takes place p)
    (h' : r.Takes place' p) : place = place' := by
  have lengths := (fits_length h).trans (fits_length h').symm
  rw [sound.pieces_path mem, sound.pieces_path mem'] at lengths
  have last {s : List Char} (mem : .nested s ∈ r.places) (h : r.Takes (.nested s) p) :
      (pieces '/' p).getLast? = some s := by
    rw [Takes, takesPath, sound.pieces_path mem] at h
    have fixed : isCapture s = false := by
      have static : (Segment.fixed s).Sound := sound.segments mem _ (by simp [Place.segments, Place.tail])
      rw [← Bool.not_eq_true, show s = (Segment.fixed s).text from rfl, Segment.isCapture_text static]
      rintro ⟨n, hn⟩
      cases hn
    refine fits_getLast (([] :: base) ++ [(Segment.capture r.param).text]) ?_ fixed
    simpa [Place.tail, Segment.text] using h
  cases place <;> cases place' <;> simp [Place.tail] at lengths ⊢
  next s t => exact Option.some.inj ((last mem h).symm.trans (last mem' h'))

theorem dispatch?_route (mem : place ∈ r.places) (p : List Char) :
    (r.route place).dispatch? p =
      ((Segment.template (place.segments base r.param)).captures? p).map fun cs =>
        ⟨r.route place, Segment.template (place.segments base r.param), cs⟩ := by
  have template : (r.route place).template? =
      some (Segment.template (place.segments base r.param)) := by
    rw [Route.template?, route, sound.ofChars_path mem]
    rfl
  rw [Route.dispatch?, template, Option.bind_some]

/-- The routes that take a path are those of the places that take it. -/
theorem mem_candidates {d : Dispatch η} : d ∈ r.routes.candidates p ↔
    ∃ q ∈ r.places, r.Takes q p ∧ (r.route q).dispatch? p = some d := by
  rw [Router.candidates, routes, List.mem_filterMap]
  constructor
  · rintro ⟨t, ht, hd⟩
    obtain ⟨q, hq, rfl⟩ := List.mem_map.1 ht
    refine ⟨q, hq, ?_, hd⟩
    rw [sound.dispatch?_route hq, Option.map_eq_some_iff] at hd
    obtain ⟨cs, hcs, -⟩ := hd
    rw [Takes, sound.path_eq]
    exact (Segment.captures?_template (sound.segments hq) p).1 ⟨cs, hcs⟩
  · rintro ⟨q, hq, -, hd⟩
    exact ⟨_, List.mem_map_of_mem hq, hd⟩

/-- The router finds the route whose path takes the path. -/
theorem find?_routes (mem : place ∈ r.places) (takes : r.Takes place p) :
    ∃ d, r.routes.find? p = some d ∧ d.route = r.route place := by
  have taken := takes
  rw [Takes, sound.path_eq] at taken
  obtain ⟨cs, hcs⟩ := (Segment.captures?_template (sound.segments mem) p).2 taken
  have dispatched : (r.route place).dispatch? p =
      some ⟨r.route place, Segment.template (place.segments base r.param), cs⟩ := by
    rw [sound.dispatch?_route mem, hcs]
    rfl
  -- there is one candidate, however often it is listed
  have only : ∀ d ∈ r.routes.candidates p,
      d = ⟨r.route place, Segment.template (place.segments base r.param), cs⟩ := by
    intro d hd
    obtain ⟨q, hq, hqt, hd⟩ := sound.mem_candidates.1 hd
    obtain rfl := sound.takes_unique hq mem hqt takes
    exact Option.some.inj (hd.symm.trans dispatched)
  have there := sound.mem_candidates.2 ⟨place, mem, takes, dispatched⟩
  have first : ((r.routes.candidates p).find? fun d =>
      !(r.routes.candidates p).any fun e => e.template.preferred d.template).isSome := by
    refine List.find?_isSome.2 ⟨_, there, ?_⟩
    simp only [Bool.not_eq_true', List.any_eq_false]
    intro e he
    rw [only e he, Template.preferred_self]
    exact Bool.false_ne_true
  obtain ⟨d, hd⟩ := Option.isSome_iff_exists.1 first
  refine ⟨d, hd, ?_⟩
  rw [only d (List.mem_of_find?_eq_some hd)]

theorem find?_routes_none (none_ : ∀ q ∈ r.places, ¬ r.Takes q p) : r.routes.find? p = none := by
  have empty : r.routes.candidates p = [] := by
    refine List.eq_nil_iff_forall_not_mem.2 fun d hd => ?_
    obtain ⟨q, hq, takes, -⟩ := sound.mem_candidates.1 hd
    exact none_ q hq takes
  rw [Router.find?, empty]
  rfl

theorem nodup_methods : (r.route place).methods.Nodup := by
  have pairs : (r.calls.filter fun c => c.place == place).map (fun c => (c.place, c.method)) =
      (r.route place).methods.map (place, ·) := by
    simp only [Route.methods, route, List.map_map]
    refine List.map_congr_left fun c hc => ?_
    have here : c.place = place := by simpa using (List.mem_filter.1 hc).2
    simp [here]
  exact List.Nodup.of_map _ (pairs ▸ sound.once.sublist (List.filter_sublist.map _))

/-- The handler for a method is that of the call with the method. -/
theorem handler?_route : (r.route place).handler? m = some h ↔
    ∃ c ∈ r.calls, c.place = place ∧ c.method = verb m ∧ c.handler = h := by
  have lookup (m : String) (h : η) : (r.route place).handlers.lookup m = some h ↔ _ :=
    (Record.lookup_eq_some_iff sound.nodup_methods).trans mem_handlers
  rw [Route.handler?, verb]
  by_cases head : m = "HEAD"
  · have none_ : (r.route place).handlers.lookup m = none := by
      refine Option.eq_none_iff_forall_ne_some.2 fun h hh => ?_
      obtain ⟨c, hc, -, method, -⟩ := (lookup m h).1 hh
      exact sound.head c hc (method.trans head)
    rw [none_, Option.none_or, if_pos (by simpa using head), if_pos head, lookup]
  · rw [if_neg (by simpa using head), if_neg head, Option.or_none, lookup]

theorem head_not_mem (place : Place) : "HEAD" ∉ (r.route place).methods := by
  intro h
  obtain ⟨c, hc, -, method⟩ := mem_methods.1 h
  exact sound.head c hc method

theorem mem_allow {a : String} : a ∈ (r.route place).allow ↔
    ∃ c ∈ r.calls, c.place = place ∧ (c.method = a ∨ a = "HEAD" ∧ c.method = "GET") := by
  have split : (∃ c ∈ r.calls, c.place = place ∧ (c.method = a ∨ a = "HEAD" ∧ c.method = "GET")) ↔
      a ∈ (r.route place).methods ∨ a = "HEAD" ∧ "GET" ∈ (r.route place).methods := by
    rw [mem_methods, mem_methods]
    grind
  rw [split, Route.allow]
  by_cases get : "GET" ∈ (r.route place).methods <;> simp [sound.head_not_mem place, get]

theorem nodup_allow (place : Place) : (r.route place).allow.Nodup := by
  rw [Route.allow, (List.mergeSort_perm _ _).nodup_iff, List.nodup_append]
  refine ⟨sound.nodup_methods, by split <;> simp, fun a ha b hb => ?_⟩
  split at hb
  · obtain rfl := List.mem_singleton.1 hb
    exact ne_of_mem_of_not_mem ha (sound.head_not_mem place)
  · cases hb

/-- A path that a place takes is answered by the calls of the place. -/
theorem serve_run (mem : place ∈ r.places) (takes : r.Takes place p) :
    (∃ cs, r.routes.serve m p = .run h cs) ↔
      ∃ c ∈ r.calls, c.place = place ∧ c.method = verb m ∧ c.handler = h := by
  obtain ⟨d, found, route⟩ := sound.find?_routes mem takes
  rw [Router.serve, found, ← sound.handler?_route]
  dsimp only
  rw [route]
  cases (r.route place).handler? m <;> simp

theorem serve_notAllowed (mem : place ∈ r.places) (takes : r.Takes place p)
    (missing : ∀ c ∈ r.calls, c.place = place → c.method ≠ verb m) :
    r.routes.serve m p = .notAllowed (r.route place).allow := by
  obtain ⟨d, found, route⟩ := sound.find?_routes mem takes
  have none_ : (r.route place).handler? m = none := by
    refine Option.eq_none_iff_forall_ne_some.2 fun h hh => ?_
    obtain ⟨c, hc, here, method, -⟩ := sound.handler?_route.1 hh
    exact missing c hc here method
  rw [Router.serve, found]
  dsimp only
  rw [route, none_]

theorem serve_notFound (none_ : ∀ q ∈ r.places, ¬ r.Takes q p) : r.routes.serve m p = .notFound := by
  rw [Router.serve, sound.find?_routes_none none_]

end Sound

end Serving

end Resource

end IssueTracker
