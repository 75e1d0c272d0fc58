import Geofencing.Geo.Ring
import Mathlib.Algebra.BigOperators.Group.List.Basic
import Mathlib.Data.List.Basic
import Mathlib.Data.List.Rotate
import Mathlib.Data.List.Zip
import Mathlib.Data.Rat.Cast.Order
import Mathlib.Tactic.Linarith
import Mathlib.Tactic.Ring

/-!
# Winding around a point

Whether a point lies within a ring is decided by walking along its edges, and the walk treats the
two ends of an edge differently. What it decides belongs to the ring nevertheless, and not to the
way in which the ring is written down: where it starts, in which direction it goes and whether its
first vertex is repeated at the end.

* `Respelled`: two lists of vertices write down the same ring.
* `onEdge_of_onSegment`: a point of the segment between two vertices is on their edge.
* `wind_cycle`: the walk finds the boundary and the winding number of a ring.
* `wind_cycle_restart`, `wind_cycle_reverse` and `wind_cycle_close`: it finds the same for each
  spelling.
* `unionHolds_iff`: looking at the box around polygons first comes to looking at their vertices.
-/

namespace Geofencing.Geo

/-! ## Spellings of a ring -/

section Spelling

variable {α : Type}

/-- The edges of a ring that need not be closed: the last vertex is joined to the first. -/
def cycle (vs : List α) : List (α × α) :=
  vs.zip (vs.rotate 1)

/-- Two lists of vertices write down the same ring. A list may leave out the closing vertex, so a
closed ring is started elsewhere by dropping that vertex, cutting the list and closing it again. -/
inductive Respelled (same : α → α → Bool) : List α → List α → Prop where
  /-- Start at another vertex. -/
  | restart (front back : List α) : Respelled same (front ++ back) (back ++ front)
  /-- Go in the opposite direction. -/
  | reverse (vs : List α) : Respelled same vs vs.reverse
  /-- Write out the closing vertex. -/
  | close {v w : α} (rest : List α) (h : same v w = true) :
      Respelled same (v :: rest) (v :: rest ++ [w])
  /-- What can be done can be undone. -/
  | symm {vs ws : List α} (h : Respelled same vs ws) : Respelled same ws vs
  /-- Several changes are made one after the other. -/
  | trans {us vs ws : List α} (h : Respelled same us vs) (h' : Respelled same vs ws) :
      Respelled same us ws

/-- A closed ring that starts elsewhere is closed there. -/
theorem Respelled.restart_closed {same : α → α → Bool} {v w : α} (front back : List α)
    (hv : same v v = true) (hw : same w w = true) :
    Respelled same (v :: front ++ w :: back ++ [v]) (w :: back ++ v :: front ++ [w]) :=
  (Respelled.close (front ++ w :: back) hv).symm.trans
    ((Respelled.restart (v :: front) (w :: back)).trans (Respelled.close (back ++ v :: front) hw))

/-- What no single change affects is the same for all spellings of a ring. -/
theorem Respelled.invariant {β : Type} {same : α → α → Bool} (f : List α → β) {vs ws : List α}
    (h : Respelled same vs ws) (hrestart : ∀ front back, f (front ++ back) = f (back ++ front))
    (hreverse : ∀ vs, f vs = f vs.reverse)
    (hclose : ∀ v w rest, same v w = true → f (v :: rest) = f (v :: rest ++ [w])) :
    f vs = f ws := by
  induction h with
  | restart front back => exact hrestart front back
  | reverse vs => exact hreverse vs
  | close rest h => exact hclose _ _ rest h
  | symm _ ih => exact ih.symm
  | trans _ _ ih ih' => exact ih.trans ih'

/-- A further vertex is joined to the last one. -/
theorem edges_concat (v : α) (rest : List α) (z : α) :
    edges (v :: rest ++ [z]) = edges (v :: rest) ++ [(rest.getLastD v, z)] := by
  induction rest generalizing v with
  | nil => rfl
  | cons w rest ih =>
    have hw := ih w
    simp only [List.cons_append] at hw
    simp only [List.cons_append, edges, hw, List.getLastD_cons]

/-- The edges join each vertex to its successor. -/
theorem edges_eq_zip (vs : List α) : edges vs = vs.zip vs.tail := by
  fun_induction edges vs with
  | case1 a b rest ih => simpa using ih
  | case2 vs h =>
    rcases vs with _ | ⟨a, _ | ⟨b, rest⟩⟩
    · rfl
    · rfl
    · exact absurd rfl (h a b rest)

/-- The edges of a ring are those between successive vertices and the one back to the start. -/
theorem cycle_cons (v : α) (rest : List α) :
    cycle (v :: rest) = edges (v :: rest) ++ [(rest.getLastD v, v)] := by
  have happend : ((v :: rest) ++ [v]).zip ((rest ++ [v]) ++ []) =
      (v :: rest).zip (rest ++ [v]) ++ [v].zip [] :=
    List.zip_append (by simp)
  rw [← edges_concat, edges_eq_zip, cycle, List.rotate_cons_succ, List.rotate_zero]
  simpa using happend.symm

/-- A further vertex is joined to the last one and to the first. -/
theorem cycle_concat (v : α) (rest : List α) (w : α) :
    cycle (v :: rest ++ [w]) = edges (v :: rest) ++ [(rest.getLastD v, w), (w, v)] := by
  rw [List.cons_append, cycle_cons, ← List.cons_append, edges_concat]
  simp

/-- A ring that starts elsewhere has the same edges, in another order. -/
theorem cycle_append_comm (front back : List α) :
    (cycle (front ++ back)).Perm (cycle (back ++ front)) := by
  have hrotate : back ++ front = (front ++ back).rotate front.length := by
    rw [List.rotate_append_length_eq]
  -- Rotating both lists rotates the list of pairs.
  have hzip := List.zipWith_rotate_distrib Prod.mk (front ++ back) ((front ++ back).rotate 1)
    front.length (by simp)
  rw [List.rotate_rotate, Nat.add_comm, ← List.rotate_rotate, ← hrotate] at hzip
  exact (List.rotate_perm _ front.length).symm.trans (.of_eq hzip)

/-- In the opposite direction, every edge is turned around. -/
theorem cycle_reverse (vs : List α) :
    (cycle vs.reverse).Perm ((cycle vs).map Prod.swap) := by
  rcases List.eq_nil_or_concat' vs with rfl | ⟨front, z, rfl⟩
  · rfl
  · -- Started at its last vertex, the ring pairs up with itself from behind.
    have hswap : cycle (front ++ [z]).reverse = ((cycle (z :: front)).map Prod.swap).reverse := by
      rw [cycle, cycle, List.zip_swap, List.zip_eq_zipWith, List.zip_eq_zipWith,
        List.reverse_zipWith (by simp)]
      simp
    rw [hswap]
    exact (List.reverse_perm _).trans ((cycle_append_comm [z] front).map _)

/-- Every vertex that starts an edge of a ring ends another one. -/
theorem exists_mem_cycle_left {vs : List α} {a b : α} (h : (a, b) ∈ cycle vs) :
    ∃ z, (z, a) ∈ cycle vs := by
  have hends : (cycle vs).map Prod.snd = vs.rotate 1 := List.map_snd_zip (by simp)
  have ha : a ∈ vs.rotate 1 := List.mem_rotate.2 (List.of_mem_zip h).1
  rw [← hends] at ha
  obtain ⟨⟨z, _⟩, hz, rfl⟩ := List.mem_map.1 ha
  exact ⟨z, hz⟩

end Spelling

/-! ## A point and one edge -/

section Edge

variable {p a b : Point}

/-- A turn taken backwards goes the other way. -/
theorem orientation_swap : orientation b a p = -orientation a b p := by
  unfold orientation
  ring

/-- A number is between two others in either order of them. -/
theorem between_iff {v a b : Int} :
    between v a b = true ↔ (a ≤ v ∧ v ≤ b) ∨ (b ≤ v ∧ v ≤ a) := by
  simp only [between, Bool.and_eq_true, decide_eq_true_eq]
  omega

/-- A point is on an edge if it makes no turn with it and is in the box of its ends. -/
theorem onEdge_iff : onEdge orientation p a b = true ↔
    orientation a b p = 0 ∧ between p.x a.x b.x = true ∧ between p.y a.y b.y = true := by
  simp [onEdge, and_assoc]

/-- Being on an edge does not depend on the direction of the edge. -/
theorem onEdge_swap : onEdge orientation p b a = onEdge orientation p a b := by
  rw [Bool.eq_iff_iff, onEdge_iff, onEdge_iff, orientation_swap, neg_eq_zero]
  simp only [between_iff]
  tauto

/-- A point lies on the segment between two others if it divides it in some ratio. -/
def OnSegment (p a b : Point) : Prop :=
  ∃ t : ℚ, 0 ≤ t ∧ t ≤ 1 ∧ (p.x : ℚ) = a.x + t * (b.x - a.x) ∧ (p.y : ℚ) = a.y + t * (b.y - a.y)

/-- A number is between two others if it divides the way from one to the other in some ratio. -/
theorem between_of_ratio {v a b : Int} {t : ℚ} (h0 : 0 ≤ t) (h1 : t ≤ 1)
    (h : (v : ℚ) = a + t * (b - a)) : between v a b = true := by
  rw [between_iff]
  rcases le_total a b with hab | hab
  · left
    have hab' : (a : ℚ) ≤ b := by exact_mod_cast hab
    have hlow : (a : ℚ) ≤ v := by nlinarith
    have hhigh : (v : ℚ) ≤ b := by nlinarith
    exact ⟨by exact_mod_cast hlow, by exact_mod_cast hhigh⟩
  · right
    have hab' : (b : ℚ) ≤ a := by exact_mod_cast hab
    have hlow : (b : ℚ) ≤ v := by nlinarith
    have hhigh : (v : ℚ) ≤ a := by nlinarith
    exact ⟨by exact_mod_cast hlow, by exact_mod_cast hhigh⟩

theorem onEdge_of_onSegment (h : OnSegment p a b) : onEdge orientation p a b = true := by
  obtain ⟨t, h0, h1, hx, hy⟩ := h
  refine onEdge_iff.2 ⟨?_, between_of_ratio h0 h1 hx, between_of_ratio h0 h1 hy⟩
  -- The ratio is the same for both coordinates, so the determinant vanishes.
  have hturn : (orientation a b p : ℚ) = 0 := by
    unfold orientation
    push_cast
    rw [hx, hy]
    ring
  exact_mod_cast hturn

/-- The end of an edge is found on it. -/
theorem crossing_end (z p : Point) : crossing orientation p z p = .touches := by
  have hturn : orientation z p p = 0 := by
    unfold orientation
    ring
  have hbetween : between p.x z.x p.x = true := between_iff.2 (by omega)
  simp [crossing, hturn, hbetween]

/-- A point that is found on an edge is on it. -/
theorem onEdge_of_crossing (h : crossing orientation p a b = .touches) :
    onEdge orientation p a b = true := by
  rw [onEdge_iff, between_iff (v := p.y)]
  unfold crossing at h
  -- The edge goes up or is level, or it goes down.
  split_ifs at h with hay hby _ hzero hby _ hzero
  · exact ⟨hzero.1, hzero.2, by omega⟩
  · exact ⟨hzero.1, hzero.2, by omega⟩

/-- Only a point at the start of a downward edge is on the edge and not noticed there. -/
theorem crossing_of_onEdge (h : onEdge orientation p a b = true) :
    crossing orientation p a b = .touches ∨ p = a := by
  obtain ⟨hturn, hx, hy⟩ := onEdge_iff.1 h
  rw [between_iff] at hy
  by_cases hstart : a.y = p.y ∧ b.y < p.y
  · right
    -- A downward edge has only its start at the height of the start.
    have hproduct : (b.y - a.y) * (p.x - a.x) = 0 := by
      unfold orientation at hturn
      rw [hstart.1] at hturn ⊢
      linarith
    have hx : p.x = a.x := by
      rcases mul_eq_zero.1 hproduct with h | h <;> omega
    rw [Point.mk.injEq]
    exact ⟨hx, hstart.1.symm⟩
  · left
    have hy' : (a.y ≤ p.y ∧ p.y ≤ b.y) ∨ (¬a.y ≤ p.y ∧ b.y ≤ p.y) := by omega
    rcases hy' with hy' | hy'
    · simp [crossing, hy', hturn, hx]
    · simp [crossing, hy', hturn, hx]

/-- An edge from a vertex to itself has no other points. -/
theorem eq_of_onEdge_self {v : Point} (h : onEdge orientation p v v = true) : p = v := by
  obtain ⟨-, hx, hy⟩ := onEdge_iff.1 h
  rw [between_iff] at hx hy
  rw [Point.mk.injEq]
  omega

end Edge

namespace Crossing

/-- Whether the point was found on the edge. -/
def onto : Crossing → Bool
  | .touches => true
  | .turns _ => false

/-- What the edge adds to the winding number. -/
def amount : Crossing → Int
  | .touches => 0
  | .turns n => n

/-- A point is found on an edge just when the edge touches it. -/
theorem onto_iff {c : Crossing} : c.onto = true ↔ c = .touches := by
  cases c <;> simp [onto]

end Crossing

/-- An edge counts if the point is between its ends in height, the upper end not included, and lies
to the west of it. -/
theorem amount_crossing (p a b : Point) : (crossing orientation p a b).amount =
    if a.y ≤ p.y ∧ p.y < b.y ∧ 0 < orientation a b p then 1
    else if b.y ≤ p.y ∧ p.y < a.y ∧ orientation a b p < 0 then -1 else 0 := by
  unfold crossing
  split_ifs <;> first | rfl | omega

/-- An edge that is walked the other way winds the other way. -/
theorem amount_crossing_swap (p a b : Point) :
    (crossing orientation p b a).amount = -(crossing orientation p a b).amount := by
  rw [amount_crossing, amount_crossing, orientation_swap]
  split_ifs <;> omega

/-- An edge from a vertex to itself winds around nothing. -/
theorem amount_crossing_self (p v : Point) : (crossing orientation p v v).amount = 0 := by
  rw [amount_crossing, if_neg (by omega), if_neg (by omega)]

/-! ## A point and a ring -/

section Ring

variable {p : Point}

/-- Whether a point is on one of several edges. -/
def touched (p : Point) (es : List (Point × Point)) : Bool :=
  es.any fun e => onEdge orientation p e.1 e.2

/-- How often edges wind around a point. -/
def winding (p : Point) (es : List (Point × Point)) : Int :=
  (es.map fun e => (crossing orientation p e.1 e.2).amount).sum

/-- A walk ends at the first edge that notices the point; if there is none, it counts the turns. -/
theorem wind_eq (turn : Turn) (p : Point) (turns : Int) (es : List (Point × Point)) :
    wind turn p turns es =
      if es.any fun e => (crossing turn p e.1 e.2).onto then .boundary
      else if turns + (es.map fun e => (crossing turn p e.1 e.2).amount).sum = 0 then .outside
      else .inside := by
  induction es generalizing turns with
  | nil => simp [wind]
  | cons e es ih =>
    rcases e with ⟨a, b⟩
    rw [wind, List.any_cons, List.map_cons, List.sum_cons]
    cases crossing turn p a b with
    | touches => simp [Crossing.onto]
    | turns n =>
      rw [Crossing.onto, Crossing.amount, Bool.false_or, ← Int.add_assoc]
      exact ih (turns + n)

/-- On a ring, a point that is not noticed at the start of an edge is noticed at the end of the edge
before it. -/
theorem any_onto_cycle (p : Point) (vs : List Point) :
    ((cycle vs).any fun e => (crossing orientation p e.1 e.2).onto) = touched p (cycle vs) := by
  rw [touched, Bool.eq_iff_iff, List.any_eq_true, List.any_eq_true]
  constructor
  · rintro ⟨e, he, h⟩
    exact ⟨e, he, onEdge_of_crossing (Crossing.onto_iff.1 h)⟩
  · rintro ⟨⟨a, b⟩, he, h⟩
    rcases crossing_of_onEdge h with h | rfl
    · exact ⟨(a, b), he, Crossing.onto_iff.2 h⟩
    · -- The point is the start of the edge, where the edge before it ends.
      obtain ⟨z, hz⟩ := exists_mem_cycle_left he
      exact ⟨(z, p), hz, Crossing.onto_iff.2 (crossing_end z p)⟩

/-- A walk along a ring tells its boundary from the points around which it winds. -/
theorem wind_cycle (p : Point) (vs : List Point) :
    wind orientation p 0 (cycle vs) =
      if touched p (cycle vs) then .boundary
      else if winding p (cycle vs) = 0 then .outside else .inside := by
  rw [wind_eq, any_onto_cycle, Int.zero_add, winding]

/-- Whether a point is on one of the edges does not depend on their order. -/
theorem touched_perm {es es' : List (Point × Point)} (h : es.Perm es') :
    touched p es = touched p es' :=
  h.any_eq

theorem touched_swap (p : Point) (es : List (Point × Point)) :
    touched p (es.map Prod.swap) = touched p es := by
  simp [touched, List.any_map, Function.comp_def, onEdge_swap]

/-- The winding number does not depend on the order of the edges. -/
theorem winding_perm {es es' : List (Point × Point)} (h : es.Perm es') :
    winding p es = winding p es' :=
  (h.map _).sum_eq

/-- Edges that are walked the other way wind around a point as often, the other way. -/
theorem winding_swap (p : Point) (es : List (Point × Point)) :
    winding p (es.map Prod.swap) = -winding p es := by
  induction es with
  | nil => rfl
  | cons e es ih =>
    simp only [winding, List.map_cons, List.sum_cons, Prod.fst_swap, Prod.snd_swap] at ih ⊢
    rw [ih, amount_crossing_swap]
    ring

/-- A walk around a ring finds the same wherever it starts. -/
theorem wind_cycle_restart (p : Point) (front back : List Point) :
    wind orientation p 0 (cycle (front ++ back)) =
      wind orientation p 0 (cycle (back ++ front)) := by
  have hperm := cycle_append_comm front back
  rw [wind_cycle, wind_cycle, touched_perm hperm, winding_perm hperm]

/-- A walk around a ring finds the same in either direction. -/
theorem wind_cycle_reverse (p : Point) (vs : List Point) :
    wind orientation p 0 (cycle vs.reverse) = wind orientation p 0 (cycle vs) := by
  have hperm := cycle_reverse vs
  rw [wind_cycle, wind_cycle, touched_perm hperm, winding_perm hperm, touched_swap, winding_swap]
  simp only [neg_eq_zero]

/-- A closing vertex adds an edge without length. A point on it is on the edge before it too. -/
theorem wind_cycle_close (p v : Point) (rest : List Point) :
    wind orientation p 0 (cycle (v :: rest ++ [v])) = wind orientation p 0 (cycle (v :: rest)) := by
  have hcycle : cycle (v :: rest ++ [v]) = cycle (v :: rest) ++ [(v, v)] := by
    rw [cycle_concat, cycle_cons]
    simp
  -- The one more edge has no length and touches only a point that was touched before.
  have htouched : touched p (cycle (v :: rest ++ [v])) = touched p (cycle (v :: rest)) := by
    rw [hcycle, cycle_cons]
    simp only [touched, List.any_append, List.any_cons, List.any_nil, Bool.or_false, Bool.or_assoc]
    congr 1
    rw [Bool.or_eq_left_iff_imp]
    intro h
    obtain rfl := eq_of_onEdge_self h
    exact onEdge_of_crossing (crossing_end _ p)
  have hwinding : winding p (cycle (v :: rest ++ [v])) = winding p (cycle (v :: rest)) := by
    rw [hcycle]
    simp [winding, amount_crossing_self]
  rw [wind_cycle, wind_cycle, htouched, hwinding]

/-- A ring with its closing vertex written out is walked around once. -/
theorem ringSide_concat (p v : Point) (rest : List Point) :
    ringSide orientation p (v :: rest ++ [v]) = wind orientation p 0 (cycle (v :: rest)) := by
  rw [cycle_cons, ← edges_concat]
  rcases rest with _ | ⟨w, rest⟩
  · rfl
  · rfl

/-- A ring that ends where it starts needs no further edge. -/
theorem ringSide_closed {v : Point} {rest : List Point} (h : rest.getLastD v = v) :
    ringSide orientation p (v :: rest) = wind orientation p 0 (cycle (v :: rest)) := by
  rcases List.eq_nil_or_concat' rest with rfl | ⟨front, z, rfl⟩
  · rw [wind_cycle]
    by_cases hp : p = v
    · subst hp
      simp [ringSide, cycle, touched, onEdge_of_crossing (crossing_end p p)]
    · have hoff : onEdge orientation p v v = false :=
        Bool.eq_false_iff.2 (mt eq_of_onEdge_self hp)
      simp [ringSide, hp, cycle, touched, hoff, winding, amount_crossing_self]
  · obtain rfl : z = v := by simpa using h
    rw [← List.cons_append, ringSide_concat, wind_cycle_close]

/-! ## Other ways to tell a turn -/

/-- Only the sign of the turn decides how an edge passes a point. -/
theorem crossing_congr {turn turn' : Turn} {a b : Point}
    (h : (turn a b p).sign = (turn' a b p).sign) : crossing turn p a b = crossing turn' p a b := by
  have hpos : 0 < turn a b p ↔ 0 < turn' a b p := by
    rw [← Int.sign_eq_one_iff_pos, h, Int.sign_eq_one_iff_pos]
  have hneg : turn a b p < 0 ↔ turn' a b p < 0 := by
    rw [← Int.sign_eq_neg_one_iff_neg, h, Int.sign_eq_neg_one_iff_neg]
  have hzero : turn a b p = 0 ↔ turn' a b p = 0 := by
    rw [← Int.sign_eq_zero_iff_zero, h, Int.sign_eq_zero_iff_zero]
  simp only [crossing, hpos, hneg, hzero]

/-- The ends of an edge are vertices of the ring. -/
theorem mem_of_mem_edges {α : Type} {vs : List α} {e : α × α} (h : e ∈ edges vs) :
    e.1 ∈ vs ∧ e.2 ∈ vs := by
  rw [edges_eq_zip] at h
  obtain ⟨hfirst, hsecond⟩ := List.of_mem_zip h
  exact ⟨hfirst, List.mem_of_mem_tail hsecond⟩

/-- Only the signs of the turns decide what a walk finds. -/
theorem wind_congr {turn turn' : Turn} {turns : Int} {es : List (Point × Point)}
    (h : ∀ e ∈ es, (turn e.1 e.2 p).sign = (turn' e.1 e.2 p).sign) :
    wind turn p turns es = wind turn' p turns es := by
  induction es generalizing turns with
  | nil => rfl
  | cons e es ih =>
    obtain ⟨he, hes⟩ := List.forall_mem_cons.1 h
    rw [wind, wind, crossing_congr he]
    cases crossing turn' p e.1 e.2 with
    | touches => rfl
    | turns n => exact ih hes

/-- Only the signs of the turns between vertices matter. -/
theorem ringSide_congr {turn turn' : Turn} {ring : List Point}
    (h : ∀ a ∈ ring, ∀ b ∈ ring, (turn a b p).sign = (turn' a b p).sign) :
    ringSide turn p ring = ringSide turn' p ring := by
  rcases ring with _ | ⟨v, _ | ⟨w, rest⟩⟩
  · rfl
  · rfl
  · apply wind_congr
    intro e he
    obtain ⟨hfirst, hsecond⟩ := mem_of_mem_edges he
    exact h _ hfirst _ hsecond

end Ring

/-! ## Polygons and their union -/

section Polygon

variable {turn : Turn} {p : Point}

/-- Holes count by the side of each on which the point is. -/
theorem holesSide_congr {holes holes' : List (List Point)}
    (h : holes.map (ringSide turn p) = holes'.map (ringSide turn p)) :
    holesSide turn p holes = holesSide turn p holes' := by
  induction holes generalizing holes' with
  | nil => rw [List.map_eq_nil_iff.1 h.symm]
  | cons hole rest ih =>
    obtain ⟨hole', rest', rfl, hhole, hrest⟩ := List.map_eq_cons_iff.1 h.symm
    rw [holesSide, holesSide, hhole, ih hrest.symm]

/-- A polygon counts by the sides of its rings on which the point is. -/
theorem side_congr {g g' : Polygon Point}
    (hexterior : ringSide turn p g.exterior = ringSide turn p g'.exterior)
    (hholes : g.holes.map (ringSide turn p) = g'.holes.map (ringSide turn p)) :
    g.side turn p = g'.side turn p := by
  rw [Polygon.side, Polygon.side, hexterior, holesSide_congr hholes]

/-- A point on the exterior ring is on the boundary of the polygon. -/
theorem side_of_boundary {g : Polygon Point} (h : ringSide turn p g.exterior = .boundary) :
    g.side turn p = .boundary := by
  rw [Polygon.side, h]

/-- A point outside the exterior ring is outside the polygon. -/
theorem side_of_outside {g : Polygon Point} (h : ringSide turn p g.exterior = .outside) :
    g.side turn p = .outside := by
  rw [Polygon.side, h]

/-- A list of points reaches around a point in both directions. -/
def Spans (ps : List Point) (p : Point) : Prop :=
  ((∃ q ∈ ps, q.x ≤ p.x) ∧ ∃ q ∈ ps, p.x ≤ q.x) ∧ (∃ q ∈ ps, q.y ≤ p.y) ∧ ∃ q ∈ ps, p.y ≤ q.y

/-- A box that was extended to further points holds what it reaches together with them. -/
theorem holds_foldl_extend {box : Box} {ps : List Point} :
    (ps.foldl Box.extend box).holds p = true ↔
      ((box.west ≤ p.x ∨ ∃ q ∈ ps, q.x ≤ p.x) ∧ (p.x ≤ box.east ∨ ∃ q ∈ ps, p.x ≤ q.x)) ∧
      (box.south ≤ p.y ∨ ∃ q ∈ ps, q.y ≤ p.y) ∧ (p.y ≤ box.north ∨ ∃ q ∈ ps, p.y ≤ q.y) := by
  induction ps generalizing box with
  | nil =>
    rw [List.foldl_nil]
    simp [Box.holds, and_assoc]
  | cons q ps ih =>
    rw [List.foldl_cons, ih]
    simp only [Box.extend, min_le_iff, le_max_iff, List.exists_mem_cons_iff, or_assoc]

/-- The box around points holds what they span. -/
theorem holds_around_iff {ps : List Point} :
    (Box.around ps).any (fun box => box.holds p) = true ↔ Spans ps p := by
  cases ps with
  | nil => simp [Box.around, Spans]
  | cons q ps =>
    rw [Box.around, Option.any_some, holds_foldl_extend]
    simp only [Box.ofPoint, Spans, List.exists_mem_cons_iff]

/-- A point that lies in a polygon and within the bounds of all exteriors lies in the union. -/
theorem unionHolds_iff {gs : List (Polygon Point)} : unionHolds turn p gs = true ↔
    Spans (gs.flatMap Polygon.exterior) p ∧ ∃ g ∈ gs, g.holds turn p = true := by
  rw [← holds_around_iff]
  unfold unionHolds
  rcases hps : gs.flatMap Polygon.exterior with _ | ⟨q, ps⟩
  · -- Without any vertex, the point is outside of every exterior.
    have hnone : ¬∃ g ∈ gs, g.holds turn p = true := by
      rintro ⟨g, hg, hholds⟩
      have hexterior : g.exterior = [] := List.flatMap_eq_nil_iff.1 hps g hg
      simp [Polygon.holds, Polygon.side, hexterior, ringSide] at hholds
    rw [Box.around, List.any_eq_true]
    exact iff_of_false hnone fun h => hnone h.2
  · rw [Box.around]
    simp only [Bool.and_eq_true, List.any_eq_true, Option.any_some]

/-- More points reach at least as far. -/
theorem Spans.mono {ps qs : List Point} (h : Spans ps p) (hsub : ps ⊆ qs) : Spans qs p := by
  obtain ⟨⟨⟨a, ha, hwest⟩, b, hb, heast⟩, ⟨c, hc, hsouth⟩, d, hd, hnorth⟩ := h
  exact ⟨⟨⟨a, hsub ha, hwest⟩, b, hsub hb, heast⟩, ⟨c, hsub hc, hsouth⟩, d, hsub hd, hnorth⟩

/-- The ends of an edge reach around the points that are on it. -/
theorem spans_of_onEdge {a b : Point} {ps : List Point} (ha : a ∈ ps) (hb : b ∈ ps)
    (h : onEdge orientation p a b = true) : Spans ps p := by
  obtain ⟨-, hx, hy⟩ := onEdge_iff.1 h
  rw [between_iff] at hx hy
  constructor
  · rcases hx with ⟨hlow, hhigh⟩ | ⟨hlow, hhigh⟩
    · exact ⟨⟨a, ha, hlow⟩, b, hb, hhigh⟩
    · exact ⟨⟨b, hb, hlow⟩, a, ha, hhigh⟩
  · rcases hy with ⟨hlow, hhigh⟩ | ⟨hlow, hhigh⟩
    · exact ⟨⟨a, ha, hlow⟩, b, hb, hhigh⟩
    · exact ⟨⟨b, hb, hlow⟩, a, ha, hhigh⟩

/-- How far points reach depends neither on their order nor on repetitions. -/
theorem spans_congr {ps qs : List Point} (h : ∀ q, q ∈ ps ↔ q ∈ qs) : Spans ps p ↔ Spans qs p := by
  simp only [Spans, h]

end Polygon

end Geofencing.Geo
