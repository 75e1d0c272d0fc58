import Geofencing.Geo.Nearest
import Mathlib

/-!
# The length of an edge

The search for the nearest point of a polygon leaves out edges without length, and it comes to
nothing if there are no others. Lengths are rounded, so which edges are left out has to be settled
in binary64 arithmetic: there a difference of two numbers and the difference the other way round are
the same but for their signs, and neither the sign of a zero nor the direction of an edge changes a
length.

* `hypotenuse_congr`: a length does not depend on the signs of the sides.
* `planarDistance_comm` and `planarDistance_congr`: nor on the direction of the edge, nor on the way
  in which its ends are written.
* `nearestOn_eq_nowhere_iff`: when the search comes to nothing.
-/

open Float.Model

namespace Geofencing

namespace Binary64

/-! ## Signs -/

/-- Without its sign, a number does not depend on the sign bit. -/
theorem abs_unpack_packComponents (spec : Format) (s : UnpackedFloat.Sign)
    (e : BitVec spec.exponentBits) (m : BitVec spec.mantissaBitsWithoutImplicit) :
    (UnpackedFloat.unpack spec (UnpackedFloat.packComponents spec s e m)).abs =
      (UnpackedFloat.unpack spec (UnpackedFloat.packComponents spec .positive e m)).abs := by
  simp only [UnpackedFloat.unpack, UnpackedFloat.unpackExponent_packComponents,
    UnpackedFloat.unpackMantissa_packComponents]
  split_ifs <;> rfl

/-- The sign may be dropped before a number is packed. -/
theorem abs_unpack_pack (spec : Format) (u : UnpackedFloat) :
    (UnpackedFloat.unpack spec (u.pack spec)).abs =
      (UnpackedFloat.unpack spec (u.abs.pack spec)).abs := by
  cases u with
  | notANumber => rfl
  | infinity s => exact abs_unpack_packComponents spec s _ _
  | zero s => exact abs_unpack_packComponents spec s _ _
  | finite s m e hm =>
    rw [UnpackedFloat.abs.eq_4, UnpackedFloat.pack, UnpackedFloat.pack]
    -- The number may be too large, normal or subnormal.
    split_ifs
    · exact abs_unpack_packComponents spec s _ _
    · exact abs_unpack_packComponents spec s _ _
    · exact abs_unpack_packComponents spec s _ _

/-- Rounding does not look at the sign. -/
theorem abs_round (spec : Format) (s s' : UnpackedFloat.Sign) (m : Nat) (e : Int) :
    (UnpackedFloat.round spec s m e).abs = (UnpackedFloat.round spec s' m e).abs := by
  simp only [UnpackedFloat.round, UnpackedFloat.roundWithAccuracy]
  split_ifs <;> rfl

/-- Numbers are rounded in the same way on both sides of zero. -/
theorem abs_normalize_neg (spec : Format) (n e : Int) (s : UnpackedFloat.Sign) :
    (UnpackedFloat.normalize spec (-n) e s).abs = (UnpackedFloat.normalize spec n e s).abs := by
  unfold UnpackedFloat.normalize
  rcases lt_trichotomy n 0 with h | rfl | h
  · rw [compare_gt_iff_gt.2 (by omega), compare_lt_iff_lt.2 h]
    exact abs_round ..
  · rfl
  · rw [compare_lt_iff_lt.2 (by omega), compare_gt_iff_gt.2 h, Int.neg_neg]
    exact abs_round ..

/-- The two differences of two numbers are the same but for their signs. -/
theorem abs_sub_comm (spec : Format) (u v : UnpackedFloat) :
    (UnpackedFloat.sub spec u v).abs = (UnpackedFloat.sub spec v u).abs := by
  cases u with
  | notANumber => cases v <;> rfl
  | infinity s =>
    cases v with
    | infinity s' => cases s <;> cases s' <;> rfl
    | _ => rfl
  | zero s =>
    cases v with
    | zero s' => cases s <;> cases s' <;> rfl
    | _ => rfl
  | finite s m e hm =>
    cases v with
    | finite s' m' e' hm' =>
      -- Both differences are rounded from integers that are negatives of each other.
      simp only [UnpackedFloat.sub]
      rw [← abs_normalize_neg, Int.neg_sub, min_comm]
    | _ => rfl

/-- The sign of a zero that is taken away does not matter. -/
theorem abs_sub_zero (spec : Format) (u : UnpackedFloat) (s s' : UnpackedFloat.Sign) :
    (UnpackedFloat.sub spec u (.zero s)).abs = (UnpackedFloat.sub spec u (.zero s')).abs := by
  cases u with
  | zero t => cases s <;> cases s' <;> cases t <;> rfl
  | _ => rfl

/-- A finite number differs from itself by nothing. -/
theorem abs_sub_self (spec : Format) {u : UnpackedFloat} (h : u.isFinite = true) :
    (UnpackedFloat.sub spec u u).abs = .zero .positive := by
  cases u with
  | zero t => cases t <;> rfl
  | finite s m e hm => simp [UnpackedFloat.sub, UnpackedFloat.normalize, UnpackedFloat.abs]
  | _ => cases h

/-! ## Sizes of differences -/

/-- Two numbers are the same but for their signs. -/
def SameSize (x y : Float) : Prop :=
  x.toModel.unpack.abs = y.toModel.unpack.abs

namespace SameSize

variable {x y : Float}

theorem abs_eq (h : SameSize x y) : x.abs = y.abs :=
  congrArg (fun u => Float.ofModel (Float.Model.pack u)) h

/-- Of two numbers of the same size both are infinite or neither is. -/
theorem isInf_eq (h : SameSize x y) : x.isInf = y.isInf := by
  have habs (u : UnpackedFloat) : u.abs.isInf = u.isInf := by
    cases u <;> rfl
  show x.toModel.unpack.isInf = y.toModel.unpack.isInf
  rw [← habs, h, habs]

/-- Of two numbers of the same size both are numbers or neither is. -/
theorem isNaN_eq (h : SameSize x y) : x.isNaN = y.isNaN := by
  have habs (u : UnpackedFloat) : u.abs.isNaN = u.isNaN := by
    cases u <;> rfl
  show x.toModel.unpack.isNaN = y.toModel.unpack.isNaN
  rw [← habs, h, habs]

end SameSize

variable {x y : Float}

/-- Floats differ by the same size if their models do. -/
theorem sameSize_sub {x' y' : Float}
    (h : (UnpackedFloat.sub .binary64 x.toModel.unpack y.toModel.unpack).abs =
      (UnpackedFloat.sub .binary64 x'.toModel.unpack y'.toModel.unpack).abs) :
    SameSize (x - y) (x' - y') := by
  show (UnpackedFloat.unpack _ (UnpackedFloat.pack _ _)).abs =
    (UnpackedFloat.unpack _ (UnpackedFloat.pack _ _)).abs
  rw [abs_unpack_pack, h, ← abs_unpack_pack]

/-- A difference has the size of the one the other way round. -/
theorem sameSize_sub_comm (x y : Float) : SameSize (x - y) (y - x) :=
  sameSize_sub (abs_sub_comm ..)

/-- Numbers that compare as equal are the same, or both of them are zeros. -/
theorem unpack_of_beq (h : (x == y) = true) :
    x.toModel.unpack = y.toModel.unpack ∨
      ∃ s s', x.toModel.unpack = .zero s ∧ y.toModel.unpack = .zero s' := by
  obtain ⟨-, -, h | ⟨h, h'⟩ | ⟨h, h'⟩⟩ := (UnpackedFloat.beq_iff_ne_notANumber_and_eq _ _).1 h
  · exact .inl h
  · exact .inr ⟨_, _, h, h'⟩
  · exact .inr ⟨_, _, h, h'⟩

/-- Numbers that compare as equal differ from any other number by the same size. -/
theorem sameSize_sub_of_beq (h : (x == y) = true) (z : Float) : SameSize (z - x) (z - y) := by
  apply sameSize_sub
  obtain h | ⟨s, s', hx, hy⟩ := unpack_of_beq h
  · rw [h]
  · rw [hx, hy]
    exact abs_sub_zero ..

/-- A number with an exact value is neither infinite nor NaN. -/
theorem isFinite_unpack (h : (units? x).isSome = true) : x.toModel.unpack.isFinite = true := by
  have hexponent :
      (@UnpackedFloat.unpackExponent .binary64 x.toModel.toBits.toBitVec).toNat ≠ 2047 := by
    rw [units?_isSome] at h
    simpa [isFinite, parts, Float.toBits, UnpackedFloat.unpackExponent_def,
      Nat.shiftRight_eq_div_pow] using h
  simp only [Float.Model.unpack, UnpackedFloat.unpack]
  split_ifs with hmax
  · exact absurd (congrArg BitVec.toNat hmax) hexponent
  · exact absurd (congrArg BitVec.toNat hmax) hexponent
  all_goals rfl

/-- Equal finite numbers differ by zero, with either sign. -/
theorem sameSize_sub_zero (h : (x == y) = true) (hx : (units? x).isSome = true) :
    SameSize (x - y) 0 := by
  have hzero : (0 : Float).toModel.unpack = .zero .positive := rfl
  have hsub : (UnpackedFloat.sub .binary64 x.toModel.unpack y.toModel.unpack).abs =
      .zero .positive := by
    obtain h | ⟨s, s', hx, hy⟩ := unpack_of_beq h
    · rw [← h]
      exact abs_sub_self _ (isFinite_unpack hx)
    · rw [hx, hy, abs_sub_zero _ _ s' s]
      exact abs_sub_self _ rfl
  show (UnpackedFloat.unpack _ (UnpackedFloat.pack _ _)).abs = _
  rw [abs_unpack_pack, hsub, hzero]
  rfl

/-- A sum with NaN is NaN. -/
theorem add_of_isNaN (h : (x.isNaN || y.isNaN) = true) : x + y = Float.nan := by
  have hadd : UnpackedFloat.add .binary64 x.toModel.unpack y.toModel.unpack = .notANumber := by
    obtain h | h := Bool.or_eq_true_iff.1 h
    · rw [UnpackedFloat.isNaN_iff.1 h, UnpackedFloat.add]
    · rw [UnpackedFloat.isNaN_iff.1 h]
      cases x.toModel.unpack <;> rfl
  show Float.ofModel (Float.Model.pack (UnpackedFloat.add ..)) = Float.nan
  rw [hadd]
  rfl

/-- Numbers that compare as equal have the same exact value. -/
theorem units?_of_beq (h : (x == y) = true) : units? x = units? y := by
  obtain ⟨-, -, rfl | ⟨rfl, rfl⟩ | ⟨rfl, rfl⟩⟩ := Float.beq_iff_ne_nan_and_eq.1 h
  · rfl
  · decide +kernel
  · decide +kernel

end Binary64

namespace Geo

open Binary64

/-! ## Lengths -/

/-- The length of a hypotenuse does not depend on the signs of the sides. -/
theorem hypotenuse_congr {x x' y y' : Float} (hx : SameSize x x') (hy : SameSize y y') :
    hypotenuse x y = hypotenuse x' y' := by
  unfold hypotenuse
  rw [hx.isInf_eq, hy.isInf_eq, hx.isNaN_eq, hy.isNaN_eq, hx.abs_eq, hy.abs_eq]
  by_cases hnan : (x'.isNaN || y'.isNaN) = true
  · -- A sum does depend on signs, but only a sum with NaN is taken of the sides themselves.
    have hnan' : (x.isNaN || y.isNaN) = true := by rwa [hx.isNaN_eq, hy.isNaN_eq]
    rw [add_of_isNaN hnan', add_of_isNaN hnan]
  · rw [if_neg hnan, if_neg hnan]

/-- An edge is as long in both directions. -/
theorem planarDistance_comm (a b : Position) : planarDistance a b = planarDistance b a :=
  hypotenuse_congr (sameSize_sub_comm _ _) (sameSize_sub_comm _ _)

variable {v w : Position}

/-- Two positions are the same if their longitudes and latitudes compare as equal. -/
theorem same_iff : v.same w = true ↔
    (v.longitude == w.longitude) = true ∧ (v.latitude == w.latitude) = true := by
  rw [Position.same, Bool.and_eq_true]

/-- The length of an edge does not depend on how its end is written. -/
theorem planarDistance_congr (h : v.same w = true) (a : Position) :
    planarDistance a v = planarDistance a w := by
  obtain ⟨hlongitude, hlatitude⟩ := same_iff.1 h
  rw [planarDistance_comm a v, planarDistance_comm a w]
  exact hypotenuse_congr (sameSize_sub_of_beq hlongitude _) (sameSize_sub_of_beq hlatitude _)

/-- The same position written in two ways is one point of the grid. -/
theorem point?_of_same (h : v.same w = true) : v.point? = w.point? := by
  obtain ⟨hlongitude, hlatitude⟩ := same_iff.1 h
  rw [Position.point?, Position.point?, units?_of_beq hlongitude, units?_of_beq hlatitude]

/-- A position with a point on the grid has both of its numbers there. -/
theorem units?_isSome_of_point? (h : v.point?.isSome = true) :
    (units? v.longitude).isSome = true ∧ (units? v.latitude).isSome = true := by
  unfold Position.point? at h
  split at h
  · rename_i hlongitude hlatitude
    rw [hlongitude, hlatitude]
    exact ⟨rfl, rfl⟩
  · cases h

/-- Between two ways of writing a position there is no distance. -/
theorem planarDistance_of_same (h : v.same w = true) (hv : v.point?.isSome = true) :
    (planarDistance w v == 0.0) = true := by
  obtain ⟨hlongitude, hlatitude⟩ := same_iff.1 h
  obtain ⟨hx, hy⟩ := units?_isSome_of_point? hv
  -- The sides are zeros, of whatever signs.
  have hzero : planarDistance w v = hypotenuse 0 0 :=
    hypotenuse_congr (sameSize_sub_zero hlongitude hx) (sameSize_sub_zero hlatitude hy)
  rw [hzero]
  decide +kernel

/-! ## The search -/

/-- No edge has a length. -/
def Flat (es : List (Position × Position)) : Prop :=
  ∀ e ∈ es, (planarDistance e.1 e.2 == 0.0) = true

section Search

variable {p : Position}

/-- The nearer of two places is nowhere just when both are. -/
theorem nearer_eq_nowhere_iff {best candidate : Nearest} :
    nearer p best candidate = .nowhere ↔ best = .nowhere ∧ candidate = .nowhere := by
  cases best <;> cases candidate <;> simp [nearer]
  split <;> simp

/-- A search comes to nothing if none of the candidates is anywhere. -/
theorem foldl_nearer_eq_nowhere_iff {α : Type} {f : α → Nearest} {best : Nearest} {xs : List α} :
    xs.foldl (fun best x => nearer p best (f x)) best = .nowhere ↔
      best = .nowhere ∧ ∀ x ∈ xs, f x = .nowhere := by
  induction xs generalizing best with
  | nil => simp
  | cons x xs ih => rw [List.foldl_cons, ih, nearer_eq_nowhere_iff, List.forall_mem_cons, and_assoc]

/-- The search on an edge comes to nothing just when the edge has no length. -/
theorem nearestOnEdge_eq_nowhere_iff {e : Position × Position} :
    nearestOnEdge p e = .nowhere ↔ (planarDistance e.1 e.2 == 0.0) = true := by
  rcases e with ⟨a, b⟩
  rw [nearestOnEdge]
  by_cases hzero : (planarDistance a b == 0.0) = true
  · simp [hzero]
  · rw [if_neg hzero]
    refine iff_of_false ?_ hzero
    dsimp only
    split_ifs <;> simp

/-- The search on a ring comes to nothing just when none of its edges has a length. -/
theorem nearestOnRing_eq_nowhere_iff {ring : List Position} :
    nearestOnRing p ring = .nowhere ↔ Flat (edges ring) := by
  rw [nearestOnRing, foldl_nearer_eq_nowhere_iff]
  simp [nearestOnEdge_eq_nowhere_iff, Flat]

/-- The search comes to nothing if no polygon holds the point and no edge has a length. -/
theorem nearestOn_eq_nowhere_iff {gs : List (Polygon Position)} :
    nearestOn p gs = .nowhere ↔
      ∀ g ∈ gs, g.covers p = false ∧ ∀ ring ∈ g.rings, Flat (edges ring) := by
  have hpolygon (g : Polygon Position) : nearestOnPolygon p g = .nowhere ↔
      g.covers p = false ∧ ∀ ring ∈ g.rings, Flat (edges ring) := by
    unfold nearestOnPolygon
    split_ifs with hcovers
    · simp [hcovers]
    · rw [foldl_nearer_eq_nowhere_iff]
      simp [hcovers, nearestOnRing_eq_nowhere_iff]
  rw [nearestOn, foldl_nearer_eq_nowhere_iff]
  simp [hpolygon]

end Search

end Geo

end Geofencing
