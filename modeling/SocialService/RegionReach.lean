import Mathlib.Analysis.Convex.Basic
import SocialService.Region

/-! How far the region test reaches: what it answers for points far to the east and to the west of a
region, and what units the coordinates may be in. -/
namespace SocialService.CLLocationCoordinate2D
open EvenOdd

/-! ### Far to the side -/

/-- West of every vertex, and of its mirror image in every other. -/
def FarWest (self : CLLocationCoordinate2D ℚ) (region : List (CLLocationCoordinate2D ℚ)) : Prop :=
  ∀ i ∈ region, ∀ j ∈ region, self.longitude < 2 * i.longitude - j.longitude

def FarEast (self : CLLocationCoordinate2D ℚ) (region : List (CLLocationCoordinate2D ℚ)) : Prop :=
  ∀ i ∈ region, ∀ j ∈ region, 2 * i.longitude - j.longitude ≤ self.longitude

instance (self : CLLocationCoordinate2D ℚ) (region : List (CLLocationCoordinate2D ℚ)) :
    Decidable (FarWest self region) := inferInstanceAs (Decidable (∀ _ ∈ region, _))

instance (self : CLLocationCoordinate2D ℚ) (region : List (CLLocationCoordinate2D ℚ)) :
    Decidable (FarEast self region) := inferInstanceAs (Decidable (∀ _ ∈ region, _))

/-- The compared longitude lies between the vertex `i` and the mirror image of `j` in it. -/
theorem compared_between (i j : CLLocationCoordinate2D ℚ) (level : ℚ)
    (straddled : Straddles (planar i) (planar j) level) :
    ∃ ratio : ℚ, 0 ≤ ratio ∧ 0 ≤ 1 - ratio ∧ i.longitude - offset (planar i) (planar j) level =
      (1 - ratio) • i.longitude + ratio • (2 * i.longitude - j.longitude) := by
  obtain ⟨low,high⟩ := straddled.ratio_mem
  refine ⟨_,low,sub_nonneg.mpr high,?_⟩
  simp only [offset,planar,smul_eq_mul]
  ring

variable {self : CLLocationCoordinate2D ℚ} {region : List (CLLocationCoordinate2D ℚ)}

theorem FarWest.vertex (far : FarWest self region) {i : CLLocationCoordinate2D ℚ}
    (member : i ∈ region) : self.longitude < i.longitude := by
  have mirrored := far i member i member
  linarith

theorem FarEast.vertex (far : FarEast self region) {i : CLLocationCoordinate2D ℚ}
    (member : i ∈ region) : i.longitude ≤ self.longitude := by
  have mirrored := far i member i member
  linarith

/-- Every straddled edge is toggled on for a point far to the west. -/
theorem FarWest.edgeTest_iff (far : FarWest self region) {i j : CLLocationCoordinate2D ℚ}
    (iMember : i ∈ region) (jMember : j ∈ region) :
    edgeTest self i j = true ↔ Straddles (planar i) (planar j) self.latitude := by
  rw [CLLocationCoordinate2D.edgeTest_iff]
  apply and_iff_left_of_imp
  intro straddled
  obtain ⟨ratio,low,high,between⟩ := compared_between i j self.latitude straddled
  rw [between]
  exact convex_Ioi self.longitude (far.vertex iMember) (far i iMember j jMember) high low
    (sub_add_cancel 1 ratio)

theorem FarEast.edgeTest_eq (far : FarEast self region) {i j : CLLocationCoordinate2D ℚ}
    (iMember : i ∈ region) (jMember : j ∈ region) : edgeTest self i j = false := by
  rw [Bool.eq_false_iff,ne_eq,edgeTest_iff]
  rintro ⟨straddled,less⟩
  obtain ⟨ratio,low,high,between⟩ := compared_between i j self.latitude straddled
  rw [between] at less
  have reached := convex_Iic self.longitude (far.vertex iMember) (far i iMember j jMember) high low
    (sub_add_cancel 1 ratio)
  exact absurd less (not_lt.mpr reached)

theorem vertex_mem {k : Nat} (bound : k < region.length) : region[k]! ∈ region := by
  rw [getElem!_pos region k bound]
  exact List.getElem_mem bound

/-- No point far to the east lies inside. -/
theorem far_east_outside (far : FarEast self region) : liesInsideRegion self region = false := by
  have still (k : Nat) (bound : k < region.length) : judged self region k = false := by
    match k with
    | 0 => exact far.edgeTest_eq (vertex_mem bound) (vertex_mem (by omega))
    | 1 => rfl
    | k + 2 => exact far.edgeTest_eq (vertex_mem (by omega)) (vertex_mem bound)
  rw [liesInsideRegion_eq,List.countP_eq_zero.mpr]
  · decide
  · intro k member
    simp [still k (List.mem_range.mp member)]

theorem square_east_outside : liesInsideRegion ⟨1,4⟩ square = false := by
  have far : FarEast ⟨1,4⟩ square := by decide +kernel
  exact far_east_outside far

def above (self : CLLocationCoordinate2D ℚ) (region : List (CLLocationCoordinate2D ℚ)) (k : Nat) :
    Bool := decide (self.latitude < region[k]!.latitude)

theorem straddles_iff_above (i j : Nat) :
    Straddles (planar region[i]!) (planar region[j]!) self.latitude ↔
      (above self region i != above self region j) = true := by
  rw [bne_iff_ne,above,above,ne_eq,decide_eq_decide]
  rfl

def changes (self : CLLocationCoordinate2D ℚ) (region : List (CLLocationCoordinate2D ℚ))
    (k : Nat) : Bool :=
  above self region k != above self region ((k + region.length - 1) % region.length)

/-- For a point far to the west every straddled edge counts, the edge `1` apart. -/
theorem FarWest.judged_eq (far : FarWest self region) {k : Nat} (bound : k < region.length)
    (other : k ≠ 1) : judged self region k = changes self region k := by
  match k with
  | 0 =>
    have before : (0 + region.length - 1) % region.length = region.length - 1 := by
      rw [Nat.zero_add]
      exact Nat.mod_eq_of_lt (by omega)
    have low : region.length - 1 < region.length := by omega
    have test := far.edgeTest_iff (vertex_mem bound) (vertex_mem low)
    rw [straddles_iff_above] at test
    rw [changes,before]
    exact Bool.eq_iff_iff.mpr test
  | k + 2 =>
    have low : k + 1 < region.length := by omega
    have before : (k + 2 + region.length - 1) % region.length = k + 1 := by
      have round : k + 2 + region.length - 1 = k + 1 + region.length := by omega
      rw [round,Nat.add_mod_right]
      exact Nat.mod_eq_of_lt low
    have test := far.edgeTest_iff (vertex_mem low) (vertex_mem bound)
    rw [straddles_comm,straddles_iff_above] at test
    rw [changes,before]
    exact Bool.eq_iff_iff.mpr test

/-- A point far to the west of two vertices or more lies inside if and only if it is level with the
edge between the first two: that edge is never read, so its partner has none to cancel it. -/
theorem far_west_inside_iff (far : FarWest self region) (several : 2 ≤ region.length) :
    liesInsideRegion self region = true ↔
      Straddles (planar region[0]!) (planar region[1]!) self.latitude := by
  have even : Even ((List.range region.length).countP (changes self region)) :=
    even_cyclic_changes (above self region) region.length
  have listed : List.range region.length = 0 :: 1 :: List.range' 2 (region.length - 2) := by
    obtain ⟨rest,size⟩ : ∃ rest, region.length = rest + 2 := ⟨region.length - 2,by omega⟩
    rw [size,List.range_eq_range',List.range'_succ,List.range'_succ]
    rfl
  have later : (List.range' 2 (region.length - 2)).countP (judged self region) =
      (List.range' 2 (region.length - 2)).countP (changes self region) := by
    apply List.countP_congr
    intro k member
    obtain ⟨low,high⟩ := List.mem_range'_1.mp member
    rw [far.judged_eq (by omega) (by omega)]
  rw [liesInsideRegion_eq,decide_eq_true_eq,straddles_comm,straddles_iff_above]
  have edge : (above self region 1 != above self region 0) = changes self region 1 := by
    simp only [changes,Nat.add_sub_cancel_left,Nat.mod_self]
  have first : judged self region 0 = changes self region 0 := far.judged_eq (by omega) (by omega)
  rw [listed,List.countP_cons,List.countP_cons,Nat.even_iff] at even
  rw [listed,List.countP_cons,List.countP_cons,Nat.odd_iff,first,later,edge]
  have unread : judged self region 1 = false := rfl
  rw [unread]
  split at even <;> split at even <;> simp_all <;> omega

/-- West of a square its last edges cancel, and what is left of the edge between its first two
vertices fills a strip. -/
theorem square_strip_inside : liesInsideRegion ⟨1,-3⟩ square = true := by
  have far : FarWest ⟨1,-3⟩ square := by decide +kernel
  apply (far_west_inside_iff far (by decide)).mpr
  decide +kernel

/-! ### Other units -/

/-- Other units and another origin for either coordinate, both kept the same way up. -/
structure Units where
  latitudeUnit : ℚ
  latitudeOrigin : ℚ
  longitudeUnit : ℚ
  longitudeOrigin : ℚ
  latitudeUnit_pos : 0 < latitudeUnit
  longitudeUnit_pos : 0 < longitudeUnit

def Units.convert (units : Units) (coordinate : CLLocationCoordinate2D ℚ) :
    CLLocationCoordinate2D ℚ where
  latitude := units.latitudeUnit * coordinate.latitude + units.latitudeOrigin
  longitude := units.longitudeUnit * coordinate.longitude + units.longitudeOrigin

def Units.minutes : Units where
  latitudeUnit := 60
  latitudeOrigin := -2520
  longitudeUnit := 60
  longitudeOrigin := -1380
  latitudeUnit_pos := by norm_num
  longitudeUnit_pos := by norm_num

theorem Units.straddles_convert (units : Units) (i j : CLLocationCoordinate2D ℚ)
    (point : CLLocationCoordinate2D ℚ) :
    Straddles (planar (units.convert i)) (planar (units.convert j)) (units.convert point).latitude ↔
      Straddles (planar i) (planar j) point.latitude := by
  simp only [Straddles,planar,convert,add_lt_add_iff_right,
    mul_lt_mul_iff_right₀ units.latitudeUnit_pos]

theorem Units.offset_convert (units : Units) (i j point : CLLocationCoordinate2D ℚ) :
    offset (planar (units.convert i)) (planar (units.convert j)) (units.convert point).latitude =
      units.longitudeUnit * offset (planar i) (planar j) point.latitude := by
  have unit := units.latitudeUnit_pos.ne'
  simp only [offset,planar,convert,add_sub_add_right_eq_sub,← mul_sub]
  rw [mul_left_comm,mul_div_mul_left _ _ unit,mul_assoc,mul_div_assoc]

theorem Units.edgeTest_convert (units : Units) (point i j : CLLocationCoordinate2D ℚ) :
    edgeTest (units.convert point) (units.convert i) (units.convert j) = edgeTest point i j := by
  rw [Bool.eq_iff_iff,edgeTest_iff,edgeTest_iff,units.straddles_convert,units.offset_convert]
  apply and_congr_right'
  have moved : (units.convert i).longitude -
      units.longitudeUnit * offset (planar i) (planar j) point.latitude =
        units.longitudeUnit * (i.longitude - offset (planar i) (planar j) point.latitude) +
          units.longitudeOrigin := by
    simp only [convert]
    ring
  rw [moved]
  simp only [convert,add_lt_add_iff_right,mul_lt_mul_iff_right₀ units.longitudeUnit_pos]

/-- The answer depends neither on the units of the coordinates nor on their origin. -/
theorem liesInsideRegion_convert (units : Units) (point : CLLocationCoordinate2D ℚ)
    (vertices : List (CLLocationCoordinate2D ℚ)) :
    liesInsideRegion (units.convert point) (vertices.map units.convert) =
      liesInsideRegion point vertices := by
  have vertex (k : Nat) (bound : k < vertices.length) :
      (vertices.map units.convert)[k]! = units.convert vertices[k]! := by
    rw [getElem!_pos _ k (by simpa using bound),getElem!_pos _ k bound,List.getElem_map]
  rw [liesInsideRegion_eq,liesInsideRegion_eq,List.length_map]
  congr 2
  apply List.countP_congr
  intro k member
  have bound := List.mem_range.mp member
  match k with
  | 0 =>
    rw [judged,List.length_map,vertex 0 bound,vertex (vertices.length - 1) (by omega),
      units.edgeTest_convert,judged]
  | 1 => exact Iff.rfl
  | k + 2 =>
    rw [judged,vertex (k + 1) (by omega),vertex (k + 2) bound,units.edgeTest_convert,judged]

theorem square_in_minutes :
    liesInsideRegion (Units.minutes.convert ⟨1,-3⟩) (square.map Units.minutes.convert) =
      liesInsideRegion ⟨1,-3⟩ square := liesInsideRegion_convert Units.minutes ⟨1,-3⟩ square

end SocialService.CLLocationCoordinate2D
