import SocialService.Library.EvenOdd
import Mathlib.Data.Rat.Cast.Order
import Mathlib.Tactic.NormNum

/-! The region test of `Municipality.swift`. Coordinates are generic, so that what does not
depend on arithmetic also covers `Double`; the comparison with the even-odd rule is over the
rationals. -/
namespace SocialService

structure CLLocationCoordinate2D (K : Type) where
  latitude : K
  longitude : K
  deriving DecidableEq, Inhabited

/-- `subscript (safe index:)`: out of range reads nothing. -/
def safe (region : List α) (index : Int) : Option α :=
  if 0 ≤ index ∧ index < region.length then region[index.toNat]? else none

theorem safe_ofNat (region : List α) (index : Nat) : safe region index = region[index]? := by
  by_cases bound : index < region.length <;> simp [safe,bound]

theorem safe_eq_some [Inhabited α] {region : List α} {index : Int} {coordinate : α}
    (read : safe region index = some coordinate) : region[index.toNat]! = coordinate := by
  unfold safe at read
  split at read
  · simp [read]
  · contradiction

/-! ### The indices of the loop -/

section Examined
variable {α : Type}

inductive LoopEnd where
  | exhausted
  | brokeOff
  deriving DecidableEq, Repr

/-- The index pairs that the `while` loop examines, first to last, and whether its condition or
one of its `guard`s ends it. -/
def examined (region : List α) (i j : Int) : List (Int × Int) × LoopEnd :=
  if i < region.length then
    match safe region i, safe region j with
    | some _, some _ =>
      let rest := examined region (i + 1) (i + 1 + 1)
      ((i,j) :: rest.1,rest.2)
    | _, _ => ([],.brokeOff)
  else ([],.exhausted)
termination_by (region.length - i).toNat

def ahead (k : Nat) : Int × Int := (k,(k + 1 : Nat))

variable (region : List α)

/-- From the second round on `j` is one ahead of `i`, so the last vertex finds no partner. -/
theorem examined_tail (i : Nat) :
    examined region i (i + 1 : Nat) =
      ((List.range' i (region.length - 1 - i)).map ahead,
        if i < region.length then .brokeOff else .exhausted) := by
  induction left : region.length - 1 - i generalizing i with
  | zero =>
    have last : safe region (i + 1 : Nat) = none := by
      rw [safe_ofNat]
      exact List.getElem?_eq_none (by omega)
    rw [examined,last]
    by_cases inside : i < region.length <;> simp [inside]
  | succ left ih =>
    have inside : i < region.length := by omega
    have next : i + 1 < region.length := by omega
    have first : safe region (i : Nat) = some region[i] := by
      rw [safe_ofNat,List.getElem?_eq_getElem inside]
    have second : safe region (i + 1 : Nat) = some region[i + 1] := by
      rw [safe_ofNat,List.getElem?_eq_getElem next]
    have goes : (i : Int) < region.length := by omega
    have rest := ih (i + 1) (by omega)
    rw [if_pos next] at rest
    rw [examined,if_pos goes,first,second,if_pos inside,List.range'_succ,List.map_cons]
    simp only [← Int.natCast_succ,rest,ahead]

theorem examined_start (nonempty : 0 < region.length) :
    examined region 0 (region.length - 1) =
      ((0,(region.length : Int) - 1) :: (List.range' 1 (region.length - 1 - 1)).map ahead,
        if 1 < region.length then LoopEnd.brokeOff else .exhausted) := by
  have goes : (0 : Int) < region.length := by omega
  have end_index : (region.length : Int) - 1 = (region.length - 1 : Nat) := by omega
  have first : safe region (0 : Nat) = some region[0] := by
    rw [safe_ofNat,List.getElem?_eq_getElem nonempty]
  have last : safe region (region.length - 1 : Int) = some region[region.length - 1] := by
    rw [end_index,safe_ofNat,List.getElem?_eq_getElem (by omega)]
  rw [examined,if_pos goes,← Int.ofNat_zero,first,last]
  exact congrArg (fun rest => ((0,_) :: rest.1,rest.2)) (examined_tail region 1)

/-- Every cyclic edge once, from the edge `(0, n - 1)` on, and no guard ends the loop. -/
def VisitsEveryEdge : Prop :=
  examined region 0 (region.length - 1) =
    ((List.range region.length).map fun k : Nat =>
      ((k : Int),(((k + region.length - 1) % region.length : Nat) : Int)),.exhausted)

/-- The loop visits every edge of a region if and only if the region has no second vertex: from
two vertices on a guard breaks it off in its last round. -/
theorem visits_every_edge_iff : VisitsEveryEdge region ↔ region.length ≤ 1 := by
  unfold VisitsEveryEdge
  constructor
  · intro visits
    by_contra several
    rw [examined_start region (by omega),if_pos (by omega)] at visits
    exact LoopEnd.noConfusion (congrArg Prod.snd visits)
  · intro single
    by_cases nonempty : 0 < region.length
    · have one : region.length = 1 := by omega
      rw [examined_start region nonempty,one]
      rfl
    · have none : region.length = 0 := by omega
      rw [examined,if_neg (by omega),none]
      rfl

/-- The edges `(1, 0)` and `(2, 1)` of a triangle are not read; `(1, 2)` is. -/
theorem triangle_edge_skipped :
    ¬VisitsEveryEdge [(⟨0,0⟩ : CLLocationCoordinate2D Rat),⟨0,1⟩,⟨1,0⟩] := by
  intro visits
  rw [VisitsEveryEdge,examined_start _ (by decide)] at visits
  have pairs := congrArg Prod.fst visits
  exact absurd pairs (by decide)

end Examined

namespace CLLocationCoordinate2D

section Loop
variable {K : Type} [Add K] [Sub K] [Mul K] [Div K] [LT K] [DecidableLT K]

def edgeTest (self iCoordinate jCoordinate : CLLocationCoordinate2D K) : Bool :=
  (decide (iCoordinate.latitude > self.latitude) !=
    decide (jCoordinate.latitude > self.latitude)) &&
  decide (self.longitude < (iCoordinate.longitude - jCoordinate.longitude) *
    (self.latitude - iCoordinate.latitude) / (jCoordinate.latitude - iCoordinate.latitude) +
    iCoordinate.longitude)

/-- The `while` loop. Both `guard`s break; `j` is set from the `i` already advanced. -/
def regionLoop (self : CLLocationCoordinate2D K) (region : List (CLLocationCoordinate2D K))
    (liesInside : Bool) (i j : Int) : Bool :=
  if i < region.length then
    match safe region i, safe region j with
    | some iCoordinate, some jCoordinate =>
      regionLoop self region
        (if edgeTest self iCoordinate jCoordinate then !liesInside else liesInside)
        (i + 1) (i + 1 + 1)
    | _, _ => liesInside
  else liesInside
termination_by (region.length - i).toNat

def liesInsideRegion (self : CLLocationCoordinate2D K)
    (region : List (CLLocationCoordinate2D K)) : Bool :=
  regionLoop self region false 0 (region.length - 1)

/-- The toggle that the loop really performs for the cyclic edge `k`. From the second round on
`j` runs ahead of `i`, so an edge is read from its other end, and the edge `1` is never read. -/
def judged [Inhabited K] (self : CLLocationCoordinate2D K)
    (region : List (CLLocationCoordinate2D K)) (k : Nat) : Bool :=
  match k with
  | 0 => edgeTest self region[0]! region[region.length - 1]!
  | 1 => false
  | k + 2 => edgeTest self region[k + 1]! region[k + 2]!

variable [Inhabited K] (self : CLLocationCoordinate2D K)
  (region : List (CLLocationCoordinate2D K))

def toggles (pair : Int × Int) : Bool :=
  edgeTest self region[pair.1.toNat]! region[pair.2.toNat]!

/-- The loop reverses the flag once for each examined pair that passes the test. -/
theorem regionLoop_eq_foldl (liesInside : Bool) (i j : Int) :
    regionLoop self region liesInside i j =
      (examined region i j).1.foldl
        (fun flag pair => if toggles self region pair then !flag else flag) liesInside := by
  fun_induction regionLoop self region liesInside i j with
  | case1 liesInside i j goes iCoordinate jCoordinate jRead iRead ih =>
    rw [examined,if_pos goes,iRead,jRead]
    simp only [dite_eq_ite] at ih
    simp only [ih,List.foldl_cons,toggles,safe_eq_some iRead,safe_eq_some jRead]
  | case2 liesInside i j goes outside =>
    rw [examined,if_pos goes]
    split
    · rename_i iRead jRead
      exact (outside _ _ iRead jRead).elim
    · rfl
  | case3 liesInside i j done => rw [examined,if_neg done]; rfl

/-- The edge `1` is skipped; after it the edge `k` is read as the pair of `k - 1` and `k`. -/
theorem countP_judged_later (n : Nat) :
    (List.range' 1 n).countP (judged self region) =
      (List.range' 1 (n - 1)).countP (toggles self region ∘ ahead) := by
  cases n with
  | zero => rfl
  | succ n =>
    have skipped : judged self region 1 ≠ true := Bool.false_ne_true
    rw [List.range'_succ,List.countP_cons_of_neg skipped,List.range'_succ_left,List.countP_map]
    apply List.countP_congr
    intro k member
    obtain ⟨low,_⟩ := List.mem_range'_1.mp member
    obtain ⟨before,rfl⟩ : ∃ before, k = before + 1 := ⟨k - 1,by omega⟩
    exact Iff.rfl

/-- The region test is the parity of the edges that the loop toggles on. -/
theorem liesInsideRegion_eq :
    liesInsideRegion self region =
      decide (Odd ((List.range region.length).countP (judged self region))) := by
  rw [liesInsideRegion,regionLoop_eq_foldl,EvenOdd.foldl_toggle,Bool.false_xor]
  cases size : region.length with
  | zero => rw [examined,size]; simp
  | succ n =>
    have last : ((region.length : Int) - 1).toNat = region.length - 1 := by omega
    have first : toggles self region (0,(region.length : Int) - 1) = judged self region 0 := by
      rw [toggles,last]
      rfl
    rw [← size,examined_start region (by omega),List.countP_cons,List.countP_map,first,size]
    rw [List.range_eq_range',List.range'_succ,List.countP_cons,countP_judged_later]
    rfl

end Loop

/-! ### Comparison with the even-odd rule -/

section EvenOddRule

open EvenOdd

def planar (c : CLLocationCoordinate2D ℚ) : ℚ × ℚ := (c.longitude,c.latitude)

def Crossed (self : CLLocationCoordinate2D ℚ) (region : List (CLLocationCoordinate2D ℚ))
    (k : Nat) : Prop :=
  Crosses (planar region[k]!) (planar region[(k + region.length - 1) % region.length]!) (planar self)

instance (self : CLLocationCoordinate2D ℚ) (region : List (CLLocationCoordinate2D ℚ)) (k : Nat) :
    Decidable (Crossed self region k) := inferInstanceAs (Decidable (Crosses _ _ _))

def crossings (self : CLLocationCoordinate2D ℚ) (region : List (CLLocationCoordinate2D ℚ)) : Nat :=
  (List.range region.length).countP fun k => Crossed self region k

/-- The point is no farther from the first end, along its own parallel, than the straddled edge
is: there the reversed sign of the intersection formula changes the answer. -/
def InBand (self i j : CLLocationCoordinate2D ℚ) : Prop :=
  Straddles (planar i) (planar j) self.latitude ∧
  -|offset (planar i) (planar j) self.latitude| ≤ self.longitude - i.longitude ∧
  self.longitude - i.longitude < |offset (planar i) (planar j) self.latitude|

instance (self i j : CLLocationCoordinate2D ℚ) : Decidable (InBand self i j) :=
  inferInstanceAs (Decidable (_ ∧ _))

/-- Edges on which the loop and the even-odd rule differ: the edge `1` whenever it is crossed,
any other edge when the point is in the band around the end that the loop reads first. -/
def Misjudged (self : CLLocationCoordinate2D ℚ) (region : List (CLLocationCoordinate2D ℚ)) :
    Nat → Prop
  | 0 => InBand self region[0]! region[region.length - 1]!
  | 1 => Crossed self region 1
  | k + 2 => InBand self region[k + 1]! region[k + 2]!

instance (self : CLLocationCoordinate2D ℚ) (region : List (CLLocationCoordinate2D ℚ)) (k : Nat) :
    Decidable (Misjudged self region k) :=
  match k with
  | 0 => inferInstanceAs (Decidable (InBand _ _ _))
  | 1 => inferInstanceAs (Decidable (Crossed _ _ _))
  | _ + 2 => inferInstanceAs (Decidable (InBand _ _ _))

variable (self : CLLocationCoordinate2D ℚ) (region : List (CLLocationCoordinate2D ℚ))

def comparedLongitude (self i j : CLLocationCoordinate2D ℚ) : ℚ :=
  (i.longitude - j.longitude) * (self.latitude - i.latitude) / (j.latitude - i.latitude) +
    i.longitude

/-- It is that of the meeting point mirrored in the vertex `i`. -/
theorem comparedLongitude_eq (i j : CLLocationCoordinate2D ℚ) :
    comparedLongitude self i j = i.longitude - offset (planar i) (planar j) self.latitude := by
  simp only [comparedLongitude,offset,planar]
  ring

theorem edgeTest_iff (i j : CLLocationCoordinate2D ℚ) :
    edgeTest self i j = true ↔ Straddles (planar i) (planar j) self.latitude ∧
      self.longitude < i.longitude - offset (planar i) (planar j) self.latitude := by
  rw [← comparedLongitude_eq]
  simp only [edgeTest,comparedLongitude,Straddles,planar,Bool.and_eq_true,bne_iff_ne,ne_eq,
    decide_eq_decide,decide_eq_true_eq,gt_iff_lt]

/-- What the test owes to a straddled edge. -/
structure Geometric (point i j : CLLocationCoordinate2D ℚ) : Prop where
  divisor : j.latitude - i.latitude ≠ 0
  on_edge : (comparedLongitude point i j,point.latitude) ∈ segment ℚ (planar i) (planar j)
  between : comparedLongitude point i j ∈ Set.uIcc i.longitude j.longitude
  exchange : edgeTest point i j = edgeTest point j i

/-- Read from its other end, the edge is compared with the mirror image in that end. -/
theorem exchange_iff (i j : CLLocationCoordinate2D ℚ)
    (straddled : Straddles (planar i) (planar j) self.latitude) :
    edgeTest self i j = edgeTest self j i ↔
      (self.longitude < i.longitude - offset (planar i) (planar j) self.latitude ↔
        self.longitude <
          2 * j.longitude - i.longitude - offset (planar i) (planar j) self.latitude) := by
  have same := meet_comm straddled
  simp only [meet] at same
  have far : j.longitude - offset (planar j) (planar i) self.latitude =
      2 * j.longitude - i.longitude - offset (planar i) (planar j) self.latitude := by
    simp only [planar] at same ⊢
    linarith
  rw [Bool.eq_iff_iff,edgeTest_iff,edgeTest_iff,far]
  simp [straddled,(straddles_comm ..).mp straddled]

/-- On a straddled edge the compared longitude is that of the meeting point, and the test blind to
the direction of the edge, if and only if the edge runs along a meridian, or the point is level
with the vertex `i` and not between it and its mirror image in `j`. -/
theorem geometric_iff (i j : CLLocationCoordinate2D ℚ)
    (straddled : Straddles (planar i) (planar j) self.latitude) :
    Geometric self i j ↔ i.longitude = j.longitude ∨ self.latitude = i.latitude ∧
      (self.longitude < i.longitude ↔ self.longitude < 2 * j.longitude - i.longitude) := by
  have still := straddled.offset_eq_zero_iff
  have exchange := exchange_iff self i j straddled
  have on_edge : (comparedLongitude self i j,self.latitude) ∈ segment ℚ (planar i) (planar j) ↔
      offset (planar i) (planar j) self.latitude = 0 := by
    rw [straddled.mem_segment_iff,comparedLongitude_eq,meet]
    simp only [planar]
    constructor <;> intro same <;> linarith
  constructor
  · intro geometric
    have unmoved := on_edge.mp geometric.on_edge
    have turned := exchange.mp geometric.exchange
    rw [unmoved,sub_zero,sub_zero] at turned
    rcases still.mp unmoved with meridian | level
    · exact .inl meridian
    · exact .inr ⟨level,turned⟩
  · intro condition
    have unmoved : offset (planar i) (planar j) self.latitude = 0 := by
      apply still.mpr
      rcases condition with meridian | ⟨level,_⟩
      · exact .inl meridian
      · exact .inr level
    have on := on_edge.mpr unmoved
    refine ⟨straddled.rise_ne_zero,on,?_,exchange.mpr ?_⟩
    · rw [← segment_eq_uIcc]
      exact (Prod.segment_subset _ _ on).1
    · rw [unmoved,sub_zero,sub_zero]
      rcases condition with meridian | ⟨_,outside⟩
      · rw [meridian]
        ring_nf
      · exact outside

/-- The edge from 0/0 to 1/1 meets the parallel of 1/4 at the longitude 1/4; the test compares
with -1/4. -/
theorem slanted_edge_mirrored :
    Straddles (planar ⟨0,0⟩) (planar ⟨1,1⟩) (1 / 4) ∧ ¬Geometric ⟨1 / 4,0⟩ ⟨0,0⟩ ⟨1,1⟩ := by
  refine ⟨by decide +kernel,?_⟩
  intro geometric
  have low := (Set.mem_uIcc.mp geometric.between)
  norm_num [comparedLongitude] at low

/-- Read from its lower end, an edge along a meridian is judged rightly. -/
theorem meridian_edge_geometric :
    Straddles (planar ⟨0,1⟩) (planar ⟨2,1⟩) 1 ∧ Geometric ⟨1,0⟩ ⟨0,1⟩ ⟨2,1⟩ := by
  have straddled : Straddles (planar ⟨0,1⟩) (planar ⟨2,1⟩) 1 := by decide +kernel
  exact ⟨straddled,(geometric_iff ⟨1,0⟩ ⟨0,1⟩ ⟨2,1⟩ straddled).mpr (.inl rfl)⟩

theorem edgeTest_differs_iff (i j : CLLocationCoordinate2D ℚ) :
    ¬(edgeTest self i j = true ↔ Crosses (planar i) (planar j) (planar self)) ↔
      InBand self i j := by
  rw [edgeTest_iff,InBand,← mirrored_disagree]
  simp only [Crosses,meet,planar]
  rw [and_congr_right_iff,Classical.not_imp]

/-- On each edge the loop differs from the rule exactly where the edge is misjudged. -/
theorem judged_differs_iff (k : Nat) (bound : k < region.length) :
    ¬(judged self region k = true ↔ Crossed self region k) ↔ Misjudged self region k := by
  match k with
  | 0 =>
    have before : (0 + region.length - 1) % region.length = region.length - 1 := by
      rw [Nat.zero_add]
      exact Nat.mod_eq_of_lt (by omega)
    rw [Crossed,before]
    exact edgeTest_differs_iff ..
  | 1 => simp [judged,Misjudged]
  | k + 2 =>
    have round : k + 2 + region.length - 1 = k + 1 + region.length := by omega
    have before : (k + 2 + region.length - 1) % region.length = k + 1 := by
      rw [round,Nat.add_mod_right]
      exact Nat.mod_eq_of_lt (by omega)
    rw [Crossed,before,crosses_comm]
    exact edgeTest_differs_iff ..

/-- The region test is the even-odd rule exactly when it misjudges an even number of edges. -/
theorem liesInsideRegion_even_odd_iff :
    (liesInsideRegion self region = true ↔ Odd (crossings self region)) ↔
      Even ((List.range region.length).countP fun k => Misjudged self region k) := by
  have differ : (List.range region.length).countP (fun k => Misjudged self region k) =
      (List.range region.length).countP
        (fun k => judged self region k != decide (Crossed self region k)) := by
    apply List.countP_congr
    intro k member
    have differs := judged_differs_iff self region k (List.mem_range.mp member)
    cases test : judged self region k <;> simp [← differs,test]
  rw [liesInsideRegion_eq,decide_eq_true_eq,differ]
  exact odd_countP_iff ..

def square : List (CLLocationCoordinate2D ℚ) := [⟨2,2⟩,⟨0,2⟩,⟨0,0⟩,⟨2,0⟩]

theorem square_centre_outside :
    ¬(liesInsideRegion ⟨1,1⟩ square = true ↔ Odd (crossings ⟨1,1⟩ square)) := by
  rw [liesInsideRegion_eq]
  decide +kernel

end EvenOddRule

end CLLocationCoordinate2D

end SocialService
