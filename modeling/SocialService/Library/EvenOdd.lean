import Mathlib.Algebra.Order.Field.Basic
import Mathlib.Algebra.Ring.Parity
import Mathlib.Analysis.Convex.Segment
import Mathlib.Data.List.Count
import Mathlib.Tactic.FieldSimp
import Mathlib.Tactic.Linarith
import Mathlib.Tactic.Ring

/-! The even-odd rule over an ordered field: an edge of the plane, the point where its line
meets a level, and the parity of a count of edges. A point is a pair of its offset along the
level and its level. -/
namespace EvenOdd

section Edge
variable {K : Type} [Field K] [LinearOrder K] [IsStrictOrderedRing K]

/-- Exactly one of the two ends lies strictly above the level. -/
def Straddles (a b : K × K) (level : K) : Prop := ¬(level < a.2 ↔ level < b.2)

/-- Where the line through the two ends meets the level, measured from the first end. -/
def offset (a b : K × K) (level : K) : K := (b.1 - a.1) * (level - a.2) / (b.2 - a.2)

def meet (a b : K × K) (level : K) : K := a.1 + offset a b level

/-- A ray from the point towards larger offsets crosses the edge. -/
def Crosses (a b p : K × K) : Prop := Straddles a b p.2 ∧ p.1 < meet a b p.2

instance (a b : K × K) (level : K) : Decidable (Straddles a b level) :=
  inferInstanceAs (Decidable ¬_)

instance (a b p : K × K) : Decidable (Crosses a b p) := inferInstanceAs (Decidable (_ ∧ _))

omit [Field K] [IsStrictOrderedRing K] in
theorem straddles_comm (a b : K × K) (level : K) : Straddles a b level ↔ Straddles b a level := by
  simp only [Straddles,iff_comm]

omit [IsStrictOrderedRing K] in
/-- A straddled edge is not level, so its line meets every level exactly once. -/
theorem Straddles.rise_ne_zero {a b : K × K} {level : K} (straddled : Straddles a b level) :
    b.2 - a.2 ≠ 0 := by
  intro flat
  apply straddled
  rw [sub_eq_zero.mp flat]

omit [IsStrictOrderedRing K] in
theorem meet_comm {a b : K × K} {level : K} (straddled : Straddles a b level) :
    meet a b level = meet b a level := by
  have rise := straddled.rise_ne_zero
  have fall := ((straddles_comm a b level).mp straddled).rise_ne_zero
  simp only [meet,offset]
  field_simp
  have turned : a.2 - b.2 = -(b.2 - a.2) := by ring
  rw [turned]
  field_simp
  ring

omit [IsStrictOrderedRing K] in
theorem crosses_comm (a b p : K × K) : Crosses a b p ↔ Crosses b a p := by
  have turn {a b : K × K} (crosses : Crosses a b p) : Crosses b a p := by
    obtain ⟨straddled,left⟩ := crosses
    exact ⟨(straddles_comm ..).mp straddled,by rwa [← meet_comm straddled]⟩
  exact ⟨turn,turn⟩

/-- How far along a straddled edge the level is reached: 0 at its first end, 1 at the other. -/
theorem Straddles.ratio_mem {a b : K × K} {level : K} (straddled : Straddles a b level) :
    (level - a.2) / (b.2 - a.2) ∈ Set.Icc (0 : K) 1 := by
  have rise := straddled.rise_ne_zero
  by_cases above : level < a.2
  · have below : b.2 ≤ level := not_lt.mp fun also => straddled (iff_of_true above also)
    have falls : b.2 - a.2 < 0 := by linarith
    constructor
    · exact div_nonneg_of_nonpos (by linarith) falls.le
    · rw [div_le_one_of_neg falls]
      linarith
  · have above' : level < b.2 := by_contra fun neither => straddled (iff_of_false above neither)
    have rises : 0 < b.2 - a.2 := by linarith
    constructor
    · exact div_nonneg (by linarith) rises.le
    · rw [div_le_one rises]
      linarith

/-- The meeting point is the one point of a straddled edge on the level. -/
theorem Straddles.mem_segment_iff {a b : K × K} {level : K} (straddled : Straddles a b level)
    (x : K) : (x,level) ∈ segment K a b ↔ x = meet a b level := by
  have rise := straddled.rise_ne_zero
  rw [segment_eq_image']
  constructor
  · rintro ⟨t,_,point⟩
    obtain ⟨across,up⟩ := Prod.ext_iff.mp point
    simp only [Prod.fst_add,Prod.snd_add,Prod.smul_fst,Prod.smul_snd,Prod.fst_sub,Prod.snd_sub,
      smul_eq_mul] at across up
    rw [← across,← up,meet,offset]
    field_simp
    ring
  · rintro rfl
    refine ⟨_,straddled.ratio_mem,?_⟩
    ext
    · simp only [Prod.fst_add,Prod.smul_fst,Prod.fst_sub,smul_eq_mul,meet,offset]
      ring
    · simp only [Prod.snd_add,Prod.smul_snd,Prod.snd_sub,smul_eq_mul]
      field_simp
      ring

omit [IsStrictOrderedRing K] in
theorem Straddles.offset_eq_zero_iff {a b : K × K} {level : K}
    (straddled : Straddles a b level) : offset a b level = 0 ↔ a.1 = b.1 ∨ level = a.2 := by
  rw [offset,div_eq_zero_iff,or_iff_left straddled.rise_ne_zero,mul_eq_zero,sub_eq_zero,
    sub_eq_zero,eq_comm]

theorem band_iff (x end₁ d : K) (sign : 0 ≤ d) :
    ¬(x < end₁ - d ↔ x < end₁ + d) ↔ -d ≤ x - end₁ ∧ x - end₁ < d := by
  constructor
  · intro differ
    by_contra outside
    apply differ
    constructor
    · intro less
      linarith
    · intro less
      by_contra high
      exact outside ⟨by linarith,by linarith⟩
  · intro inside same
    have far := same.mpr (by linarith [inside.2])
    linarith [inside.1]

/-- Comparing with the meeting point and with its mirror image in the first end disagree
exactly in the band whose half width is the distance from that end to the meeting point. -/
theorem mirrored_disagree (x end₁ d : K) :
    ¬(x < end₁ - d ↔ x < end₁ + d) ↔ -|d| ≤ x - end₁ ∧ x - end₁ < |d| := by
  rcases le_or_gt 0 d with sign | sign
  · rw [abs_of_nonneg sign]
    exact band_iff x end₁ d sign
  · have band := band_iff x end₁ (-d) (by linarith)
    rw [sub_neg_eq_add,← sub_eq_add_neg] at band
    have turned : (x < end₁ - d ↔ x < end₁ + d) ↔ (x < end₁ + d ↔ x < end₁ - d) := iff_comm
    rwa [abs_of_neg sign,turned]

end Edge

section Parity
variable {E : Type}

/-- Reversing a flag at every marked entry adds the parity of the number of marks to it. -/
theorem foldl_toggle (mark : E → Bool) (flag : Bool) (entries : List E) :
    entries.foldl (fun flag entry => if mark entry then !flag else flag) flag =
      (flag ^^ decide (Odd (entries.countP mark))) := by
  induction entries generalizing flag with
  | nil => simp
  | cons entry rest ih =>
    rw [List.foldl_cons,ih,List.countP_cons]
    cases mark entry <;> cases flag <;> simp [Nat.odd_add_one,-Nat.not_odd_iff_even]

/-- Two markings give the same parity exactly when they differ an even number of times. -/
theorem odd_countP_iff (p q : E → Bool) (entries : List E) :
    (Odd (entries.countP p) ↔ Odd (entries.countP q)) ↔
      Even (entries.countP fun entry => p entry != q entry) := by
  induction entries with
  | nil => simp
  | cons entry rest ih =>
    simp only [Nat.odd_iff,Nat.even_iff,List.countP_cons] at ih ⊢
    cases p entry <;> cases q entry <;> simp <;> omega

/-- A flag that is followed for a while has changed an odd number of times if and only if it is
not what it was. -/
theorem odd_changes_iff (side : Nat → Bool) (n : Nat) :
    Odd ((List.range n).countP fun k => side (k + 1) != side k) ↔ side n ≠ side 0 := by
  induction n with
  | zero => simp
  | succ n ih =>
    rw [List.range_succ,List.countP_append,List.countP_singleton]
    by_cases still : side (n + 1) = side n
    · simpa [still] using ih
    · have flip : ∀ now before start : Bool, now ≠ before → (now ≠ start ↔ ¬before ≠ start) := by
        decide
      have turned := flip _ _ (side 0) still
      rw [if_pos (by simpa using still),Nat.odd_add_one,ih,turned]

/-- Around a cycle it changes an even number of times. -/
theorem even_cyclic_changes (side : Nat → Bool) (n : Nat) :
    Even ((List.range n).countP fun k => side k != side ((k + n - 1) % n)) := by
  cases n with
  | zero => simp
  | succ n =>
    have later : (List.range' 1 n).countP (fun k => side k != side ((k + (n + 1) - 1) % (n + 1))) =
        (List.range n).countP fun k => side (k + 1) != side k := by
      rw [List.range_eq_range',List.range'_succ_left,List.countP_map]
      apply List.countP_congr
      intro k member
      have low : k < n := by simpa using member
      have before : (k + 1 + (n + 1) - 1) % (n + 1) = k := by
        rw [show k + 1 + (n + 1) - 1 = k + (n + 1) by omega,Nat.add_mod_right]
        exact Nat.mod_eq_of_lt (by omega)
      simp only [Function.comp,before]
    have first : (0 + (n + 1) - 1) % (n + 1) = n := by
      rw [Nat.zero_add,Nat.add_sub_cancel]
      exact Nat.mod_eq_of_lt (by omega)
    have changes := odd_changes_iff side n
    rw [List.range_eq_range',List.range'_succ,List.countP_cons,later,first]
    by_cases same : side 0 = side n
    · have stayed := mt changes.mp (by simp [same])
      simpa [same] using stayed
    · have turned := changes.mpr (Ne.symm same)
      rw [if_pos (by simpa using same)]
      exact turned.add_one

end Parity

end EvenOdd
