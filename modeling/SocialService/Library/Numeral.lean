import Mathlib.Data.List.Shortlex
import Mathlib.Data.Set.Basic
import Mathlib.Order.Defs.LinearOrder
import Mathlib.Tactic.Ring

/-! Positional numerals, most significant digit first. Without leading zeros, numerals are ordered
as their values are: by length, and for one length alphabetically. -/
namespace Numeral

/-- Symbols in the order of their weights, zero among them. -/
structure System (α : Type) [LinearOrder α] where
  base : Nat
  symbols : Set α
  weight : α → Nat
  zero : α
  bounded : ∀ d ∈ symbols, weight d < base
  increasing : ∀ d ∈ symbols, ∀ e ∈ symbols, weight d < weight e ↔ d < e
  zero_mem : zero ∈ symbols
  weight_zero : weight zero = 0

namespace System
variable {α : Type} [LinearOrder α] (system : System α)

def value (digits : List α) : Nat :=
  digits.foldl (fun total d => system.base * total + system.weight d) 0

def Written (digits : List α) : Prop := ∀ d ∈ digits, d ∈ system.symbols

/-- The digits behind the leading zeros. -/
def significant (digits : List α) : List α := digits.dropWhile fun d => d = system.zero

theorem foldl_eq (digits : List α) (start : Nat) :
    digits.foldl (fun total d => system.base * total + system.weight d) start =
      start * system.base ^ digits.length + system.value digits := by
  induction digits generalizing start with
  | nil => simp [value]
  | cons d rest ih =>
    rw [value,List.foldl_cons,List.foldl_cons,ih,ih (system.base * 0 + system.weight d)]
    rw [List.length_cons,pow_succ]
    ring

theorem value_cons (d : α) (rest : List α) :
    system.value (d :: rest) =
      system.weight d * system.base ^ rest.length + system.value rest := by
  rw [value,List.foldl_cons,foldl_eq,Nat.mul_zero,Nat.zero_add]

theorem value_lt_pow (digits : List α) (written : system.Written digits) :
    system.value digits < system.base ^ digits.length := by
  induction digits with
  | nil => exact Nat.one_pos
  | cons d rest ih =>
    have low := ih fun e member => written e (List.mem_cons_of_mem d member)
    have digit : system.weight d + 1 ≤ system.base := system.bounded d (written d List.mem_cons_self)
    have room := Nat.mul_le_mul_right (system.base ^ rest.length) digit
    rw [value_cons,List.length_cons,pow_succ,Nat.mul_comm _ system.base]
    rw [Nat.succ_mul] at room
    omega

theorem value_significant (digits : List α) :
    system.value (system.significant digits) = system.value digits := by
  induction digits with
  | nil => rfl
  | cons d rest ih =>
    by_cases leading : d = system.zero
    · rw [significant,List.dropWhile_cons_of_pos (by simpa using leading),value_cons,leading,
        system.weight_zero,Nat.zero_mul,Nat.zero_add]
      exact ih
    · rw [significant,List.dropWhile_cons_of_neg (by simpa using leading)]

theorem significant_written (digits : List α) (written : system.Written digits) :
    system.Written (system.significant digits) :=
  fun d member => written d ((List.dropWhile_sublist _).subset member)

theorem base_pos : 0 < system.base :=
  Nat.zero_lt_of_lt (system.bounded system.zero system.zero_mem)

theorem weight_pos (d : α) (member : d ∈ system.symbols) (nonzero : d ≠ system.zero) :
    0 < system.weight d := by
  by_contra none
  have least : ¬system.weight system.zero < system.weight d := by omega
  have least' : ¬system.weight d < system.weight system.zero := by
    rw [system.weight_zero]
    omega
  rw [system.increasing _ system.zero_mem _ member] at least
  rw [system.increasing _ member _ system.zero_mem] at least'
  exact nonzero (le_antisymm (not_lt.mp least) (not_lt.mp least'))

/-- A numeral without leading zeros is at least the power that its first digit counts. -/
theorem pow_le_value (d : α) (rest : List α) (member : d ∈ system.symbols)
    (nonzero : d ≠ system.zero) : system.base ^ rest.length ≤ system.value (d :: rest) := by
  have counts := Nat.mul_le_mul_right (system.base ^ rest.length)
    (system.weight_pos d member nonzero)
  rw [value_cons]
  omega

/-- A greater digit outweighs whatever follows a smaller one. -/
theorem leading_digit_decides {power low low' digit digit' : Nat} (bound : low < power)
    (less : digit < digit') : digit * power + low < digit' * power + low' := by
  have room := Nat.mul_le_mul_right power less
  rw [Nat.succ_mul] at room
  omega

/-- Numerals of one length. -/
theorem value_lt_iff_lex (left right : List α) (same : left.length = right.length)
    (left_written : system.Written left) (right_written : system.Written right) :
    system.value left < system.value right ↔ List.Lex (· < ·) left right := by
  induction left generalizing right with
  | nil =>
    rw [List.length_eq_zero_iff.mp same.symm]
    simp
  | cons d left ih =>
    have nonempty : 0 < right.length := by
      rw [← same]
      exact Nat.zero_lt_succ _
    obtain ⟨e,right,rfl⟩ := List.exists_cons_of_length_pos nonempty
    have lengths : left.length = right.length := Nat.succ.inj same
    obtain ⟨d_symbol,left_rest⟩ := List.forall_mem_cons.mp left_written
    obtain ⟨e_symbol,right_rest⟩ := List.forall_mem_cons.mp right_written
    have left_low := system.value_lt_pow left left_rest
    have right_low := system.value_lt_pow right right_rest
    rw [lengths] at left_low
    rw [List.cons_lex_cons_iff,value_cons,value_cons,lengths]
    rcases lt_trichotomy d e with less | rfl | greater
    · have digit := (system.increasing d d_symbol e e_symbol).mpr less
      exact iff_of_true (leading_digit_decides left_low digit) (.inl less)
    · rw [Nat.add_lt_add_iff_left,ih right lengths left_rest right_rest]
      simp
    · have digit := (system.increasing e e_symbol d d_symbol).mpr greater
      refine iff_of_false (Nat.lt_asymm (leading_digit_decides right_low digit)) ?_
      rintro (less | ⟨rfl,_⟩)
      · exact lt_asymm less greater
      · exact lt_irrefl _ greater

/-- Without leading zeros a longer numeral has the greater value. -/
theorem value_lt_of_length_lt (left right : List α) (left_written : system.Written left)
    (right_written : system.Written right) (shorter : left.length < right.length)
    (leading : ∀ d ∈ right.head?, d ≠ system.zero) : system.value left < system.value right := by
  obtain ⟨e,right,rfl⟩ := List.exists_cons_of_length_pos (Nat.zero_lt_of_lt shorter)
  have low := system.value_lt_pow left left_written
  have powers := Nat.pow_le_pow_right system.base_pos (Nat.lt_succ_iff.mp shorter)
  have high := system.pow_le_value e right (right_written e List.mem_cons_self) (leading e rfl)
  omega

theorem head_significant (digits : List α) :
    ∀ d ∈ (system.significant digits).head?, d ≠ system.zero := by
  intro d first zero
  have stopped := List.head?_dropWhile_not (fun d => decide (d = system.zero)) digits
  rw [significant,Option.mem_def] at first
  rw [first] at stopped
  simp [zero] at stopped

/-- The order of values is the order of what stands behind the leading zeros. -/
theorem value_lt_iff (left right : List α) (left_written : system.Written left)
    (right_written : system.Written right) : system.value left < system.value right ↔
      List.Shortlex (· < ·) (system.significant left) (system.significant right) := by
  have left_written := system.significant_written left left_written
  have right_written := system.significant_written right right_written
  rw [← system.value_significant left,← system.value_significant right]
  rcases lt_trichotomy (system.significant left).length (system.significant right).length with
    shorter | same | longer
  · have less := system.value_lt_of_length_lt _ _ left_written right_written shorter
      (system.head_significant right)
    exact iff_of_true less (.of_length_lt shorter)
  · rw [List.shortlex_iff_lex same,system.value_lt_iff_lex _ _ same left_written right_written]
  · have greater := system.value_lt_of_length_lt _ _ right_written left_written longer
      (system.head_significant left)
    refine iff_of_false (Nat.lt_asymm greater) ?_
    rw [List.shortlex_def]
    omega

theorem value_eq_iff (left right : List α) (left_written : system.Written left)
    (right_written : system.Written right) :
    system.value left = system.value right ↔
      system.significant left = system.significant right := by
  constructor
  · intro same
    have not_less := mt (system.value_lt_iff left right left_written right_written).mpr
    have not_greater := mt (system.value_lt_iff right left right_written left_written).mpr
    exact Std.Trichotomous.trichotomous _ _ (not_less (Nat.not_lt.mpr same.ge))
      (not_greater (Nat.not_lt.mpr same.le))
  · intro same
    rw [← system.value_significant left,same,system.value_significant right]

end System

end Numeral
