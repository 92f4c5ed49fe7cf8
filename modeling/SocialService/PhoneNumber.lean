import SocialService.Library.Numeral
import SocialService.Validation

/-! Which accepted phone numbers the conversion to `Int` keeps. The check asks for decimal digits
of any script and of any number; the conversion reads ASCII digits, in 64 bits, and forgets
leading zeros. -/
namespace SocialService

theorem char_lt_iff (c d : Char) : c < d ↔ c.toNat < d.toNat := Iff.rfl

theorem asciiDigit_iff {c : Char} : AsciiDigit c ↔ 48 ≤ c.toNat ∧ c.toNat ≤ 57 := Iff.rfl

def decimal : Numeral.System Char where
  base := 10
  symbols := {c | AsciiDigit c}
  weight c := c.toNat - '0'.toNat
  zero := '0'
  bounded := by
    intro c digit
    have bounds := asciiDigit_iff.mp digit
    have zero : '0'.toNat = 48 := rfl
    omega
  increasing := by
    intro c digit d digit'
    have bounds := asciiDigit_iff.mp digit
    have bounds' := asciiDigit_iff.mp digit'
    have zero : '0'.toNat = 48 := rfl
    rw [char_lt_iff]
    omega
  zero_mem := asciiDigit_iff.mpr (by decide)
  weight_zero := rfl

def limit : List Char := "9223372036854775808".toList

/-- ASCII digits that, behind their leading zeros, come before `2 ^ 63`: fewer digits, or as many
and alphabetically smaller. -/
def Storable (text : List Char) : Prop :=
  decimal.Written text ∧ List.Shortlex (· < ·) (decimal.significant text) limit

/-- Both numbers are stored, and apart unless they are the same text. -/
def StoredFaithfully (s t : String) : Prop :=
  (intOfString s).isSome ∧ (intOfString t).isSome ∧ (s ≠ t → intOfString s ≠ intOfString t)

theorem asciiValue_eq_some_iff (digits : List Char) (nonempty : digits ≠ []) (n : Nat) :
    asciiValue digits = some n ↔ decimal.Written digits ∧ n = decimal.value digits := by
  have all : digits.all Char.isDigit = true ↔ decimal.Written digits := by
    simp only [List.all_eq_true,isDigit_iff]
    rfl
  unfold asciiValue
  by_cases written : decimal.Written digits
  · rw [if_pos ⟨nonempty,all.mpr written⟩,Option.some.injEq,eq_comm]
    simp only [written,true_and]
    rfl
  · rw [if_neg fun both => written (all.mp both.2)]
    simp [written]

/-- An accepted number has no sign. -/
theorem intOfString_of_isNumber (s : String) (accepted : isNumber s = true) :
    intOfString s = (asciiValue s.toList).bind fun n => if n < 2^63 then some (n : Int) else none := by
  rw [isNumber,Bool.and_eq_true,List.all_eq_true] at accepted
  unfold intOfString
  split
  · rename_i text
    exact absurd (accepted.2 '-' (by rw [text]; exact List.mem_cons_self)) (by decide)
  · rename_i text
    exact absurd (accepted.2 '+' (by rw [text]; exact List.mem_cons_self)) (by decide)
  · rfl

theorem toList_ne_nil_of_isNumber (s : String) (accepted : isNumber s = true) :
    s.toList ≠ [] := by
  intro empty
  rw [String.toList_eq_nil_iff] at empty
  subst empty
  contradiction

theorem limit_written : decimal.Written limit := by
  intro c member
  have digits : limit.all Char.isDigit = true := by decide
  exact (isDigit_iff c).mp (List.all_eq_true.mp digits c member)

/-- The bound on the value is a bound on the digits. -/
theorem value_lt_limit_iff (text : List Char) (written : decimal.Written text) :
    decimal.value text < 2^63 ↔ List.Shortlex (· < ·) (decimal.significant text) limit := by
  have value : decimal.value limit = 2^63 := by decide
  have plain : decimal.significant limit = limit := by decide
  rw [← value,decimal.value_lt_iff text limit written limit_written,plain]

theorem intOfString_eq_some_iff (s : String) (accepted : isNumber s = true) (n : Int) :
    intOfString s = some n ↔ Storable s.toList ∧ n = decimal.value s.toList := by
  have nonempty := toList_ne_nil_of_isNumber s accepted
  rw [intOfString_of_isNumber s accepted,Option.bind_eq_some_iff,Storable]
  simp only [asciiValue_eq_some_iff _ nonempty]
  constructor
  · rintro ⟨_,⟨written,rfl⟩,stored⟩
    split at stored
    · rename_i fits
      exact ⟨⟨written,(value_lt_limit_iff _ written).mp fits⟩,(Option.some.inj stored).symm⟩
    · contradiction
  · rintro ⟨⟨written,fits⟩,rfl⟩
    refine ⟨_,⟨written,rfl⟩,?_⟩
    rw [if_pos ((value_lt_limit_iff _ written).mpr fits)]

theorem intOfString_isSome_iff (s : String) (accepted : isNumber s = true) :
    (intOfString s).isSome ↔ Storable s.toList := by
  simp [Option.isSome_iff_exists,intOfString_eq_some_iff s accepted]

/-- Two accepted numbers are stored faithfully if and only if both are storable and they do not
differ in leading zeros only. -/
theorem stored_faithfully_iff (s t : String) (s_accepted : isNumber s = true)
    (t_accepted : isNumber t = true) :
    StoredFaithfully s t ↔ Storable s.toList ∧ Storable t.toList ∧
      (s ≠ t → decimal.significant s.toList ≠ decimal.significant t.toList) := by
  rw [StoredFaithfully,intOfString_isSome_iff s s_accepted,intOfString_isSome_iff t t_accepted]
  refine and_congr_right fun s_storable => and_congr_right fun t_storable => ?_
  have s_stored := (intOfString_eq_some_iff s s_accepted _).mpr ⟨s_storable,rfl⟩
  have t_stored := (intOfString_eq_some_iff t t_accepted _).mpr ⟨t_storable,rfl⟩
  have same := decimal.value_eq_iff s.toList t.toList s_storable.1 t_storable.1
  simp only [s_stored,t_stored,ne_eq,Option.some.injEq,Int.natCast_inj,same]

theorem two_numbers_stored_faithfully : StoredFaithfully "888123456" "0877123456" := by
  have s_storable : Storable "888123456".toList :=
    (intOfString_isSome_iff "888123456" (by decide)).mp (by decide)
  have t_storable : Storable "0877123456".toList :=
    (intOfString_isSome_iff "0877123456" (by decide)).mp (by decide)
  apply (stored_faithfully_iff "888123456" "0877123456" (by decide) (by decide)).mpr
  exact ⟨s_storable,t_storable,by decide⟩

/-- Arabic digits and `2 ^ 63` are accepted and not converted; a leading zero is lost. -/
theorem accepted_numbers_not_faithful :
    (isNumber "٠٨٨٨" = true ∧ intOfString "٠٨٨٨" = none) ∧
    (isNumber "9223372036854775808" = true ∧ intOfString "9223372036854775808" = none) ∧
    (isNumber "0888" = true ∧ isNumber "888" = true ∧ ¬StoredFaithfully "0888" "888") := by
  refine ⟨by decide,by decide,by decide,by decide,?_⟩
  intro faithful
  exact faithful.2.2 (by decide) (by decide)

end SocialService
