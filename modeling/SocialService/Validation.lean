import Mathlib.Algebra.Group.Nat.Defs
import Mathlib.Data.Char
import SocialService.Library.CharPattern

/-! Checks and conversions on the contents of the text fields. `UITextField.text` reads back a
string in every case, so a field is a `String`. -/
namespace SocialService

/-- `CharacterSet.decimalDigits`: the runs of category Nd, as Unicode 11 has them. Later versions
of Unicode add runs. -/
def decimalDigitRuns : List (Nat × Nat) :=
  [(0x30,0x39),(0x660,0x669),(0x6F0,0x6F9),(0x7C0,0x7C9),(0x966,0x96F),(0x9E6,0x9EF),
    (0xA66,0xA6F),(0xAE6,0xAEF),(0xB66,0xB6F),(0xBE6,0xBEF),(0xC66,0xC6F),(0xCE6,0xCEF),
    (0xD66,0xD6F),(0xDE6,0xDEF),(0xE50,0xE59),(0xED0,0xED9),(0xF20,0xF29),(0x1040,0x1049),
    (0x1090,0x1099),(0x17E0,0x17E9),(0x1810,0x1819),(0x1946,0x194F),(0x19D0,0x19D9),
    (0x1A80,0x1A89),(0x1A90,0x1A99),(0x1B50,0x1B59),(0x1BB0,0x1BB9),(0x1C40,0x1C49),
    (0x1C50,0x1C59),(0xA620,0xA629),(0xA8D0,0xA8D9),(0xA900,0xA909),(0xA9D0,0xA9D9),
    (0xA9F0,0xA9F9),(0xAA50,0xAA59),(0xABF0,0xABF9),(0xFF10,0xFF19),(0x104A0,0x104A9),
    (0x10D30,0x10D39),(0x11066,0x1106F),(0x110F0,0x110F9),(0x11136,0x1113F),(0x111D0,0x111D9),
    (0x112F0,0x112F9),(0x11450,0x11459),(0x114D0,0x114D9),(0x11650,0x11659),(0x116C0,0x116C9),
    (0x11730,0x11739),(0x118E0,0x118E9),(0x11C50,0x11C59),(0x11D50,0x11D59),(0x11DA0,0x11DA9),
    (0x16A60,0x16A69),(0x16B50,0x16B59),(0x1D7CE,0x1D7FF),(0x1E950,0x1E959)]

def decimalDigits (c : Char) : Bool :=
  decimalDigitRuns.any fun run => decide (run.1 ≤ c.toNat) && decide (c.toNat ≤ run.2)

def isNumber (text : String) : Bool := text != "" && text.toList.all decimalDigits

def asciiValue (digits : List Char) : Option Nat :=
  if digits ≠ [] ∧ digits.all Char.isDigit then
    some (digits.foldl (fun value c => 10 * value + (c.toNat - '0'.toNat)) 0)
  else none

/-- `Int(text)` on a 64-bit device. -/
def intOfString (text : String) : Option Int :=
  match text.toList with
  | '-' :: digits => (asciiValue digits).bind fun n => if n ≤ 2^63 then some (-(n : Int)) else none
  | '+' :: digits => (asciiValue digits).bind fun n => if n < 2^63 then some (n : Int) else none
  | digits => (asciiValue digits).bind fun n => if n < 2^63 then some (n : Int) else none

/-- `[A-Z0-9a-z._%+-]+@[A-Za-z0-9.-]+\.[A-Za-z]{2,64}` -/
def emailRegEx : List CharPattern.Piece :=
  [⟨fun c => c.isAlphanum || c ∈ ['.','_','%','+','-'],1,none⟩,
    ⟨fun c => c == '@',1,some 1⟩,
    ⟨fun c => c.isAlphanum || c ∈ ['.','-'],1,none⟩,
    ⟨fun c => c == '.',1,some 1⟩,
    ⟨Char.isAlpha,2,some 64⟩]

/-- The same text in both controllers. -/
def isValidEmail (testStr : String) : Bool := CharPattern.fullMatch emailRegEx testStr.toList

example : isValidEmail "ana@mail.x.bg" = true := by decide
example : isValidEmail "ana@x" = false := by decide

/-! ### ASCII classes -/

def AsciiLetter (c : Char) : Prop := 'A' ≤ c ∧ c ≤ 'Z' ∨ 'a' ≤ c ∧ c ≤ 'z'

def AsciiDigit (c : Char) : Prop := '0' ≤ c ∧ c ≤ '9'

instance (c : Char) : Decidable (AsciiDigit c) := inferInstanceAs (Decidable (_ ∧ _))

theorem isAlpha_iff (c : Char) : c.isAlpha = true ↔ AsciiLetter c := by
  have upper : c.isUpper = true ↔ 'A' ≤ c ∧ c ≤ 'Z' := decide_eq_true_iff
  have lower : c.isLower = true ↔ 'a' ≤ c ∧ c ≤ 'z' :=
    Bool.and_eq_true_iff.trans (and_congr decide_eq_true_iff decide_eq_true_iff)
  exact Bool.or_eq_true_iff.trans (or_congr upper lower)

theorem isDigit_iff (c : Char) : c.isDigit = true ↔ AsciiDigit c :=
  Bool.and_eq_true_iff.trans (and_congr decide_eq_true_iff decide_eq_true_iff)

theorem isAlphanum_iff (c : Char) : c.isAlphanum = true ↔ AsciiLetter c ∨ AsciiDigit c :=
  Bool.or_eq_true_iff.trans (or_congr (isAlpha_iff c) (isDigit_iff c))

end SocialService
