import SocialService.Validation

/-! What the pattern of `isValidEmail` accepts, read from left to right without any choice: the
only `@` and the last dot behind it cut the text. -/
namespace SocialService
open CharPattern

/-- Letters and digits, and the marks that a part of the address allows besides. -/
def Allowed (marks : List Char) (c : Char) : Prop := AsciiLetter c ∨ AsciiDigit c ∨ c ∈ marks

instance (marks : List Char) (c : Char) : Decidable (Allowed marks c) :=
  inferInstanceAs (Decidable ((_ ∧ _ ∨ _ ∧ _) ∨ (_ ∧ _) ∨ _))

structure MadeOf (marks : List Char) (part : List Char) : Prop where
  nonempty : part ≠ []
  characters : ∀ c ∈ part, Allowed marks c

structure TopLabel (label : List Char) : Prop where
  least : 2 ≤ label.length
  most : label.length ≤ 64
  letters : ∀ c ∈ label, AsciiLetter c

def localMarks : List Char := ['.','_','%','+','-']

def hostMarks : List Char := ['.','-']

def EmailFormat (text : List Char) : Prop :=
  text.count '@' = 1 ∧ ∃ name domain, splitFirst '@' text = some (name,domain) ∧
    MadeOf localMarks name ∧ ∃ host label, splitLast '.' domain = some (host,label) ∧
      MadeOf hostMarks host ∧ TopLabel label

theorem fits_madeOf_iff (marks part : List Char) :
    Piece.fits ⟨fun c => c.isAlphanum || c ∈ marks,1,none⟩ part = true ↔ MadeOf marks part := by
  have accepted (c : Char) : (c.isAlphanum || decide (c ∈ marks)) = true ↔ Allowed marks c := by
    rw [Bool.or_eq_true,decide_eq_true_eq,isAlphanum_iff,or_assoc,Allowed]
  simp only [Piece.fits_iff,accepted]
  constructor
  · rintro ⟨characters,least,_⟩
    exact ⟨List.ne_nil_of_length_pos least,characters⟩
  · intro made
    exact ⟨made.characters,List.length_pos_iff.mpr made.nonempty,by simp⟩

theorem fits_topLabel_iff (label : List Char) :
    Piece.fits ⟨Char.isAlpha,2,some 64⟩ label = true ↔ TopLabel label := by
  simp only [Piece.fits_iff,isAlpha_iff]
  constructor
  · rintro ⟨letters,least,most⟩
    exact ⟨least,most 64 rfl,letters⟩
  · intro top
    refine ⟨top.letters,top.least,?_⟩
    rintro most ⟨⟩
    exact top.most

/-- The five pieces of the pattern, for some split of the text. -/
theorem isValidEmail_iff_parts (s : String) :
    isValidEmail s = true ↔ ∃ name host label, s.toList = name ++ '@' :: (host ++ '.' :: label) ∧
      MadeOf localMarks name ∧ MadeOf hostMarks host ∧ TopLabel label := by
  simp only [isValidEmail,emailRegEx,fullMatch_cons_iff _ (_ :: _),fullMatch_last_iff,
    Piece.fits_one_iff,fits_madeOf_iff,fits_topLabel_iff]
  constructor
  · rintro ⟨name,_,text,made,_,_,rfl,rfl,host,_,rfl,hosted,_,label,rfl,rfl,top⟩
    exact ⟨name,host,label,text,made,hosted,top⟩
  · rintro ⟨name,host,label,text,made,hosted,top⟩
    exact ⟨name,_,text,made,_,_,rfl,rfl,host,_,rfl,hosted,_,label,rfl,rfl,top⟩

theorem MadeOf.not_mem {marks part : List Char} (made : MadeOf marks part) {c : Char}
    (refused : ¬Allowed marks c) : c ∉ part := fun member => refused (made.characters c member)

theorem TopLabel.not_mem {label : List Char} (top : TopLabel label) {c : Char}
    (refused : ¬Allowed [] c) : c ∉ label := fun member => refused (.inl (top.letters c member))

/-- The check accepts exactly the texts of the format. -/
theorem isValidEmail_iff (s : String) : isValidEmail s = true ↔ EmailFormat s.toList := by
  rw [isValidEmail_iff_parts]
  constructor
  · rintro ⟨name,host,label,text,made,hosted,top⟩
    have name_free : '@' ∉ name := made.not_mem (by decide)
    have host_free : '@' ∉ host := hosted.not_mem (by decide)
    have label_free : '@' ∉ label := top.not_mem (by decide)
    have dot_free : '.' ∉ label := top.not_mem (by decide)
    refine ⟨?_,name,_,?_,made,host,label,splitLast_append dot_free host,hosted,top⟩
    · simp [text,List.count_eq_zero.mpr name_free,List.count_eq_zero.mpr host_free,
        List.count_eq_zero.mpr label_free]
    · rw [text,splitFirst_append name_free]
  · rintro ⟨_,name,domain,first,made,host,label,last,hosted,top⟩
    obtain ⟨text,_⟩ := of_splitFirst first
    obtain ⟨rfl,_⟩ := of_splitLast last
    exact ⟨name,host,label,text,made,hosted,top⟩

end SocialService
