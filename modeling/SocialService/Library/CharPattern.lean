/-! Patterns that are sequences of repeated character classes, matched against a whole text:
the text splits into one part for each piece, and any split will do. A separator that one side
does not contain leaves no choice of the split. -/
namespace CharPattern

structure Piece where
  accepts : Char → Bool
  least : Nat
  most : Option Nat

def Piece.fits (piece : Piece) (text : List Char) : Bool :=
  text.all piece.accepts && decide (piece.least ≤ text.length) &&
    piece.most.all fun most => decide (text.length ≤ most)

def fullMatch : List Piece → List Char → Bool
  | [], text => text.isEmpty
  | piece :: rest, text => (List.range (text.length + 1)).any fun cut =>
      piece.fits (text.take cut) && fullMatch rest (text.drop cut)

theorem Piece.fits_iff (piece : Piece) (text : List Char) :
    piece.fits text = true ↔ (∀ c ∈ text, piece.accepts c = true) ∧ piece.least ≤ text.length ∧
      ∀ most, piece.most = some most → text.length ≤ most := by
  simp only [fits,Bool.and_eq_true,List.all_eq_true,decide_eq_true_eq,and_assoc]
  cases piece.most <;> simp

/-- A piece of exactly one character. -/
theorem Piece.fits_one_iff (mark : Char) (text : List Char) :
    Piece.fits ⟨fun c => c == mark,1,some 1⟩ text = true ↔ text = [mark] := by
  rw [fits_iff]
  constructor
  · rintro ⟨all,least,most⟩
    obtain ⟨c,rfl⟩ := List.length_eq_one_iff.mp (Nat.le_antisymm (most 1 rfl) least)
    have same := all c (List.mem_singleton.mpr rfl)
    rw [eq_of_beq same]
  · rintro rfl
    simp

theorem fullMatch_cons_iff (piece : Piece) (rest : List Piece) (text : List Char) :
    fullMatch (piece :: rest) text = true ↔ ∃ part remainder, text = part ++ remainder ∧
      piece.fits part = true ∧ fullMatch rest remainder = true := by
  simp only [fullMatch,List.any_eq_true,List.mem_range,Bool.and_eq_true]
  constructor
  · rintro ⟨cut,_,fits,matched⟩
    exact ⟨_,_,(List.take_append_drop cut text).symm,fits,matched⟩
  · rintro ⟨part,remainder,rfl,fits,matched⟩
    refine ⟨part.length,?_,?_,?_⟩
    · rw [List.length_append]
      omega
    · rwa [List.take_left]
    · rwa [List.drop_left]

/-- The last piece takes all that is left. -/
theorem fullMatch_last_iff (piece : Piece) (text : List Char) :
    fullMatch [piece] text = true ↔ piece.fits text = true := by
  rw [fullMatch_cons_iff]
  constructor
  · rintro ⟨part,remainder,rfl,fits,ended⟩
    have nothing : remainder = [] := List.isEmpty_iff.mp ended
    rwa [nothing,List.append_nil]
  · intro fits
    exact ⟨text,[],(List.append_nil text).symm,fits,rfl⟩

section Separator
variable {α : Type} [DecidableEq α]

def splitFirst (mark : α) : List α → Option (List α × List α)
  | [] => none
  | c :: rest =>
    if c = mark then some ([],rest)
    else (splitFirst mark rest).map fun parts => (c :: parts.1,parts.2)

def splitLast (mark : α) (text : List α) : Option (List α × List α) :=
  (splitFirst mark text.reverse).map fun parts => (parts.2.reverse,parts.1.reverse)

theorem splitFirst_append {mark : α} {before : List α} (free : mark ∉ before) (after : List α) :
    splitFirst mark (before ++ mark :: after) = some (before,after) := by
  induction before with
  | nil => simp [splitFirst]
  | cons c rest ih =>
    obtain ⟨other,later⟩ := List.ne_and_not_mem_of_not_mem_cons free
    simp [splitFirst,ih later,Ne.symm other]

theorem of_splitFirst {mark : α} {text before after : List α}
    (found : splitFirst mark text = some (before,after)) :
    text = before ++ mark :: after ∧ mark ∉ before := by
  induction text generalizing before with
  | nil => contradiction
  | cons c rest ih =>
    rw [splitFirst] at found
    by_cases same : c = mark
    · rw [if_pos same,Option.some.injEq,Prod.mk.injEq] at found
      obtain ⟨rfl,rfl⟩ := found
      exact ⟨by rw [same]; rfl,List.not_mem_nil⟩
    · rw [if_neg same] at found
      obtain ⟨⟨tail,_⟩,later,parts⟩ := Option.map_eq_some_iff.mp found
      obtain ⟨rfl,rfl⟩ := Prod.mk.inj parts
      obtain ⟨rfl,free⟩ := ih later
      exact ⟨rfl,List.not_mem_cons_of_ne_of_not_mem (Ne.symm same) free⟩

theorem splitLast_append {mark : α} {after : List α} (free : mark ∉ after) (before : List α) :
    splitLast mark (before ++ mark :: after) = some (before,after) := by
  have turned : (before ++ mark :: after).reverse = after.reverse ++ mark :: before.reverse := by
    simp
  have free' : mark ∉ after.reverse := mt List.mem_reverse.mp free
  rw [splitLast,turned,splitFirst_append free']
  simp

theorem of_splitLast {mark : α} {text before after : List α}
    (found : splitLast mark text = some (before,after)) :
    text = before ++ mark :: after ∧ mark ∉ after := by
  obtain ⟨⟨first,second⟩,split,parts⟩ := Option.map_eq_some_iff.mp found
  obtain ⟨rfl,rfl⟩ := Prod.mk.inj parts
  obtain ⟨turned,free⟩ := of_splitFirst split
  refine ⟨?_,mt List.mem_reverse.mp free⟩
  rw [← List.reverse_reverse text,turned]
  simp

end Separator

end CharPattern
