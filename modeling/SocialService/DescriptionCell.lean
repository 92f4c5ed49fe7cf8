/-! The text view of `DescriptionCell`: whether the placeholder shows is kept in the colour only. -/
namespace SocialService

/-- `orange` is the colour literal of `textView.didSet`. -/
inductive UIColor where
  | orange
  | black
  | lightGray
  deriving DecidableEq, Repr

structure DescriptionCell where
  text : String := "Please, describe the issue..."
  textColor : UIColor := .orange
  deriving DecidableEq, Repr

namespace DescriptionCell

def textViewDidBeginEditing (self : DescriptionCell) : DescriptionCell :=
  if self.textColor = .orange then { text := "", textColor := .black } else self

/-- The text reported to the delegate. -/
def textViewDidChange (self : DescriptionCell) : String := self.text

def textViewDidEndEditing (self : DescriptionCell) : DescriptionCell × String :=
  let self :=
    if self.text.isEmpty then { text := "Please, describe the issue...", textColor := .lightGray }
    else self
  (self,self.text)

end DescriptionCell

end SocialService
