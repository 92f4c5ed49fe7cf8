/-! The scenes of `Main.storyboard` and the segues and identifiers that the code uses. -/
namespace SocialService

inductive Destination where
  | loginController
  | signInController
  | formTableController
  | locationViewController
  | dataController
  | navigationController (topViewController : Destination)
  deriving DecidableEq, Repr

structure Segue where
  identifier : Option String
  destination : Destination
  deriving DecidableEq, Repr

namespace Storyboard

/-- `LoginController`'s and `SignInController`'s segues lead to the same scene, directly. -/
def loginShowForm : Segue := ⟨some "showForm",.formTableController⟩
def signInShowForm : Segue := ⟨some "showForm",.formTableController⟩
def showData : Segue := ⟨some "showData",.dataController⟩

/-- The navigation controller has no identifier. -/
def identifiers : List (String × Destination) :=
  [("FormTableController",.formTableController),("signInController",.signInController),
    ("login",.loginController)]

end Storyboard

end SocialService
