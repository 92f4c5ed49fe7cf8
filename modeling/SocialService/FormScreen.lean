import SocialService.FormTableController

/-! The form as it looks: the controller's values with the photo, the labels and the two animations
that bring them out. An animation ends at once here. -/
namespace SocialService

/-- A constraint, by how far it has been moved, and the view that is shown after the move. -/
structure OneShot where
  constant : ℚ := 0
  alpha : ℚ := 0
  animationHappened : Bool := false
  deriving DecidableEq

def OneShot.perform (self : OneShot) (width : ℚ) : OneShot :=
  if self.animationHappened then self
  else { constant := self.constant + width / 3, alpha := 1, animationHappened := true }

structure LocationCell where
  /-- `instructionLabel.alpha` -/
  instructionAlpha : ℚ := 1
  /-- The button, and `addressLabel`. -/
  button : OneShot := {}
  deriving DecidableEq

def LocationCell.performButtonAnimation (self : LocationCell) (address : String) (width : ℚ) :
    LocationCell :=
  if address = "" then self
  else { instructionAlpha := 0, button := self.button.perform width }

structure FormScreen where
  controller : FormTableController := {}
  locationCell : LocationCell := {}
  imageSet : Bool := false
  /-- `cameraInstructionLabel.alpha` -/
  cameraInstructionAlpha : ℚ := 1
  /-- The camera button, and `cameraImage`. -/
  camera : OneShot := {}
  deriving DecidableEq

namespace FormScreen

def performCameraAnimation (self : FormScreen) (width : ℚ) : FormScreen :=
  { self with camera := self.camera.perform width }

def viewDidAppear (self : FormScreen) (width : ℚ) : FormScreen :=
  if self.imageSet then self.performCameraAnimation width else self

/-- The block that `setImage` leaves with the camera handler. -/
def imagePicked (self : FormScreen) (image : UIImage) : FormScreen :=
  { self with
    controller := { self.controller with cameraImage := some image }
    imageSet := true
    cameraInstructionAlpha := 0 }

def setLocation (self : FormScreen) (location : CLLocation ℚ) (address : String) : FormScreen :=
  { self with controller := self.controller.setLocation location address }

def locationChanged (self : FormScreen) (width : ℚ) : FormScreen :=
  { self with
    locationCell := self.locationCell.performButtonAnimation self.controller.addressLabel width }

def act (self : FormScreen) (action : FormTableController.Action) : FormScreen :=
  { self with controller := self.controller.act action }

@[simp] theorem viewDidAppear_controller (self : FormScreen) (width : ℚ) :
    (self.viewDidAppear width).controller = self.controller := by
  unfold viewDidAppear
  split <;> rfl

@[simp] theorem imagePicked_controller (self : FormScreen) (image : UIImage) :
    (self.imagePicked image).controller = self.controller.act (.pickPhoto image) := rfl

/-- The location and address of a press of `Confirm` that the guard lets through. -/
theorem act_confirmLocation (self : FormTableController) (location : CLLocation ℚ)
    (address : String)
    (sent : LocationViewController.sendLocation ⟨address,location⟩ = some (location,address)) :
    self.act (.confirmLocation location address) = self.setLocation location address := by
  simp only [FormTableController.act,FormTableController.Action.confirms,sent]

end FormScreen
end SocialService
