import SocialService.FormScreen
import SocialService.MapScreen

/-! The screens over the form: the camera handler, which all forms share, the map, the alert and
the pop-up of `DataController`. Completions of the location services reach a map at any time, also
after it was closed. -/
namespace SocialService

inductive SourceType where
  | camera
  | photoLibrary
  deriving DecidableEq, Repr

/-- `CameraHandler.shared`. A form is named by its place in the order of making. -/
structure CameraHandler where
  currentVC : Option Nat := none
  /-- The form that `imagePickedBlock` writes to. -/
  imagePickedBlock : Option Nat := none

inductive Cover where
  | actionSheet
  | picker (sourceType : SourceType)
  | map (index : Nat)
  | alert
  | popUp
  deriving DecidableEq, Repr

/-- A map that was opened, and the form that is its delegate. -/
structure MapVisit where
  screen : MapScreen
  delegate : Nat

structure FormFlow where
  world : World
  /-- Whether the form has a navigation controller. -/
  navigated : Bool
  /-- Whether a bar shows the bar buttons of the form and of its maps. -/
  bar : Bool
  /-- The forms that were replaced, oldest first. -/
  replaced : List FormScreen := []
  /-- The form on the screen. -/
  form : FormScreen := {}
  /-- Every map opened so far. -/
  maps : List MapVisit := []
  camera : CameraHandler := {}
  cover : Option Cover := none
  /-- `view.bounds.width`, and `contentView.bounds.width` of the location cell. -/
  width : ℚ := 375
  stopped : Option Trap := none

inductive Edit where
  | selectRow (row : Fin FormTableController.categories.length)
  | beginEditing
  | changeText (edit : String → String)
  | endEditing

def Edit.endsEditing : Edit → Bool
  | .endEditing => true
  | _ => false

def Edit.action : Edit → FormTableController.Action
  | .selectRow row => .selectRow row
  | .beginEditing => .beginEditing
  | .changeText edit => .changeText edit
  | .endEditing => .endEditing

def MapInput.byUser : MapInput → Bool
  | .panned _ | .dragged _ | .typed _ | .backToCurrent | .confirm => true
  | .located _ | .regionChanged | .geocoded .. => false

/-- The bar buttons; the one in the middle of the bar is `backToCurrent`. -/
def MapInput.onBar : MapInput → Bool
  | .backToCurrent | .confirm => true
  | _ => false

namespace FormFlow

inductive Input where
  | edit (edit : Edit)
  | showCamera
  | chooseSource (sourceType : SourceType) (available : Bool)
  | cancelSheet
  | picked (image : Option UIImage)
  | cancelPicker
  | showMap (center : CLLocationCoordinate2D ℚ)
  | map (index : Nat) (input : MapInput)
  | goBack
  | submit
  | closeAlert
  | closePopUp
  | resetForm
  | rotated (width : ℚ)

def current (s : FormFlow) : Nat := s.replaced.length

def updateForm (index : Nat) (change : FormScreen → FormScreen) (s : FormFlow) : FormFlow :=
  if index = s.current then { s with form := change s.form }
  else { s with replaced := s.replaced.modify index change }

def present (form : Nat) (cover : Cover) (s : FormFlow) : FormFlow :=
  if form = s.current then { s with cover := some cover } else s

def uncover (s : FormFlow) : FormFlow :=
  { s with cover := none, form := s.form.viewDidAppear s.width }

end FormFlow

namespace CameraHandler
open FormFlow

/-- On an iPhone: an iPad raises an exception for a sheet that its popover has no place for. -/
def showActionSheet (vc : Nat) (s : FormFlow) : FormFlow :=
  present vc .actionSheet { s with camera := { s.camera with currentVC := some vc } }

def pickFrom (sourceType : SourceType) (available : Bool) : EStateM Trap FormFlow Unit := do
  if available then
    let currentVC ← unwrap "currentVC" (← get).camera.currentVC
    modify (present currentVC (.picker sourceType))

def camera (available : Bool) : EStateM Trap FormFlow Unit := pickFrom .camera available

def photoLibrary (available : Bool) : EStateM Trap FormFlow Unit := pickFrom .photoLibrary available

def dismiss : EStateM Trap FormFlow Unit := do
  let currentVC ← unwrap "currentVC" (← get).camera.currentVC
  modify fun s => if currentVC = s.current then s.uncover else s

def imagePickerControllerDidCancel : EStateM Trap FormFlow Unit := dismiss

def didFinishPickingMedia (image : Option UIImage) : EStateM Trap FormFlow Unit := do
  match image, (← get).camera.imagePickedBlock with
  | some image, some form => modify (updateForm form (·.imagePicked image))
  | _, _ => pure ()
  dismiss

end CameraHandler

namespace FormFlow

def setImage (s : FormFlow) : FormFlow :=
  let shown := CameraHandler.showActionSheet s.current s
  { shown with camera := { shown.camera with imagePickedBlock := some s.current } }

/-- `showMap`, whose segue pushes the map or, without a navigation controller, presents it. -/
def showMap (center : CLLocationCoordinate2D ℚ) (s : FormFlow) : FormFlow :=
  { s with
    maps := s.maps ++ [⟨.opened center,s.current⟩]
    cover := some (.map s.maps.length) }

def popViewController (s : FormFlow) : FormFlow := if s.navigated then s.uncover else s

def sendLocation (visit : MapVisit) (s : FormFlow) : FormFlow :=
  match visit.screen.controller.sendLocation with
  | none => s
  | some (location,address) =>
    popViewController <| updateForm visit.delegate (fun form =>
      (form.setLocation location address).locationChanged s.width) s

/-- `FormTableController.resetForm`; without a navigation controller nothing is replaced. -/
def resetForm (s : FormFlow) : FormFlow :=
  if s.navigated then { s with replaced := s.replaced ++ [s.form], form := {} } else s

def submit : EStateM Trap FormFlow Unit := do
  let s ← get
  let result := s.form.controller.showData s.world
  modify fun s => { s with
    form := { s.form with controller := result.after.controller }
    world := result.after.world }
  match result.trap with
  | some trap => throw trap
  | none => modify fun s => { s with cover := some (if result.popUp then .popUp else .alert) }

/-- `DataController.resetForm`, which looks for the form in its presenting navigation
controller. -/
def closePopUp : EStateM Trap FormFlow Unit := do
  if (← get).navigated then modify fun s => { s.resetForm with cover := none }
  else throw (.forcedCast "as! FormTableController")

def onMap (index : Nat) (input : MapInput) (visit : MapVisit) : EStateM Trap FormFlow Unit := do
  let screen := visit.screen.step input
  modify fun s => { s with maps := s.maps.set index { visit with screen } }
  match screen.stopped, input with
  | some trap, _ => throw trap
  | none, .confirm => modify (sendLocation visit)
  | none, _ => pure ()

def handle (s : FormFlow) : Input → EStateM Trap FormFlow Unit
  -- The text view may end its editing when the form is covered.
  | .edit edit => do
    if s.cover = none ∨ edit.endsEditing = true then
      modify fun s => { s with form := s.form.act edit.action }
  | .showCamera => do if s.cover = none then modify setImage
  -- The sheet goes before its action is called.
  | .chooseSource sourceType available => do
    if s.cover = some .actionSheet then
      modify fun s => { s with cover := none }
      match sourceType with
      | .camera => CameraHandler.camera available
      | .photoLibrary => CameraHandler.photoLibrary available
  | .cancelSheet => do
    if s.cover = some .actionSheet then modify fun s => { s with cover := none }
  | .picked image =>
    match s.cover with
    | some (.picker _) => CameraHandler.didFinishPickingMedia image
    | _ => pure ()
  | .cancelPicker =>
    match s.cover with
    | some (.picker _) => CameraHandler.imagePickerControllerDidCancel
    | _ => pure ()
  | .showMap center => do if s.cover = none then modify (showMap center)
  | .map index input =>
    match s.maps[index]? with
    | none => pure ()
    | some visit => do
      if (input.byUser = true → s.cover = some (.map index)) ∧
          (input.onBar = true → s.bar = true) then
        onMap index input visit
  | .goBack =>
    match s.cover with
    | some (.map _) => do if s.bar = true then modify popViewController
    | _ => pure ()
  | .submit => do if s.cover = none ∧ s.bar = true then submit
  | .closeAlert => do
    if s.cover = some .alert then modify fun s => { s with cover := none }
  | .closePopUp => do if s.cover = some .popUp then closePopUp
  | .resetForm => do if s.cover = none ∧ s.bar = true then modify resetForm
  | .rotated width => modify fun s => { s with width }

/-- After a trap nothing happens any more. -/
def after : EStateM.Result Trap FormFlow Unit → FormFlow
  | .ok _ s => s
  | .error trap s => { s with stopped := some trap }

def step (s : FormFlow) (input : Input) : FormFlow :=
  if s.stopped.isSome then s else after ((handle s input).run s)

end FormFlow
end SocialService
