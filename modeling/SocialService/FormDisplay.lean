import SocialService.FormRuns

/-! What a form shows of what it holds: the photo, the address and the two instructions, and how
far the two animations have moved their buttons. -/
namespace SocialService

/-- The animation has run once, by a third of one of these widths, or not at all. -/
def OneShot.Ran (self : OneShot) (widths : List ℚ) (shown : Prop) : Prop :=
  shown ∧ (∃ width ∈ widths, self = ⟨width / 3,1,true⟩) ∨ ¬shown ∧ self = {}

def FormFlow.widths (inputs : List FormFlow.Input) : List ℚ :=
  375 :: inputs.filterMap fun
    | .rotated width => some width
    | _ => none

namespace FormScreen

/-- A photo is shown if and only if there is one. An address stays shown from the first one that is
not empty. -/
structure Displays (widths : List ℚ) (form : FormScreen) : Prop where
  imageSet : form.imageSet = form.controller.cameraImage.isSome
  camera : form.camera.Ran widths (form.imageSet = true)
  cameraInstruction : form.cameraInstructionAlpha = 1 - form.camera.alpha
  addressLabel : form.controller.addressLabel = form.controller.formAddress.getD ""
  button : ∃ shown, form.locationCell.button.Ran widths shown ∧
    (shown → form.controller.formAddress.isSome) ∧
      (form.controller.addressLabel ≠ "" → shown)
  instruction : form.locationCell.instructionAlpha = 1 - form.locationCell.button.alpha

theorem fresh_displays (widths : List ℚ) : Displays widths {} where
  imageSet := rfl
  camera := .inr ⟨by simp,rfl⟩
  cameraInstruction := by simp
  addressLabel := rfl
  button := ⟨False,.inr ⟨id,rfl⟩,False.elim,by simp⟩
  instruction := by simp

end FormScreen

theorem OneShot.Ran.mono {self : OneShot} {widths more : List ℚ} {shown : Prop}
    (ran : self.Ran widths shown) (sub : widths ⊆ more) : self.Ran more shown := by
  rcases ran with ⟨yes,width,member,moved⟩ | no
  · exact .inl ⟨yes,width,sub member,moved⟩
  · exact .inr no

/-- The guard against a second run. -/
theorem OneShot.Ran.perform {self : OneShot} {widths : List ℚ} {shown : Prop} {width : ℚ}
    (ran : self.Ran widths shown) (member : width ∈ widths) :
    (self.perform width).Ran widths True := by
  rcases ran with ⟨_,old,before,rfl⟩ | ⟨_,rfl⟩
  · exact .inl ⟨trivial,old,before,rfl⟩
  · exact .inl ⟨trivial,width,member,by simp [OneShot.perform]⟩

theorem OneShot.Ran.alpha {self : OneShot} {widths : List ℚ} (ran : self.Ran widths True) :
    self.alpha = 1 := by
  rcases ran with ⟨_,_,_,rfl⟩ | ⟨no,_⟩
  · rfl
  · exact absurd trivial no

namespace FormScreen

theorem Displays.mono {self : FormScreen} {widths more : List ℚ} (displays : self.Displays widths)
    (sub : widths ⊆ more) : self.Displays more := by
  obtain ⟨imageSet,camera,cameraInstruction,addressLabel,⟨shown,ran,button⟩,instruction⟩ := displays
  exact ⟨imageSet,camera.mono sub,cameraInstruction,addressLabel,⟨shown,ran.mono sub,button⟩,
    instruction⟩

/-- Neither the photo nor the address changes. -/
theorem Displays.of_values {self : FormScreen} {widths : List ℚ} (displays : self.Displays widths)
    (controller : FormTableController)
    (photo : controller.cameraImage = self.controller.cameraImage)
    (address : controller.formAddress = self.controller.formAddress)
    (label : controller.addressLabel = self.controller.addressLabel) :
    Displays widths { self with controller } := by
  obtain ⟨imageSet,camera,cameraInstruction,addressLabel,button,instruction⟩ := displays
  exact ⟨by simpa [photo] using imageSet,camera,cameraInstruction,
    by simpa [address,label] using addressLabel,by simpa [address,label] using button,instruction⟩

/-- Coming back to a form moves nothing a second time. -/
theorem Displays.viewDidAppear_eq {self : FormScreen} {widths : List ℚ} (width : ℚ)
    (displays : self.Displays widths) : self.viewDidAppear width = self := by
  unfold FormScreen.viewDidAppear
  split
  · rename_i set
    rcases displays.camera with ⟨_,old,_,moved⟩ | ⟨unset,_⟩
    · have happened : self.camera.animationHappened = true := by rw [moved]
      simp [performCameraAnimation,OneShot.perform,happened]
    · exact absurd set unset
  · rfl

/-- The photo appears with the form, once the picker is gone. -/
theorem Displays.imagePicked {self : FormScreen} {widths : List ℚ} {width : ℚ}
    (displays : self.Displays widths) (member : width ∈ widths) (image : UIImage) :
    ((self.imagePicked image).viewDidAppear width).Displays widths := by
  obtain ⟨imageSet,camera,cameraInstruction,addressLabel,button,instruction⟩ := displays
  have ran := camera.perform member
  have set : (self.imagePicked image).imageSet = true := rfl
  rw [FormScreen.viewDidAppear,if_pos set]
  refine ⟨rfl,?_,?_,addressLabel,button,instruction⟩
  · simpa [performCameraAnimation,FormScreen.imagePicked] using ran
  · simp [performCameraAnimation,FormScreen.imagePicked,ran.alpha]

theorem Displays.locationChanged {self : FormScreen} {widths : List ℚ} {width : ℚ}
    (displays : self.Displays widths) (member : width ∈ widths) (location : CLLocation ℚ)
    (address : String) :
    ((self.setLocation location address).locationChanged width).Displays widths := by
  obtain ⟨imageSet,camera,cameraInstruction,addressLabel,⟨shown,ran,_,_⟩,instruction⟩ := displays
  unfold FormScreen.locationChanged LocationCell.performButtonAnimation
  split
  · rename_i empty
    exact ⟨imageSet,camera,cameraInstruction,rfl,
      ⟨shown,ran,fun _ => rfl,fun some => absurd empty some⟩,instruction⟩
  · have moved := ran.perform member
    exact ⟨imageSet,camera,cameraInstruction,rfl,⟨True,moved,fun _ => rfl,fun _ => trivial⟩,
      by simp [moved.alpha,setLocation]⟩

end FormScreen

namespace FormFlow
open EventMachine

structure AllDisplay (widths : List ℚ) (s : FormFlow) : Prop where
  width : s.width ∈ widths
  replaced : ∀ form ∈ s.replaced, form.Displays widths
  form : s.form.Displays widths

theorem AllDisplay.popViewController {widths : List ℚ} {s : FormFlow} (all : s.AllDisplay widths) :
    s.popViewController.AllDisplay widths := by
  unfold FormFlow.popViewController
  split
  · refine ⟨all.width,all.replaced,?_⟩
    simpa only [uncover,all.form.viewDidAppear_eq] using all.form
  · exact all

theorem steps_allDisplay {widths : List ℚ} {s next : FormFlow} {input : Input}
    (all : s.AllDisplay widths) (turned : ∀ width, input = .rotated width → width ∈ widths)
    (moved : Steps s input next) : next.AllDisplay widths := by
  have submit : FormScreen.Displays widths { s.form with
      controller := (s.form.controller.showData s.world).after.controller } := by
    have same := s.form.controller.showData_values s.world
    have photo := congrArg FormTableController.cameraImage same
    have address := congrArg FormTableController.formAddress same
    have label := congrArg FormTableController.addressLabel same
    exact all.form.of_values _ photo address label
  have reset : s.resetForm.AllDisplay widths := by
    unfold resetForm
    split
    · refine ⟨all.width,?_,FormScreen.fresh_displays widths⟩
      intro form member
      rcases List.mem_append.mp member with old | last
      · exact all.replaced form old
      · exact List.mem_singleton.mp last ▸ all.form
    · exact all
  cases moved with
  | ignored | unsent => exact all
  | edited edit live on =>
    refine ⟨all.width,all.replaced,?_⟩
    cases edit <;> exact all.form.of_values _ rfl rfl rfl
  | picked image => exact ⟨all.width,all.replaced,all.form.imagePicked all.width image⟩
  | pickedNothing | pickerCancelled =>
    refine ⟨all.width,all.replaced,?_⟩
    simpa only [uncover,all.form.viewDidAppear_eq] using all.form
  | sent index live on visit found location address call =>
    have shown : AllDisplay widths { s with
        form := (s.form.setLocation location address).locationChanged s.width } :=
      ⟨all.width,all.replaced,all.form.locationChanged all.width location address⟩
    exact shown.popViewController
  | mapLeft => exact all.popViewController
  | submitted | submitTrapped => exact ⟨all.width,all.replaced,submit⟩
  | formReset => exact reset
  | popUpClosed => exact ⟨reset.width,reset.replaced,reset.form⟩
  | rotated width => exact ⟨turned width rfl,all.replaced,all.form⟩
  | sheetShown | unavailable | sourceChosen | sheetCancelled | mapShown | mapMoved | mapTrapped
  | alertClosed | popUpTrapped => exact ⟨all.width,all.replaced,all.form⟩

theorem widths_append (inputs : List Input) (input : Input) :
    widths inputs ⊆ widths (inputs ++ [input]) := by
  intro width member
  simpa [widths] using Or.imp_right .inl (by simpa [widths] using member)

/-- In a run of the form with all its screens every form shows its photo exactly when it holds one,
shows an address it was given, and has moved each button at most once. -/
theorem forms_display (world : World) (navigated bar : Bool) (inputs : List Input) :
    let s := run step (opened world navigated bar) inputs
    ∀ form ∈ s.replaced ++ [s.form], form.Displays (widths inputs) := by
  let inv (history : List Input) (s : FormFlow) : Prop := s.Valid ∧ s.AllDisplay (widths history)
  have start : inv [] (opened world navigated bar) :=
    ⟨opened_valid world navigated bar,by simp [opened,widths],by simp [opened],
      FormScreen.fresh_displays _⟩
  have keeps (history : List Input) (s : FormFlow) (input : Input) (holds : inv history s) :
      inv (history ++ [input]) (s.step input) := by
    obtain ⟨valid,all⟩ := holds
    have more := widths_append history input
    have wider : s.AllDisplay (widths (history ++ [input])) :=
      ⟨more all.width,fun form member => (all.replaced form member).mono more,all.form.mono more⟩
    refine ⟨step_valid s input valid,steps_allDisplay wider ?_ (step_steps s input valid)⟩
    rintro width rfl
    simp [widths]
  obtain ⟨_,all⟩ := run_history keeps inputs start
  intro s form member
  rcases List.mem_append.mp member with old | last
  · exact all.replaced form old
  · exact List.mem_singleton.mp last ▸ all.form

end FormFlow
end SocialService
