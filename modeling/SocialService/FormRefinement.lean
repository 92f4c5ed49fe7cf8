import SocialService.AppSteps
import SocialService.FormFlowSteps
import SocialService.Submission

/-! The app machine knows the form alone, and what its screens put into it as one action. A run of
the form with its sheet, pickers, maps, alert and pop-up is a run of that machine. -/
namespace SocialService

namespace App

theorem fill_step (s : App) (action : FormTableController.Action) (live : s.stopped = none)
    (attempt : Attempt) (on : s.visible = some (.form attempt))
    (bar : action.onBar = true → s.presented = []) :
    s.step (.fill action) = { s with form := s.form.act action } :=
  step_of_run s _ _ live (by simp only [handle,on,if_pos bar]; rfl)

theorem resetForm_step (s : App) (live : s.stopped = none) (attempt : Attempt)
    (on : s.visible = some (.form attempt)) :
    s.step .resetForm = if s.presented = [] then { s with form := {} } else s := by
  split
  · rename_i bare
    exact step_of_run s _ _ live (by simp only [handle,on,if_pos bare]; rfl)
  · rename_i covered
    exact step_of_run s _ _ live (by simp only [handle,on,if_neg covered]; rfl)

theorem submit_step (s : App) (live : s.stopped = none) (stacked : s.OnStack) :
    s.step .submit = { s with
      form := (s.form.showData s.world).after.controller
      world := (s.form.showData s.world).after.world
      stopped := (s.form.showData s.world).trap } := by
  have moved := submit_steps s live stacked
  generalize s.step .submit = next at moved ⊢
  cases moved with
  | ignored _ out =>
    rcases out with stopped | disabled
    · simp [live] at stopped
    · exact absurd stacked disabled
  | submitted => rfl

end App

namespace FormFlow
open EventMachine FormTableController FormTableController.Action

def appEvents (s : FormFlow) (input : Input) : List App.Event :=
  if s.stopped.isSome then []
  else match input, s.cover with
    | .edit edit, none => [.fill edit.action]
    | .edit .endEditing, some _ => [.fill .endEditing]
    | .picked (some image), some (.picker _) => [.fill (.pickPhoto image)]
    | .picked none, some (.picker _) | .cancelPicker, some (.picker _) => [.fill .cancelPhoto]
    | .map index .confirm, some (.map shown) =>
      if index = shown ∧ s.bar = true then
        (s.maps[index]?.map fun visit => App.Event.fill (.confirmLocation
          visit.screen.controller.userLocation visit.screen.controller.addressField)).toList
      else []
    | .goBack, some (.map _) => if s.bar = true then [.fill .leaveMap] else []
    | .submit, none => if s.bar = true then [.submit] else []
    | .closePopUp, some .popUp => if s.navigated then [.resetForm] else []
    | .resetForm, none => if s.bar = true then [.resetForm] else []
    | _, _ => []

theorem appEvents_of_ignored (s : FormFlow) (input : Input)
    (out : s.stopped.isSome ∨ ¬s.Enabled input) : s.appEvents input = [] := by
  unfold appEvents
  split
  · rfl
  · rename_i running
    have disabled := out.resolve_left running
    split
    case h_6 index shown on =>
      cases found : s.maps[index]? with
      | none => simp
      | some visit =>
        have elsewhere : ¬(index = shown ∧ s.bar = true) := by
          rintro ⟨rfl,bar⟩
          exact disabled ⟨⟨visit,found⟩,fun _ => on,fun _ => bar⟩
        exact if_neg elsewhere
    all_goals simp_all [Enabled,Edit.endsEditing]

@[simp] theorem popViewController_controller (s : FormFlow) :
    s.popViewController.form.controller = s.form.controller := by
  unfold popViewController
  split <;> simp [uncover]

@[simp] theorem popViewController_world (s : FormFlow) : s.popViewController.world = s.world := by
  unfold popViewController
  split <;> rfl

@[simp] theorem popViewController_navigated (s : FormFlow) :
    s.popViewController.navigated = s.navigated := by
  unfold popViewController
  split <;> rfl

@[simp] theorem popViewController_bar (s : FormFlow) : s.popViewController.bar = s.bar := by
  unfold popViewController
  split <;> rfl

@[simp] theorem popViewController_replaced (s : FormFlow) :
    s.popViewController.replaced = s.replaced := by
  unfold popViewController
  split <;> rfl

@[simp] theorem popViewController_stopped (s : FormFlow) :
    s.popViewController.stopped = s.stopped := by
  unfold popViewController
  split <;> rfl

/-- The forms that are not on the screen, and whether there are a navigation controller and a bar. -/
structure SameForms (s next : FormFlow) : Prop where
  replaced : next.replaced = s.replaced
  navigated : next.navigated = s.navigated
  bar : next.bar = s.bar

/-- What a step does to the form and the stores, by what it amounts to in the app machine. -/
inductive Amounts (s next : FormFlow) : List App.Event → Prop where
  | nothing (same : SameForms s next) (form : next.form.controller = s.form.controller)
      (world : next.world = s.world) (going : next.stopped = none → s.stopped = none) :
      Amounts s next []
  | filled (action : FormTableController.Action) (live : s.stopped = none) (same : SameForms s next)
      (form : next.form.controller = s.form.controller.act action) (world : next.world = s.world)
      (bar : action.onBar = true → s.bar = true) : Amounts s next [.fill action]
  | reset (live : s.stopped = none) (forms : next.form = s.resetForm.form)
      (replaced : next.replaced = s.resetForm.replaced) (world : next.world = s.world)
      (navigated : next.navigated = s.navigated) (bar : next.bar = s.bar) :
      Amounts s next [.resetForm]
  | submitted (live : s.stopped = none) (same : SameForms s next)
      (form : next.form.controller = (s.form.controller.showData s.world).after.controller)
      (world : next.world = (s.form.controller.showData s.world).after.world)
      (stopped : next.stopped = (s.form.controller.showData s.world).trap) (bar : s.bar = true) :
      Amounts s next [.submit]

theorem steps_amounts {s next : FormFlow} {input : Input} (valid : s.Valid)
    (moved : Steps s input next) : Amounts s next (s.appEvents input) := by
  cases moved with
  | ignored input out =>
    rw [appEvents_of_ignored s input out]
    exact .nothing ⟨rfl,rfl,rfl⟩ rfl rfl id
  | edited edit live on =>
    have event : s.appEvents (.edit edit) = [.fill edit.action] := by
      cases covered : s.cover with
      | none => simp [appEvents,live,covered]
      | some cover =>
        have ended : edit.endsEditing = true := on.resolve_left (by simp [covered])
        cases edit with
        | endEditing => simp [appEvents,live,covered,Edit.action]
        | selectRow | beginEditing | changeText => contradiction
    rw [event]
    exact .filled _ live ⟨rfl,rfl,rfl⟩ rfl rfl (by cases edit <;> simp [Edit.action,onBar])
  | picked image live sourceType on =>
    rw [show s.appEvents (.picked (some image)) = [.fill (.pickPhoto image)] by
      simp [appEvents,live,on]]
    exact .filled _ live ⟨rfl,rfl,rfl⟩ (by simp [uncover]) rfl (by simp [onBar])
  | pickedNothing live sourceType on =>
    rw [show s.appEvents (.picked none) = [.fill .cancelPhoto] by simp [appEvents,live,on]]
    exact .filled _ live ⟨rfl,rfl,rfl⟩ (by simp [uncover,act]) rfl (by simp [onBar])
  | pickerCancelled live sourceType on =>
    rw [show s.appEvents .cancelPicker = [.fill .cancelPhoto] by simp [appEvents,live,on]]
    exact .filled _ live ⟨rfl,rfl,rfl⟩ (by simp [uncover,act]) rfl (by simp [onBar])
  | mapLeft live index on bar =>
    rw [show s.appEvents .goBack = [.fill .leaveMap] by simp [appEvents,live,on,bar]]
    exact .filled _ live ⟨by simp,by simp,by simp⟩ (by simp [act]) (by simp) fun _ => bar
  | unsent index live visit found blocked bar =>
    by_cases on : s.cover = some (.map index)
    · rw [show s.appEvents (.map index .confirm) = [.fill (.confirmLocation
          visit.screen.controller.userLocation visit.screen.controller.addressField)] by
        simp [appEvents,live,on,found,bar]]
      refine .filled _ live ⟨rfl,rfl,rfl⟩ ?_ rfl fun _ => bar
      simp only [act,confirms,blocked]
    · have out : s.stopped.isSome ∨ ¬s.Enabled (.map index .confirm) :=
        .inr fun enabled => on (enabled.2.1 rfl)
      rw [appEvents_of_ignored s _ out]
      exact .nothing ⟨rfl,rfl,rfl⟩ rfl rfl id
  | sent index live on visit found location address call bar =>
    obtain ⟨rfl,rfl⟩ : location = visit.screen.controller.userLocation ∧
        address = visit.screen.controller.addressField := by
      unfold LocationViewController.sendLocation at call
      split at call
      · simpa [eq_comm] using call
      · contradiction
    rw [show s.appEvents (.map index .confirm) = [.fill (.confirmLocation
        visit.screen.controller.userLocation visit.screen.controller.addressField)] by
      simp [appEvents,live,on,found,bar]]
    refine .filled _ live ⟨by simp,by simp,by simp⟩ ?_ (by simp) fun _ => bar
    rw [FormScreen.act_confirmLocation _ _ _ call]
    simp [FormScreen.locationChanged,FormScreen.setLocation]
  | submitted live on noTrap bar =>
    rw [show s.appEvents .submit = [.submit] by simp [appEvents,live,on,bar]]
    exact .submitted live ⟨rfl,rfl,rfl⟩ rfl rfl (live.trans noTrap.symm) bar
  | submitTrapped live on trap trapped bar =>
    rw [show s.appEvents .submit = [.submit] by simp [appEvents,live,on,bar]]
    exact .submitted live ⟨rfl,rfl,rfl⟩ rfl rfl trapped.symm bar
  | popUpClosed live on navigated =>
    rw [show s.appEvents .closePopUp = [.resetForm] by simp [appEvents,live,on,navigated]]
    exact .reset live rfl rfl (by simp [resetForm,navigated]) (by simp [resetForm,navigated])
      (by simp [resetForm,navigated])
  | formReset live on bar =>
    rw [show s.appEvents .resetForm = [.resetForm] by simp [appEvents,live,on,bar]]
    apply Amounts.reset live rfl rfl
    all_goals
      unfold resetForm
      split <;> rfl
  | mapMoved index input live visit found quiet running =>
    rw [show s.appEvents (.map index input) = [] by cases input <;> simp_all [appEvents]]
    exact .nothing ⟨rfl,rfl,rfl⟩ rfl rfl id
  | mapTrapped index input live visit found trap trapped =>
    have quiet : input ≠ .confirm := by
      rintro rfl
      have still := valid.running live visit (List.mem_of_getElem? found)
      simp [visit.screen.step_of_live _ still,still] at trapped
    rw [show s.appEvents (.map index input) = [] by cases input <;> simp_all [appEvents]]
    exact .nothing ⟨rfl,rfl,rfl⟩ rfl rfl fun _ => live
  | popUpTrapped live on bare trap =>
    rw [show s.appEvents .closePopUp = [] by simp [appEvents,live,on,bare]]
    exact .nothing ⟨rfl,rfl,rfl⟩ rfl rfl fun _ => live
  | sheetShown live | unavailable _ live | sourceChosen _ live | sheetCancelled live
  | mapShown _ live | alertClosed live | rotated _ live =>
    rw [show s.appEvents _ = [] by simp [appEvents,live]]
    exact .nothing ⟨rfl,rfl,rfl⟩ rfl rfl id

theorem step_amounts (s : FormFlow) (input : Input) (valid : s.Valid) :
    Amounts s (s.step input) (s.appEvents input) := steps_amounts valid (step_steps s input valid)

/-! ### The app machine follows -/

structure Shows (s : FormFlow) (app : App) : Prop where
  valid : s.Valid
  form : app.form = s.form.controller
  world : app.world = s.world
  visible : ∃ attempt, app.visible = some (.form attempt)
  navigated : app.presented = [] ↔ s.navigated = true
  bar : app.presented = [] ↔ s.bar = true
  live : s.stopped = none → app.stopped = none

theorem step_shows (s : FormFlow) (app : App) (input : Input) (shown : s.Shows app)
    (_ : True) : (s.step input).Shows (run App.step app (s.appEvents input)) := by
  have amounts := step_amounts s input shown.valid
  have valid := step_valid s input shown.valid
  obtain ⟨attempt,on⟩ := shown.visible
  generalize s.step input = next at amounts valid ⊢
  generalize s.appEvents input = events at amounts ⊢
  cases amounts with
  | nothing same form world going =>
    exact ⟨valid,shown.form.trans form.symm,shown.world.trans world.symm,⟨attempt,on⟩,
      same.navigated ▸ shown.navigated,same.bar ▸ shown.bar,fun live => shown.live (going live)⟩
  | filled action live same form world bar =>
    have shows (used : action.onBar = true) : app.presented = [] := shown.bar.mpr (bar used)
    rw [run_cons,run_nil,app.fill_step action (shown.live live) attempt on shows]
    exact ⟨valid,by rw [form,← shown.form],shown.world.trans world.symm,⟨attempt,on⟩,
      same.navigated ▸ shown.navigated,same.bar ▸ shown.bar,fun _ => shown.live live⟩
  | reset live forms replaced world navigated bar =>
    rw [run_cons,run_nil,app.resetForm_step (shown.live live) attempt on]
    have stands (form : FormTableController) (same : form = next.form.controller) :
        next.Shows { app with form } :=
      ⟨valid,same,shown.world.trans world.symm,⟨attempt,on⟩,navigated ▸ shown.navigated,
        bar ▸ shown.bar,fun _ => shown.live live⟩
    cases has : s.navigated with
    | true =>
      rw [if_pos (shown.navigated.mpr has)]
      exact stands {} (by simp [forms,resetForm,has])
    | false =>
      rw [if_neg (by simp [shown.navigated,has])]
      exact stands app.form (by simp [forms,resetForm,has,shown.form])
  | submitted live same form world stopped bar =>
    have stacked : app.OnStack := ⟨shown.bar.mpr bar,attempt,on⟩
    rw [run_cons,run_nil,app.submit_step (shown.live live) stacked,shown.form,shown.world]
    exact ⟨valid,form.symm,world.symm,⟨attempt,on⟩,same.navigated ▸ shown.navigated,
      same.bar ▸ shown.bar,fun going => stopped.symm.trans going⟩

/-- What holds of the form at every press of `Submit`. -/
def AtSubmit (p : FormTableController → World → Prop) (s : FormFlow) : Input → Prop
  | .submit => s.stopped = none → s.cover = none → s.bar = true → p s.form.controller s.world
  | _ => True

theorem atSubmit_iff (p : FormTableController → World → Prop) (s : FormFlow) (app : App)
    (input : Input) (shown : s.Shows app) (_ : True) :
    s.AtSubmit p input ↔ Along App.step (App.AtSubmit p) app (s.appEvents input) := by
  by_cases out : s.stopped.isSome ∨ ¬s.Enabled input
  · rw [appEvents_of_ignored s input out]
    refine iff_of_true ?_ trivial
    cases input with
    | submit =>
      intro live bare bar
      rcases out with stopped | disabled
      · simp [live] at stopped
      · exact absurd ⟨bare,bar⟩ disabled
    | _ => trivial
  · obtain ⟨running,enabled⟩ := not_or.mp out
    have live : s.stopped = none := Option.not_isSome_iff_eq_none.mp running
    by_cases submits : input = .submit
    · subst submits
      obtain ⟨bare,bar⟩ : s.cover = none ∧ s.bar = true := not_not.mp enabled
      have event : s.appEvents .submit = [.submit] := by simp [appEvents,live,bare,bar]
      have stacked : app.OnStack := ⟨shown.bar.mpr bar,shown.visible⟩
      simp [event,Along,AtSubmit,App.AtSubmit,live,bare,bar,shown.live live,stacked,shown.form,
        shown.world]
    · refine iff_of_true (by cases input <;> trivial) ?_
      have others : ∀ event ∈ s.appEvents input, event ≠ .submit := by
        unfold appEvents
        split
        · simp
        · split <;> first | contradiction | (split <;> simp) | simp
      generalize s.appEvents input = events at others
      clear shown
      induction events generalizing app with
      | nil => trivial
      | cons event rest ih =>
        obtain ⟨first,later⟩ := List.forall_mem_cons.mp others
        refine ⟨?_,ih (app.step event) later⟩
        cases event <;> trivial

/-- A run of the form with all its screens, from a form that the app has just made, is a run of the
app machine: the same form and stores at the end, and at every press of `Submit`. -/
theorem refines_app (app : App) (attempt : Attempt) (on : app.visible = some (.form attempt))
    (live : app.stopped = none) (fresh : app.form = {})
    (p : FormTableController → World → Prop) (inputs : List Input) :
    let start := opened app.world app.presented.isEmpty app.presented.isEmpty
    let events := emitted step appEvents start inputs
    (run step start inputs).Shows (run App.step app events) ∧
      (Along step (AtSubmit p) start inputs ↔ Along App.step (App.AtSubmit p) app events) := by
  intro start events
  have shown : start.Shows app :=
    ⟨opened_valid _ _ _,fresh,rfl,⟨attempt,on⟩,by simp [start,opened],by simp [start,opened],
      fun _ => live⟩
  have all : ∀ input ∈ inputs, True := fun _ _ => trivial
  exact ⟨run_simulated step_shows inputs all shown,
    along_simulated step_shows (atSubmit_iff p) inputs all shown⟩

/-- The form that opens behind the alert of `Register`, and a photo for it. -/
theorem photo_refines_app :
    let app := App.step (App.launch .blank) (.register ⟨"","","",""⟩)
    (run step (opened app.world true true)
      [.showCamera,.chooseSource .photoLibrary true,.picked (some ⟨[1]⟩)]).Shows
        (App.step app (.fill (.pickPhoto ⟨[1]⟩))) :=
  (refines_app (App.step (App.launch .blank) (.register ⟨"","","",""⟩))
    ⟨0,.register ⟨"","","",""⟩⟩ rfl rfl rfl FormTableController.Truthful
    [.showCamera,.chooseSource .photoLibrary true,.picked (some ⟨[1]⟩)]).1

end FormFlow
end SocialService
