import SocialService.FormFlow

/-! What each input does to the form and the screens over it. Where a picker or a map writes to a
form, that is the form on the screen. -/
namespace SocialService
namespace FormFlow
open EventMachine

structure Valid (s : FormFlow) : Prop where
  camera : s.cover = some .actionSheet ∨ (∃ sourceType, s.cover = some (.picker sourceType)) →
    s.camera = ⟨some s.current,some s.current⟩
  map : ∀ index, s.cover = some (.map index) →
    ∃ visit, s.maps[index]? = some visit ∧ visit.delegate = s.current
  running : s.stopped = none → ∀ visit ∈ s.maps, visit.screen.stopped = none

def Enabled (s : FormFlow) : Input → Prop
  | .edit edit => s.cover = none ∨ edit.endsEditing = true
  | .showCamera | .showMap _ => s.cover = none
  | .submit | .resetForm => s.cover = none ∧ s.bar = true
  | .chooseSource .. | .cancelSheet => s.cover = some .actionSheet
  | .picked _ | .cancelPicker => ∃ sourceType, s.cover = some (.picker sourceType)
  | .map index input => (∃ visit, s.maps[index]? = some visit) ∧
    (input.byUser = true → s.cover = some (.map index)) ∧ (input.onBar = true → s.bar = true)
  | .goBack => (∃ index, s.cover = some (.map index)) ∧ s.bar = true
  | .closeAlert => s.cover = some .alert
  | .closePopUp => s.cover = some .popUp
  | .rotated _ => True

inductive Steps (s : FormFlow) : Input → FormFlow → Prop where
  | ignored (input : Input) (out : s.stopped.isSome ∨ ¬s.Enabled input) : Steps s input s
  | edited (edit : Edit) (live : s.stopped = none) (on : s.Enabled (.edit edit)) :
      Steps s (.edit edit) { s with form := s.form.act edit.action }
  | sheetShown (live : s.stopped = none) (on : s.cover = none) :
      Steps s .showCamera { s with
        camera := ⟨some s.current,some s.current⟩
        cover := some .actionSheet }
  | unavailable (sourceType : SourceType) (live : s.stopped = none)
      (on : s.cover = some .actionSheet) :
      Steps s (.chooseSource sourceType false) { s with cover := none }
  | sourceChosen (sourceType : SourceType) (live : s.stopped = none)
      (on : s.cover = some .actionSheet) :
      Steps s (.chooseSource sourceType true) { s with cover := some (.picker sourceType) }
  | sheetCancelled (live : s.stopped = none) (on : s.cover = some .actionSheet) :
      Steps s .cancelSheet { s with cover := none }
  | picked (image : UIImage) (live : s.stopped = none) (sourceType : SourceType)
      (on : s.cover = some (.picker sourceType)) :
      Steps s (.picked (some image)) (uncover { s with form := s.form.imagePicked image })
  | pickedNothing (live : s.stopped = none) (sourceType : SourceType)
      (on : s.cover = some (.picker sourceType)) : Steps s (.picked none) s.uncover
  | pickerCancelled (live : s.stopped = none) (sourceType : SourceType)
      (on : s.cover = some (.picker sourceType)) : Steps s .cancelPicker s.uncover
  | mapShown (center : CLLocationCoordinate2D ℚ) (live : s.stopped = none) (on : s.cover = none) :
      Steps s (.showMap center) (s.showMap center)
  | mapMoved (index : Nat) (input : MapInput) (live : s.stopped = none)
      (visit : MapVisit) (found : s.maps[index]? = some visit) (quiet : input ≠ .confirm)
      (running : (visit.screen.step input).stopped = none) :
      Steps s (.map index input)
        { s with maps := s.maps.set index { visit with screen := visit.screen.step input } }
  | mapTrapped (index : Nat) (input : MapInput) (live : s.stopped = none)
      (visit : MapVisit) (found : s.maps[index]? = some visit) (trap : Trap)
      (trapped : (visit.screen.step input).stopped = some trap) :
      Steps s (.map index input) { s with
        maps := s.maps.set index { visit with screen := visit.screen.step input }
        stopped := some trap }
  | unsent (index : Nat) (live : s.stopped = none) (visit : MapVisit)
      (found : s.maps[index]? = some visit)
      (blocked : visit.screen.controller.sendLocation = none) (bar : s.bar = true) :
      Steps s (.map index .confirm) s
  | sent (index : Nat) (live : s.stopped = none) (on : s.cover = some (.map index))
      (visit : MapVisit) (found : s.maps[index]? = some visit) (location : CLLocation ℚ)
      (address : String)
      (call : visit.screen.controller.sendLocation = some (location,address))
      (bar : s.bar = true) : Steps s (.map index .confirm) (popViewController
        { s with form := (s.form.setLocation location address).locationChanged s.width })
  | mapLeft (live : s.stopped = none) (index : Nat) (on : s.cover = some (.map index))
      (bar : s.bar = true) : Steps s .goBack s.popViewController
  | submitted (live : s.stopped = none) (on : s.cover = none)
      (noTrap : (s.form.controller.showData s.world).trap = none) (bar : s.bar = true) :
      Steps s .submit { s with
        form := { s.form with controller := (s.form.controller.showData s.world).after.controller }
        world := (s.form.controller.showData s.world).after.world
        cover := some (if (s.form.controller.showData s.world).popUp then .popUp else .alert) }
  | submitTrapped (live : s.stopped = none) (on : s.cover = none) (trap : Trap)
      (trapped : (s.form.controller.showData s.world).trap = some trap) (bar : s.bar = true) :
      Steps s .submit { s with
        form := { s.form with controller := (s.form.controller.showData s.world).after.controller }
        world := (s.form.controller.showData s.world).after.world
        stopped := some trap }
  | alertClosed (live : s.stopped = none) (on : s.cover = some .alert) :
      Steps s .closeAlert { s with cover := none }
  | popUpClosed (live : s.stopped = none) (on : s.cover = some .popUp)
      (navigated : s.navigated = true) : Steps s .closePopUp { s.resetForm with cover := none }
  | popUpTrapped (live : s.stopped = none) (on : s.cover = some .popUp)
      (bare : s.navigated = false) (trap : Trap) :
      Steps s .closePopUp { s with stopped := some trap }
  | formReset (live : s.stopped = none) (on : s.cover = none) (bar : s.bar = true) :
      Steps s .resetForm s.resetForm
  | rotated (width : ℚ) (live : s.stopped = none) : Steps s (.rotated width) { s with width }

theorem step_of_run (s next : FormFlow) (input : Input) (live : s.stopped = none)
    (run : (handle s input).run s = .ok () next) : s.step input = next := by
  simp [step,live,run,after]

theorem step_of_trap (s next : FormFlow) (input : Input) (trap : Trap) (live : s.stopped = none)
    (run : (handle s input).run s = .error trap next) :
    s.step input = { next with stopped := some trap } := by
  simp [step,live,run,after]

theorem handle_of_disabled (s : FormFlow) (input : Input) (disabled : ¬s.Enabled input) :
    (handle s input).run s = .ok () s := by
  cases input with
  | edit | showCamera | chooseSource | cancelSheet | showMap | submit | closeAlert | closePopUp
  | resetForm => exact congrArg (EStateM.run · s) (if_neg disabled)
  | picked | cancelPicker =>
    simp only [handle]
    split
    · rename_i sourceType on
      exact absurd ⟨sourceType,on⟩ disabled
    · rfl
  | goBack =>
    simp only [handle]
    split
    · rename_i index on
      rw [if_neg fun bar => disabled ⟨⟨index,on⟩,bar⟩]
      rfl
    · rfl
  | map index input =>
    simp only [handle]
    split
    · rfl
    · rename_i visit found
      rw [if_neg fun on => disabled ⟨⟨visit,found⟩,on⟩]
      rfl
  | rotated => exact absurd trivial disabled

theorem step_of_ignored (s : FormFlow) (input : Input)
    (out : s.stopped.isSome ∨ ¬s.Enabled input) : s.step input = s := by
  cases live : s.stopped with
  | some trap => simp [step,live]
  | none =>
    rcases out with stopped | disabled
    · rw [live] at stopped
      contradiction
    · exact step_of_run s s input live (handle_of_disabled s input disabled)

theorem dismiss_run (s : FormFlow) (camera : s.camera.currentVC = some s.current) :
    CameraHandler.dismiss.run s = .ok () s.uncover := by
  simp [CameraHandler.dismiss,unwrap,camera]

theorem picked_steps (s : FormFlow) (image : Option UIImage) (valid : s.Valid)
    (live : s.stopped = none) (sourceType : SourceType)
    (on : s.cover = some (.picker sourceType)) :
    Steps s (.picked image) (s.step (.picked image)) := by
  have camera := valid.camera (.inr ⟨sourceType,on⟩)
  have currentVC : s.camera.currentVC = some s.current := by rw [camera]
  have imagePickedBlock : s.camera.imagePickedBlock = some s.current := by rw [camera]
  cases image with
  | none =>
    have run : (handle s (.picked none)).run s = .ok () s.uncover := by
      simp only [handle,on,CameraHandler.didFinishPickingMedia,EStateM.run_bind,EStateM.run_get]
      exact dismiss_run s currentVC
    rw [step_of_run s _ _ live run]
    exact .pickedNothing live sourceType on
  | some image =>
    have run : (handle s (.picked (some image))).run s =
        .ok () (uncover { s with form := s.form.imagePicked image }) := by
      simp only [handle,on,CameraHandler.didFinishPickingMedia,EStateM.run_bind,EStateM.run_get,
        imagePickedBlock,updateForm,if_true,EStateM.run_modify]
      exact dismiss_run _ currentVC
    rw [step_of_run s _ _ live run]
    exact .picked image live sourceType on

theorem map_steps (s : FormFlow) (index : Nat) (input : MapInput) (valid : s.Valid)
    (live : s.stopped = none) (visit : MapVisit) (found : s.maps[index]? = some visit)
    (on : input.byUser = true → s.cover = some (.map index))
    (shown : input.onBar = true → s.bar = true) :
    Steps s (.map index input) (s.step (.map index input)) := by
  have run : (handle s (.map index input)).run s = (onMap index input visit).run s := by
    simp only [handle,found]
    exact congrArg (EStateM.run · s) (if_pos ⟨on,shown⟩)
  by_cases confirmed : input = .confirm
  · subst confirmed
    have running := valid.running live visit (List.mem_of_getElem? found)
    have still : visit.screen.step .confirm = visit.screen := visit.screen.step_of_live _ running
    have same : s.maps.set index visit = s.maps := by
      obtain ⟨bound,rfl⟩ := List.getElem?_eq_some_iff.mp found
      exact List.set_getElem_self bound
    have sent : (handle s (.map index .confirm)).run s = .ok () (sendLocation visit s) := by
      rw [run]
      simp [onMap,still,running,same]
    have covered := on rfl
    obtain ⟨opened,at_index,delegate⟩ := valid.map index covered
    obtain rfl : opened = visit := by simpa [found] using at_index.symm
    rw [step_of_run s _ _ live sent,sendLocation]
    cases call : opened.screen.controller.sendLocation with
    | none => exact .unsent index live opened found call (shown rfl)
    | some pair =>
      simp only [updateForm,delegate,if_true]
      exact .sent index live covered opened found pair.1 pair.2 call (shown rfl)
  · cases stopped : (visit.screen.step input).stopped with
    | some trap =>
      rw [step_of_trap s _ _ trap live (run.trans (by simp [onMap,stopped]; rfl))]
      exact .mapTrapped index input live visit found trap stopped
    | none =>
      have moved : (handle s (.map index input)).run s = .ok () { s with
          maps := s.maps.set index { visit with screen := visit.screen.step input } } := by
        rw [run]
        simp only [onMap,stopped]
        cases input with
        | confirm => exact absurd rfl confirmed
        | _ => rfl
      rw [step_of_run s _ _ live moved]
      exact .mapMoved index input live visit found confirmed stopped

theorem submit_steps (s : FormFlow) (live : s.stopped = none) (on : s.cover = none)
    (bar : s.bar = true) : Steps s .submit (s.step .submit) := by
  cases trapped : (s.form.controller.showData s.world).trap with
  | none =>
    have run : (handle s .submit).run s = .ok () { s with
        form := { s.form with controller := (s.form.controller.showData s.world).after.controller }
        world := (s.form.controller.showData s.world).after.world
        cover := some
          (if (s.form.controller.showData s.world).popUp then .popUp else .alert) } := by
      simp [handle,on,bar,submit,trapped]
    rw [step_of_run s _ _ live run]
    exact .submitted live on trapped bar
  | some trap =>
    have run : (handle s .submit).run s = .error trap { s with
        form := { s.form with controller := (s.form.controller.showData s.world).after.controller }
        world := (s.form.controller.showData s.world).after.world } := by
      simp [handle,on,bar,submit,trapped]
    rw [step_of_trap s _ _ trap live run]
    exact .submitTrapped live on trap trapped bar

/-- Every step from a valid state is one of the steps listed. -/
theorem step_steps (s : FormFlow) (input : Input) (valid : s.Valid) :
    Steps s input (s.step input) := by
  by_cases out : s.stopped.isSome ∨ ¬s.Enabled input
  · rw [step_of_ignored s input out]
    exact .ignored input out
  · obtain ⟨running,on⟩ := not_or.mp out
    have live : s.stopped = none := Option.not_isSome_iff_eq_none.mp running
    have enabled : s.Enabled input := not_not.mp on
    cases input with
    | edit edit =>
      have on : s.cover = none ∨ edit.endsEditing = true := enabled
      rw [step_of_run s _ _ live (by rw [handle,if_pos on]; rfl)]
      exact .edited edit live enabled
    | showCamera =>
      have bare : s.cover = none := enabled
      have run : (handle s .showCamera).run s = .ok () { s with
          camera := ⟨some s.current,some s.current⟩
          cover := some .actionSheet } := by
        simp [handle,bare,setImage,CameraHandler.showActionSheet,present,current]
      rw [step_of_run s _ _ live run]
      exact .sheetShown live bare
    | chooseSource sourceType available =>
      have covered : s.cover = some .actionSheet := enabled
      have camera := valid.camera (.inl covered)
      cases available with
      | false =>
        have run : (handle s (.chooseSource sourceType false)).run s =
            .ok () { s with cover := none } := by
          cases sourceType <;>
            simp [handle,covered,CameraHandler.camera,CameraHandler.photoLibrary,
              CameraHandler.pickFrom]
        rw [step_of_run s _ _ live run]
        exact .unavailable sourceType live covered
      | true =>
        have run : (handle s (.chooseSource sourceType true)).run s =
            .ok () { s with cover := some (.picker sourceType) } := by
          cases sourceType <;>
            simp [handle,covered,CameraHandler.camera,CameraHandler.photoLibrary,
              CameraHandler.pickFrom,unwrap,camera,present,current]
        rw [step_of_run s _ _ live run]
        exact .sourceChosen sourceType live covered
    | cancelSheet =>
      have covered : s.cover = some .actionSheet := enabled
      rw [step_of_run s _ _ live (by rw [handle,if_pos covered]; rfl)]
      exact .sheetCancelled live covered
    | picked image =>
      obtain ⟨sourceType,covered⟩ := enabled
      exact picked_steps s image valid live sourceType covered
    | cancelPicker =>
      obtain ⟨sourceType,covered⟩ := enabled
      have camera := valid.camera (.inr ⟨sourceType,covered⟩)
      have run : (handle s .cancelPicker).run s = .ok () s.uncover := by
        simp only [handle,covered]
        exact dismiss_run s (by rw [camera])
      rw [step_of_run s _ _ live run]
      exact .pickerCancelled live sourceType covered
    | showMap center =>
      have bare : s.cover = none := enabled
      rw [step_of_run s _ _ live (by rw [handle,if_pos bare]; rfl)]
      exact .mapShown center live bare
    | map index input =>
      obtain ⟨⟨visit,found⟩,covered,shown⟩ := enabled
      exact map_steps s index input valid live visit found covered shown
    | goBack =>
      obtain ⟨⟨index,covered⟩,bar⟩ := enabled
      rw [step_of_run s _ _ live (by simp only [handle,covered,if_pos bar]; rfl)]
      exact .mapLeft live index covered bar
    | submit => exact submit_steps s live enabled.1 enabled.2
    | closeAlert =>
      have covered : s.cover = some .alert := enabled
      rw [step_of_run s _ _ live (by rw [handle,if_pos covered]; rfl)]
      exact .alertClosed live covered
    | closePopUp =>
      have covered : s.cover = some .popUp := enabled
      cases navigated : s.navigated with
      | true =>
        rw [step_of_run s _ _ live (by simp [handle,covered,closePopUp,navigated]; rfl)]
        exact .popUpClosed live covered navigated
      | false =>
        rw [step_of_trap s s _ (.forcedCast "as! FormTableController") live
          (by simp [handle,covered,closePopUp,navigated])]
        exact .popUpTrapped live covered navigated _
    | resetForm =>
      have shown : s.cover = none ∧ s.bar = true := enabled
      rw [step_of_run s _ _ live (by rw [handle,if_pos shown]; rfl)]
      exact .formReset live shown.1 shown.2
    | rotated width =>
      rw [step_of_run s _ _ live rfl]
      exact .rotated width live

/-! ### Every state is valid -/

def opened (world : World) (navigated bar : Bool) : FormFlow := { world, navigated, bar }

theorem opened_valid (world : World) (navigated bar : Bool) :
    (opened world navigated bar).Valid where
  camera := by simp [opened]
  map := by simp [opened]
  running := by simp [opened]

/-- Neither a sheet nor a picker nor a map is over the form. -/
theorem Valid.of_clear {s next : FormFlow} (valid : s.Valid) (live : s.stopped = none)
    (maps : next.maps = s.maps)
    (clear : next.cover = none ∨ next.cover = some .alert ∨ next.cover = some .popUp) :
    next.Valid where
  camera := by rcases clear with none | alert | popUp <;> simp_all
  map := by rcases clear with none | alert | popUp <;> simp_all
  running := fun _ => maps ▸ valid.running live

theorem Valid.popViewController {s : FormFlow} (valid : s.Valid) (live : s.stopped = none) :
    s.popViewController.Valid := by
  unfold FormFlow.popViewController
  split
  · exact valid.of_clear live rfl (.inl rfl)
  · exact valid

theorem Valid.set_map {s : FormFlow} (valid : s.Valid) (index : Nat) (visit : MapVisit)
    (found : s.maps[index]? = some visit) (screen : MapScreen) (stopped : Option Trap)
    (running : stopped = none → s.stopped = none ∧ screen.stopped = none) :
    Valid { s with maps := s.maps.set index { visit with screen }, stopped } where
  camera := valid.camera
  map := by
    intro other on
    obtain ⟨covered,at_other,delegate⟩ := valid.map other on
    obtain ⟨bound,_⟩ := List.getElem?_eq_some_iff.mp found
    by_cases same : index = other
    · subst same
      obtain rfl : covered = visit := by simpa [found] using at_other.symm
      exact ⟨_,List.getElem?_set_self bound,delegate⟩
    · exact ⟨covered,by rw [List.getElem?_set_ne same]; exact at_other,delegate⟩
  running := by
    intro live other member
    obtain ⟨before,still⟩ := running live
    rcases List.mem_or_eq_of_mem_set member with old | rfl
    · exact valid.running before other old
    · exact still

theorem steps_valid {s next : FormFlow} {input : Input} (valid : s.Valid)
    (moved : Steps s input next) : next.Valid := by
  cases moved with
  | ignored => exact valid
  | edited | rotated => exact ⟨valid.camera,valid.map,valid.running⟩
  | sheetShown live => exact ⟨fun _ => rfl,by simp,valid.running⟩
  | sourceChosen sourceType live on =>
    exact ⟨fun _ => valid.camera (.inl on),by simp,valid.running⟩
  | unavailable _ live | sheetCancelled live | picked _ live | pickedNothing live
  | pickerCancelled live | alertClosed live => exact valid.of_clear live rfl (.inl rfl)
  | submitted live =>
    refine valid.of_clear live rfl ?_
    dsimp only
    split
    · exact .inr (.inr rfl)
    · exact .inr (.inl rfl)
  | submitTrapped live on => exact ⟨by simp [on],by simp [on],by simp⟩
  | popUpTrapped live on => exact ⟨by simp [on],by simp [on],by simp⟩
  | popUpClosed live on navigated =>
    refine valid.of_clear live ?_ (.inl rfl)
    simp [resetForm,navigated]
  | formReset live on =>
    unfold resetForm
    split
    · exact valid.of_clear live rfl (.inl on)
    · exact valid
  | mapShown center live on =>
    refine ⟨by simp [showMap],?_,?_⟩
    · intro index covered
      obtain rfl : s.maps.length = index := by simpa [showMap] using covered
      exact ⟨_,by simp [showMap]; rfl,rfl⟩
    · intro _ visit member
      rcases List.mem_append.mp member with old | new
      · exact valid.running live visit old
      · obtain rfl := List.mem_singleton.mp new
        rfl
  | mapMoved index input live visit found quiet running =>
    simpa only [live] using valid.set_map index visit found _ none fun _ => ⟨live,running⟩
  | mapTrapped index input live visit found trap trapped =>
    exact valid.set_map index visit found _ (some trap) (by simp)
  | unsent => exact valid
  | sent index live on visit found location address =>
    have same : Valid { s with
        form := (s.form.setLocation location address).locationChanged s.width } :=
      ⟨valid.camera,valid.map,valid.running⟩
    exact same.popViewController live
  | mapLeft live => exact valid.popViewController live

theorem step_valid (s : FormFlow) (input : Input) (valid : s.Valid) : (s.step input).Valid :=
  steps_valid valid (step_steps s input valid)

end FormFlow
end SocialService
