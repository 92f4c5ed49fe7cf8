import SocialService.AppSurvival
import SocialService.FormRuns
import SocialService.ServiceAnswers

/-! Which runs of the form with all its screens end in a trap. -/
namespace SocialService
open EventMachine

theorem LocationViewController.reverseGeocoded_finishes_iff (answer : GeocodeAnswer)
    (self : LocationViewController) :
    (∃ next, (reverseGeocoded answer).run self = .ok () next) ↔
      (ServiceAnswer.place answer).Harmless := by
  rw [← ServiceAnswer.place_withstands_iff answer self]
  constructor
  · rintro ⟨next,finished⟩
    refine ⟨next,finished,?_⟩
    intro incomplete
    rcases reverseGeocoded_cases answer self with ⟨text,written,_⟩ | ⟨_,run | ⟨trap,run⟩⟩
    · simp [written] at incomplete
    · rw [run] at finished
      cases finished
      rfl
    · rw [run] at finished
      contradiction
  · rintro ⟨next,finished,_⟩
    exact ⟨next,finished⟩

namespace MapScreen

/-- A completion of an outstanding request that is handled to the end. -/
def Survives (self : MapScreen) : MapInput → Prop
  | .geocoded request answer =>
    self.outstanding[request]?.isSome → (ServiceAnswer.place answer).Harmless
  | _ => True

theorem step_alive_iff (self : MapScreen) (input : MapInput) (live : self.stopped = none) :
    (self.step input).stopped = none ↔ self.Survives input := by
  rw [self.step_of_live input live]
  cases input with
  | geocoded request answer =>
    simp only [geocoded,Survives]
    cases found : self.outstanding[request]? with
    | none => simp [live]
    | some location =>
      rw [← LocationViewController.reverseGeocoded_finishes_iff answer self.controller]
      cases (LocationViewController.reverseGeocoded answer).run self.controller with
      | ok _ next => simp [live]
      | error trap next => simp
  | located location =>
    refine iff_of_true ?_ trivial
    simp only [didUpdateLocations]
    split <;> exact live
  | _ => exact iff_of_true live trivial

end MapScreen

namespace FormFlow

def Alive (s : FormFlow) : Prop := s.stopped = none

/-- The inputs that are handled to the end. -/
def Survives (s : FormFlow) : Input → Prop
  | .map index input => ∀ visit, s.maps[index]? = some visit → visit.screen.Survives input
  | .submit => s.cover = none → s.bar = true →
    s.form.controller.guardPasses = false ∨ s.world.keychain.identity = none ∨
      s.form.controller.selectedCategory.isSome ∧ s.world.currentUser.isSome
  | _ => True

/-- Without a navigation controller the pop-up is never shown. -/
structure Sound (s : FormFlow) : Prop where
  valid : s.Valid
  stuck : s.navigated = false → s.Stuck s.world

theorem opened_sound (world : World) (navigated bar : Bool) :
    (opened world navigated bar).Sound where
  valid := opened_valid world navigated bar
  stuck := by
    rintro rfl
    exact opened_stuck world bar

theorem step_sound (s : FormFlow) (input : Input) (sound : s.Sound) : (s.step input).Sound := by
  have same : (s.step input).navigated = s.navigated := by
    have amounts := step_amounts s input sound.valid
    generalize s.appEvents input = events at amounts
    cases amounts with
    | nothing same | filled _ _ same | submitted _ same => exact same.navigated
    | reset _ _ _ _ navigated => exact navigated
  refine ⟨step_valid s input sound.valid,?_⟩
  intro bare
  have stuck := steps_stuck (sound.stuck (same ▸ bare)) (step_steps s input sound.valid)
  rwa [stuck.world]

theorem survives_of_disabled (s : FormFlow) (input : Input) (off : ¬s.Enabled input) :
    s.Survives input := by
  cases input with
  | submit => exact fun bare bar => absurd ⟨bare,bar⟩ off
  | map index input =>
    intro visit found
    cases input with
    | geocoded request answer => exact absurd ⟨⟨visit,found⟩,by simp [MapInput.byUser],by simp [MapInput.onBar]⟩ off
    | _ => trivial
  | _ => trivial

theorem step_alive_iff (s : FormFlow) (input : Input) (sound : s.Sound) (live : s.Alive) :
    (s.step input).Alive ↔ s.Survives input := by
  have moved := step_steps s input sound.valid
  unfold Alive at live ⊢
  generalize s.step input = next at moved ⊢
  have running {index : Nat} {visit : MapVisit} (found : s.maps[index]? = some visit) :
      visit.screen.stopped = none := sound.valid.running live visit (List.mem_of_getElem? found)
  cases moved with
  | ignored input out =>
    have off : ¬s.Enabled input := out.resolve_left (by simp [live])
    exact iff_of_true live (survives_of_disabled s input off)
  | mapMoved index input _ visit found quiet still =>
    refine iff_of_true live ?_
    intro other same
    obtain rfl : visit = other := by simpa [found] using same
    exact (visit.screen.step_alive_iff input (running found)).mp still
  | mapTrapped index input _ visit found trap trapped =>
    refine iff_of_false (by simp) ?_
    intro survives
    have still := (visit.screen.step_alive_iff input (running found)).mpr (survives visit found)
    simp [trapped] at still
  | submitted _ on noTrap =>
    exact iff_of_true live fun _ _ => (s.form.controller.showData_noTrap_iff s.world).mp noTrap
  | submitTrapped _ on trap trapped bar =>
    refine iff_of_false (by simp) ?_
    intro survives
    have noTrap := (s.form.controller.showData_noTrap_iff s.world).mpr (survives on bar)
    simp [trapped] at noTrap
  | popUpTrapped _ on bare => exact absurd on (sound.stuck bare).popUp
  | unsent | sent => exact iff_of_true (by simpa using live) fun _ _ => trivial
  | formReset =>
    refine iff_of_true ?_ trivial
    unfold resetForm
    split <;> exact live
  | popUpClosed =>
    refine iff_of_true ?_ trivial
    unfold resetForm
    split <;> exact live
  | mapLeft => exact iff_of_true (by simpa using live) trivial
  | edited | sheetShown | unavailable | sourceChosen | sheetCancelled | picked | pickedNothing
  | pickerCancelled | mapShown | alertClosed | rotated => exact iff_of_true live trivial

/-- On an iPhone, a run of the form with all its screens ends in no trap if and only if every answer
of the geocoder, to any map opened so far, and every submission is harmless when it comes: the camera
handler always has a controller, and the pop-up always finds the form. -/
theorem form_survives_iff (world : World) (navigated bar : Bool) (inputs : List Input) :
    Throughout step Alive (opened world navigated bar) inputs ↔
      Along step Survives (opened world navigated bar) inputs :=
  throughout_iff_along step_sound step_alive_iff inputs (opened_sound world navigated bar) rfl

end FormFlow
end SocialService
