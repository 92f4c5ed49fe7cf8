import SocialService.AppShape
import SocialService.Submission

/-! Which runs of the app end in a trap. -/
namespace SocialService
open EventMachine

theorem FormTableController.showData_noTrap_iff (self : FormTableController) (world : World) :
    (self.showData world).trap = none ↔ self.guardPasses = false ∨ world.keychain.identity = none ∨
      self.selectedCategory.isSome ∧ world.currentUser.isSome := by
  rw [← whole_iff]
  constructor
  · intro noTrap
    refine ⟨noTrap,?_⟩
    cases self.showData_outcome world with
    | noCategory _ _ _ trap | noSession _ _ _ _ trap =>
      rw [noTrap] at trap
      contradiction
    | alerted _ _ _ _ nothing kept | silent _ _ _ _ _ nothing kept => simp [nothing,kept]
    | submitted _ entry account _ _ _ _ _ _ appended added =>
      rw [appended,added]
      simp [World.addDocument]
  · exact Whole.noTrap

namespace App

def Alive (s : App) : Prop := s.stopped = none

/-- The events that are handled to the end: a number that `Int` can hold, a Graph result with all
three fields for `LoginController`, and a submission that is held back or has all it unwraps. -/
def Survives (s : App) : Event → Prop
  | .register fields => s.visible = some .login → fields.Valid → (intOfString fields.phone).isSome
  | .graphAnswered index result => ∀ attempt owner,
    s.outstanding[index]? = some (.graph attempt owner) →
      attempt.entrance = .facebookLogin ∧ (LoginController.graphUser result).isSome
  | .submit => s.OnStack →
    s.form.guardPasses = false ∨ s.world.keychain.identity = none ∨
      s.form.selectedCategory.isSome ∧ s.world.currentUser.isSome
  | _ => True

theorem survives_of_disabled (s : App) (event : Event) (off : ¬s.Enabled event) :
    s.Survives event := by
  cases event with
  | register => exact fun on => absurd on off
  | graphAnswered index result =>
    intro attempt owner found
    exact absurd ⟨attempt,owner,found⟩ off
  | submit => exact fun on => absurd on off
  | _ => trivial

@[simp] theorem authenticate_stopped (attempt : Attempt) (identity : Identity)
    (answer : Except NSError String) (s : App) :
    (authenticate attempt identity answer s).stopped = s.stopped := by
  cases answer <;> rfl

theorem step_alive_iff (s : App) (event : Event) (valid : Wellformed s) (live : s.Alive) :
    (s.step event).Alive ↔ s.Survives event := by
  have moved := step_steps s event
  unfold Alive at live ⊢
  generalize s.step event = next at moved ⊢
  cases moved with
  | ignored event out =>
    have off : ¬s.Enabled event := out.resolve_left (by simp [live])
    exact iff_of_true live (survives_of_disabled s event off)
  | refused fields _ on invalid =>
    refine iff_of_true (by simpa using live) ?_
    intro _ valid
    exact absurd valid invalid
  | overflowed fields _ on valid overflow trap =>
    refine iff_of_false (by simp) ?_
    intro survives
    simpa [overflow] using survives on valid
  | registered fields _ on valid phone number =>
    refine iff_of_true (by simpa [LoginController.registered] using live) ?_
    intro _ _
    simp [number]
  | enrolled index result _ attempt owner found entrance identity usable =>
    refine iff_of_true (by simpa [LoginController.enrolled] using live) ?_
    intro other _ same
    obtain ⟨rfl,_⟩ : attempt = other ∧ _ := by simpa [found] using same
    exact ⟨entrance,by rw [usable]; rfl⟩
  | graphTrapped index result _ attempt owner found unusable trap =>
    refine iff_of_false (by simp) ?_
    intro survives
    obtain ⟨entrance,usable⟩ := survives attempt owner found
    simp [unusable entrance] at usable
  | submitted _ on =>
    rw [Survives]
    constructor
    · intro noTrap _
      exact (s.form.showData_noTrap_iff s.world).mp noTrap
    · intro survives
      exact (s.form.showData_noTrap_iff s.world).mpr (survives on)
  | createdUser | signedIn => exact iff_of_true (by simpa using live) trivial
  | presented | facebookLogin | facebookSignIn | opened | closed | notLoggedIn | loggedIn | filled
  | formReset => exact iff_of_true live trivial
  | signedInWithEmail _ _ _ attempt fields found | gotDocument _ _ _ attempt fields found =>
    exact (valid.fits _ (List.mem_of_getElem? found)).elim

/-- A run of the app ends in no trap if and only if each of these three kinds of event is harmless
when it comes; no other event of the app machine ends the process. What the geocoder answers to a
map is no event of it. -/
theorem app_survives_iff (world : World) (events : List Event) :
    Throughout step Alive (launch world) events ↔ Along step Survives (launch world) events :=
  throughout_iff_along step_wellformed step_alive_iff events (launch_wellformed world) rfl

end App

end SocialService
