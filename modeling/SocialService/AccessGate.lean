import SocialService.AppShape

/-! Who gets to the form. The alerts of `prepare` do not hold the segue back, and no way to the
form waits for Firebase. -/
namespace SocialService
namespace App
open EventMachine

/-- The form is in sight only after valid input and an accepted request. -/
def Gate (s : App) : Prop :=
  ∀ attempt, s.visible = some (.form attempt) → attempt.Validated ∧ s.Accepted attempt

/-- The events that lead to the form leave the gate shut: `Register` and `Login` are not pressed,
but for a phone number on which `prepare` traps; and an answer of the Graph request that pushes the
form, like the dismissal that uncovers a form, comes after Firebase has accepted its attempt. -/
def Guarded (s : App) : Event → Prop
  | .register fields => s.stopped = none → s.visible = some .login →
    fields.Valid ∧ intOfString fields.phone = none
  | .login _ => s.stopped = none → s.visible ≠ some .signIn
  | .graphAnswered index result => s.stopped = none → s.visible = some .login →
    ∀ attempt owner, s.outstanding[index]? = some (.graph attempt owner) →
      attempt.entrance = .facebookLogin → LoginController.graphUser result ≠ none →
        s.Accepted attempt
  | .closeSignIn => s.stopped = none → s.visible = some .signIn →
    ∀ attempt, s.navigation = [.form attempt] → attempt.Validated ∧ s.Accepted attempt
  | _ => True

theorem guarded_of_ignored (s : App) (event : Event) (out : s.stopped.isSome ∨ ¬s.Enabled event) :
    s.Guarded event := by
  have off (live : s.stopped = none) : ¬s.Enabled event := by
    rcases out with stopped | disabled
    · simp [live] at stopped
    · exact disabled
  cases event with
  | register | closeSignIn => exact fun live on => absurd on (off live)
  | login => exact off
  | graphAnswered index result =>
    intro live _ attempt owner found
    exact absurd ⟨attempt,owner,found⟩ (off live)
  | _ => trivial

theorem visible_of_same {s next : App} (navigation : next.navigation = s.navigation)
    (presented : next.presented = s.presented) : next.visible = s.visible := by
  rw [visible,visible,navigation,presented]

theorem Gate.of_same {s next : App} (gate : Gate s) (visible : next.visible = s.visible)
    (log : s.log ⊆ next.log) : Gate next := by
  intro attempt seen
  obtain ⟨validated,uid,accepted⟩ := gate attempt (visible ▸ seen)
  exact ⟨validated,uid,log accepted⟩

theorem visible_of_presented {s : App} {attempt : Attempt} {screens : List Screen}
    (presented : s.presented = screens ++ [.form attempt]) : s.visible = some (.form attempt) := by
  simp [visible,presented]

theorem pushForm_visible {s : App} (attempt : Attempt) (presented : s.presented = [])
    (navigation : s.navigation = [.login]) :
    (pushForm attempt s).visible = some (.form attempt) := by
  simp [pushForm,visible,presented,navigation]

theorem pushForm_visible_of_other {s : App} (screens : Screens s) (attempt : Attempt)
    (elsewhere : s.visible ≠ some .login) : (pushForm attempt s).visible = s.visible := by
  obtain ⟨navigation | ⟨_,navigation⟩,presented | presented | ⟨_,presented⟩⟩ := screens <;>
    simp_all [pushForm,visible]

/-- An attempt that has only just been counted has no answer yet. -/
theorem not_accepted_of_new {s : App} (valid : Wellformed s) (entrance : Entrance) :
    ¬s.Accepted (s.attempt entrance) := by
  rintro ⟨uid,accepted⟩
  exact Nat.lt_irrefl _ (valid.log _ accepted)

theorem steps_gate_iff {s next : App} {event : Event} (valid : Wellformed s) (gate : Gate s)
    (moved : Steps s event next) : Gate next ↔ s.Guarded event := by
  cases moved with
  | ignored event out => exact iff_of_true gate (guarded_of_ignored s event out)
  | refused fields live on invalid message =>
    have ⟨presented,navigation⟩ := valid.screens.visible_login_iff.mp on
    refine iff_of_false ?_ fun guarded => invalid (guarded live on).1
    intro opened
    exact invalid (opened _ (pushForm_visible _ presented navigation)).1
  | overflowed fields live on valid overflow trap =>
    exact iff_of_true (gate.of_same rfl fun _ member => member) fun _ _ => ⟨valid,overflow⟩
  | registered fields live on _ phone number =>
    have ⟨presented,navigation⟩ := valid.screens.visible_login_iff.mp on
    refine iff_of_false ?_ fun guarded => by simpa [number] using (guarded live on).2
    intro opened
    have seen := opened (s.attempt (.register fields)) (pushForm_visible _
      (by simpa [LoginController.registered] using presented)
      (by simpa [LoginController.registered] using navigation))
    obtain ⟨_,uid,accepted⟩ := seen
    refine not_accepted_of_new valid (.register fields) ⟨uid,?_⟩
    simpa [LoginController.registered] using accepted
  | presented fields live on =>
    refine iff_of_false ?_ fun guarded => guarded live on
    intro opened
    exact not_accepted_of_new valid (.signIn fields) (opened _ (visible_of_presented rfl)).2
  | opened live on =>
    refine iff_of_true ?_ trivial
    intro attempt seen
    simp [visible] at seen
  | closed live on =>
    have presented := valid.screens.visible_signIn_iff.mp on
    have uncovered : ({ s with presented := s.presented.dropLast } : App).visible =
        s.navigation.getLast? := by simp [visible,presented]
    constructor
    · intro opened _ _ attempt navigation
      exact opened attempt (by rw [uncovered,navigation]; rfl)
    · intro guarded attempt seen
      rw [uncovered] at seen
      rcases valid.screens.navigation with navigation | ⟨other,navigation⟩
      · simp [navigation] at seen
      · obtain rfl : other = attempt := by simpa [navigation] using seen
        exact guarded live on other navigation
  | enrolled index result live attempt owner found entrance identity usable =>
    let saved := saveUserIntoKeychain identity.name identity.password identity.email
      (LoginController.saveUserIntoFirebaseDatabase attempt
        (LoginController.setUser (.init identity.name identity.password identity.email 0)
          (close index s)))
    have log : ∀ uid, .accepted attempt uid ∈
        (LoginController.enrolled attempt identity (close index s)).log ↔
          .accepted attempt uid ∈ s.log := by
      simp [LoginController.enrolled]
    by_cases on : s.visible = some .login
    · have ⟨presented,navigation⟩ := valid.screens.visible_login_iff.mp on
      have seen : (LoginController.enrolled attempt identity (close index s)).visible =
          some (.form attempt) :=
        pushForm_visible _ (by simpa using presented) (by simpa using navigation)
      constructor
      · intro opened _ _ answered owner' found' _ _
        obtain ⟨rfl,_⟩ : attempt = answered ∧ owner = owner' := by simpa [found] using found'
        obtain ⟨_,uid,accepted⟩ := opened attempt seen
        exact ⟨uid,(log uid).mp accepted⟩
      · intro guarded other visible
        rw [seen] at visible
        obtain rfl : attempt = other := by simpa using visible
        obtain ⟨uid,accepted⟩ := guarded live on attempt owner found entrance (by simp [usable])
        exact ⟨by simp [Attempt.Validated,entrance],uid,(log uid).mpr accepted⟩
    · refine iff_of_true (gate.of_same ?_ ?_) fun _ visible => absurd visible on
      · have screens : Screens saved := valid.screens.of_same (by simp [saved]) (by simp [saved])
        have same : saved.visible = s.visible := visible_of_same (by simp [saved]) (by simp [saved])
        exact (pushForm_visible_of_other screens attempt (same ▸ on)).trans same
      · simp [LoginController.enrolled]
  | graphTrapped index result live attempt owner found unusable =>
    refine iff_of_true (gate.of_same rfl fun _ member => member) ?_
    intro _ _ answered owner' found' entrance usable
    obtain ⟨rfl,_⟩ : attempt = answered ∧ owner = owner' := by simpa [found] using found'
    exact absurd (unusable entrance) usable
  | createdUser | signedIn =>
    exact iff_of_true (gate.of_same (visible_of_same (by simp) (by simp)) (by simp)) trivial
  | facebookLogin | facebookSignIn | notLoggedIn | loggedIn | gotDocument | filled | formReset
  | submitted =>
    exact iff_of_true (gate.of_same rfl fun _ member => member) trivial
  | signedInWithEmail _ _ _ attempt fields found =>
    exact (valid.fits _ (List.mem_of_getElem? found)).elim

theorem step_gate_iff (s : App) (event : Event) (valid : Wellformed s) (gate : Gate s) :
    Gate (s.step event) ↔ s.Guarded event :=
  steps_gate_iff valid gate (step_steps s event)

/-- In a run of the app the form is in sight only after valid input and an accepted request if and
only if the run takes none of the ways that open the gate early. -/
theorem gate_throughout_iff (world : World) (events : List Event) :
    Throughout step Gate (launch world) events ↔ Along step Guarded (launch world) events :=
  throughout_iff_along step_wellformed step_gate_iff events (launch_wellformed world)
    fun attempt seen => by simp [visible,launch] at seen

/-- `Register` on empty fields: the form opens behind the alert. -/
theorem empty_registration_opens_form :
    ¬Throughout step Gate (launch .blank) [.register ⟨"","","",""⟩] := by
  intro all
  obtain ⟨⟨⟨nonempty,_⟩,_⟩,_⟩ := all.2 ⟨0,.register ⟨"","","",""⟩⟩ rfl
  exact nonempty rfl

end App
end SocialService
