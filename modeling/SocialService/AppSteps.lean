import SocialService.AppEvents

/-! What each event of the app does, once for all the properties of its runs. -/
namespace SocialService
namespace App

section Authenticate
variable (attempt : Attempt) (identity : Identity) (answer : Except NSError String) (s : App)

def verdict : LogEntry :=
  match answer with
  | .ok uid => .accepted attempt uid
  | .error _ => .rejected attempt

@[simp] theorem verdict_attempt : (verdict attempt answer).attempt = attempt := by
  cases answer <;> rfl

@[simp] theorem authenticate_log :
    (authenticate attempt identity answer s).log = s.log ++ [verdict attempt answer] := by
  cases answer <;> rfl

@[simp] theorem authenticate_keychain :
    (authenticate attempt identity answer s).world.keychain = s.world.keychain := by
  cases answer <;> rfl

@[simp] theorem authenticate_navigation :
    (authenticate attempt identity answer s).navigation = s.navigation := by
  cases answer <;> rfl

@[simp] theorem authenticate_presented :
    (authenticate attempt identity answer s).presented = s.presented := by
  cases answer <;> rfl

@[simp] theorem authenticate_outstanding :
    (authenticate attempt identity answer s).outstanding = s.outstanding := by
  cases answer <;> rfl

@[simp] theorem authenticate_attempts :
    (authenticate attempt identity answer s).attempts = s.attempts := by
  cases answer <;> rfl

end Authenticate

def Enabled (s : App) : Event → Prop
  | .register _ | .facebookLogin | .openSignIn => s.visible = some .login
  | .login _ | .facebookSignIn | .closeSignIn => s.visible = some .signIn
  | .createdUser index _ =>
    ∃ attempt identity, s.outstanding[index]? = some (.createUser attempt identity)
  | .loggedIn index _ => ∃ attempt, s.outstanding[index]? = some (.logIn attempt)
  | .signedIn index _ =>
    ∃ attempt owner, s.outstanding[index]? = some (.signInAndRetrieveData attempt owner)
  | .graphAnswered index _ => ∃ attempt owner, s.outstanding[index]? = some (.graph attempt owner)
  | .signedInWithEmail index _ =>
    ∃ attempt fields, s.outstanding[index]? = some (.signIn attempt fields)
  | .gotDocument index _ => ∃ attempt uid, s.outstanding[index]? = some (.getDocument attempt uid)
  | .fill action =>
    (∃ attempt, s.visible = some (.form attempt)) ∧ (action.onBar = true → s.presented = [])
  | .resetForm => ∃ attempt, s.visible = some (.form attempt)
  | .submit => s.OnStack

/-- The steps of the app. Of a completion of the e-mail sign-in nothing is said: that request is
never made. -/
inductive Steps (s : App) : Event → App → Prop where
  | ignored (event : Event) (out : s.stopped.isSome ∨ ¬s.Enabled event) : Steps s event s
  | refused (fields : RegistrationFields) (live : s.stopped = none) (on : s.visible = some .login)
      (invalid : ¬fields.Valid) (message : String) :
      Steps s (.register fields) (pushForm (s.attempt (.register fields))
        (note (.alerted (s.attempt (.register fields)) message) s.counted))
  | overflowed (fields : RegistrationFields) (live : s.stopped = none)
      (on : s.visible = some .login) (valid : fields.Valid)
      (overflow : intOfString fields.phone = none) (trap : Trap) :
      Steps s (.register fields) { s.counted with stopped := some trap }
  | registered (fields : RegistrationFields) (live : s.stopped = none)
      (on : s.visible = some .login) (valid : fields.Valid) (phone : Int)
      (number : intOfString fields.phone = some phone) :
      Steps s (.register fields) (pushForm (s.attempt (.register fields))
        (LoginController.registered (s.attempt (.register fields)) fields phone s.counted))
  | presented (fields : SignInFields) (live : s.stopped = none) (on : s.visible = some .signIn) :
      Steps s (.login fields) (presentForm (s.attempt (.signIn fields)) s.counted)
  | facebookLogin (live : s.stopped = none) (on : s.visible = some .login) :
      Steps s .facebookLogin
        (LoginController.loginWithFacebookButton (s.attempt .facebookLogin) s.counted)
  | facebookSignIn (live : s.stopped = none) (on : s.visible = some .signIn) :
      Steps s .facebookSignIn
        (SignInController.loginWithFacebookButton
          (s.attempt (.facebookSignIn s.signInController)) s.counted)
  | opened (live : s.stopped = none) (on : s.visible = some .login) :
      Steps s .openSignIn { s with
        presented := s.presented ++ [.signIn]
        signInHuds := s.signInHuds ++ [{}] }
  | closed (live : s.stopped = none) (on : s.visible = some .signIn) :
      Steps s .closeSignIn { s with presented := s.presented.dropLast }
  | createdUser (index : Nat) (answer : Except NSError String) (live : s.stopped = none)
      (attempt : Attempt) (identity : Identity)
      (found : s.outstanding[index]? = some (.createUser attempt identity)) :
      Steps s (.createdUser index answer) (authenticate attempt identity answer (close index s))
  | notLoggedIn (index : Nat) (answer : FacebookAnswer) (live : s.stopped = none)
      (attempt : Attempt) (found : s.outstanding[index]? = some (.logIn attempt))
      (loginHud : JGProgressHUD) (signInHuds : List JGProgressHUD) :
      Steps s (.loggedIn index answer) { close index s with loginHud, signInHuds }
  | loggedIn (index : Nat) (answer : FacebookAnswer) (live : s.stopped = none)
      (attempt : Attempt) (found : s.outstanding[index]? = some (.logIn attempt))
      (owner : Identity) (token : answer.token = some owner) :
      Steps s (.loggedIn index answer) (request (.graph attempt owner)
        (request (.signInAndRetrieveData attempt owner) (close index s)))
  | signedIn (index : Nat) (answer : Except NSError String) (live : s.stopped = none)
      (attempt : Attempt) (owner : Identity)
      (found : s.outstanding[index]? = some (.signInAndRetrieveData attempt owner))
      (loginHud : JGProgressHUD) (signInHuds : List JGProgressHUD) :
      Steps s (.signedIn index answer)
        { authenticate attempt owner answer (close index s) with loginHud, signInHuds }
  | enrolled (index : Nat) (result : Option AnyValue) (live : s.stopped = none)
      (attempt : Attempt) (owner : Identity)
      (found : s.outstanding[index]? = some (.graph attempt owner))
      (entrance : attempt.entrance = .facebookLogin) (identity : Identity)
      (usable : LoginController.graphUser result = some identity) :
      Steps s (.graphAnswered index result)
        (LoginController.enrolled attempt identity (close index s))
  | graphTrapped (index : Nat) (result : Option AnyValue) (live : s.stopped = none)
      (attempt : Attempt) (owner : Identity)
      (found : s.outstanding[index]? = some (.graph attempt owner))
      (unusable : attempt.entrance = .facebookLogin → LoginController.graphUser result = none)
      (trap : Trap) :
      Steps s (.graphAnswered index result) { close index s with stopped := some trap }
  | signedInWithEmail (index : Nat) (answer : Except NSError Account) (live : s.stopped = none)
      (attempt : Attempt) (fields : SignInFields)
      (found : s.outstanding[index]? = some (.signIn attempt fields)) (next : App) :
      Steps s (.signedInWithEmail index answer) next
  | gotDocument (index : Nat) (snapshot : Option DocumentSnapshot) (live : s.stopped = none)
      (attempt : Attempt) (uid : String)
      (found : s.outstanding[index]? = some (.getDocument attempt uid)) (trap : Trap) :
      Steps s (.gotDocument index snapshot) { close index s with stopped := some trap }
  | filled (action : FormTableController.Action) (live : s.stopped = none) (attempt : Attempt)
      (on : s.visible = some (.form attempt)) :
      Steps s (.fill action) { s with form := s.form.act action }
  | formReset (live : s.stopped = none) (attempt : Attempt)
      (on : s.visible = some (.form attempt)) (form : FormTableController) :
      Steps s .resetForm { s with form }
  | submitted (live : s.stopped = none) (on : s.OnStack) :
      Steps s .submit
        { s with
          form := (s.form.showData s.world).after.controller
          world := (s.form.showData s.world).after.world
          stopped := (s.form.showData s.world).trap }

theorem press_run (s : App) (screen : Screen) (entrance : Entrance)
    (action : Attempt → EStateM Trap App Unit) (on : s.visible = some screen) :
    (press s screen entrance action).run s = (action (s.attempt entrance)).run s.counted := by
  simp [press,on]

theorem handle_of_disabled (s : App) (event : Event) (disabled : ¬s.Enabled event) :
    (handle s event).run s = .ok () s := by
  cases event with
  | register | login | facebookLogin | facebookSignIn | openSignIn | closeSignIn =>
    have off := disabled
    simp only [Enabled] at off
    simp [handle,press,off]
  | createdUser | signedIn | graphAnswered | signedInWithEmail | gotDocument =>
    simp only [handle]
    split
    · rename_i found
      exact absurd ⟨_,_,found⟩ disabled
    · rfl
  | loggedIn | resetForm =>
    simp only [handle]
    split
    · rename_i found
      exact absurd ⟨_,found⟩ disabled
    · rfl
  | fill action =>
    simp only [handle]
    split
    · rename_i found
      have covered : ¬(action.onBar = true → s.presented = []) :=
        fun bare => disabled ⟨⟨_,found⟩,bare⟩
      rw [if_neg covered]
      rfl
    · rfl
  | submit =>
    simp only [handle]
    split
    · rename_i found
      rw [if_neg fun bare => disabled ⟨bare,_,found⟩]
      rfl
    · rfl

theorem step_of_run (s next : App) (event : Event) (live : s.stopped = none)
    (run : (handle s event).run s = .ok () next) : s.step event = next := by
  simp [step,live,run,after]

theorem step_of_trap (s next : App) (event : Event) (trap : Trap) (live : s.stopped = none)
    (run : (handle s event).run s = .error trap next) :
    s.step event = { next with stopped := some trap } := by
  simp [step,live,run,after]

theorem register_steps (s : App) (fields : RegistrationFields) (live : s.stopped = none)
    (on : s.visible = some .login) :
    Steps s (.register fields) (s.step (.register fields)) := by
  have run : (handle s (.register fields)).run s =
      (LoginController.register (s.attempt (.register fields)) fields).run s.counted := by
    rw [handle,press_run s _ _ _ on]
  rw [LoginController.register,EStateM.run_bind] at run
  rcases LoginController.prepare_cases (s.attempt (.register fields)) fields s.counted with
    ⟨invalid,message,prepared⟩ | ⟨valid,overflow,trap,prepared⟩ | ⟨valid,phone,number,prepared⟩
  all_goals rw [prepared] at run
  · rw [step_of_run s _ _ live run]
    exact .refused fields live on invalid message
  · rw [step_of_trap s _ _ trap live run]
    exact .overflowed fields live on valid overflow trap
  · rw [step_of_run s _ _ live run]
    exact .registered fields live on valid phone number

theorem step_loggedIn (s : App) (index : Nat) (answer : FacebookAnswer) (live : s.stopped = none)
    (attempt : Attempt) (found : s.outstanding[index]? = some (.logIn attempt)) :
    s.step (.loggedIn index answer) =
      if attempt.entrance = .facebookLogin then
        LoginController.loggedIn attempt answer (close index s)
      else SignInController.loggedIn attempt answer (close index s) := by
  apply step_of_run s _ _ live
  by_cases login : attempt.entrance = .facebookLogin <;> simp [handle,found,login]

theorem step_signedIn (s : App) (index : Nat) (answer : Except NSError String)
    (live : s.stopped = none) (attempt : Attempt) (owner : Identity)
    (found : s.outstanding[index]? = some (.signInAndRetrieveData attempt owner)) :
    s.step (.signedIn index answer) =
      if attempt.entrance = .facebookLogin then
        LoginController.signedIn (errorOf answer) (authenticate attempt owner answer (close index s))
      else
        SignInController.signedIn attempt (errorOf answer)
          (authenticate attempt owner answer (close index s)) := by
  apply step_of_run s _ _ live
  by_cases login : attempt.entrance = .facebookLogin <;> simp [handle,found,login]

theorem loggedIn_steps (s : App) (index : Nat) (answer : FacebookAnswer) (live : s.stopped = none)
    (attempt : Attempt) (found : s.outstanding[index]? = some (.logIn attempt)) :
    Steps s (.loggedIn index answer) (s.step (.loggedIn index answer)) := by
  have out := Steps.notLoggedIn index answer live attempt found
  rw [step_loggedIn s index answer live attempt found]
  split
  · rw [LoginController.loggedIn]
    split
    · exact out _ _
    · split
      · exact out _ _
      · split
        · exact out _ _
        · rename_i owner token
          exact .loggedIn index answer live attempt found owner token
  · rw [SignInController.loggedIn]
    split
    · exact out _ _
    · split
      · exact out _ _
      · rename_i owner token
        exact .loggedIn index answer live attempt found owner token

theorem signedIn_steps (s : App) (index : Nat) (answer : Except NSError String)
    (live : s.stopped = none) (attempt : Attempt) (owner : Identity)
    (found : s.outstanding[index]? = some (.signInAndRetrieveData attempt owner)) :
    Steps s (.signedIn index answer) (s.step (.signedIn index answer)) := by
  have out := Steps.signedIn index answer live attempt owner found
  rw [step_signedIn s index answer live attempt owner found]
  split
  · cases errorOf answer with
    | none => exact out _ _
    | some error => exact out _ _
  · cases errorOf answer with
    | none => exact out _ _
    | some error => exact out _ _

theorem graphAnswered_steps (s : App) (index : Nat) (result : Option AnyValue)
    (live : s.stopped = none) (attempt : Attempt) (owner : Identity)
    (found : s.outstanding[index]? = some (.graph attempt owner)) :
    Steps s (.graphAnswered index result) (s.step (.graphAnswered index result)) := by
  by_cases login : attempt.entrance = .facebookLogin
  · have run : (handle s (.graphAnswered index result)).run s =
        (LoginController.graphAnswered attempt result).run (close index s) := by
      simp [handle,found,login]
    rcases LoginController.graphAnswered_cases attempt result (close index s) with
      ⟨identity,usable,answered⟩ | ⟨unusable,trap,answered⟩
    · rw [step_of_run s _ _ live (run.trans answered)]
      exact .enrolled index result live attempt owner found login identity usable
    · rw [step_of_trap s _ _ trap live (run.trans answered)]
      exact .graphTrapped index result live attempt owner found (fun _ => unusable) trap
  · have run : (handle s (.graphAnswered index result)).run s =
        (SignInController.graphAnswered attempt result).run (close index s) := by
      simp [handle,found,login]
    obtain ⟨trap,answered⟩ := SignInController.graphAnswered_traps attempt result (close index s)
    rw [step_of_trap s _ _ trap live (run.trans answered)]
    exact .graphTrapped index result live attempt owner found (fun same => absurd same login) trap

theorem submit_steps (s : App) (live : s.stopped = none) (stacked : s.OnStack) :
    Steps s .submit (s.step .submit) := by
  have next := Steps.submitted live stacked
  obtain ⟨bare,attempt,on⟩ := stacked
  cases trapped : (s.form.showData s.world).trap with
  | none =>
    have run : (handle s .submit).run s = .ok () { s with
        form := (s.form.showData s.world).after.controller
        world := (s.form.showData s.world).after.world } := by
      simp [handle,on,bare,trapped]
    rw [step_of_run s _ _ live run]
    simpa [trapped,live] using next
  | some trap =>
    have run : (handle s .submit).run s = .error trap { s with
        form := (s.form.showData s.world).after.controller
        world := (s.form.showData s.world).after.world } := by
      simp [handle,on,bare,trapped]
    rw [step_of_trap s _ _ trap live run]
    simpa [trapped] using next

theorem step_of_ignored (s : App) (event : Event) (out : s.stopped.isSome ∨ ¬s.Enabled event) :
    s.step event = s := by
  cases live : s.stopped with
  | some trap => simp [step,live]
  | none =>
    rcases out with stopped | disabled
    · rw [live] at stopped
      contradiction
    · exact step_of_run s s event live (handle_of_disabled s event disabled)

/-- Every step is one of the steps listed. -/
theorem step_steps (s : App) (event : Event) : Steps s event (s.step event) := by
  cases live : s.stopped with
  | some trap =>
    have out : s.stopped.isSome ∨ ¬s.Enabled event := .inl (by rw [live]; rfl)
    rw [step_of_ignored s event out]
    exact .ignored event out
  | none =>
    by_cases enabled : s.Enabled event
    · cases event with
      | register fields => exact register_steps s fields live enabled
      | login fields =>
        have run : (handle s (.login fields)).run s =
            .ok () (presentForm (s.attempt (.signIn fields)) s.counted) := by
          rw [handle,press_run s _ _ _ enabled,← SignInController.login_eq _ fields]
          rfl
        rw [step_of_run s _ _ live run]
        exact .presented fields live enabled
      | facebookLogin =>
        rw [step_of_run s _ _ live (by rw [handle,press_run s _ _ _ enabled]; rfl)]
        exact .facebookLogin live enabled
      | facebookSignIn =>
        rw [step_of_run s _ _ live (by rw [handle,press_run s _ _ _ enabled]; rfl)]
        exact .facebookSignIn live enabled
      | openSignIn =>
        have on : s.visible = some .login := enabled
        rw [step_of_run s _ _ live (by rw [handle,if_pos on]; rfl)]
        exact .opened live on
      | closeSignIn =>
        have on : s.visible = some .signIn := enabled
        rw [step_of_run s _ _ live (by rw [handle,if_pos on]; rfl)]
        exact .closed live on
      | createdUser index answer =>
        obtain ⟨attempt,identity,found⟩ := enabled
        rw [step_of_run s _ _ live (by simp only [handle,found]; rfl)]
        exact .createdUser index answer live attempt identity found
      | loggedIn index answer =>
        obtain ⟨attempt,found⟩ := enabled
        exact loggedIn_steps s index answer live attempt found
      | signedIn index answer =>
        obtain ⟨attempt,owner,found⟩ := enabled
        exact signedIn_steps s index answer live attempt owner found
      | graphAnswered index result =>
        obtain ⟨attempt,owner,found⟩ := enabled
        exact graphAnswered_steps s index result live attempt owner found
      | signedInWithEmail index answer =>
        obtain ⟨attempt,fields,found⟩ := enabled
        exact .signedInWithEmail index answer live attempt fields found _
      | gotDocument index snapshot =>
        obtain ⟨attempt,uid,found⟩ := enabled
        obtain ⟨trap,run⟩ := SignInController.gotDocument_traps snapshot (close index s)
        rw [step_of_trap s _ _ trap live (by simpa [handle,found] using run)]
        exact .gotDocument index snapshot live attempt uid found trap
      | fill action =>
        obtain ⟨⟨attempt,on⟩,bare⟩ := enabled
        rw [step_of_run s _ _ live (by simp only [handle,on,if_pos bare]; rfl)]
        exact .filled action live attempt on
      | resetForm =>
        obtain ⟨attempt,on⟩ := enabled
        by_cases bare : s.presented = []
        · rw [step_of_run s _ _ live (by simp only [handle,on,if_pos bare]; rfl)]
          exact .formReset live attempt on _
        · rw [step_of_run s s _ live (by simp only [handle,on,if_neg bare]; rfl)]
          exact .formReset live attempt on s.form
      | submit => exact submit_steps s live enabled
    · rw [step_of_ignored s event (.inr enabled)]
      exact .ignored event (.inr enabled)

end App
end SocialService
