import SocialService.App

/-! Signing in. `prepare` asks for a navigation controller at the end of its segue, which the
storyboard does not put there, and the Facebook completion for one under an identifier that the
storyboard does not have. -/
namespace SocialService
namespace SignInController
open App

/-- A completion holds on to the controller of its attempt, and so to that controller's window,
when another one is on the screen. -/
@[simp] def setHud (attempt : Attempt) (change : JGProgressHUD → JGProgressHUD) (s : App) : App :=
  { s with
    signInHuds := match attempt.entrance with
      | .facebookSignIn controller => s.signInHuds.modify controller change
      | _ => s.signInHuds }

def dismissHud (attempt : Attempt) (text detailText : String) (delay : Nat) : App → App :=
  setHud attempt (·.dismiss text detailText delay)

def showAlert (attempt : Attempt) (message : String) : App → App := note (.alerted attempt message)

def prepare (attempt : Attempt) (fields : SignInFields) (segue : Segue) (s : App) : App :=
  if segue.identifier = some "showForm" then
    match segue.destination with
    | .navigationController .formTableController =>
      if fields.password ≠ "" ∧ fields.email ≠ "" then
        if isValidEmail fields.email = false then
          showAlert attempt "Please enter a valid email address" s
        else request (.signIn attempt fields) s
      else s
    | _ => s
  else s

/-- A press of `Login`. This controller is in no navigation stack, so its segue presents. -/
def login (attempt : Attempt) (fields : SignInFields) (s : App) : App :=
  presentForm attempt (prepare attempt fields Storyboard.signInShowForm s)

/-- The completion of `signIn(withEmail:password:)`; an error is only printed. -/
def signedInWithEmail (attempt : Attempt) (error : Option NSError) (s : App) : App :=
  match error with
  | some _ => s
  | none =>
    match s.world.currentUser with
    | some user => request (.getDocument attempt user.uid) s
    | none => s

def gotDocument (snapshot : Option DocumentSnapshot) : EStateM Trap App Unit := do
  let json := JSON.init (← unwrap "snapshot!" snapshot).asAny
  let identity ← readUser json
  modify (saveUserIntoKeychain identity.name identity.password identity.email)

def loginWithFacebookButton (attempt : Attempt) (s : App) : App :=
  request (.logIn attempt) (setHud attempt (·.show "Logging in with Facebook...") s)

/-- The completion of `logIn(withReadPermissions:)`, which does not ask whether it was
cancelled. -/
def loggedIn (attempt : Attempt) (answer : FacebookAnswer) (s : App) : App :=
  match answer.err with
  | some err =>
    dismissHud attempt "Error"
      ("Failed to get Facebook user with error: Optional(" ++ err.description ++ ")") 3 s
  | none =>
    match answer.token with
    | none => s
    | some owner =>
      request (.graph attempt owner) (request (.signInAndRetrieveData attempt owner) s)

def signedIn (attempt : Attempt) (error : Option NSError) (s : App) : App :=
  match error with
  | some error => dismissHud attempt "Sign in error" error.localizedDescription 3 s
  | none => s

def graphAnswered (attempt : Attempt) (result : Option AnyValue) : EStateM Trap App Unit := do
  let json := JSON.init (← unwrap "result!" result)
  let identity ← readUser json
  match ← instantiateViewController "navigation" with
  | .navigationController _ =>
    modify (saveUserIntoKeychain identity.name identity.password identity.email)
    modify (presentForm attempt)
  | _ => throw (.forcedCast "as! UINavigationController")

/-- `presentSignInWindow`, which dismisses this controller. -/
def presentSignInWindow (s : App) : App := { s with presented := s.presented.dropLast }

/-! ### What the handlers do -/

theorem login_eq (attempt : Attempt) (fields : SignInFields) (s : App) :
    login attempt fields s = presentForm attempt s := rfl

/-- A snapshot is no value that `JSON` can read, so nothing is ever found in it. -/
theorem gotDocument_traps (snapshot : Option DocumentSnapshot) (s : App) :
    ∃ trap, (gotDocument snapshot).run s = .error trap s := by
  cases snapshot with
  | none => exact ⟨_,rfl⟩
  | some snapshot => exact ⟨_,rfl⟩

/-- Whatever Facebook answers, the screen that should follow cannot be made. -/
theorem graphAnswered_traps (attempt : Attempt) (result : Option AnyValue) (s : App) :
    ∃ trap, (graphAnswered attempt result).run s = .error trap s := by
  unfold graphAnswered
  cases result with
  | none => exact ⟨_,rfl⟩
  | some value =>
    rcases readUser_cases (JSON.init value) s with ⟨identity,_,run⟩ | ⟨_,trap,run⟩
    · refine ⟨.noViewController "navigation",?_⟩
      simp only [unwrap,EStateM.run_bind,Trapping.run_force_some,run]
      rfl
    · refine ⟨trap,?_⟩
      simp only [unwrap,EStateM.run_bind,Trapping.run_force_some,run]

end SignInController
end SocialService
