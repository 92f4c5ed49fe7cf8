import SocialService.LoginController
import SocialService.SignInController

/-! The app as a machine: what the user and the two services can do, and what each of it does. -/
namespace SocialService
namespace App

/-- Presses, and completions of the request at an index of `outstanding`. -/
inductive Event where
  | register (fields : RegistrationFields)
  | login (fields : SignInFields)
  | facebookLogin
  | facebookSignIn
  | openSignIn
  | closeSignIn
  | createdUser (index : Nat) (answer : Except NSError String)
  | loggedIn (index : Nat) (answer : FacebookAnswer)
  | signedIn (index : Nat) (answer : Except NSError String)
  | graphAnswered (index : Nat) (result : Option AnyValue)
  | signedInWithEmail (index : Nat) (answer : Except NSError Account)
  | gotDocument (index : Nat) (snapshot : Option DocumentSnapshot)
  | fill (action : FormTableController.Action)
  | resetForm
  | submit

def launch (world : World) : App := { world }

/-- The form is on the stack of the navigation controller, whose bar shows its buttons. -/
def OnStack (s : App) : Prop := s.presented = [] ∧ ∃ attempt, s.visible = some (.form attempt)

def attempt (s : App) (entrance : Entrance) : Attempt := ⟨s.attempts,entrance⟩

@[simp] def counted (s : App) : App := { s with attempts := s.attempts + 1 }

/-- A button can be pressed while its screen is the visible one. The progress window is not relied
on to hold presses back. -/
def press (s : App) (screen : Screen) (entrance : Entrance)
    (action : Attempt → EStateM Trap App Unit) : EStateM Trap App Unit := do
  if s.visible = some screen then
    modify counted
    action (s.attempt entrance)

def authenticate (attempt : Attempt) (identity : Identity) (answer : Except NSError String) :
    App → App :=
  match answer with
  | .ok uid => authenticated attempt ⟨uid,identity⟩
  | .error _ => note (.rejected attempt)

def errorOf : Except NSError α → Option NSError
  | .ok _ => none
  | .error error => some error

def handle (s : App) : Event → EStateM Trap App Unit
  | .register fields => press s .login (.register fields) (LoginController.register · fields)
  | .login fields =>
    press s .signIn (.signIn fields) fun attempt => modify (SignInController.login attempt fields)
  | .facebookLogin =>
    press s .login .facebookLogin fun attempt =>
      modify (LoginController.loginWithFacebookButton attempt)
  | .facebookSignIn =>
    press s .signIn (.facebookSignIn s.signInController) fun attempt =>
      modify (SignInController.loginWithFacebookButton attempt)
  | .openSignIn => do
    if s.visible = some .login then LoginController.presentSignInWindow
  | .closeSignIn => do
    if s.visible = some .signIn then modify SignInController.presentSignInWindow
  | .createdUser index answer =>
    match s.outstanding[index]? with
    | some (.createUser attempt identity) => modify (authenticate attempt identity answer ∘ close index)
    | _ => pure ()
  | .loggedIn index answer =>
    match s.outstanding[index]? with
    | some (.logIn attempt) => do
      modify (close index)
      if attempt.entrance = .facebookLogin then modify (LoginController.loggedIn attempt answer)
      else modify (SignInController.loggedIn attempt answer)
    | _ => pure ()
  | .signedIn index answer =>
    match s.outstanding[index]? with
    | some (.signInAndRetrieveData attempt owner) => do
      modify (authenticate attempt owner answer ∘ close index)
      if attempt.entrance = .facebookLogin then modify (LoginController.signedIn (errorOf answer))
      else modify (SignInController.signedIn attempt (errorOf answer))
    | _ => pure ()
  | .graphAnswered index result =>
    match s.outstanding[index]? with
    | some (.graph attempt _) => do
      modify (close index)
      if attempt.entrance = .facebookLogin then LoginController.graphAnswered attempt result
      else SignInController.graphAnswered attempt result
    | _ => pure ()
  | .signedInWithEmail index answer =>
    match s.outstanding[index]? with
    | some (.signIn attempt _) => do
      modify (close index)
      match answer with
      | .ok account => modify (authenticated attempt account)
      | .error _ => modify (note (.rejected attempt))
      modify (SignInController.signedInWithEmail attempt (errorOf answer))
    | _ => pure ()
  | .gotDocument index snapshot =>
    match s.outstanding[index]? with
    | some (.getDocument _ _) => do
      modify (close index)
      SignInController.gotDocument snapshot
    | _ => pure ()
  -- A presented form has no bar, and neither has a map that it opens.
  | .fill action =>
    match s.visible with
    | some (.form _) => do
      if action.onBar = true → s.presented = [] then
        modify fun s => { s with form := s.form.act action }
    | _ => pure ()
  -- A presented form has no navigation controller to put a new form into.
  | .resetForm =>
    match s.visible with
    | some (.form _) => do if s.presented = [] then modify fun s => { s with form := {} }
    | _ => pure ()
  | .submit =>
    match s.visible with
    | some (.form _) => do
      if s.presented = [] then
        let result := s.form.showData s.world
        modify fun s => { s with form := result.after.controller, world := result.after.world }
        match result.trap with
        | some trap => throw trap
        | none => pure ()
    | _ => pure ()

/-- After a trap nothing happens any more. -/
def after : EStateM.Result Trap App Unit → App
  | .ok _ s => s
  | .error trap s => { s with stopped := some trap }

def step (s : App) (event : Event) : App :=
  if s.stopped.isSome then s else after ((handle s event).run s)

end App
end SocialService
