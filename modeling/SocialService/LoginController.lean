import SocialService.App

/-! Registration and the Facebook login. `prepare` asks for an account and goes on at once, as the
user that the session had before. -/
namespace SocialService
namespace LoginController
open App

@[simp] def dismissHud (text detailText : String) (delay : Nat) (s : App) : App :=
  { s with loginHud := s.loginHud.dismiss text detailText delay }

@[simp] def setUser (user : UserEntity) (s : App) : App := { s with user := some user }

def dictionaryValues (user : Option UserEntity) : Document :=
  [("email",.string ((user.bind UserEntity.userEmail).getD "")),
    ("name",.string ((user.bind UserEntity.name).getD "")),
    ("password",.string ((user.bind UserEntity.password).getD "")),
    ("phone",((user.bind UserEntity.userPhone).map AnyValue.number).getD (.string ""))]

def saveUserIntoFirebaseDatabase (attempt : Attempt) (s : App) : App :=
  match s.world.currentUser with
  | none => dismissHud "Error" "Failed to save user." 3 s
  | some account =>
    let document := dictionaryValues s.user
    note (.stored attempt account.uid document)
      { s with world := s.world.setData account.uid document }

def showAlert (attempt : Attempt) (message : String) : App → App := note (.alerted attempt message)

def prepare (attempt : Attempt) (fields : RegistrationFields) (segue : Segue) :
    EStateM Trap App Unit := do
  if segue.identifier = some "showForm" then
    if fields.phone ≠ "" ∧ fields.firstName ≠ "" ∧ fields.password ≠ "" ∧ fields.email ≠ "" then
      if isNumber fields.phone = false then
        modify (showAlert attempt "Please enter a valid phone number")
      else if isValidEmail fields.email = false then
        modify (showAlert attempt "Please enter a valid email address")
      else
        let phone ← unwrap "Int(phoneTextField.text!)!" (intOfString fields.phone)
        modify (setUser (.init fields.firstName fields.password fields.email phone))
        modify (request (.createUser attempt ⟨fields.firstName,fields.password,fields.email⟩))
        modify (saveUserIntoKeychain fields.firstName fields.password fields.email)
        modify (saveUserIntoFirebaseDatabase attempt)
    else
      modify (showAlert attempt "Make sure you have provided all the information required")

/-- A press of `Register`: the segue follows `prepare`, whichever way that returned. -/
def register (attempt : Attempt) (fields : RegistrationFields) : EStateM Trap App Unit := do
  prepare attempt fields Storyboard.loginShowForm
  modify (pushForm attempt)

def loginWithFacebookButton (attempt : Attempt) (s : App) : App :=
  request (.logIn attempt) { s with loginHud := s.loginHud.show "Logging in with Facebook..." }

/-- The completion of `logIn(withReadPermissions:)`. -/
def loggedIn (attempt : Attempt) (answer : FacebookAnswer) (s : App) : App :=
  match answer.err with
  | some err =>
    dismissHud "Error" ("Failed to get Facebook user with error: " ++ err.localizedDescription) 3 s
  | none =>
    if answer.isCancelled then dismissHud "" "" 0 s
    else match answer.token with
      | none => s
      | some owner =>
        request (.graph attempt owner) (request (.signInAndRetrieveData attempt owner) s)

/-- The completion of `signInAndRetrieveData`, success being only printed. -/
def signedIn (error : Option NSError) (s : App) : App :=
  match error with
  | some error => dismissHud "Sign up error" error.localizedDescription 3 s
  | none => s

/-- The completion of the Graph request. -/
def graphAnswered (attempt : Attempt) (result : Option AnyValue) : EStateM Trap App Unit := do
  let json := JSON.init (← unwrap "result!" result)
  let identity ← readUser json
  modify (setUser (.init identity.name identity.password identity.email 0))
  modify (saveUserIntoFirebaseDatabase attempt)
  modify (saveUserIntoKeychain identity.name identity.password identity.email)
  let vc ← instantiateViewController "FormTableController"
  if vc = .formTableController then modify (pushForm attempt)
  else throw (.forcedCast "as! FormTableController")

/-- `presentSignInWindow`, which makes a new controller. -/
def presentSignInWindow : EStateM Trap App Unit := do
  let vc ← instantiateViewController "signInController"
  if vc = .signInController then
    modify fun s => { s with
      presented := s.presented ++ [.signIn]
      signInHuds := s.signInHuds ++ [{}] }
  else throw (.forcedCast "as! SignInController")

/-! ### What the handlers do -/

section Save
variable (attempt : Attempt) (s : App)

/-- What `saveUserIntoFirebaseDatabase` stores, if anything. -/
def stores (s : App) : Option (String × Document) :=
  s.world.currentUser.map fun account => (account.uid,dictionaryValues s.user)

@[simp] theorem save_log : (saveUserIntoFirebaseDatabase attempt s).log =
    s.log ++ ((stores s).map fun write => .stored attempt write.1 write.2).toList := by
  unfold saveUserIntoFirebaseDatabase stores
  cases s.world.currentUser <;> simp

@[simp] theorem save_keychain :
    (saveUserIntoFirebaseDatabase attempt s).world.keychain = s.world.keychain := by
  unfold saveUserIntoFirebaseDatabase; split <;> rfl

@[simp] theorem save_currentUser :
    (saveUserIntoFirebaseDatabase attempt s).world.currentUser = s.world.currentUser := by
  unfold saveUserIntoFirebaseDatabase; split <;> rfl

@[simp] theorem save_navigation :
    (saveUserIntoFirebaseDatabase attempt s).navigation = s.navigation := by
  unfold saveUserIntoFirebaseDatabase; split <;> rfl

@[simp] theorem save_presented :
    (saveUserIntoFirebaseDatabase attempt s).presented = s.presented := by
  unfold saveUserIntoFirebaseDatabase; split <;> rfl

@[simp] theorem save_outstanding :
    (saveUserIntoFirebaseDatabase attempt s).outstanding = s.outstanding := by
  unfold saveUserIntoFirebaseDatabase; split <;> rfl

@[simp] theorem save_attempts :
    (saveUserIntoFirebaseDatabase attempt s).attempts = s.attempts := by
  unfold saveUserIntoFirebaseDatabase; split <;> rfl

@[simp] theorem save_stopped : (saveUserIntoFirebaseDatabase attempt s).stopped = s.stopped := by
  unfold saveUserIntoFirebaseDatabase; split <;> rfl

@[simp] theorem save_signInHuds :
    (saveUserIntoFirebaseDatabase attempt s).signInHuds = s.signInHuds := by
  unfold saveUserIntoFirebaseDatabase; split <;> rfl

/-- Without a current user the failure is shown in the window, which goes down with it. -/
@[simp] theorem save_loginHud : (saveUserIntoFirebaseDatabase attempt s).loginHud =
    match s.world.currentUser with
    | none => s.loginHud.dismiss "Error" "Failed to save user." 3
    | some _ => s.loginHud := by
  unfold saveUserIntoFirebaseDatabase
  cases s.world.currentUser <;> rfl

end Save

def registered (attempt : Attempt) (fields : RegistrationFields) (phone : Int) (s : App) : App :=
  saveUserIntoFirebaseDatabase attempt <|
    saveUserIntoKeychain fields.firstName fields.password fields.email <|
      request (.createUser attempt ⟨fields.firstName,fields.password,fields.email⟩) <|
        setUser (.init fields.firstName fields.password fields.email phone) s

theorem prepare_cases (attempt : Attempt) (fields : RegistrationFields) (s : App) :
    (¬fields.Valid ∧ ∃ message,
      (prepare attempt fields Storyboard.loginShowForm).run s =
        .ok () (showAlert attempt message s)) ∨
    (fields.Valid ∧ intOfString fields.phone = none ∧ ∃ trap,
      (prepare attempt fields Storyboard.loginShowForm).run s = .error trap s) ∨
    (fields.Valid ∧ ∃ phone, intOfString fields.phone = some phone ∧
      (prepare attempt fields Storyboard.loginShowForm).run s =
        .ok () (registered attempt fields phone s)) := by
  unfold prepare RegistrationFields.Valid
  rw [if_pos (by rfl)]
  by_cases complete :
    fields.phone ≠ "" ∧ fields.firstName ≠ "" ∧ fields.password ≠ "" ∧ fields.email ≠ ""
  · rw [if_pos complete]
    cases number : isNumber fields.phone with
    | false => exact .inl ⟨by simp,_,rfl⟩
    | true =>
      cases email : isValidEmail fields.email with
      | false => exact .inl ⟨by simp,_,rfl⟩
      | true =>
        have valid := And.intro complete (And.intro (Eq.refl true) (Eq.refl true))
        cases phone : intOfString fields.phone with
        | none => exact .inr (.inl ⟨valid,rfl,_,rfl⟩)
        | some value => exact .inr (.inr ⟨valid,value,rfl,rfl⟩)
  · rw [if_neg complete]
    exact .inl ⟨fun valid => complete valid.1,_,rfl⟩

def graphUser (result : Option AnyValue) : Option Identity :=
  result.bind fun value => (JSON.init value).user

def enrolled (attempt : Attempt) (identity : Identity) (s : App) : App :=
  pushForm attempt <|
    saveUserIntoKeychain identity.name identity.password identity.email <|
      saveUserIntoFirebaseDatabase attempt <|
        setUser (.init identity.name identity.password identity.email 0) s

theorem graphAnswered_cases (attempt : Attempt) (result : Option AnyValue) (s : App) :
    (∃ identity, graphUser result = some identity ∧
      (graphAnswered attempt result).run s = .ok () (enrolled attempt identity s)) ∨
    (graphUser result = none ∧ ∃ trap, (graphAnswered attempt result).run s = .error trap s) := by
  unfold graphAnswered graphUser
  cases result with
  | none => exact .inr ⟨rfl,_,rfl⟩
  | some value =>
    rcases readUser_cases (JSON.init value) s with ⟨identity,found,run⟩ | ⟨missing,trap,run⟩
    · refine .inl ⟨identity,found,?_⟩
      simp only [unwrap,EStateM.run_bind,Trapping.run_force_some,run]
      rfl
    · refine .inr ⟨missing,trap,?_⟩
      simp only [unwrap,EStateM.run_bind,Trapping.run_force_some,run]

end LoginController
end SocialService
