import SocialService.FormTableController
import SocialService.Validation

/-! The state of the running app. A request to Firebase or Facebook returns at once and its
completion is an event of its own, so any number of requests may be outstanding. The attempt that
a request, a screen or a write belongs to is recorded beside what the program itself keeps. -/
namespace SocialService

structure RegistrationFields where
  firstName : String
  password : String
  email : String
  phone : String
  deriving DecidableEq, Repr

structure SignInFields where
  password : String
  email : String
  deriving DecidableEq, Repr

def RegistrationFields.Valid (fields : RegistrationFields) : Prop :=
  (fields.phone ≠ "" ∧ fields.firstName ≠ "" ∧ fields.password ≠ "" ∧ fields.email ≠ "") ∧
    isNumber fields.phone = true ∧ isValidEmail fields.email = true

def SignInFields.Valid (fields : SignInFields) : Prop :=
  (fields.password ≠ "" ∧ fields.email ≠ "") ∧ isValidEmail fields.email = true

instance (fields : RegistrationFields) : Decidable fields.Valid :=
  inferInstanceAs (Decidable (_ ∧ _))

instance (fields : SignInFields) : Decidable fields.Valid := inferInstanceAs (Decidable (_ ∧ _))

/-- The four ways to the form. A `SignInController` is named by its place in the order of
opening. -/
inductive Entrance where
  | register (fields : RegistrationFields)
  | signIn (fields : SignInFields)
  | facebookLogin
  | facebookSignIn (controller : Nat)
  deriving DecidableEq, Repr

structure Attempt where
  id : Nat
  entrance : Entrance
  deriving DecidableEq, Repr

def Attempt.Validated (attempt : Attempt) : Prop :=
  match attempt.entrance with
  | .register fields => fields.Valid
  | .signIn fields => fields.Valid
  | .facebookLogin | .facebookSignIn _ => True

structure NSError where
  localizedDescription : String
  description : String
  deriving DecidableEq, Repr

/-- `token` tells whose `FBSDKAccessToken.current()` is, if there is one. -/
structure FacebookAnswer where
  err : Option NSError
  isCancelled : Bool
  token : Option Identity
  deriving DecidableEq, Repr

inductive Request where
  | createUser (attempt : Attempt) (identity : Identity)
  | logIn (attempt : Attempt)
  | signInAndRetrieveData (attempt : Attempt) (owner : Identity)
  | graph (attempt : Attempt) (owner : Identity)
  | signIn (attempt : Attempt) (fields : SignInFields)
  | getDocument (attempt : Attempt) (uid : String)
  deriving DecidableEq, Repr

def Request.attempt : Request → Attempt
  | .createUser attempt _ | .logIn attempt | .signInAndRetrieveData attempt _ | .graph attempt _
  | .signIn attempt _ | .getDocument attempt _ => attempt

inductive LogEntry where
  | alerted (attempt : Attempt) (message : String)
  | accepted (attempt : Attempt) (uid : String)
  | rejected (attempt : Attempt)
  | stored (attempt : Attempt) (uid : String) (document : Document)

def LogEntry.attempt : LogEntry → Attempt
  | .alerted attempt _ | .accepted attempt _ | .rejected attempt | .stored attempt _ _ => attempt

inductive Screen where
  | login
  | signIn
  | form (attempt : Attempt)
  deriving DecidableEq, Repr

inductive HUDPhase where
  | hidden
  | shown
  | dismissed (delay : Nat)
  deriving DecidableEq, Repr

structure JGProgressHUD where
  textLabel : String := ""
  detailTextLabel : String := ""
  phase : HUDPhase := .hidden
  deriving DecidableEq, Repr

def JGProgressHUD.show (self : JGProgressHUD) (text : String) : JGProgressHUD :=
  { self with textLabel := text, phase := .shown }

def JGProgressHUD.dismiss (_ : JGProgressHUD) (text detailText : String) (delay : Nat) :
    JGProgressHUD where
  textLabel := text
  detailTextLabel := detailText
  phase := .dismissed delay

structure App where
  world : World
  /-- `LoginController.user` -/
  user : Option UserEntity := none
  loginHud : JGProgressHUD := {}
  /-- A window for each `SignInController`, in the order of opening. -/
  signInHuds : List JGProgressHUD := []
  /-- The form that was made last. -/
  form : FormTableController := {}
  /-- The stack of the navigation controller, its top last. -/
  navigation : List Screen := [.login]
  /-- The screens presented over it, the top last. -/
  presented : List Screen := []
  outstanding : List Request := []
  attempts : Nat := 0
  log : List LogEntry := []
  stopped : Option Trap := none

namespace App

def visible (s : App) : Option Screen := s.presented.getLast?.or s.navigation.getLast?

def signInController (s : App) : Nat := s.signInHuds.length - 1

@[simp] def note (entry : LogEntry) (s : App) : App := { s with log := s.log ++ [entry] }

@[simp] def request (request : Request) (s : App) : App :=
  { s with outstanding := s.outstanding ++ [request] }

@[simp] def close (index : Nat) (s : App) : App :=
  { s with outstanding := s.outstanding.eraseIdx index }

/-- The current user changes when a request of Firebase Auth succeeds, and at no other time. -/
@[simp] def authenticated (attempt : Attempt) (account : Account) (s : App) : App :=
  note (.accepted attempt account.uid)
    { s with world := { s.world with currentUser := some account } }

@[simp] def saveUserIntoKeychain (name password email : String) (s : App) : App :=
  { s with world := { s.world with keychain := s.world.keychain.saveUser name password email } }

/-- `FormTableController.viewDidLoad` makes itself the whole stack. A controller outside the stack
has no navigation controller. -/
def pushForm (attempt : Attempt) (s : App) : App :=
  if .login ∈ s.navigation then { s with navigation := [.form attempt], form := {} } else s

@[simp] def presentForm (attempt : Attempt) (s : App) : App :=
  { s with presented := s.presented ++ [.form attempt], form := {} }

section Push
variable (attempt : Attempt) (s : App)

@[simp] theorem pushForm_world : (pushForm attempt s).world = s.world := by
  unfold pushForm; split <;> rfl

@[simp] theorem pushForm_presented : (pushForm attempt s).presented = s.presented := by
  unfold pushForm; split <;> rfl

@[simp] theorem pushForm_outstanding : (pushForm attempt s).outstanding = s.outstanding := by
  unfold pushForm; split <;> rfl

@[simp] theorem pushForm_attempts : (pushForm attempt s).attempts = s.attempts := by
  unfold pushForm; split <;> rfl

@[simp] theorem pushForm_log : (pushForm attempt s).log = s.log := by
  unfold pushForm; split <;> rfl

@[simp] theorem pushForm_stopped : (pushForm attempt s).stopped = s.stopped := by
  unfold pushForm; split <;> rfl

@[simp] theorem pushForm_loginHud : (pushForm attempt s).loginHud = s.loginHud := by
  unfold pushForm; split <;> rfl

@[simp] theorem pushForm_signInHuds : (pushForm attempt s).signInHuds = s.signInHuds := by
  unfold pushForm; split <;> rfl

end Push

end App

def instantiateViewController (identifier : String) : EStateM Trap σ Destination :=
  Trapping.force (.noViewController identifier) (Storyboard.identifiers.lookup identifier)

def readUser (json : JSON) : EStateM Trap σ Identity := do
  let name ← unwrap "json[\"name\"].string!" (json.key "name").string
  let password ← unwrap "json[\"id\"].string!" (json.key "id").string
  let email ← unwrap "json[\"email\"].string!" (json.key "email").string
  pure ⟨name,password,email⟩

def JSON.user (json : JSON) : Option Identity :=
  match (json.key "name").string, (json.key "id").string, (json.key "email").string with
  | some name, some password, some email => some ⟨name,password,email⟩
  | _, _, _ => none

theorem readUser_cases (json : JSON) (s : σ) :
    (∃ identity, json.user = some identity ∧ (readUser json).run s = .ok identity s) ∨
      (json.user = none ∧ ∃ trap, (readUser json).run s = .error trap s) := by
  unfold readUser JSON.user unwrap
  cases (json.key "name").string with
  | none => exact .inr ⟨rfl,_,rfl⟩
  | some name =>
    cases (json.key "id").string with
    | none => exact .inr ⟨rfl,_,rfl⟩
    | some password =>
      cases (json.key "email").string with
      | none => exact .inr ⟨rfl,_,rfl⟩
      | some email => exact .inl ⟨_,rfl,rfl⟩

end SocialService
