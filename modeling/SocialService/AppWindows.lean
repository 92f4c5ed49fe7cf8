import SocialService.ProgressHUDRuns
import SocialService.ProgressWindow

/-! The app together with its progress windows: what the two controllers call, and the windows
themselves, whose animations and delays end at any time between the events of the app. -/
namespace SocialService

inductive HudCall where
  | show (text : String)
  | dismissHud (text detailText : String) (delay : Nat)
  deriving DecidableEq

def HudCall.note (self : HudCall) (hud : JGProgressHUD) : JGProgressHUD :=
  match self with
  | .show text => hud.show text
  | .dismissHud text detailText delay => hud.dismiss text detailText delay

/-- What reaches the window: `hud.show(in: view, animated: true)`, or
`hud.dismiss(afterDelay: delay, animated: true)`. -/
def HudCall.event : HudCall → ProgressHUD.Event
  | .show _ => .showInView true
  | .dismissHud _ _ delay => .dismissAfterDelay delay true

inductive Window where
  | login
  | signIn (controller : Nat)
  deriving DecidableEq

inductive WindowAction where
  | made
  | called (window : Window) (call : HudCall)
  deriving DecidableEq

structure Windows (W : Type) where
  login : W
  signIn : List W

namespace Windows
variable {V W : Type}

def find? (self : Windows W) : Window → Option W
  | .login => some self.login
  | .signIn controller => self.signIn[controller]?

def update (self : Windows W) (window : Window) (change : W → W) : Windows W :=
  match window with
  | .login => { self with login := change self.login }
  | .signIn controller => { self with signIn := self.signIn.modify controller change }

@[simp] theorem update_id (self : Windows W) (window : Window) : self.update window id = self := by
  cases window with
  | login => rfl
  | signIn controller => simp [update]

def act (fresh : W) (perform : HudCall → W → W) (self : Windows W) : WindowAction → Windows W
  | .made => { self with signIn := self.signIn ++ [fresh] }
  | .called window call => self.update window (perform call)

structure All (p : W → Prop) (windows : Windows W) : Prop where
  login : p windows.login
  signIn : ∀ hud ∈ windows.signIn, p hud

structure Related (r : V → W → Prop) (windows : Windows V) (others : Windows W) : Prop where
  login : r windows.login others.login
  signIn : List.Forall₂ r windows.signIn others.signIn

variable {r : V → W → Prop} {self : Windows V} {other : Windows W}

theorem forall₂_modify_iff {vs : List V} {ws : List W} (related : List.Forall₂ r vs ws)
    (index : Nat) (f : V → V) (g : W → W) :
    List.Forall₂ r (vs.modify index f) (ws.modify index g) ↔
      ∀ v w, vs[index]? = some v → ws[index]? = some w → r (f v) (g w) := by
  induction related generalizing index with
  | nil => simp
  | cons first later ih =>
    cases index with
    | zero => simp [later]
    | succ index => simpa [first] using ih index

theorem Related.update_iff (related : Related r self other) (window : Window) (f : V → V)
    (g : W → W) : Related r (self.update window f) (other.update window g) ↔
      ∀ v w, self.find? window = some v → other.find? window = some w → r (f v) (g w) := by
  obtain ⟨login,signIn⟩ := related
  cases window with
  | login =>
    constructor
    · rintro ⟨changed,_⟩ v w ⟨⟩ ⟨⟩
      exact changed
    · intro changed
      exact ⟨changed _ _ rfl rfl,signIn⟩
  | signIn controller =>
    rw [find?,find?,← forall₂_modify_iff signIn controller f g]
    exact ⟨Related.signIn,fun changed => ⟨login,changed⟩⟩

theorem Related.found (related : Related r self other) {window : Window} {v : V}
    (here : self.find? window = some v) : ∃ w, other.find? window = some w ∧ r v w := by
  cases window with
  | login =>
    cases here
    exact ⟨other.login,rfl,related.login⟩
  | signIn controller =>
    obtain ⟨inside,rfl⟩ := List.getElem?_eq_some_iff.mp here
    obtain ⟨same,each⟩ := List.forall₂_iff_get.mp related.signIn
    exact ⟨_,List.getElem?_eq_getElem (same ▸ inside),each controller inside (same ▸ inside)⟩

theorem Related.find (related : Related r self other) {window : Window} {v : V} {w : W}
    (here : self.find? window = some v) (there : other.find? window = some w) : r v w := by
  obtain ⟨found,at_window,holds⟩ := related.found here
  rw [there] at at_window
  cases at_window
  exact holds

theorem Related.made (related : Related r self other) {fresh : V} {fresh' : W}
    (new : r fresh fresh') (perform : HudCall → V → V) (perform' : HudCall → W → W) :
    Related r (self.act fresh perform .made) (other.act fresh' perform' .made) :=
  ⟨related.login,List.rel_append related.signIn (.cons new .nil)⟩

/-- Windows that stay related under the same actions. -/
theorem Related.acts {fresh : V} {fresh' : W} (new : r fresh fresh') {perform : HudCall → V → V}
    {perform' : HudCall → W → W} (actions : List WindowAction)
    (keeps : ∀ window call, .called window call ∈ actions →
      ∀ v w, r v w → r (perform call v) (perform' call w))
    (related : Related r self other) :
    Related r (actions.foldl (act fresh perform) self)
      (actions.foldl (act fresh' perform') other) := by
  induction actions generalizing self other with
  | nil => exact related
  | cons action rest ih =>
    refine ih (fun window call member => keeps window call (List.mem_cons_of_mem _ member)) ?_
    cases action with
    | made => exact related.made new perform perform'
    | called window call =>
      refine (related.update_iff window (perform call) (perform' call)).mpr ?_
      intro v w here there
      exact keeps window call List.mem_cons_self v w (related.find here there)

end Windows

/-! ### What the app calls -/

namespace LoginController
open App

def saveCalls (s : App) : List HudCall :=
  match s.world.currentUser with
  | none => [.dismissHud "Error" "Failed to save user." 3]
  | some _ => []

def loggedInCalls (answer : FacebookAnswer) : List HudCall :=
  match answer.err with
  | some err =>
    [.dismissHud "Error" ("Failed to get Facebook user with error: " ++ err.localizedDescription) 3]
  | none => if answer.isCancelled then [.dismissHud "" "" 0] else []

def signedInCalls (error : Option NSError) : List HudCall :=
  match error with
  | some error => [.dismissHud "Sign up error" error.localizedDescription 3]
  | none => []

end LoginController

namespace SignInController

def loggedInCalls (answer : FacebookAnswer) : List HudCall :=
  match answer.err with
  | some err => [.dismissHud "Error"
      ("Failed to get Facebook user with error: Optional(" ++ err.description ++ ")") 3]
  | none => []

def signedInCalls (error : Option NSError) : List HudCall :=
  match error with
  | some error => [.dismissHud "Sign in error" error.localizedDescription 3]
  | none => []

end SignInController

/-- The calls of a completion go to the window of the controller that its attempt was started
from. -/
def Attempt.actions (attempt : Attempt) (login signIn : List HudCall) : List WindowAction :=
  match attempt.entrance with
  | .facebookLogin => login.map (.called .login)
  | .facebookSignIn controller => signIn.map (.called (.signIn controller))
  | .register _ | .signIn _ => []

theorem Attempt.actions_nil (attempt : Attempt) : attempt.actions [] [] = [] := by
  unfold actions
  cases attempt.entrance <;> rfl

theorem Attempt.actions_login (attempt : Attempt) (entrance : attempt.entrance = .facebookLogin)
    (login signIn : List HudCall) :
    attempt.actions login signIn = login.map (.called .login) := by
  rw [actions,entrance]

theorem Attempt.actions_other (attempt : Attempt) (entrance : attempt.entrance ≠ .facebookLogin)
    (login signIn : List HudCall) : attempt.actions login signIn = attempt.actions [] signIn := by
  unfold actions
  cases found : attempt.entrance with
  | facebookLogin => exact absurd found entrance
  | register | signIn | facebookSignIn => rfl

namespace App

def windows (s : App) : Windows JGProgressHUD := ⟨s.loginHud,s.signInHuds⟩

def windowActions (s : App) : Event → List WindowAction
  | .register fields =>
    if s.visible = some .login ∧ fields.Valid ∧ (intOfString fields.phone).isSome then
      (LoginController.saveCalls s).map (.called .login)
    else []
  | .facebookLogin =>
    if s.visible = some .login then [.called .login (.show "Logging in with Facebook...")] else []
  | .facebookSignIn =>
    if s.visible = some .signIn then
      [.called (.signIn s.signInController) (.show "Logging in with Facebook...")]
    else []
  | .openSignIn => if s.visible = some .login then [.made] else []
  | .loggedIn index answer =>
    match s.outstanding[index]? with
    | some (.logIn attempt) => attempt.actions (LoginController.loggedInCalls answer)
        (SignInController.loggedInCalls answer)
    | _ => []
  | .signedIn index answer =>
    match s.outstanding[index]? with
    | some (.signInAndRetrieveData attempt _) =>
      attempt.actions (LoginController.signedInCalls (errorOf answer))
        (SignInController.signedInCalls (errorOf answer))
    | _ => []
  | .graphAnswered index result =>
    match s.outstanding[index]? with
    | some (.graph attempt _) =>
      if (LoginController.graphUser result).isSome then
        attempt.actions (LoginController.saveCalls s) []
      else []
    | _ => []
  | _ => []

abbrev noted (s : App) (actions : List WindowAction) : Windows JGProgressHUD :=
  actions.foldl (Windows.act {} HudCall.note) s.windows

theorem windowActions_of_disabled (s : App) (event : Event) (off : ¬s.Enabled event) :
    s.windowActions event = [] := by
  cases event with
  | register | facebookLogin | facebookSignIn | openSignIn =>
    simp only [Enabled] at off
    simp [windowActions,off]
  | loggedIn =>
    simp only [windowActions]
    split
    · rename_i found
      exact absurd ⟨_,found⟩ off
    · rfl
  | signedIn | graphAnswered =>
    simp only [windowActions]
    split
    · rename_i found
      exact absurd ⟨_,_,found⟩ off
    · rfl
  | _ => rfl

theorem save_windows (attempt : Attempt) (s : App) :
    (LoginController.saveUserIntoFirebaseDatabase attempt s).windows =
      s.noted ((LoginController.saveCalls s).map (.called .login)) := by
  unfold LoginController.saveUserIntoFirebaseDatabase LoginController.saveCalls
  cases s.world.currentUser <;> rfl

/-- A call that a completion makes in `SignInController`. -/
theorem setHud_windows (attempt : Attempt) (call : HudCall) (s : App) :
    (SignInController.setHud attempt call.note s).windows =
      s.noted (attempt.actions [] [call]) := by
  unfold SignInController.setHud Attempt.actions
  cases attempt.entrance <;> rfl

theorem signIn_loggedIn_windows (attempt : Attempt) (answer : FacebookAnswer) (s : App) :
    (SignInController.loggedIn attempt answer s).windows =
      s.noted (attempt.actions [] (SignInController.loggedInCalls answer)) := by
  unfold SignInController.loggedIn SignInController.loggedInCalls
  cases answer.err with
  | some err => exact setHud_windows attempt (.dismissHud ..) s
  | none =>
    rw [Attempt.actions_nil]
    cases answer.token <;> rfl

theorem signIn_signedIn_windows (attempt : Attempt) (error : Option NSError) (s : App) :
    (SignInController.signedIn attempt error s).windows =
      s.noted (attempt.actions [] (SignInController.signedInCalls error)) := by
  unfold SignInController.signedIn SignInController.signedInCalls
  cases error with
  | some error => exact setHud_windows attempt (.dismissHud ..) s
  | none =>
    rw [Attempt.actions_nil]
    rfl

theorem login_loggedIn_windows (attempt : Attempt) (answer : FacebookAnswer) (s : App) :
    (LoginController.loggedIn attempt answer s).windows =
      s.noted ((LoginController.loggedInCalls answer).map (.called .login)) := by
  unfold LoginController.loggedIn LoginController.loggedInCalls
  cases answer.err with
  | some err => rfl
  | none => cases answer.isCancelled <;> cases answer.token <;> rfl

theorem login_signedIn_windows (error : Option NSError) (s : App) :
    (LoginController.signedIn error s).windows =
      s.noted ((LoginController.signedInCalls error).map (.called .login)) := by
  cases error <;> rfl

theorem loggedIn_windows (s : App) (index : Nat) (answer : FacebookAnswer)
    (live : s.stopped = none) (attempt : Attempt)
    (found : s.outstanding[index]? = some (.logIn attempt)) :
    (s.step (.loggedIn index answer)).windows =
      s.noted (s.windowActions (.loggedIn index answer)) := by
  have actions : s.windowActions (.loggedIn index answer) = attempt.actions
      (LoginController.loggedInCalls answer) (SignInController.loggedInCalls answer) := by
    simp only [windowActions,found]
  rw [step_loggedIn s index answer live attempt found,actions]
  split
  · rename_i login
    rw [attempt.actions_login login]
    exact login_loggedIn_windows attempt answer (close index s)
  · rename_i other
    rw [attempt.actions_other other]
    exact signIn_loggedIn_windows attempt answer (close index s)

theorem signedIn_windows (s : App) (index : Nat) (answer : Except NSError String)
    (live : s.stopped = none) (attempt : Attempt) (owner : Identity)
    (found : s.outstanding[index]? = some (.signInAndRetrieveData attempt owner)) :
    (s.step (.signedIn index answer)).windows =
      s.noted (s.windowActions (.signedIn index answer)) := by
  have actions : s.windowActions (.signedIn index answer) =
      attempt.actions (LoginController.signedInCalls (errorOf answer))
        (SignInController.signedInCalls (errorOf answer)) := by
    simp only [windowActions,found]
  have same : (authenticate attempt owner answer (close index s)).windows = s.windows := by
    cases answer <;> rfl
  rw [step_signedIn s index answer live attempt owner found,actions]
  split
  · rename_i login
    rw [attempt.actions_login login,login_signedIn_windows,noted,same]
  · rename_i other
    rw [attempt.actions_other other,signIn_signedIn_windows,noted,same]

theorem pushForm_windows (attempt : Attempt) (s : App) :
    (pushForm attempt s).windows = s.windows := by
  simp [windows]

theorem registered_windows (attempt : Attempt) (fields : RegistrationFields) (phone : Int)
    (s : App) : (LoginController.registered attempt fields phone s).windows =
      s.noted ((LoginController.saveCalls s).map (.called .login)) := by
  rw [LoginController.registered,save_windows]
  rfl

theorem enrolled_windows (attempt : Attempt) (identity : Identity) (s : App) :
    (LoginController.enrolled attempt identity s).windows =
      s.noted ((LoginController.saveCalls s).map (.called .login)) := by
  rw [LoginController.enrolled,pushForm_windows]
  exact save_windows attempt
    (LoginController.setUser (.init identity.name identity.password identity.email 0) s)

/-- What the app machine keeps of its windows is what these actions make of it. -/
theorem step_windows (s : App) (event : Event) (valid : Wellformed s) (live : s.stopped = none) :
    (s.step event).windows = s.noted (s.windowActions event) := by
  have moved := step_steps s event
  generalize same : s.step event = next at moved ⊢
  cases moved with
  | ignored _ out =>
    have off : ¬s.Enabled event := out.resolve_left (by simp [live])
    rw [windowActions_of_disabled s event off]
    rfl
  | refused fields _ on invalid =>
    rw [pushForm_windows,windowActions,if_neg (fun passed => invalid passed.2.1)]
    rfl
  | overflowed fields _ on valid overflow =>
    rw [windowActions,if_neg (by simp [overflow])]
    rfl
  | registered fields _ on valid phone number =>
    rw [pushForm_windows,registered_windows,windowActions,if_pos ⟨on,valid,by simp [number]⟩]
    rfl
  | presented | closed | filled | formReset | submitted | gotDocument => rfl
  | createdUser index answer => cases answer <;> rfl
  | facebookLogin _ on | facebookSignIn _ on | opened _ on =>
    rw [windowActions,if_pos on]
    rfl
  | notLoggedIn index answer _ attempt found | loggedIn index answer _ attempt found =>
    exact same ▸ loggedIn_windows s index answer live attempt found
  | signedIn index answer _ attempt owner found =>
    exact same ▸ signedIn_windows s index answer live attempt owner found
  | enrolled index result _ attempt owner found entrance identity usable =>
    have actions : s.windowActions (.graphAnswered index result) =
        (LoginController.saveCalls s).map (.called .login) := by
      simp only [windowActions,found,usable,Option.isSome_some,if_true]
      exact attempt.actions_login entrance _ []
    rw [enrolled_windows,actions]
    rfl
  | graphTrapped index result _ attempt owner found unusable trap =>
    have actions : s.windowActions (.graphAnswered index result) = [] := by
      simp only [windowActions,found]
      split
      · rename_i usable
        have other : attempt.entrance ≠ .facebookLogin := by
          intro entrance
          simp [unusable entrance] at usable
        rw [attempt.actions_other other,attempt.actions_nil]
      · rfl
    rw [actions]
    rfl
  | signedInWithEmail _ _ _ attempt fields found =>
    exact (valid.fits _ (List.mem_of_getElem? found)).elim

/-! ### One call at a time -/

theorem saveCalls_length (s : App) : (LoginController.saveCalls s).length ≤ 1 := by
  unfold LoginController.saveCalls
  split <;> simp

theorem login_calls_length (answer : FacebookAnswer) (error : Option NSError) :
    (LoginController.loggedInCalls answer).length ≤ 1 ∧
      (LoginController.signedInCalls error).length ≤ 1 := by
  unfold LoginController.loggedInCalls LoginController.signedInCalls
  cases answer.err <;> cases answer.isCancelled <;> cases error <;> simp

theorem signIn_calls_length (answer : FacebookAnswer) (error : Option NSError) :
    (SignInController.loggedInCalls answer).length ≤ 1 ∧
      (SignInController.signedInCalls error).length ≤ 1 := by
  unfold SignInController.loggedInCalls SignInController.signedInCalls
  cases answer.err <;> cases error <;> simp

theorem actions_length (attempt : Attempt) {login signIn : List HudCall}
    (short : login.length ≤ 1) (short' : signIn.length ≤ 1) :
    (attempt.actions login signIn).length ≤ 1 := by
  unfold Attempt.actions
  cases attempt.entrance <;> simp [short,short']

theorem windowActions_length (s : App) (event : Event) : (s.windowActions event).length ≤ 1 := by
  cases event with
  | register fields =>
    simp only [windowActions]
    split
    · simpa using saveCalls_length s
    · simp
  | facebookLogin | facebookSignIn | openSignIn =>
    simp only [windowActions]
    split <;> simp
  | loggedIn index answer =>
    simp only [windowActions]
    split
    · exact actions_length _ (login_calls_length answer none).1 (signIn_calls_length answer none).1
    · simp
  | signedIn index answer =>
    simp only [windowActions]
    split
    · exact actions_length _ (login_calls_length ⟨none,false,none⟩ _).2
        (signIn_calls_length ⟨none,false,none⟩ _).2
    · simp
  | graphAnswered index result =>
    simp only [windowActions]
    split
    · split
      · exact actions_length _ (saveCalls_length s) (Nat.zero_le 1)
      · simp
    · simp
  | _ => exact Nat.zero_le 1

/-- An event makes one window, or one call, at most. -/
theorem windowActions_cases (s : App) (event : Event) :
    s.windowActions event = [] ∨ s.windowActions event = [.made] ∨
      ∃ window call, s.windowActions event = [.called window call] := by
  have short := s.windowActions_length event
  generalize s.windowActions event = actions at short ⊢
  cases actions with
  | nil => exact .inl rfl
  | cons action rest =>
    obtain rfl : rest = [] := List.length_eq_zero_iff.mp (by simpa using short)
    cases action with
    | made => exact .inr (.inl rfl)
    | called window call => exact .inr (.inr ⟨window,call,rfl⟩)

end App
end SocialService
