import SocialService.AppShape

/-! The progress windows of the two Facebook logins: put up when an attempt starts, to be taken
down by one of its completions. The properties speak of any run of the app, whatever else happens
in it. -/
namespace SocialService

def Request.OfFacebook : Request → Prop
  | .logIn _ | .signInAndRetrieveData .. | .graph .. => True
  | .createUser .. | .signIn .. | .getDocument .. => False

/-- The answers on which the completion of `logIn` takes the window down; only `LoginController`
asks for a cancellation. -/
def FacebookAnswer.Fails (answer : FacebookAnswer) (attempt : Attempt) : Prop :=
  answer.err.isSome ∨ attempt.entrance = .facebookLogin ∧ answer.isCancelled = true

namespace App
open EventMachine

/-- No callback of a Facebook login is pending. -/
def Quiet (s : App) : Prop := ∀ request ∈ s.outstanding, ¬request.OfFacebook

def SignInWindowsDown (s : App) : Prop := ∀ hud ∈ s.signInHuds, hud.phase ≠ .shown

structure WindowsDown (s : App) : Prop where
  login : s.loginHud.phase ≠ .shown
  signIn : s.SignInWindowsDown

def TakenDown (s : App) : Prop := s.stopped = none → s.Quiet → s.WindowsDown

/-- No window is up but that of the controller that this attempt was started from. -/
structure OnlyUp (s : App) (attempt : Attempt) : Prop where
  login : s.loginHud.phase = .shown → attempt.entrance = .facebookLogin
  signIn : ∀ controller hud, s.signInHuds[controller]? = some hud → hud.phase = .shown →
    attempt.entrance = .facebookSignIn controller

/-- A completion that is the last one pending finds no window up but one that it takes down. -/
def LastAnswerCloses (s : App) (event : Event) : Prop :=
  s.stopped = none → match event with
  | .loggedIn index answer => ∀ attempt, s.outstanding[index]? = some (.logIn attempt) →
      (close index s).Quiet →
        (answer.Fails attempt → s.OnlyUp attempt) ∧
          (¬answer.Fails attempt → answer.token = none → s.WindowsDown)
  | .signedIn index answer => ∀ attempt owner,
      s.outstanding[index]? = some (.signInAndRetrieveData attempt owner) →
      (close index s).Quiet →
        match answer with
        | .error _ => s.OnlyUp attempt
        | .ok _ => s.WindowsDown
  | .graphAnswered index result => ∀ attempt owner,
      s.outstanding[index]? = some (.graph attempt owner) → (close index s).Quiet →
      attempt.entrance = .facebookLogin → (LoginController.graphUser result).isSome →
        match s.world.currentUser with
        | none => s.SignInWindowsDown
        | some _ => s.WindowsDown
  | _ => True

/-- A step that leaves the Facebook requests out and puts no window up. -/
theorem TakenDown.of_same {s next : App} (down : s.TakenDown) (live : s.stopped = none)
    (facebook : ∀ request ∈ s.outstanding, request.OfFacebook → request ∈ next.outstanding)
    (login : next.loginHud.phase = .shown → s.loginHud.phase = .shown)
    (signIn : s.SignInWindowsDown → next.SignInWindowsDown) : next.TakenDown := by
  intro _ quiet
  have before : s.Quiet := fun request member of => quiet request (facebook request member of) of
  have windows := down live before
  exact ⟨mt login windows.login,signIn windows.signIn⟩

theorem takenDown_of_pending {s : App} {request : Request} (member : request ∈ s.outstanding)
    (of : request.OfFacebook) : s.TakenDown :=
  fun _ quiet => absurd of (quiet request member)

theorem takenDown_of_stopped {s : App} {trap : Trap} (stopped : s.stopped = some trap) :
    s.TakenDown := by
  intro live
  rw [stopped] at live
  contradiction

structure SameWindows (s next : App) : Prop where
  login : next.loginHud = s.loginHud
  signIn : next.signInHuds = s.signInHuds

theorem windowsDown_iff (s : App) :
    s.WindowsDown ↔ s.loginHud.phase ≠ .shown ∧ s.SignInWindowsDown :=
  ⟨fun down => ⟨down.login,down.signIn⟩,fun down => ⟨down.1,down.2⟩⟩

theorem SameWindows.windowsDown_iff {s next : App} (same : SameWindows s next) :
    next.WindowsDown ↔ s.WindowsDown := by
  rw [App.windowsDown_iff,App.windowsDown_iff,SignInWindowsDown,same.login,same.signIn]
  rfl

theorem SameWindows.onlyUp_iff {s next : App} (same : SameWindows s next) (attempt : Attempt) :
    next.OnlyUp attempt ↔ s.OnlyUp attempt := by
  obtain ⟨login,signIn⟩ := same
  constructor
  · intro only
    exact ⟨login ▸ only.login,signIn ▸ only.signIn⟩
  · intro only
    refine ⟨?_,?_⟩
    · rw [login]; exact only.login
    · rw [signIn]; exact only.signIn

/-- The second state is the first with the window of this attempt taken down. -/
structure TakesDown (attempt : Attempt) (s next : App) : Prop where
  stopped : next.stopped = s.stopped
  outstanding : next.outstanding = s.outstanding
  windows : next.WindowsDown ↔ s.OnlyUp attempt

theorem TakesDown.takenDown_iff {attempt : Attempt} {s next : App}
    (takes : TakesDown attempt s next) (live : s.stopped = none) :
    next.TakenDown ↔ (s.Quiet → s.OnlyUp attempt) := by
  simp [TakenDown,Quiet,takes.stopped,takes.outstanding,takes.windows,live]

theorem login_takesDown (s : App) (attempt : Attempt) (login : attempt.entrance = .facebookLogin)
    (text detailText : String) (delay : Nat) :
    TakesDown attempt s (LoginController.dismissHud text detailText delay s) := by
  refine ⟨rfl,rfl,?_⟩
  constructor
  · intro down
    refine ⟨fun _ => login,?_⟩
    intro controller hud found up
    exact absurd up (down.signIn hud (List.mem_of_getElem? found))
  · intro only
    refine ⟨by simp [JGProgressHUD.dismiss],?_⟩
    intro hud member up
    obtain ⟨controller,found⟩ := List.getElem?_of_mem member
    have signIn := only.signIn controller hud found up
    rw [login] at signIn
    contradiction

/-- With the window of one controller taken down, the others have to be down already. -/
theorem modify_dismiss_down_iff (huds : List JGProgressHUD) (controller : Nat)
    (text detailText : String) (delay : Nat) :
    (∀ hud ∈ huds.modify controller (·.dismiss text detailText delay), hud.phase ≠ .shown) ↔
      ∀ other hud, huds[other]? = some hud → hud.phase = .shown → controller = other := by
  constructor
  · intro down other hud found up
    by_contra apart
    have kept : (huds.modify controller (·.dismiss text detailText delay))[other]? = some hud := by
      rw [List.getElem?_modify,found]
      simp [apart]
    exact down hud (List.mem_of_getElem? kept) up
  · intro only hud member up
    obtain ⟨other,found⟩ := List.getElem?_of_mem member
    rw [List.getElem?_modify] at found
    obtain ⟨before,at_other,rfl⟩ := Option.map_eq_some_iff.mp found
    by_cases same : controller = other
    · simp [same,JGProgressHUD.dismiss] at up
    · rw [if_neg same] at up
      exact same (only other before at_other up)

theorem signIn_takesDown (s : App) (attempt : Attempt)
    (signIn : attempt.entrance ≠ .facebookLogin) (text detailText : String) (delay : Nat) :
    TakesDown attempt s (SignInController.dismissHud attempt text detailText delay s) := by
  refine ⟨rfl,rfl,?_⟩
  have login_iff : s.loginHud.phase ≠ .shown ↔
      (s.loginHud.phase = .shown → attempt.entrance = .facebookLogin) := by simp [signIn]
  have signIn_iff :
      (SignInController.dismissHud attempt text detailText delay s).SignInWindowsDown ↔
        ∀ controller hud, s.signInHuds[controller]? = some hud → hud.phase = .shown →
          attempt.entrance = .facebookSignIn controller := by
    rw [SignInWindowsDown,SignInController.dismissHud,SignInController.setHud]
    cases attempt.entrance with
    | facebookSignIn controller =>
      simp only [Entrance.facebookSignIn.injEq]
      exact modify_dismiss_down_iff s.signInHuds controller text detailText delay
    | register | signIn | facebookLogin => simpa [List.mem_iff_getElem?] using forall_comm
  rw [windowsDown_iff,signIn_iff]
  constructor
  · intro down
    exact ⟨login_iff.mp down.1,down.2⟩
  · intro only
    exact ⟨login_iff.mpr only.login,only.signIn⟩

/-- What a completion of `logIn` does, by the answer: on a failure it takes its window down, and
otherwise it goes on with the token, if there is one. -/
inductive LogInOutcome (attempt : Attempt) (answer : FacebookAnswer) (s : App) : App → Prop where
  | failed {next : App} (fails : answer.Fails attempt) (takes : TakesDown attempt s next) :
      LogInOutcome attempt answer s next
  | ended (goes_on : ¬answer.Fails attempt) (token : answer.token = none) :
      LogInOutcome attempt answer s s
  | asked {next : App} (goes_on : ¬answer.Fails attempt) (owner : Identity)
      (token : answer.token = some owner) (member : .graph attempt owner ∈ next.outstanding) :
      LogInOutcome attempt answer s next

theorem login_loggedIn_outcome (s : App) (attempt : Attempt) (answer : FacebookAnswer)
    (login : attempt.entrance = .facebookLogin) :
    LogInOutcome attempt answer s (LoginController.loggedIn attempt answer s) := by
  unfold LoginController.loggedIn
  cases err : answer.err with
  | some err => exact .failed (.inl (by simp [err])) (login_takesDown s attempt login _ _ _)
  | none =>
    by_cases cancelled : answer.isCancelled = true
    · simp only [cancelled,if_true]
      exact .failed (.inr ⟨login,cancelled⟩) (login_takesDown s attempt login _ _ _)
    · have goes_on : ¬answer.Fails attempt := by simp [FacebookAnswer.Fails,err,cancelled]
      simp only [cancelled]
      cases token : answer.token with
      | none => exact .ended goes_on token
      | some owner => exact .asked goes_on owner token (by simp)

/-- `SignInController` does not ask for a cancellation. -/
theorem signIn_loggedIn_outcome (s : App) (attempt : Attempt) (answer : FacebookAnswer)
    (signIn : attempt.entrance ≠ .facebookLogin) :
    LogInOutcome attempt answer s (SignInController.loggedIn attempt answer s) := by
  unfold SignInController.loggedIn
  cases err : answer.err with
  | some err => exact .failed (.inl (by simp [err])) (signIn_takesDown s attempt signIn _ _ _)
  | none =>
    have goes_on : ¬answer.Fails attempt := by simp [FacebookAnswer.Fails,err,signIn]
    cases token : answer.token with
    | none => exact .ended goes_on token
    | some owner => exact .asked goes_on owner token (by simp)

theorem loggedIn_outcome (s : App) (index : Nat) (answer : FacebookAnswer)
    (live : s.stopped = none) (attempt : Attempt)
    (found : s.outstanding[index]? = some (.logIn attempt)) :
    LogInOutcome attempt answer (close index s) (s.step (.loggedIn index answer)) := by
  rw [step_loggedIn s index answer live attempt found]
  split
  · rename_i login
    exact login_loggedIn_outcome _ attempt answer login
  · rename_i signIn
    exact signIn_loggedIn_outcome _ attempt answer signIn

theorem loggedIn_takenDown_iff (s : App) (index : Nat) (answer : FacebookAnswer)
    (live : s.stopped = none) (attempt : Attempt)
    (found : s.outstanding[index]? = some (.logIn attempt)) :
    (s.step (.loggedIn index answer)).TakenDown ↔ ((close index s).Quiet →
      (answer.Fails attempt → s.OnlyUp attempt) ∧
        (¬answer.Fails attempt → answer.token = none → s.WindowsDown)) := by
  have same : SameWindows s (close index s) := ⟨rfl,rfl⟩
  have outcome := loggedIn_outcome s index answer live attempt found
  generalize s.step (.loggedIn index answer) = next at outcome ⊢
  cases outcome with
  | failed fails takes =>
    rw [takes.takenDown_iff live,same.onlyUp_iff]
    simp [fails]
  | ended goes_on token =>
    rw [TakenDown,same.windowsDown_iff]
    simp [goes_on,token,live]
  | asked goes_on owner token member =>
    refine iff_of_true (takenDown_of_pending member trivial) ?_
    simp [goes_on,token]

theorem authenticate_sameWindows (s : App) (index : Nat) (attempt : Attempt) (owner : Identity)
    (answer : Except NSError String) :
    SameWindows s (authenticate attempt owner answer (close index s)) := by
  cases answer <;> exact ⟨rfl,rfl⟩

theorem signedIn_takenDown_iff (s : App) (index : Nat) (answer : Except NSError String)
    (live : s.stopped = none) (attempt : Attempt) (owner : Identity)
    (found : s.outstanding[index]? = some (.signInAndRetrieveData attempt owner)) :
    (s.step (.signedIn index answer)).TakenDown ↔ ((close index s).Quiet →
      match answer with
      | .error _ => s.OnlyUp attempt
      | .ok _ => s.WindowsDown) := by
  have same := authenticate_sameWindows s index attempt owner answer
  have step := step_signedIn s index answer live attempt owner found
  cases answer with
  | ok uid =>
    have stays : s.step (.signedIn index (.ok uid)) =
        authenticate attempt owner (.ok uid) (close index s) := by
      rw [step]
      split <;> rfl
    rw [stays,TakenDown,same.windowsDown_iff]
    simp [live,Quiet,authenticate]
  | error error =>
    have takes : TakesDown attempt (authenticate attempt owner (.error error) (close index s))
        (s.step (.signedIn index (.error error))) := by
      rw [step]
      split
      · rename_i login
        exact login_takesDown _ attempt login _ _ _
      · rename_i signIn
        exact signIn_takesDown _ attempt signIn _ _ _
    rw [takes.takenDown_iff live,same.onlyUp_iff]
    rfl

theorem enrolled_windowsDown_iff (s : App) (attempt : Attempt) (identity : Identity) :
    (LoginController.enrolled attempt identity s).WindowsDown ↔
      match s.world.currentUser with
      | none => s.SignInWindowsDown
      | some _ => s.WindowsDown := by
  have signIn : (LoginController.enrolled attempt identity s).signInHuds = s.signInHuds := by
    simp [LoginController.enrolled]
  cases user : s.world.currentUser with
  | none =>
    have login : (LoginController.enrolled attempt identity s).loginHud =
        s.loginHud.dismiss "Error" "Failed to save user." 3 := by
      simp [LoginController.enrolled,user]
    rw [windowsDown_iff,SignInWindowsDown,signIn,login]
    exact and_iff_right (by simp [JGProgressHUD.dismiss])
  | some account =>
    exact SameWindows.windowsDown_iff ⟨by simp [LoginController.enrolled,user],signIn⟩

theorem graphAnswered_takenDown_iff (s : App) (index : Nat) (result : Option AnyValue)
    (live : s.stopped = none) (attempt : Attempt) (owner : Identity)
    (found : s.outstanding[index]? = some (.graph attempt owner)) :
    (s.step (.graphAnswered index result)).TakenDown ↔ ((close index s).Quiet →
      attempt.entrance = .facebookLogin → (LoginController.graphUser result).isSome →
        match s.world.currentUser with
        | none => s.SignInWindowsDown
        | some _ => s.WindowsDown) := by
  have moved := step_steps s (.graphAnswered index result)
  generalize s.step (.graphAnswered index result) = next at moved ⊢
  cases moved with
  | ignored _ out =>
    rcases out with stopped | disabled
    · simp [live] at stopped
    · exact absurd ⟨attempt,owner,found⟩ disabled
  | enrolled _ _ _ other other_owner other_found login identity usable =>
    obtain ⟨rfl,rfl⟩ : other = attempt ∧ other_owner = owner := by
      simpa [other_found] using found
    have stopped : (LoginController.enrolled other identity (close index s)).stopped = none := by
      simpa [LoginController.enrolled] using live
    have outstanding : (LoginController.enrolled other identity (close index s)).outstanding =
        (close index s).outstanding := by
      simp [LoginController.enrolled]
    have same : SameWindows s (close index s) := ⟨rfl,rfl⟩
    have user : (close index s).world.currentUser = s.world.currentUser := rfl
    rw [TakenDown,enrolled_windowsDown_iff,Quiet,outstanding,same.windowsDown_iff,user]
    simp only [stopped,login,usable,Option.isSome_some,true_imp_iff]
    rfl
  | graphTrapped _ _ _ other other_owner other_found unusable trap =>
    obtain ⟨rfl,rfl⟩ : other = attempt ∧ other_owner = owner := by
      simpa [other_found] using found
    refine iff_of_true (takenDown_of_stopped rfl) ?_
    intro _ login usable
    rw [unusable login] at usable
    contradiction

def Event.AnswersFacebook : Event → Prop
  | .loggedIn .. | .signedIn .. | .graphAnswered .. => True
  | _ => False

/-- No other step takes a Facebook request away or leaves a window up without one. -/
theorem other_takenDown {s next : App} {event : Event} (valid : Wellformed s)
    (down : s.TakenDown) (other : ¬event.AnswersFacebook) (moved : Steps s event next) :
    next.TakenDown := by
  have all : ∀ request ∈ s.outstanding, request.OfFacebook → request ∈ s.outstanding :=
    fun _ member _ => member
  cases moved with
  | ignored => exact down
  | refused _ live =>
    exact down.of_same live (by simpa using all) (by simp) (by simp [SignInWindowsDown])
  | overflowed => exact takenDown_of_stopped rfl
  | registered fields live =>
    refine down.of_same live ?_ ?_ (by simp [SignInWindowsDown,LoginController.registered])
    · intro request member _
      simp [LoginController.registered,member]
    · cases user : s.world.currentUser with
      | none => simp [LoginController.registered,user,JGProgressHUD.dismiss]
      | some account => simp [LoginController.registered,user]
  | facebookLogin =>
    exact takenDown_of_pending (List.mem_append_right _ List.mem_cons_self) trivial
  | facebookSignIn =>
    exact takenDown_of_pending (List.mem_append_right _ List.mem_cons_self) trivial
  | opened live => exact down.of_same live all id (by simp +contextual [SignInWindowsDown,or_imp])
  | createdUser index answer live attempt identity found =>
    have same := authenticate_sameWindows s index attempt identity answer
    refine down.of_same live ?_ (by rw [same.login]; exact id)
      (by rw [SignInWindowsDown,SignInWindowsDown,same.signIn]; exact id)
    intro request member of
    rw [authenticate_outstanding]
    exact mem_close_of member found of id
  | signedInWithEmail _ _ _ attempt fields found =>
    exact (valid.fits _ (List.mem_of_getElem? found)).elim
  | gotDocument => exact takenDown_of_stopped rfl
  | presented _ live | closed live | filled _ live | formReset live | submitted live =>
    exact down.of_same live all id id
  | notLoggedIn | loggedIn | signedIn | enrolled | graphTrapped => exact absurd trivial other

theorem ignored_lastAnswerCloses (s : App) (event : Event)
    (out : s.stopped.isSome ∨ ¬s.Enabled event) : s.LastAnswerCloses event := by
  intro live
  rcases out with stopped | disabled
  · simp [live] at stopped
  · cases event with
    | loggedIn index answer =>
      intro attempt found
      exact absurd ⟨attempt,found⟩ disabled
    | signedIn index answer =>
      intro attempt owner found
      exact absurd ⟨attempt,owner,found⟩ disabled
    | graphAnswered index result =>
      intro attempt owner found
      exact absurd ⟨attempt,owner,found⟩ disabled
    | _ => trivial

theorem step_takenDown_iff (s : App) (event : Event) (valid : Wellformed s)
    (down : s.TakenDown) : (s.step event).TakenDown ↔ s.LastAnswerCloses event := by
  by_cases out : s.stopped.isSome ∨ ¬s.Enabled event
  · rw [step_of_ignored s event out]
    exact iff_of_true down (ignored_lastAnswerCloses s event out)
  · rw [not_or,not_not,Option.not_isSome_iff_eq_none] at out
    obtain ⟨live,enabled⟩ := out
    cases event with
    | loggedIn index answer =>
      obtain ⟨attempt,found⟩ := enabled
      rw [loggedIn_takenDown_iff s index answer live attempt found]
      simp [LastAnswerCloses,live,found]
    | signedIn index answer =>
      obtain ⟨attempt,owner,found⟩ := enabled
      rw [signedIn_takenDown_iff s index answer live attempt owner found]
      simp [LastAnswerCloses,live,found]
    | graphAnswered index result =>
      obtain ⟨attempt,owner,found⟩ := enabled
      rw [graphAnswered_takenDown_iff s index result live attempt owner found]
      simp [LastAnswerCloses,live,found]
    | _ =>
      exact iff_of_true (other_takenDown valid down id (step_steps s _)) fun _ => trivial

/-- In a run of the app, whenever no callback of a Facebook login is pending, both windows have been
taken down: this is so if and only if every completion that leaves none pending closes them. -/
theorem windows_taken_down_iff (world : World) (events : List Event) :
    Throughout step TakenDown (launch world) events ↔
      Along step LastAnswerCloses (launch world) events := by
  apply throughout_iff_along step_wellformed step_takenDown_iff events (launch_wellformed world)
  intro _ _
  exact ⟨by simp [launch],by simp [launch,SignInWindowsDown]⟩

/-- Facebook's dialog is cancelled in `SignInController`. -/
theorem cancelled_sign_in_keeps_window :
    ¬Throughout step TakenDown (launch World.blank)
      [.openSignIn,.facebookSignIn,.loggedIn 0 ⟨none,true,none⟩] := by
  intro all
  have last := all.last rfl (by intro request member; exact (List.not_mem_nil member).elim)
  exact last.signIn _ List.mem_cons_self rfl

end App
end SocialService
