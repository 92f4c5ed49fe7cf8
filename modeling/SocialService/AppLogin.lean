import SocialService.FacebookLoginRuns
import SocialService.RequestLedger

/-! The app over the Facebook pod. Each press makes a manager of its own, and what the pod calls
are the completions of `logIn`, each with the name of its attempt. -/
namespace SocialService

def Request.login : Request → Option Nat
  | .logIn attempt => some attempt.id
  | .createUser .. | .signInAndRetrieveData .. | .graph .. | .signIn .. | .getDocument .. => none

def Attempt.asksFacebook (attempt : Attempt) : Bool :=
  match attempt.entrance with
  | .facebookLogin | .facebookSignIn _ => true
  | .register _ | .signIn _ => false

namespace App

def logins (s : App) : List Nat := s.outstanding.filterMap (·.login)

def pressed (s : App) (event : Event) : List Attempt :=
  (s.started event).filter (·.asksFacebook)

def Event.answer : Event → Option FacebookAnswer
  | .loggedIn _ answer => some answer
  | _ => none

end App

structure AppLogin where
  app : App
  sdk : FBSDK

namespace AppLogin
open EventMachine

inductive Input where
  | app (event : App.Event) (around : Surroundings)
  | sdk (event : FBSDK.Event)

def logIn (around : Surroundings) (sdk : FBSDK) (attempt : Attempt) : FBSDK :=
  (sdk.step .made).step
    (.logIn sdk.managers.length ["email","public_profile"] attempt.id around)

def told (app : App) (event : App.Event) : List (Option Nat × FacebookAnswer) :=
  event.answer.toList.map fun answer => ((app.answered event).head?.bind (·.login),answer)

section Facebook
variable (describe : FBSDKLoginError → NSError) (owner : FBSDKAccessToken → Identity)

def answerOf (answer : LoginAnswer) : FacebookAnswer where
  err := answer.error.map describe
  isCancelled := answer.result.any (·.isCancelled)
  token := answer.currentAccessToken.map owner

def tells (answer : LoginAnswer) : Option Nat × FacebookAnswer :=
  (some answer.handler,answerOf describe owner answer)

def completion (app : App) (answer : LoginAnswer) : App.Event :=
  .loggedIn (app.outstanding.findIdx (·.login = some answer.handler))
    (answerOf describe owner answer)

def deliver (app : App) (answers : List LoginAnswer) : App :=
  answers.foldl (fun app answer => app.step (completion describe owner app answer)) app

/-- The pod alone calls the completions of `logIn`; a login may be answered at once. After a trap
nothing happens any more. -/
def step (s : AppLogin) (input : Input) : AppLogin :=
  if s.app.stopped.isSome then s
  else match input with
    | .app event around =>
      if event.answer.isSome then s
      else
        let sdk := (s.app.pressed event).foldl (logIn around) s.sdk
        ⟨deliver describe owner (s.app.step event) (sdk.answers.drop s.sdk.answers.length),sdk⟩
    | .sdk event =>
      let sdk := s.sdk.handle event
      ⟨deliver describe owner s.app (sdk.answers.drop s.sdk.answers.length),sdk⟩

/-- The process starts without managers; a token and a challenge may be left from before. -/
def launch (world : World) (currentAccessToken : Option FBSDKAccessToken)
    (left : Option String) : AppLogin where
  app := App.launch world
  sdk := { currentAccessToken, expectedChallenge := left }

/-! ### The logins that the app waits for -/

theorem logins_close {app : App} {index : Nat} {request : Request}
    (found : app.outstanding[index]? = some request) :
    app.logins.Perm (request.login.toList ++ (App.close index app).logins) := by
  obtain ⟨bound,rfl⟩ := List.getElem?_eq_some_iff.mp found
  refine ((List.getElem_cons_eraseIdx_perm bound).filterMap (·.login)).symm.trans ?_
  cases named : app.outstanding[index].login <;>
    simp [App.logins,App.close,named]

/-- Only a completion of `logIn` answers a login. -/
theorem answered_login (app : App) (event : App.Event) (unanswered : event.answer = none) :
    ∀ request ∈ app.answered event, request.login = none := by
  intro request member
  unfold App.answered at member
  split at member
  · simp at member
  · obtain ⟨_,answers⟩ := List.mem_filter.mp member
    cases event <;> cases request <;> simp_all [App.Event.answers,App.Event.answer,Request.login]

/-- A press that asks Facebook waits for one answer more. -/
theorem step_logins (app : App) (event : App.Event) (valid : app.Wellformed)
    (unanswered : event.answer = none) :
    (app.step event).logins.Perm ((app.pressed event).map (·.id) ++ app.logins) := by
  have traffic := app.step_traffic event valid
  have others := answered_login app event unanswered
  have closed {index : Nat} {request : Request} (found : app.outstanding[index]? = some request)
      (other : request.login = none)
      (outstanding : (app.step event).outstanding = app.outstanding.eraseIdx index) :
      (app.step event).logins.Perm app.logins := by
    have without := logins_close found
    rw [other] at without
    rw [App.logins,outstanding]
    exact without.symm
  rw [App.pressed]
  generalize app.started event = started, app.ended event = ended,
    app.answered event = answered at traffic others ⊢
  cases traffic with
  | quiet _ outstanding =>
    rw [App.logins,outstanding]
    exact .refl _
  | registered attempt _ fields entrance _ identity outstanding =>
    simp [App.logins,outstanding,Attempt.asksFacebook,entrance,Request.login]
  | asked attempt _ entrance _ outstanding =>
    have asks : attempt.asksFacebook = true := by
      rcases entrance with entrance | ⟨controller,entrance⟩ <;>
        simp [Attempt.asksFacebook,entrance]
    have more : (app.step event).logins = app.logins ++ [attempt.id] := by
      simp [App.logins,outstanding,Request.login]
    rw [more,List.filter_cons_of_pos asks]
    exact List.perm_append_comm
  | settled index request found _ _ _ _ _ outstanding =>
    exact closed found (others request List.mem_cons_self) outstanding
  | wentOn index attempt | ended index attempt =>
    have mistaken := others _ List.mem_cons_self
    simp [Request.login] at mistaken
  | enrolled index attempt owner found _ outstanding => exact closed found rfl outstanding

theorem pressed_register (app : App) (fields : RegistrationFields) :
    app.pressed (.register fields) = [] := by
  rw [App.pressed,App.started]
  split
  · rfl
  · split <;> rfl

/-- A press asks Facebook once, under a new name, and does not trap. -/
theorem pressed_cases (app : App) (event : App.Event) :
    app.pressed event = [] ∨ ∃ attempt, app.pressed event = [attempt] ∧
      attempt.id = app.attempts ∧ (app.step event).attempts = app.attempts + 1 ∧
        (app.step event).stopped = none := by
  have moved := app.step_steps event
  generalize app.step event = next at moved ⊢
  cases moved with
  | ignored _ out =>
    rw [App.pressed,(app.ignored_traffic event out).1]
    exact .inl rfl
  | refused | overflowed | registered => exact .inl (pressed_register app _)
  | facebookLogin live on =>
    refine .inr ⟨app.attempt .facebookLogin,?_,rfl,rfl,live⟩
    simp [App.pressed,App.started,live,on,Attempt.asksFacebook,App.attempt]
  | facebookSignIn live on =>
    refine .inr ⟨app.attempt (.facebookSignIn app.signInController),?_,rfl,rfl,live⟩
    simp [App.pressed,App.started,live,on,Attempt.asksFacebook,App.attempt]
  | presented | opened | closed | createdUser | notLoggedIn | loggedIn | signedIn | enrolled
  | graphTrapped | signedInWithEmail | gotDocument | filled | formReset | submitted =>
    exact .inl (by simp [App.pressed,App.started])

/-- The pod calls a handler that the app waits for, and the app goes on. -/
theorem completion_step (app : App) (live : app.stopped = none) (answer : LoginAnswer)
    (awaited : answer.handler ∈ app.logins) :
    let event := completion describe owner app answer
    told app event = [tells describe owner answer] ∧ (app.step event).stopped = none ∧
      app.logins.Perm (answer.handler :: (app.step event).logins) := by
  intro event
  obtain ⟨request,member,named⟩ := List.mem_filterMap.mp awaited
  let index := app.outstanding.findIdx (·.login = some answer.handler)
  have bound : index < app.outstanding.length :=
    List.findIdx_lt_length_of_exists ⟨request,member,by simpa using named⟩
  have here : app.outstanding[index].login = some answer.handler := by
    simpa using List.findIdx_getElem (w := bound)
  have found := List.getElem?_eq_getElem bound
  have closed := logins_close found
  rw [here] at closed
  cases login : app.outstanding[index] with
  | logIn attempt =>
    rw [login] at found
    have moved := App.loggedIn_steps app index (answerOf describe owner answer) live attempt found
    have ends : app.answered event = [.logIn attempt] := by
      simp [event,completion,App.answered,live,App.Event.index,App.Event.answers,found,index]
    have named : event = .loggedIn index (answerOf describe owner answer) := rfl
    refine ⟨?_,?_⟩
    · rw [told,ends,named]
      simp [App.Event.answer,tells,← here,login]
    rw [named]
    generalize app.step (.loggedIn index (answerOf describe owner answer)) = next at moved ⊢
    cases moved with
    | ignored _ out => exact absurd ⟨attempt,found⟩ (out.resolve_left (by simp [live]))
    | notLoggedIn => exact ⟨live,closed⟩
    | loggedIn =>
      refine ⟨live,closed.trans (.of_eq ?_)⟩
      simp [App.logins,Request.login]
  | createUser | signInAndRetrieveData | graph | signIn | getDocument =>
    simp [login,Request.login] at here

/-! ### Runs -/

/-- What the pod calls while the app waits for it is a run of the app. -/
theorem deliver_run (answers : List LoginAnswer) (app : App) (live : app.stopped = none)
    (rest : List Nat) (awaited : app.logins.Perm (answers.map (·.handler) ++ rest)) :
    ∃ events, deliver describe owner app answers = run App.step app events ∧
      emitted App.step told app events = answers.map (tells describe owner) ∧
        (deliver describe owner app answers).logins.Perm rest := by
  induction answers generalizing app with
  | nil => exact ⟨[],rfl,rfl,awaited⟩
  | cons answer later ih =>
    have member : answer.handler ∈ app.logins := awaited.mem_iff.mpr (by simp)
    obtain ⟨first,goesOn,closed⟩ := completion_step describe owner app live answer member
    obtain ⟨events,delivered,answered,left⟩ :=
      ih _ goesOn ((List.perm_cons _).mp (closed.symm.trans awaited))
    refine ⟨completion describe owner app answer :: events,delivered,?_,left⟩
    rw [emitted,first,answered]
    rfl

structure Refines (world : World) (s : AppLogin) (events : List App.Event) : Prop where
  app : s.app = run App.step (App.launch world) events
  told : emitted App.step told (App.launch world) events =
    s.sdk.answers.map (tells describe owner)

structure Sound (world : World) (given : List Nat) (s : AppLogin) : Prop where
  refines : ∃ events, Refines describe owner world s events
  armed : s.app.logins.Perm (given ++ s.sdk.armed)
  calls : (given ++ s.sdk.calls).Nodup
  known : ∀ id ∈ given ++ s.sdk.calls, id < s.app.attempts

variable {describe owner}

theorem launch_sound (world : World) (currentAccessToken : Option FBSDKAccessToken)
    (left : Option String) :
    Sound describe owner world [] (launch world currentAccessToken left) where
  refines := ⟨[],rfl,rfl⟩
  armed := .refl _
  calls := .nil
  known := by simp [launch,FBSDK.calls,FBSDK.armed]

theorem Sound.wellformed {world : World} {given : List Nat} {s : AppLogin}
    (sound : Sound describe owner world given s) : s.app.Wellformed := by
  obtain ⟨events,refines⟩ := sound.refines
  rw [refines.app]
  exact App.run_wellformed world events

theorem run_attempts (app : App) (valid : app.Wellformed) (events : List App.Event) :
    app.attempts ≤ (run App.step app events).attempts := by
  let inv (s : App) : Prop := s.Wellformed ∧ app.attempts ≤ s.attempts
  suffices holds : inv (run App.step app events) from holds.2
  refine run_invariant ?_ events ⟨valid,Nat.le_refl _⟩
  rintro s event ⟨valid,most⟩
  have grows := App.steps_grows valid (s.step_steps event)
  exact ⟨s.step_wellformed event valid,most.trans grows.attempts⟩

/-- The app takes a step of its own. -/
theorem Sound.own {world : World} {s : AppLogin} (sound : Sound describe owner world [] s)
    (event : App.Event) (unanswered : event.answer = none) :
    Sound describe owner world ((s.app.pressed event).map (·.id))
      ⟨s.app.step event,s.sdk⟩ := by
  have valid := sound.wellformed
  have grows := (App.steps_grows valid (s.app.step_steps event)).attempts
  have fresh : s.app.attempts ∉ s.sdk.calls := fun member =>
    Nat.lt_irrefl _ (sound.known _ member)
  obtain ⟨events,refines⟩ := sound.refines
  refine ⟨⟨events ++ [event],?_,?_⟩,?_,?_,?_⟩
  · rw [run_append,← refines.app]
    rfl
  · rw [emitted_append,refines.told]
    simp [emitted,told,unanswered]
  · exact (step_logins s.app event valid unanswered).trans (sound.armed.append_left _)
  · rcases pressed_cases s.app event with none | ⟨attempt,once,new,_⟩
    · simpa [none] using sound.calls
    · simpa [once,new,fresh] using sound.calls
  · intro id member
    rcases pressed_cases s.app event with none | ⟨attempt,once,new,more,_⟩
    · exact (sound.known id (by simpa [none] using member)).trans_le grows
    · rw [once,List.map_singleton,List.singleton_append,List.mem_cons] at member
      rcases member with rfl | member
      · simp [new,more]
      · exact (sound.known id member).trans_le grows

/-- The pod keeps its handlers, and what it has called is delivered. -/
theorem Sound.pod {world : World} {given : List Nat} {s : AppLogin}
    (sound : Sound describe owner world given s) (live : s.app.stopped = none) {sdk : FBSDK}
    (keeps : FBSDK.Keeps given s.sdk sdk) :
    Sound describe owner world []
      ⟨deliver describe owner s.app (sdk.answers.drop s.sdk.answers.length),sdk⟩ := by
  have moved := keeps.calls
  have valid := sound.wellformed
  obtain ⟨answers,grown,kept⟩ := keeps
  obtain ⟨events,refines⟩ := sound.refines
  obtain ⟨later,delivered,answered,armed⟩ :=
    deliver_run describe owner answers s.app live _ (sound.armed.trans kept)
  rw [grown,List.drop_left]
  refine ⟨⟨events ++ later,?_,?_⟩,armed,moved.nodup_iff.mpr sound.calls,?_⟩
  · rw [run_append,← refines.app]
    exact delivered
  · rw [emitted_append,refines.told,← refines.app,answered,grown,List.map_append]
  · intro id member
    rw [delivered]
    exact (sound.known id (moved.mem_iff.mp member)).trans_le (run_attempts s.app valid later)

theorem step_sound {world : World} (s : AppLogin) (input : Input)
    (sound : Sound describe owner world [] s) :
    Sound describe owner world [] (step describe owner s input) := by
  unfold step
  split
  · exact sound
  · rename_i going
    have live : s.app.stopped = none := by simpa using going
    cases input with
    | app event around =>
      dsimp only
      split
      · exact sound
      · rename_i unanswered
        have own := sound.own event (by simpa using unanswered)
        rcases pressed_cases s.app event with none | ⟨attempt,once,_,_,live⟩
        · rw [none] at own ⊢
          simpa [deliver] using own
        · rw [once] at own ⊢
          exact own.pod live (FBSDK.logIn_made ..)
    | sdk event => exact sound.pod live (FBSDK.changes_keeps (FBSDK.handle_changes s.sdk event))

/-- In every run of the app over the pod, whatever is pressed, and whatever the system and Facebook
bring about in any order: the app itself takes a run of its own machine, whose completions of
`logIn` are what the pod has called, in that order, each ending the login that its handler belongs
to; the logins that the app waits for are those that the managers are still to answer; and no login
is answered twice. -/
theorem logins_answered (describe : FBSDKLoginError → NSError)
    (owner : FBSDKAccessToken → Identity) (world : World)
    (currentAccessToken : Option FBSDKAccessToken) (left : Option String) (inputs : List Input) :
    let s := run (step describe owner) (launch world currentAccessToken left) inputs
    (∃ events, s.app = run App.step (App.launch world) events ∧
      emitted App.step told (App.launch world) events =
        s.sdk.answers.map (tells describe owner)) ∧
      s.app.logins.Perm s.sdk.armed ∧ (s.sdk.armed ++ s.sdk.answers.map (·.handler)).Nodup := by
  intro s
  have sound : Sound describe owner world [] s :=
    run_invariant (fun s input => step_sound s input) inputs (launch_sound world _ left)
  obtain ⟨events,refines⟩ := sound.refines
  exact ⟨⟨events,refines.app,refines.told⟩,sound.armed,sound.calls⟩

end Facebook

end AppLogin
end SocialService
