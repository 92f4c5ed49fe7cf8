import SocialService.AppSteps
import SocialService.Library.EventMachine

/-! What holds in every state of the app: which screens there can be, and that requests and log
entries belong to attempts that were counted. -/
namespace SocialService

def Request.Fits : Request → Prop
  | .createUser attempt _ => ∃ fields, attempt.entrance = .register fields
  | .logIn attempt | .signInAndRetrieveData attempt _ | .graph attempt _ =>
    attempt.entrance = .facebookLogin ∨ ∃ controller, attempt.entrance = .facebookSignIn controller
  | .signIn .. | .getDocument .. => False

namespace App

/-- The request to Firebase Auth of this attempt has completed without an error. -/
def Accepted (s : App) (attempt : Attempt) : Prop := ∃ uid, .accepted attempt uid ∈ s.log

structure Screens (s : App) : Prop where
  navigation : s.navigation = [.login] ∨ ∃ attempt, s.navigation = [.form attempt]
  presented : s.presented = [] ∨ s.presented = [.signIn] ∨
    ∃ attempt, s.presented = [.signIn,.form attempt]

structure Wellformed (s : App) : Prop where
  screens : Screens s
  log : ∀ entry ∈ s.log, entry.attempt.id < s.attempts
  outstanding : ∀ request ∈ s.outstanding, request.attempt.id < s.attempts
  fits : ∀ request ∈ s.outstanding, request.Fits

theorem launch_wellformed (world : World) : Wellformed (launch world) where
  screens := ⟨.inl rfl,.inl rfl⟩
  log := by simp [launch]
  outstanding := by simp [launch]
  fits := by simp [launch]

theorem Screens.visible_login_iff {s : App} (screens : Screens s) :
    s.visible = some .login ↔ s.presented = [] ∧ s.navigation = [.login] := by
  obtain ⟨navigation | ⟨_,navigation⟩,presented | presented | ⟨_,presented⟩⟩ := screens <;>
    simp [visible,navigation,presented]

theorem Screens.visible_signIn_iff {s : App} (screens : Screens s) :
    s.visible = some .signIn ↔ s.presented = [.signIn] := by
  obtain ⟨navigation | ⟨_,navigation⟩,presented | presented | ⟨_,presented⟩⟩ := screens <;>
    simp [visible,navigation,presented]

theorem Screens.of_same {s next : App} (screens : Screens s)
    (navigation : next.navigation = s.navigation) (presented : next.presented = s.presented) :
    Screens next :=
  ⟨navigation ▸ screens.navigation,presented ▸ screens.presented⟩

theorem Screens.push {s : App} (screens : Screens s) (attempt : Attempt) :
    Screens (pushForm attempt s) := by
  refine ⟨?_,by rw [pushForm_presented]; exact screens.presented⟩
  unfold pushForm
  split
  · exact .inr ⟨attempt,rfl⟩
  · exact screens.navigation

theorem steps_screens {s next : App} {event : Event} (valid : Wellformed s)
    (moved : Steps s event next) : Screens next := by
  have screens := valid.screens
  cases moved with
  | refused fields _ _ _ message =>
    have noted : Screens (note (.alerted (s.attempt (.register fields)) message) s.counted) :=
      screens.of_same rfl rfl
    exact noted.push _
  | registered fields _ _ _ phone =>
    have saved : Screens
        (LoginController.registered (s.attempt (.register fields)) fields phone s.counted) :=
      screens.of_same (by simp [LoginController.registered]) (by simp [LoginController.registered])
    exact saved.push _
  | enrolled index result _ attempt owner found _ identity =>
    have saved : Screens (saveUserIntoKeychain identity.name identity.password identity.email
        (LoginController.saveUserIntoFirebaseDatabase attempt
          (LoginController.setUser (.init identity.name identity.password identity.email 0)
            (close index s)))) :=
      screens.of_same (by simp) (by simp)
    exact saved.push _
  | presented fields _ on =>
    have top := screens.visible_signIn_iff.mp on
    exact ⟨screens.navigation,.inr (.inr ⟨_,by simp [top]; rfl⟩)⟩
  | opened _ on =>
    have bare := (screens.visible_login_iff.mp on).1
    exact ⟨screens.navigation,.inr (.inl (by simp [bare]))⟩
  | closed _ on =>
    have top := screens.visible_signIn_iff.mp on
    exact ⟨screens.navigation,.inl (by simp [top])⟩
  | createdUser | signedIn => exact screens.of_same (by simp) (by simp)
  | signedInWithEmail _ _ _ attempt fields found =>
    exact (valid.fits _ (List.mem_of_getElem? found)).elim
  | ignored | overflowed | facebookLogin | facebookSignIn | notLoggedIn | loggedIn | graphTrapped
  | gotDocument | filled | formReset | submitted => exact screens.of_same rfl rfl

structure Grows (s next : App) : Prop where
  attempts : s.attempts ≤ next.attempts
  log : ∃ entries, next.log = s.log ++ entries ∧ ∀ entry ∈ entries, entry.attempt.id < next.attempts
  outstanding : ∃ kept requests, next.outstanding = kept ++ requests ∧ kept ⊆ s.outstanding ∧
    ∀ request ∈ requests, request.attempt.id < next.attempts ∧ request.Fits

theorem close_subset (s : App) (index : Nat) : (close index s).outstanding ⊆ s.outstanding :=
  fun _ member => List.mem_of_mem_eraseIdx member

/-- Answering one request leaves the other requests outstanding. -/
theorem mem_close_of_ne {s : App} {index : Nat} {request answered : Request}
    (member : request ∈ s.outstanding) (found : s.outstanding[index]? = some answered)
    (different : request ≠ answered) : request ∈ (close index s).outstanding := by
  obtain ⟨other,at_other⟩ := List.getElem?_of_mem member
  refine List.mem_eraseIdx_iff_getElem?.mpr ⟨other,?_,at_other⟩
  rintro rfl
  exact different (Option.some.inj (at_other.symm.trans found))

theorem mem_close_of {p : Request → Prop} {s : App} {index : Nat} {request answered : Request}
    (member : request ∈ s.outstanding) (found : s.outstanding[index]? = some answered)
    (holds : p request) (fails : ¬p answered) : request ∈ (close index s).outstanding := by
  refine mem_close_of_ne member found ?_
  intro same
  exact fails (same ▸ holds)

theorem steps_grows {s next : App} {event : Event} (valid : Wellformed s)
    (moved : Steps s event next) : Grows s next := by
  have owned {index : Nat} {request : Request} (found : s.outstanding[index]? = some request) :
      request.attempt.id < s.attempts := valid.outstanding _ (List.mem_of_getElem? found)
  have noLog : ∃ entries, s.log = s.log ++ entries ∧
      ∀ entry ∈ entries, entry.attempt.id < next.attempts := ⟨[],by simp,by simp⟩
  have same : ∃ kept requests, s.outstanding = kept ++ requests ∧ kept ⊆ s.outstanding ∧
      ∀ request ∈ requests, request.attempt.id < next.attempts ∧ request.Fits :=
    ⟨s.outstanding,[],by simp,fun _ member => member,by simp⟩
  have closed (index : Nat) : ∃ kept requests, (close index s).outstanding = kept ++ requests ∧
      kept ⊆ s.outstanding ∧
      ∀ request ∈ requests, request.attempt.id < next.attempts ∧ request.Fits :=
    ⟨_,[],(List.append_nil _).symm,close_subset s index,by simp⟩
  cases moved with
  | ignored | filled | formReset | submitted | opened | closed => exact ⟨Nat.le_refl _,noLog,same⟩
  | overflowed | presented => exact ⟨Nat.le_succ _,noLog,same⟩
  | notLoggedIn | graphTrapped | gotDocument => exact ⟨Nat.le_refl _,noLog,closed _⟩
  | refused =>
    refine ⟨by simp,⟨[_],by simp; rfl,by simp [LogEntry.attempt,attempt]⟩,by simpa using same⟩
  | registered fields =>
    refine ⟨by simp [LoginController.registered],⟨_,by simp [LoginController.registered]; rfl,?_⟩,
      s.outstanding,[_],by simp [LoginController.registered]; rfl,fun _ member => member,?_⟩
    · simp only [Option.mem_toList,Option.map_eq_some_iff]
      rintro entry ⟨write,_,rfl⟩
      simp [LoginController.registered,LogEntry.attempt,attempt]
    · simp [Request.attempt,attempt,LoginController.registered,Request.Fits]
  | facebookLogin =>
    refine ⟨Nat.le_succ _,noLog,s.outstanding,[_],rfl,fun _ member => member,?_⟩
    simp [LoginController.loginWithFacebookButton,Request.attempt,attempt,Request.Fits]
  | facebookSignIn =>
    refine ⟨Nat.le_succ _,noLog,s.outstanding,[_],rfl,fun _ member => member,?_⟩
    simp [SignInController.loginWithFacebookButton,Request.attempt,attempt,Request.Fits]
  | createdUser index answer _ attempt identity found =>
    have id : attempt.id < s.attempts := owned found
    exact ⟨by simp,⟨_,authenticate_log ..,by simpa using id⟩,by simpa using closed index⟩
  | signedIn index answer _ attempt owner found =>
    have id : attempt.id < s.attempts := owned found
    exact ⟨by simp,⟨_,authenticate_log ..,by simpa using id⟩,by simpa using closed index⟩
  | loggedIn index answer _ attempt found owner =>
    have id : attempt.id < s.attempts := owned found
    refine ⟨Nat.le_refl _,noLog,_,[_,_],List.append_assoc _ _ _,close_subset s index,?_⟩
    have fits : attempt.entrance = .facebookLogin ∨
        ∃ controller, attempt.entrance = .facebookSignIn controller :=
      valid.fits _ (List.mem_of_getElem? found)
    simp [Request.attempt,Request.Fits,id,fits]
  | enrolled index result _ attempt owner found _ identity =>
    have id : attempt.id < s.attempts := owned found
    refine ⟨by simp [LoginController.enrolled],⟨_,by simp [LoginController.enrolled]; rfl,?_⟩,
      by simpa [LoginController.enrolled] using closed index⟩
    simp only [Option.mem_toList,Option.map_eq_some_iff]
    rintro entry ⟨write,_,rfl⟩
    simpa [LoginController.enrolled,LogEntry.attempt] using id
  | signedInWithEmail _ _ _ attempt fields found =>
    exact (valid.fits _ (List.mem_of_getElem? found)).elim

theorem step_wellformed (s : App) (event : Event) (valid : Wellformed s) :
    Wellformed (s.step event) := by
  have moved := step_steps s event
  obtain ⟨attempts,⟨entries,log,new⟩,kept,requests,outstanding,old,made⟩ := steps_grows valid moved
  refine ⟨steps_screens valid moved,?_,?_,?_⟩
  · intro entry member
    rcases List.mem_append.mp (log ▸ member) with before | added
    · exact Nat.lt_of_lt_of_le (valid.log entry before) attempts
    · exact new entry added
  · intro request member
    rcases List.mem_append.mp (outstanding ▸ member) with before | added
    · exact Nat.lt_of_lt_of_le (valid.outstanding request (old before)) attempts
    · exact (made request added).1
  · intro request member
    rcases List.mem_append.mp (outstanding ▸ member) with before | added
    · exact valid.fits request (old before)
    · exact (made request added).2

theorem run_wellformed (world : World) (events : List Event) :
    Wellformed (EventMachine.run step (launch world) events) :=
  EventMachine.run_invariant step_wellformed events (launch_wellformed world)

end App
end SocialService
