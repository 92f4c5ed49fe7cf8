import SocialService.AppShape

/-! Whose data a run can change: Firestore is written under the current user only, and that user
changes only when Firebase Auth accepts one. -/
namespace SocialService
namespace App
open EventMachine

/-- Signed in when the app was launched, or accepted since. -/
def Knows (s : App) (world : World) (uid : String) : Prop :=
  world.currentUser.map Account.uid = some uid ∨ ∃ attempt, .accepted attempt uid ∈ s.log

theorem Knows.grow {s next : App} {world : World} {uid : String} (knows : s.Knows world uid)
    (log : s.log ⊆ next.log) : next.Knows world uid := by
  rcases knows with launched | ⟨attempt,member⟩
  · exact .inl launched
  · exact .inr ⟨attempt,log member⟩

/-- Profiles and documents of nobody else have changed, and documents have only been added. -/
structure Contained (world : World) (s : App) : Prop where
  session : ∀ account, s.world.currentUser = some account → s.Knows world account.uid
  users : ∀ uid, s.world.users uid = world.users uid ∨ s.Knows world uid
  forms : ∃ added, s.world.forms = world.forms ++ added ∧
    ∀ document ∈ added, s.Knows world document.1

theorem launch_contained (world : World) : Contained world (launch world) where
  session := by
    intro account signedIn
    exact .inl (by simp [show world.currentUser = some account from signedIn])
  users := fun _ => .inl rfl
  forms := ⟨[],by simp [launch],by simp⟩

/-- The stores of the second state, where only the profile of the current user may be new. -/
structure Writes (s next : App) : Prop where
  log : s.log ⊆ next.log
  currentUser : next.world.currentUser = s.world.currentUser
  users : ∀ uid, next.world.users uid = s.world.users uid ∨
    s.world.currentUser.map Account.uid = some uid
  forms : next.world.forms = s.world.forms

theorem Contained.of_writes {world : World} {s next : App} (contained : Contained world s)
    (writes : Writes s next) : Contained world next := by
  obtain ⟨session,users,added,forms,known⟩ := contained
  have grow {uid : String} (knows : s.Knows world uid) : next.Knows world uid :=
    knows.grow writes.log
  refine ⟨?_,?_,added,writes.forms.trans forms,fun document member => grow (known document member)⟩
  · intro account signedIn
    exact grow (session account (writes.currentUser ▸ signedIn))
  · intro uid
    rcases writes.users uid with same | own
    · exact (users uid).imp same.trans grow
    · obtain ⟨account,signedIn,rfl⟩ := Option.map_eq_some_iff.mp own
      exact .inr (grow (session account signedIn))

theorem Writes.of_same {s next : App} (world : next.world = s.world) (log : s.log ⊆ next.log) :
    Writes s next :=
  ⟨log,by rw [world],fun _ => .inl (by rw [world]),by rw [world]⟩

theorem save_writes (attempt : Attempt) (s : App) :
    Writes s (LoginController.saveUserIntoFirebaseDatabase attempt s) := by
  refine ⟨by simp,by simp,?_,?_⟩
  · intro uid
    unfold LoginController.saveUserIntoFirebaseDatabase
    cases signedIn : s.world.currentUser with
    | none => exact .inl rfl
    | some account =>
      by_cases own : uid = account.uid
      · exact .inr (by rw [own]; rfl)
      · exact .inl (Function.update_of_ne own _ _)
  · unfold LoginController.saveUserIntoFirebaseDatabase
    cases s.world.currentUser <;> rfl

theorem push_writes (attempt : Attempt) (s : App) : Writes s (pushForm attempt s) :=
  .of_same (pushForm_world attempt s) (by simp)

theorem keychain_writes (name password email : String) (s : App) :
    Writes s (saveUserIntoKeychain name password email s) :=
  ⟨fun _ member => member,rfl,fun _ => .inl rfl,rfl⟩

theorem Contained.authenticate {world : World} {s : App} (contained : Contained world s)
    (attempt : Attempt) (identity : Identity) (answer : Except NSError String) (index : Nat) :
    Contained world (authenticate attempt identity answer (close index s)) := by
  cases answer with
  | error error => exact contained.of_writes (.of_same rfl (by simp [App.authenticate]))
  | ok uid =>
    obtain ⟨_,users,added,forms,known⟩ := contained
    have log : s.log ⊆ (App.authenticate attempt identity (.ok uid) (close index s)).log := by
      simp [App.authenticate]
    refine ⟨?_,fun other => (users other).imp_right (·.grow log),added,forms,
      fun document member => (known document member).grow log⟩
    rintro account ⟨⟩
    exact .inr ⟨attempt,by simp [App.authenticate]⟩

theorem steps_contained {world : World} {s next : App} {event : Event} (valid : Wellformed s)
    (contained : Contained world s) (moved : Steps s event next) : Contained world next := by
  have same {next : App} (stays : next.world = s.world) (log : s.log ⊆ next.log) :
      Contained world next := contained.of_writes (.of_same stays log)
  cases moved with
  | ignored => exact contained
  | refused => exact same (by simp) (by simp)
  | registered fields live on valid phone number =>
    have asked : Contained world (request (.createUser (s.attempt (.register fields))
        ⟨fields.firstName,fields.password,fields.email⟩)
          (LoginController.setUser
            (.init fields.firstName fields.password fields.email phone) s.counted)) :=
      same rfl fun _ member => member
    exact ((asked.of_writes (keychain_writes _ _ _ _)).of_writes (save_writes _ _)).of_writes
      (push_writes _ _)
  | enrolled index result live attempt owner found entrance identity usable =>
    have closed : Contained world (LoginController.setUser
        (.init identity.name identity.password identity.email 0) (close index s)) :=
      same rfl fun _ member => member
    exact ((closed.of_writes (save_writes _ _)).of_writes (keychain_writes _ _ _ _)).of_writes
      (push_writes _ _)
  | createdUser index answer live attempt identity =>
    exact contained.authenticate attempt identity answer index
  | signedIn index answer live attempt owner =>
    have accepted := contained.authenticate attempt owner answer index
    exact ⟨accepted.session,accepted.users,accepted.forms⟩
  | submitted live on =>
    obtain ⟨session,users,added,forms,known⟩ := contained
    cases s.form.showData_outcome s.world with
    | submitted passed entry account _ values signedIn _ _ _ appended stored =>
      refine ⟨?_,?_,added ++ [(account.uid,entry.document)],?_,?_⟩
      · rw [stored]; exact session
      · rw [stored]; exact users
      · simp [stored,World.addDocument,forms]
      · intro document member
        rcases List.mem_append.mp member with old | new
        · exact known document old
        · obtain rfl := List.mem_singleton.mp new
          exact session account signedIn
    | alerted _ _ _ _ _ kept | silent _ _ _ _ _ _ kept | noCategory _ _ _ _ _ _ _ kept
    | noSession _ _ _ _ _ _ _ _ _ _ kept => exact same kept fun _ member => member
  | signedInWithEmail _ _ _ attempt fields found | gotDocument _ _ _ attempt fields found =>
    exact (valid.fits _ (List.mem_of_getElem? found)).elim
  | overflowed | presented | facebookLogin | facebookSignIn | opened | closed | notLoggedIn
  | loggedIn | graphTrapped | filled | formReset => exact same rfl fun _ member => member

/-- A run of the app changes no profile and adds no document but those of accounts that were signed
in when it was launched or that Firebase Auth has accepted in the run, and removes none. -/
theorem accounts_contained (world : World) (events : List Event) :
    Contained world (run step (launch world) events) := by
  let inv (s : App) : Prop := Wellformed s ∧ Contained world s
  have keeps (s : App) (event : Event) (holds : inv s) : inv (s.step event) :=
    ⟨step_wellformed s event holds.1,steps_contained holds.1 holds.2 (step_steps s event)⟩
  have start : inv (launch world) := ⟨launch_wellformed world,launch_contained world⟩
  exact (run_invariant keeps events start).2

end App
end SocialService
