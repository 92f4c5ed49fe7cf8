import SocialService.KeychainRuns
import SocialService.SharedIdentity

/-! The app over the keychain of the device: what it has saved, read through the wrapper. -/
namespace SocialService
namespace App
open EventMachine KeychainAccess

def saved (s : App) (event : Event) : List Identity :=
  if s.stopped.isSome then []
  else match event with
    | .register fields =>
      if s.visible = some .login ∧ fields.Valid ∧ (intOfString fields.phone).isSome then
        [⟨fields.firstName,fields.password,fields.email⟩]
      else []
    | .graphAnswered index result =>
      match s.outstanding[index]? with
      | some (.graph attempt _) =>
        if attempt.entrance = .facebookLogin then (LoginController.graphUser result).toList else []
      | _ => []
    | _ => []

theorem saved_of_ignored (s : App) (event : Event) (out : s.stopped.isSome ∨ ¬s.Enabled event) :
    s.saved event = [] := by
  rcases out with stopped | off
  · simp [saved,stopped]
  · unfold saved
    split
    · rfl
    · cases event with
      | register fields =>
        have hidden : s.visible ≠ some .login := off
        simp [hidden]
      | graphAnswered index result =>
        simp only
        split
        · rename_i found
          exact absurd ⟨_,_,found⟩ off
        · rfl
      | _ => rfl

/-- The keychain changes by these calls, and at no other time. -/
theorem step_keychain (s : App) (event : Event) (valid : Wellformed s) :
    (s.step event).world.keychain = s.world.keychain.saves (s.saved event) := by
  have moved := step_steps s event
  generalize s.step event = next at moved ⊢
  cases moved with
  | ignored _ out =>
    rw [saved_of_ignored s event out]
    rfl
  | refused fields live on invalid =>
    simp [saved,live,invalid,Keychain.saves]
  | overflowed fields live on valid overflow => simp [saved,live,overflow,Keychain.saves]
  | registered fields live on valid phone number =>
    simp [saved,live,on,valid,number,Keychain.saves,LoginController.registered]
  | enrolled index result live attempt owner found entrance identity usable =>
    simp [saved,live,found,entrance,usable,Keychain.saves,LoginController.enrolled]
  | graphTrapped index result live attempt owner found unusable =>
    by_cases entrance : attempt.entrance = .facebookLogin
    · simp [saved,live,found,entrance,unusable entrance,Keychain.saves]
    · simp [saved,live,found,entrance,Keychain.saves]
  | signedInWithEmail _ _ _ attempt fields found =>
    exact (valid.fits _ (List.mem_of_getElem? found)).elim
  | submitted live =>
    have kept := (s.form.showData_stores s.world).1
    simpa [saved,live,Keychain.saves] using kept
  | createdUser index answer live => simp [saved,live,Keychain.saves]
  | signedIn index answer live => simp [saved,live,Keychain.saves]
  | facebookLogin | facebookSignIn =>
    simp only [saved,ite_self]
    rfl
  | presented | opened | closed | notLoggedIn | loggedIn | gotDocument | filled | formReset =>
    simp [saved,Keychain.saves]

theorem run_keychain (world : World) (events : List Event) :
    (run step (launch world) events).world.keychain =
      world.keychain.saves (emitted step saved (launch world) events) := by
  let inv (calls : List Identity) (s : App) : Prop :=
    s.Wellformed ∧ s.world.keychain = world.keychain.saves calls
  suffices holds : inv (emitted step saved (launch world) events) (run step (launch world) events)
    from holds.2
  apply run_emitted ?_ events ⟨launch_wellformed world,rfl⟩
  rintro calls s event ⟨valid,held⟩
  refine ⟨step_wellformed s event valid,?_⟩
  rw [step_keychain s event valid,held,Keychain.saves,Keychain.saves,Keychain.saves,run_append]

/-- The uses of the subscript by which a run of the app writes. -/
def accesses (world : World) (events : List Event) : List Access :=
  (emitted step saved (launch world) events).flatMap Device.saveUserIntoKeychain

/-- On a device that holds the keychain of the launch and refuses nothing, in every run of the app:
the service of the app holds what the app machine keeps, the three reads of the form find its
identity, and every other service is as it was. -/
theorem keychain_on_device (world : World) (device : Device) (granted : device.Granted)
    (held : device.texts "https://firebase.google.com/" = world.keychain) (events : List Event) :
    let after := run Device.step device (accesses world events)
    let keychain := (run step (launch world) events).world.keychain
    after.texts "https://firebase.google.com/" = keychain ∧
      (Device.readIdentity after).1 = keychain.identity ∧
        ∀ service, service ≠ "https://firebase.google.com/" →
          after.texts service = device.texts service := by
  intro after keychain
  obtain ⟨still,texts⟩ : after.Granted ∧ ∀ service, after.texts service = _ :=
    Device.saves_granted granted (emitted step saved (launch world) events)
  have own : after.texts "https://firebase.google.com/" = keychain := by
    rw [texts,if_pos rfl,held,← run_keychain]
  have served : after.refusesRead = false := by
    simp [Device.refusesRead,still.refusal,still.later.refusal,still.later.later.refusal]
  refine ⟨own,?_,?_⟩
  · rw [Device.readIdentity_eq,served,own]
    rfl
  · intro service other
    rw [texts,if_neg other]

/-- An empty device, and one registration. -/
theorem registration_on_device :
    let events : List Event := [.register ⟨"Ana","secret","ana@abv.bg","888123456"⟩]
    let after := run Device.step ⟨∅,[]⟩ (accesses .blank events)
    (Device.readIdentity after).1 = some ⟨"Ana","secret","ana@abv.bg"⟩ :=
  (keychain_on_device .blank ⟨∅,[]⟩ (fun _ member => (List.not_mem_nil member).elim) rfl
    [.register ⟨"Ana","secret","ana@abv.bg","888123456"⟩]).2.1.trans (by decide +kernel)

end App
end SocialService
