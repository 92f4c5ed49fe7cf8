import SocialService.LoginController
import SocialService.SignInController

/-! What becomes of a registered profile: the keychain has no entry for the phone, and the document
is read through its snapshot. -/
namespace SocialService

namespace FormTableController

theorem showData_user (self : FormTableController) (world : World)
    (passed : self.guardPasses = true) (identity : Identity)
    (known : world.keychain.identity = some identity) :
    (self.showData world).after.controller.user =
      some (.init identity.name identity.password identity.email 0) := by
  have run := showData_of_known self world passed identity known
  obtain ⟨address,location,description,a,l,d⟩ := self.guardPasses_iff.mp passed
  cases category : self.selectedCategory with
  | none => simp [showData,run,submit,unwrap,formImage_eq,a,l,d,category]
  | some =>
    cases session : world.currentUser <;>
      simp [showData,run,submit,unwrap,formImage_eq,a,l,d,category,session]

end FormTableController

structure Registration where
  fields : RegistrationFields
  valid : fields.Valid
  phone : Int
  number : intOfString fields.phone = some phone

namespace Registration
open LoginController

def user (registration : Registration) : UserEntity :=
  .init registration.fields.firstName registration.fields.password registration.fields.email
    registration.phone

theorem prepare_run (registration : Registration) (attempt : Attempt) (s : App) :
    (prepare attempt registration.fields Storyboard.loginShowForm).run s =
      .ok () (registered attempt registration.fields registration.phone s) := by
  obtain ⟨fields,valid,phone,number⟩ := registration
  rcases prepare_cases attempt fields s with
    ⟨invalid,_⟩ | ⟨_,overflow,_⟩ | ⟨_,value,found,run⟩
  · contradiction
  · simp [number] at overflow
  · obtain rfl : phone = value := by simpa [number] using found
    exact run

theorem registered_user (registration : Registration) (attempt : Attempt) (s : App) :
    (registered attempt registration.fields registration.phone s).user =
      some registration.user := by
  unfold registered saveUserIntoFirebaseDatabase
  split <;> rfl

/-- Submitting a form, in any world with this keychain, rebuilds this user. -/
def RebuiltFromKeychain (keychain : Keychain) (user : Option UserEntity) : Prop :=
  ∀ (form : FormTableController) (world : World), world.keychain = keychain →
    form.guardPasses = true → (form.showData world).after.controller.user = user

/-- Signing in to an account whose document is this one writes these values to the keychain. -/
def RestoredFromDocument (document : Document) (fields : RegistrationFields) (s : App) : Prop :=
  ∀ uid, ∃ next, (SignInController.gotDocument (some ⟨uid,some document⟩)).run s = .ok () next ∧
    next.world.keychain =
      s.world.keychain.saveUser fields.firstName fields.password fields.email

/-- Registering in the state `s` leaves a profile that the keychain gives back, and that its
document gives back when it is read in the state `later`. -/
def Survives (registration : Registration) (s later : App) : Prop :=
  ∀ attempt next,
    (prepare attempt registration.fields Storyboard.loginShowForm).run s = .ok () next →
      RebuiltFromKeychain next.world.keychain next.user ∧
        RestoredFromDocument (dictionaryValues next.user) registration.fields later

theorem rebuilt_iff (registration : Registration) (attempt : Attempt) (s : App) :
    RebuiltFromKeychain
        (registered attempt registration.fields registration.phone s).world.keychain
        (registered attempt registration.fields registration.phone s).user ↔
      registration.phone = 0 := by
  rw [registered_user]
  have saved : (registered attempt registration.fields
      registration.phone s).world.keychain.identity = some ⟨registration.fields.firstName,
        registration.fields.password,registration.fields.email⟩ := by
    simp [registered]
  generalize (registered attempt registration.fields
    registration.phone s).world.keychain = keychain at *
  constructor
  · intro rebuilt
    let form : FormTableController :=
      { formAddress := some "", formLocation := some ⟨⟨0,0⟩⟩, formDescription := some "" }
    have same := rebuilt form { World.blank with keychain } rfl rfl
    rw [form.showData_user _ rfl _ saved] at same
    simpa [user,UserEntity.init] using same.symm
  · rintro zero form _ rfl passed
    rw [form.showData_user _ passed _ saved,user,zero]

theorem not_restored (document : Document) (fields : RegistrationFields) (s : App) :
    ¬RestoredFromDocument document fields s := by
  intro restored
  obtain ⟨next,run,_⟩ := restored ""
  obtain ⟨trap,trapped⟩ := SignInController.gotDocument_traps (some ⟨"",some document⟩) s
  rw [run] at trapped
  contradiction

/-- No registered profile survives both stores. -/
theorem profile_lost (registration : Registration) (s later : App) :
    ¬registration.Survives s later := by
  intro survives
  have run := registration.prepare_run ⟨0,.register registration.fields⟩ s
  exact not_restored _ _ later (survives _ _ run).2

def ana : Registration where
  fields := ⟨"Ana","secret","ana@abv.bg","0888123456"⟩
  valid := by decide
  phone := 888123456
  number := by decide

theorem ana_profile_lost : ¬ana.Survives { world := .blank } { world := .blank } := by
  intro survives
  have rebuilt := (survives ⟨0,.register ana.fields⟩ _ (ana.prepare_run _ _)).1
  rw [rebuilt_iff] at rebuilt
  contradiction

end Registration
end SocialService
