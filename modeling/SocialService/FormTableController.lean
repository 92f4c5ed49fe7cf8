import SocialService.DataController
import SocialService.DescriptionCell
import SocialService.LocationViewController
import SocialService.Storyboard

/-! The form: what its cells and screens put into it, and what `prepare(for:sender:)` makes of it
when the user submits. -/
namespace SocialService

structure FormTableController where
  user : Option UserEntity := none
  /-- `cameraImage.image` -/
  cameraImage : Option UIImage := none
  formAddress : Option String := none
  formLocation : Option (CLLocation ℚ) := none
  selectedCategory : Option String := none
  formDescription : Option String := none
  descriptionCell : DescriptionCell := {}
  /-- `locationCell.addressLabel?.text` -/
  addressLabel : String := ""
  deriving DecidableEq

namespace FormTableController

def categories : List String := ["Streets","Pollution","Facilities","Construction","Other"]

/-- The getter falls back to an empty image. -/
def formImage (self : FormTableController) : Option UIImage :=
  match self.cameraImage with
  | some image => some image
  | none => some {}

/-- So the third nil check of the guard never fails. -/
theorem formImage_eq (self : FormTableController) :
    self.formImage = some (self.cameraImage.getD {}) := by
  unfold formImage
  cases self.cameraImage <;> rfl

def descriptionUpdated (self : FormTableController) (text : String) : FormTableController :=
  { self with formDescription := some text }

/-- `formAddress.didSet` copies the address to the label. -/
def setLocation (self : FormTableController) (location : CLLocation ℚ) (address : String) :
    FormTableController :=
  { self with formLocation := some location, formAddress := some address, addressLabel := address }

/-- What the user can do on the form and on the screens that it opens. `confirmLocation` is a press
of `Confirm` on a map screen that holds this location and this text; `changeText` may be any change
of the text that the field shows. -/
inductive Action where
  | pickPhoto (image : UIImage)
  | cancelPhoto
  | confirmLocation (location : CLLocation ℚ) (address : String)
  | leaveMap
  | selectRow (row : Fin categories.length)
  | beginEditing
  | changeText (edit : String → String)
  | endEditing

/-- The call to `setLocation(location:address:)`, when the map screen makes it. -/
def Action.confirms : Action → Option (CLLocation ℚ × String)
  | .confirmLocation location address =>
    LocationViewController.sendLocation { addressField := address, userLocation := location }
  | _ => none

/-- `Confirm` is a bar button of the map. -/
def Action.onBar : Action → Bool
  | .confirmLocation .. => true
  | _ => false

/-- The text that the user has entered himself: a change acts on it as it acts on the text shown. -/
def Action.enters (entered : String) : Action → String
  | .changeText edit => edit entered
  | _ => entered

def act (self : FormTableController) : Action → FormTableController
  | .pickPhoto image => { self with cameraImage := some image }
  | .cancelPhoto | .leaveMap => self
  | .confirmLocation location address =>
    match (Action.confirmLocation location address).confirms with
    | some call => self.setLocation call.1 call.2
    | none => self
  | .selectRow row => { self with selectedCategory := some categories[row] }
  | .beginEditing => { self with descriptionCell := self.descriptionCell.textViewDidBeginEditing }
  | .changeText edit =>
    let descriptionCell := { self.descriptionCell with text := edit self.descriptionCell.text }
    descriptionUpdated { self with descriptionCell } descriptionCell.textViewDidChange
  | .endEditing =>
    let ended := self.descriptionCell.textViewDidEndEditing
    descriptionUpdated { self with descriptionCell := ended.1 } ended.2

/-! ### Submitting -/

structure Submission where
  controller : FormTableController
  world : World
  destination : DataController ℚ
  alert : Option String := none

def showAlert : EStateM Trap Submission Unit :=
  modify fun s => { s with
    alert := some "Make sure you have added a photo, address and description" }

def dictionaryValues (userName address category description : String) : Document :=
  [("user",.string userName),("address",.string address),("category",.string category),
    ("description",.string description)]

def guardPasses (self : FormTableController) : Bool :=
  self.formAddress.isSome && self.formImage.isSome && self.formLocation.isSome &&
    self.formDescription.isSome

/-- The part of `prepare` behind the guard and the three keychain reads. -/
def submit (userName password email : String) : EStateM Trap Submission Unit := do
  modify fun s => { s with controller :=
    { s.controller with user := some (.init userName password email 0) } }
  let self ← Submission.controller <$> get
  let user ← unwrap "user!" self.user
  let image ← unwrap "formImage!" self.formImage
  let address ← unwrap "formAddress!" self.formAddress
  let location ← unwrap "formLocation!" self.formLocation
  let category ← unwrap "selectedCategory!" self.selectedCategory
  let description ← unwrap "formDescription!" self.formDescription
  let template := FormData.init user image address location category description
  modify fun s => { s with destination := s.destination.append template }
  let currentUser ← (World.currentUser ∘ Submission.world) <$> get
  let uid ← unwrap "uid!" (currentUser.map Account.uid)
  modify fun s => { s with
    world := s.world.addDocument uid (dictionaryValues userName address category description) }

/-- `prepare(for:sender:)`; towards the map it only sets the delegate. -/
def prepare (segue : Segue) : EStateM Trap Submission Unit := do
  if segue.destination = .dataController then
    let s ← get
    if s.controller.guardPasses then
      match s.world.keychain "name", s.world.keychain "password", s.world.keychain "email" with
      | some userName, some password, some email => submit userName password email
      | _, _, _ => pure ()
    else showAlert

/-- A press of `Submit`. UIKit presents the pop-up after `prepare` unless `prepare` has started to
present the alert. -/
structure SubmitResult where
  after : Submission
  trap : Option Trap
  popUp : Bool

def showData (self : FormTableController) (world : World) : SubmitResult :=
  match (prepare Storyboard.showData).run ⟨self,world,.init,none⟩ with
  | .ok _ after => ⟨after,none,after.alert.isNone⟩
  | .error trap after => ⟨after,some trap,false⟩

def SubmitResult.appended (result : SubmitResult) : List (FormData ℚ) :=
  result.after.destination.forms

structure Entry where
  identity : Identity
  image : UIImage
  address : String
  location : CLLocation ℚ
  category : String
  description : String

def Entry.form (entry : Entry) : FormData ℚ :=
  .init (.init entry.identity.name entry.identity.password entry.identity.email 0) entry.image
    entry.address entry.location entry.category entry.description

def Entry.document (entry : Entry) : Document :=
  dictionaryValues entry.identity.name entry.address entry.category entry.description

structure Entry.Of (form : FormTableController) (entry : Entry) : Prop where
  image : entry.image = form.cameraImage.getD {}
  address : form.formAddress = some entry.address
  location : form.formLocation = some entry.location
  category : form.selectedCategory = some entry.category
  description : form.formDescription = some entry.description

inductive Outcome (self : FormTableController) (world : World) (result : SubmitResult) : Prop where
  | alerted (blocked : self.guardPasses = false) (noTrap : result.trap = none)
      (noPopUp : result.popUp = false) (shown : result.after.alert.isSome)
      (nothing : result.appended = []) (kept : result.after.world = world)
  | silent (passed : self.guardPasses = true) (unknown : world.keychain.identity = none)
      (noTrap : result.trap = none) (popUp : result.popUp = true)
      (noAlert : result.after.alert = none)
      (nothing : result.appended = []) (kept : result.after.world = world)
  | noCategory (passed : self.guardPasses = true) (known : world.keychain.identity.isSome)
      (unselected : self.selectedCategory = none)
      (trap : result.trap = some (.forcedUnwrap "selectedCategory!"))
      (noPopUp : result.popUp = false) (noAlert : result.after.alert = none)
      (nothing : result.appended = []) (kept : result.after.world = world)
  | noSession (passed : self.guardPasses = true) (known : world.keychain.identity.isSome)
      (selected : self.selectedCategory.isSome) (signedOut : world.currentUser = none)
      (trap : result.trap = some (.forcedUnwrap "uid!"))
      (noPopUp : result.popUp = false) (noAlert : result.after.alert = none) (entry : Entry)
      (values : entry.Of self) (appended : result.appended = [entry.form]) (kept : result.after.world = world)
  | submitted (passed : self.guardPasses = true) (entry : Entry) (account : Account)
      (known : world.keychain.identity = some entry.identity) (values : entry.Of self)
      (signedIn : world.currentUser = some account) (noTrap : result.trap = none)
      (popUp : result.popUp = true) (noAlert : result.after.alert = none)
      (appended : result.appended = [entry.form])
      (added : result.after.world = world.addDocument account.uid entry.document)

theorem guardPasses_iff (self : FormTableController) : self.guardPasses = true ↔
    ∃ address location description, self.formAddress = some address ∧
      self.formLocation = some location ∧ self.formDescription = some description := by
  simp only [guardPasses,formImage_eq,Bool.and_eq_true,Option.isSome_iff_exists]
  constructor
  · rintro ⟨⟨⟨⟨address,a⟩,_⟩,⟨location,l⟩⟩,⟨description,d⟩⟩
    exact ⟨address,location,description,a,l,d⟩
  · rintro ⟨address,location,description,a,l,d⟩
    exact ⟨⟨⟨⟨address,a⟩,⟨_,rfl⟩⟩,⟨location,l⟩⟩,⟨description,d⟩⟩

@[simp] theorem append_init_forms (form : FormData ℚ) :
    ((DataController.init (K := ℚ)).append form).forms = [form] := by
  rw [DataController.append_forms]; rfl

/-- Without the three keychain entries `prepare` returns in silence. -/
theorem showData_of_unknown (self : FormTableController) (world : World)
    (passed : self.guardPasses = true) (unknown : world.keychain.identity = none) :
    self.showData world = ⟨⟨self,world,.init,none⟩,none,true⟩ := by
  have run : (prepare Storyboard.showData).run ⟨self,world,.init,none⟩ =
      .ok () ⟨self,world,.init,none⟩ := by
    simp only [Keychain.identity] at unknown
    simp only [prepare,Storyboard.showData,↓reduceIte,EStateM.run_bind,EStateM.run_get,passed]
    split
    · simp_all
    · rfl
  simp only [showData,run]
  rfl

theorem showData_of_known (self : FormTableController) (world : World)
    (passed : self.guardPasses = true) (identity : Identity)
    (known : world.keychain.identity = some identity) :
    (prepare Storyboard.showData).run ⟨self,world,.init,none⟩ =
      (submit identity.name identity.password identity.email).run ⟨self,world,.init,none⟩ := by
  simp only [Keychain.identity] at known
  simp only [prepare,Storyboard.showData,↓reduceIte,EStateM.run_bind,EStateM.run_get,passed]
  split at known
  · obtain rfl := Option.some.inj known
    simp_all
  · contradiction

theorem showData_outcome (self : FormTableController) (world : World) :
    Outcome self world (self.showData world) := by
  cases guarded : self.guardPasses with
  | false =>
    have run : self.showData world = ⟨⟨self,world,.init,
        some "Make sure you have added a photo, address and description"⟩,none,false⟩ := by
      simp [showData,prepare,Storyboard.showData,guarded,showAlert]
    rw [run]
    exact .alerted guarded rfl rfl rfl rfl rfl
  | true =>
    cases keys : world.keychain.identity with
    | none =>
      rw [showData_of_unknown self world guarded keys]
      exact .silent guarded keys rfl rfl rfl rfl rfl
    | some identity =>
      have known : world.keychain.identity.isSome := by rw [keys]; rfl
      obtain ⟨address,location,description,a,l,d⟩ := self.guardPasses_iff.mp guarded
      have run := showData_of_known self world guarded identity keys
      let user := UserEntity.init identity.name identity.password identity.email 0
      let signed : FormTableController := { self with user := some user }
      cases category : self.selectedCategory with
      | none =>
        have result : self.showData world = ⟨⟨signed,world,.init,none⟩,
            some (.forcedUnwrap "selectedCategory!"),false⟩ := by
          simp [showData,run,submit,unwrap,formImage_eq,a,l,d,category,signed,user]
        rw [result]
        exact .noCategory guarded known category rfl rfl rfl rfl rfl
      | some category' =>
        let entry : Entry := ⟨identity,self.cameraImage.getD {},address,location,category',description⟩
        have values : entry.Of self := ⟨rfl,a,l,category,d⟩
        have selected : self.selectedCategory.isSome := by rw [category]; rfl
        cases session : world.currentUser with
        | none =>
          have result : self.showData world =
              ⟨⟨signed,world,DataController.init.append entry.form,none⟩,
                some (.forcedUnwrap "uid!"),false⟩ := by
            simp [showData,run,submit,unwrap,formImage_eq,a,l,d,category,session,signed,user,entry,Entry.form]
          rw [result]
          exact .noSession guarded known selected session rfl rfl rfl entry values
            (append_init_forms entry.form) rfl
        | some account =>
          have result : self.showData world =
              ⟨⟨signed,world.addDocument account.uid entry.document,
                DataController.init.append entry.form,none⟩,none,true⟩ := by
            simp [showData,run,submit,unwrap,formImage_eq,a,l,d,category,session,signed,user,entry,Entry.form,
              Entry.document]
          rw [result]
          exact .submitted guarded entry account keys values session rfl rfl rfl
            (append_init_forms entry.form) rfl

end FormTableController

end SocialService
