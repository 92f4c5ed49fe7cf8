import SocialService.Library.EventMachine
import SocialService.Region

/-! The classes of the `Model` folder that the controllers build and pass on. -/
namespace SocialService

structure UserEntity where
  name : Option String
  password : Option String
  userEmail : Option String
  userPhone : Option Int
  deriving DecidableEq, Repr

def UserEntity.init (first pas email : String) (phone : Int) : UserEntity :=
  ⟨some first,some pas,some email,some phone⟩

/-- `UIImage()` has no data. -/
structure UIImage where
  data : List UInt8 := []
  deriving DecidableEq, Repr

structure CLLocation (K : Type) where
  coordinate : CLLocationCoordinate2D K
  deriving DecidableEq

structure FormData (K : Type) where
  formUser : Option UserEntity
  formImage : Option UIImage
  formAddress : Option String
  formLocation : Option (CLLocation K)
  formCategory : Option String
  formDescription : Option String
  deriving DecidableEq

namespace FormData
variable {K : Type}

def init (user : UserEntity) (image : UIImage) (address : String) (location : CLLocation K)
    (category description : String) : FormData K :=
  ⟨some user,some image,some address,some location,some category,some description⟩

def getLocation (self : FormData K) : Option (CLLocation K) := self.formLocation

end FormData

/-- `init` never assigns `forms`, so the array stays absent. -/
structure Municipality (K : Type) where
  name : Option String
  location : Option (CLLocationCoordinate2D K)
  forms : Option (List (FormData K))
  deriving DecidableEq

namespace Municipality
variable {K : Type}

def init (name : String) (location : CLLocationCoordinate2D K) : Municipality K :=
  ⟨some name,some location,none⟩

def getLocation (self : Municipality K) : Option (CLLocationCoordinate2D K) := self.location

/-- The optional chain appends only to an array that is there. -/
def sendForm (self : Municipality K) (form : FormData K) : Municipality K :=
  { self with forms := self.forms.map (· ++ [form]) }

def stored (self : Municipality K) : List (FormData K) := self.forms.getD []

/-- The form was made at the very place that the municipality returns. -/
def Holds (self : Municipality K) (form : FormData K) : Prop :=
  self.getLocation.isSome ∧ form.getLocation.map CLLocation.coordinate = self.getLocation

instance [DecidableEq K] (self : Municipality K) (form : FormData K) :
    Decidable (self.Holds form) := inferInstanceAs (Decidable (_ ∧ _))

/-! ### Runs of `sendForm` -/

theorem run_sendForm_forms (name : String) (location : CLLocationCoordinate2D K)
    (forms : List (FormData K)) :
    (EventMachine.run sendForm (init name location) forms).forms = none := by
  have keeps (self : Municipality K) (form : FormData K) (absent : self.forms = none) :
      (self.sendForm form).forms = none := by
    rw [sendForm,absent]
    rfl
  exact EventMachine.run_invariant keeps forms rfl

/-- A municipality keeps what it is sent if and only if it is sent nothing. -/
theorem keeps_forms_iff (name : String) (location : CLLocationCoordinate2D K)
    (forms : List (FormData K)) :
    (EventMachine.run sendForm (init name location) forms).stored = forms ↔ forms = [] := by
  rw [stored,run_sendForm_forms]
  constructor
  · intro kept
    exact kept.symm
  · rintro rfl
    rfl

theorem only_form_lost :
    let form : FormData Rat :=
      .init (.init "Ana" "secret" "ana@abv.bg" 0) {} "Rakovski 1" ⟨⟨42,23⟩⟩ "Streets" "A pothole"
    (EventMachine.run sendForm (init "Sofia" ⟨42,23⟩) [form]).stored ≠ [form] := by
  intro form kept
  have stored := congrArg List.length kept
  contradiction

end Municipality

end SocialService
