import SocialService.Library.EventMachine
import SocialService.Services

/-! The map screen. A region change starts a reverse-geocoding request whose completion carries no
trace of the request; the location manager and the pin button only move the map, which is a
region change again. -/
namespace SocialService

structure CLPlacemark where
  subThoroughfare : Option String
  thoroughfare : Option String
  country : Option String
  deriving DecidableEq, Repr

structure GeocodeAnswer where
  placemarks : Option (List CLPlacemark)
  error : Option String
  deriving DecidableEq, Repr

/-- The field starts empty: `Loading address..` is only its placeholder. -/
structure LocationViewController where
  addressField : String := ""
  userLocation : CLLocation ℚ := ⟨⟨0,0⟩⟩
  deriving DecidableEq

namespace LocationViewController

def regionDidChange (self : LocationViewController) (center : CLLocationCoordinate2D ℚ) :
    LocationViewController :=
  { self with userLocation := ⟨⟨center.latitude,center.longitude⟩⟩ }

def reverseGeocoded (answer : GeocodeAnswer) : EStateM Trap LocationViewController Unit := do
  if answer.error.isSome then pure ()
  else match answer.placemarks with
    | none => pure ()
    | some placemark =>
      let place ← unwrap "placemark?[0]" placemark.head?
      if place.subThoroughfare.isSome then
        let subThoroughfare ← unwrap "place.subThoroughfare!" place.subThoroughfare
        let thoroughfare ← unwrap "place.thoroughfare!" place.thoroughfare
        let country ← unwrap "place.country!" place.country
        modify fun self => { self with
          addressField := subThoroughfare ++ " \n " ++ thoroughfare ++ " \n " ++ country }

/-- What `sendLocation` hands to its delegate, if the guard lets it through. -/
def sendLocation (self : LocationViewController) : Option (CLLocation ℚ × String) :=
  if self.addressField ≠ "Loading address.." then some (self.userLocation,self.addressField)
  else none

end LocationViewController

def GeocodeAnswer.text (answer : GeocodeAnswer) : Option String :=
  match answer.error, answer.placemarks with
  | none, some (⟨some subThoroughfare,some thoroughfare,some country⟩ :: _) =>
    some (subThoroughfare ++ " \n " ++ thoroughfare ++ " \n " ++ country)
  | _, _ => none

namespace LocationViewController

/-- A completion writes the field if its answer has a text; otherwise it leaves the screen as it
was, trapping where an unguarded part of the placemark is missing. -/
theorem reverseGeocoded_cases (answer : GeocodeAnswer) (self : LocationViewController) :
    (∃ text, answer.text = some text ∧
      (reverseGeocoded answer).run self = .ok () { self with addressField := text }) ∨
    (answer.text = none ∧ ((reverseGeocoded answer).run self = .ok () self ∨
      ∃ trap, (reverseGeocoded answer).run self = .error trap self)) := by
  obtain ⟨placemarks,_ | error⟩ := answer
  · rcases placemarks with _ | (_ | ⟨⟨_ | sub,_ | street,_ | country⟩,rest⟩)
    all_goals simp [reverseGeocoded,GeocodeAnswer.text,unwrap]
  · simp [reverseGeocoded,GeocodeAnswer.text]

end LocationViewController

/-! ### Runs of the map screen -/

structure MapSession where
  screen : LocationViewController := {}
  outstanding : List (CLLocation ℚ) := []
  centre : Option (CLLocation ℚ) := none
  /-- Requests answered with a text, oldest first. -/
  answered : List (CLLocation ℚ × String) := []
  stopped : Option Trap := none

inductive MapEvent where
  | regionChanged (center : CLLocationCoordinate2D ℚ)
  | geocoded (request : Nat) (answer : GeocodeAnswer)
  | confirm

namespace MapSession

def geocode (s : MapSession) (request : Nat) (answer : GeocodeAnswer) : MapSession :=
  match s.outstanding[request]? with
  | none => s
  | some location =>
    let answered := s.answered ++ (answer.text.map fun text => (location,text)).toList
    let outstanding := s.outstanding.eraseIdx request
    match (LocationViewController.reverseGeocoded answer).run s.screen with
    | .ok _ screen => { s with screen, outstanding, answered }
    | .error trap screen => { s with screen, outstanding, answered, stopped := some trap }

/-- `Confirm` leaves the screen itself as it is. -/
def step (s : MapSession) (event : MapEvent) : MapSession :=
  if s.stopped.isSome then s
  else match event with
    | .regionChanged center =>
      let screen := s.screen.regionDidChange center
      { s with
        screen
        outstanding := s.outstanding ++ [screen.userLocation]
        centre := some ⟨center⟩ }
    | .geocoded request answer => s.geocode request answer
    | .confirm => s

def sent (s : MapSession) (event : MapEvent) : Option (CLLocation ℚ × String) :=
  match s.stopped, event with
  | none, .confirm => s.screen.sendLocation
  | _, _ => none

/-- The call carries the latest centre and a text that was formed for it. -/
def SendsMatchingPair (s : MapSession) (event : MapEvent) : Prop :=
  ∀ call, s.sent event = some call → s.centre = some call.1 ∧ call ∈ s.answered

/-- Some request for the latest centre has been answered, and with the text of the answer that
came last: that last answer itself is for the latest centre, or happens to agree with one. -/
def CentreAnswered (s : MapSession) : Prop :=
  ∃ centre text, s.centre = some centre ∧ (centre,text) ∈ s.answered ∧
    s.answered.getLast?.map Prod.snd = some text

/-- `Confirm` is pressed on an answered centre, unless the guard holds the press back. -/
def ConfirmsAnswered (s : MapSession) : MapEvent → Prop
  | .confirm => s.stopped = none → s.screen.addressField ≠ "Loading address.." → s.CentreAnswered
  | _ => True

structure Invariant (s : MapSession) : Prop where
  field : s.screen.addressField = (s.answered.getLast?.map Prod.snd).getD ""
  location : ∀ centre, s.centre = some centre → s.screen.userLocation = centre
  answered : ∀ call ∈ s.answered, s.centre.isSome
  outstanding : ∀ location ∈ s.outstanding, s.centre.isSome

theorem start_invariant : Invariant {} := by constructor <;> simp

theorem geocode_invariant (s : MapSession) (request : Nat) (answer : GeocodeAnswer)
    (valid : Invariant s) : Invariant (s.geocode request answer) := by
  obtain ⟨field,location,answered,outstanding⟩ := valid
  unfold geocode
  cases found : s.outstanding[request]? with
  | none => exact ⟨field,location,answered,outstanding⟩
  | some requested =>
    have moved := outstanding requested (List.mem_of_getElem? found)
    have remaining : ∀ location ∈ s.outstanding.eraseIdx request, s.centre.isSome :=
      fun _ _ => moved
    rcases LocationViewController.reverseGeocoded_cases answer s.screen with
      ⟨text,written,run⟩ | ⟨unwritten,run | ⟨trap,run⟩⟩
    · rw [run]
      exact ⟨by simp [written],location,fun _ _ => moved,remaining⟩
    all_goals
      rw [run]
      exact ⟨by simpa [unwritten] using field,location,fun _ _ => moved,remaining⟩

theorem step_invariant (s : MapSession) (event : MapEvent) (valid : Invariant s) :
    Invariant (s.step event) := by
  unfold step
  split
  · exact valid
  · cases event with
    | regionChanged center =>
      refine ⟨valid.field,?_,fun _ _ => rfl,fun _ _ => rfl⟩
      rintro centre ⟨⟩
      rfl
    | geocoded request answer => exact geocode_invariant s request answer valid
    | confirm => exact valid

theorem sent_eq_some_iff (s : MapSession) (event : MapEvent) (call : CLLocation ℚ × String) :
    s.sent event = some call ↔ event = .confirm ∧ s.stopped = none ∧
      s.screen.addressField ≠ "Loading address.." ∧
      call = (s.screen.userLocation,s.screen.addressField) := by
  unfold sent LocationViewController.sendLocation
  cases s.stopped <;> cases event <;> simp [eq_comm]

/-- The field holds the text of the last answer, so the pair matches where that text was also
formed for the latest centre. -/
theorem pair_answered_iff (s : MapSession) (valid : Invariant s) :
    (s.centre = some s.screen.userLocation ∧
      (s.screen.userLocation,s.screen.addressField) ∈ s.answered) ↔ s.CentreAnswered := by
  constructor
  · intro pair
    obtain ⟨centre,member⟩ := pair
    refine ⟨_,_,centre,member,?_⟩
    obtain ⟨last,isLast⟩ := Option.isSome_iff_exists.mp
      (List.getLast?_isSome.mpr (List.ne_nil_of_mem member))
    rw [valid.field,isLast]
    rfl
  · intro centreAnswered
    obtain ⟨centre,text,isCentre,member,isLast⟩ := centreAnswered
    have written : s.screen.addressField = text := by rw [valid.field,isLast]; rfl
    rw [valid.location centre isCentre,written]
    exact ⟨isCentre,member⟩

theorem matching_iff_answered (s : MapSession) (event : MapEvent) (valid : Invariant s) :
    s.SendsMatchingPair event ↔ s.ConfirmsAnswered event := by
  simp only [SendsMatchingPair,sent_eq_some_iff]
  cases event with
  | confirm =>
    rw [ConfirmsAnswered,← pair_answered_iff s valid]
    constructor
    · intro matching live passed
      exact matching _ ⟨rfl,live,passed,rfl⟩
    · rintro answered _ ⟨_,live,passed,rfl⟩
      exact answered live passed
  | regionChanged => simp [ConfirmsAnswered]
  | geocoded => simp [ConfirmsAnswered]

/-- In a run of the map screen every call of `sendLocation` carries a matching pair if and only if
every press of `Confirm` that is let through finds the latest centre answered. -/
theorem sends_matching_pair_iff (events : List MapEvent) :
    EventMachine.Along step SendsMatchingPair {} events ↔
      EventMachine.Along step ConfirmsAnswered {} events :=
  EventMachine.along_congr step_invariant matching_iff_answered events start_invariant

/-- Confirm before any answer: the empty field is not the placeholder text. -/
theorem confirm_before_answer_mismatched :
    ¬EventMachine.Along step SendsMatchingPair {} [.regionChanged ⟨42,23⟩,.confirm] := by
  intro all
  have matching := all.2.1 (⟨⟨42,23⟩⟩,"") rfl
  exact List.not_mem_nil matching.2

end MapSession

end SocialService
