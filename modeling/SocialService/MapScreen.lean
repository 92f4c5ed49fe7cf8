import SocialService.LocationViewController

/-! The whole map screen: the pin, the position fix and the text field around what
`LocationViewController` hands on. A move of the map, by the user or by the program, is one event,
and the callback that the region has changed is another one, later. `viewFor` makes the pin
draggable, and no callback listens to a drag. -/
namespace SocialService

structure MKPointAnnotation where
  coordinate : CLLocationCoordinate2D ℚ
  title : String
  subtitle : String
  deriving DecidableEq

structure MKMapView where
  centerCoordinate : CLLocationCoordinate2D ℚ
  annotations : List MKPointAnnotation := []
  deriving DecidableEq

structure MapScreen where
  controller : LocationViewController := {}
  mapView : MKMapView
  coordinate : CLLocationCoordinate2D ℚ := ⟨0,0⟩
  anotationSet : Bool := false
  /-- Geocoding requests that are still out. -/
  outstanding : List (CLLocation ℚ) := []
  stopped : Option Trap := none
  deriving DecidableEq

/-- `located` carries `manager.location`, which is there whenever the manager reports one. -/
inductive MapInput where
  | panned (center : CLLocationCoordinate2D ℚ)
  | dragged (coordinate : CLLocationCoordinate2D ℚ)
  | located (location : CLLocationCoordinate2D ℚ)
  | regionChanged
  | geocoded (request : Nat) (answer : GeocodeAnswer)
  | typed (text : String)
  | backToCurrent
  | confirm

namespace MapScreen

def opened (center : CLLocationCoordinate2D ℚ) : MapScreen where
  mapView := ⟨center,[]⟩

def move (self : MapScreen) (center : CLLocationCoordinate2D ℚ) : MapScreen :=
  { self with mapView := { self.mapView with centerCoordinate := center } }

def dragPin (self : MapScreen) (coordinate : CLLocationCoordinate2D ℚ) : MapScreen :=
  { self with
    mapView := { self.mapView with
      annotations := self.mapView.annotations.map fun pin => { pin with coordinate } } }

def didUpdateLocations (self : MapScreen) (location : CLLocationCoordinate2D ℚ) : MapScreen :=
  if self.anotationSet then self
  else { self.move location with coordinate := location, anotationSet := true }

def regionDidChange (self : MapScreen) : MapScreen :=
  let mapView := { self.mapView with annotations := [] }
  let annotation : MKPointAnnotation := ⟨mapView.centerCoordinate,"Rico","illegal"⟩
  let controller := self.controller.regionDidChange annotation.coordinate
  { self with
    mapView := { mapView with annotations := mapView.annotations ++ [ annotation] }
    controller
    outstanding := self.outstanding ++ [controller.userLocation] }

def geocoded (self : MapScreen) (request : Nat) (answer : GeocodeAnswer) : MapScreen :=
  match self.outstanding[request]? with
  | none => self
  | some _ =>
    let outstanding := self.outstanding.eraseIdx request
    match (LocationViewController.reverseGeocoded answer).run self.controller with
    | .ok _ controller => { self with controller, outstanding }
    | .error trap controller => { self with controller, outstanding, stopped := some trap }

def type (self : MapScreen) (text : String) : MapScreen :=
  { self with controller := { self.controller with addressField := text } }

def backToCurrent (self : MapScreen) : MapScreen := self.move self.coordinate

/-- `sendLocation` changes nothing on the screen itself. -/
def step (self : MapScreen) (input : MapInput) : MapScreen :=
  if self.stopped.isSome then self
  else match input with
    | .panned center => self.move center
    | .dragged coordinate => self.dragPin coordinate
    | .located location => self.didUpdateLocations location
    | .regionChanged => self.regionDidChange
    | .geocoded request answer => self.geocoded request answer
    | .typed text => self.type text
    | .backToCurrent => self.backToCurrent
    | .confirm => self

/-- A completion writes the address field at most. -/
theorem geocoded_same (self : MapScreen) (request : Nat) (answer : GeocodeAnswer) :
    (self.geocoded request answer).mapView = self.mapView ∧
      (self.geocoded request answer).coordinate = self.coordinate ∧
      (self.geocoded request answer).anotationSet = self.anotationSet ∧
      (self.geocoded request answer).controller.userLocation = self.controller.userLocation := by
  unfold geocoded
  cases self.outstanding[request]? with
  | none => exact ⟨rfl,rfl,rfl,rfl⟩
  | some _ =>
    rcases LocationViewController.reverseGeocoded_cases answer self.controller with
      ⟨text,_,run⟩ | ⟨_,run | ⟨trap,run⟩⟩
    all_goals
      rw [run]
      exact ⟨rfl,rfl,rfl,rfl⟩

theorem step_of_stopped (self : MapScreen) (input : MapInput) (stopped : self.stopped.isSome) :
    self.step input = self := if_pos stopped

theorem step_of_live (self : MapScreen) (input : MapInput) (live : self.stopped = none) :
    self.step input = match input with
      | .panned center => self.move center
      | .dragged coordinate => self.dragPin coordinate
      | .located location => self.didUpdateLocations location
      | .regionChanged => self.regionDidChange
      | .geocoded request answer => self.geocoded request answer
      | .typed text => self.type text
      | .backToCurrent => self.backToCurrent
      | .confirm => self := by
  have going : ¬self.stopped.isSome := by simp [live]
  exact if_neg going

/-! ### The pin -/

open EventMachine

def pinAt (coordinate : CLLocationCoordinate2D ℚ) : MKPointAnnotation :=
  ⟨coordinate,"Rico","illegal"⟩

/-- There is at most one pin, and none before the region has changed. -/
def OnePin (self : MapScreen) : Prop :=
  (∃ coordinate, self.mapView.annotations = [pinAt coordinate]) ∨
    self.mapView.annotations = [] ∧ self.controller.userLocation = ⟨⟨0,0⟩⟩

/-- The pin stands at the location that `Confirm` sends. -/
def PinTells (self : MapScreen) : Prop :=
  ∀ pin ∈ self.mapView.annotations, pin.coordinate = self.controller.userLocation.coordinate

/-- A pin that is dragged is dropped where it was. -/
def LeavesPin (self : MapScreen) : MapInput → Prop
  | .dragged coordinate => self.stopped = none → self.mapView.annotations ≠ [] →
    coordinate = self.controller.userLocation.coordinate
  | _ => True

theorem step_onePin (self : MapScreen) (input : MapInput) (one : self.OnePin) :
    (self.step input).OnePin := by
  cases live : self.stopped with
  | some trap => rwa [self.step_of_stopped input (by rw [live]; rfl)]
  | none =>
    rw [self.step_of_live input live]
    cases input with
    | panned | typed | backToCurrent | confirm => exact one
    | regionChanged => exact .inl ⟨_,rfl⟩
    | dragged coordinate =>
      rcases one with ⟨place,pin⟩ | ⟨none,start⟩
      · exact .inl ⟨coordinate,by simp [dragPin,pin,pinAt]⟩
      · exact .inr ⟨by simp [dragPin,none],start⟩
    | located location =>
      simp only [didUpdateLocations]
      split <;> exact one
    | geocoded request answer =>
      obtain ⟨mapView,_,_,userLocation⟩ := self.geocoded_same request answer
      simpa only [OnePin,mapView,userLocation] using one

theorem step_pinTells_iff (self : MapScreen) (input : MapInput) (one : self.OnePin)
    (tells : self.PinTells) : (self.step input).PinTells ↔ self.LeavesPin input := by
  cases live : self.stopped with
  | some trap =>
    rw [self.step_of_stopped input (by rw [live]; rfl)]
    refine iff_of_true tells ?_
    cases input <;> simp [LeavesPin,live]
  | none =>
    rw [self.step_of_live input live]
    cases input with
    | panned | typed | backToCurrent | confirm => exact iff_of_true tells trivial
    | regionChanged =>
      refine iff_of_true ?_ trivial
      simp [PinTells,regionDidChange,LocationViewController.regionDidChange]
    | dragged coordinate =>
      rcases one with ⟨place,pin⟩ | ⟨none,_⟩
      · simp [PinTells,dragPin,pin,LeavesPin,live]
      · simp [PinTells,dragPin,none,LeavesPin]
    | located location =>
      refine iff_of_true ?_ trivial
      simp only [didUpdateLocations]
      split <;> exact tells
    | geocoded request answer =>
      obtain ⟨mapView,_,_,userLocation⟩ := self.geocoded_same request answer
      simpa only [PinTells,mapView,userLocation,LeavesPin,iff_true] using tells

/-- In a run of the map screen the pin stands at the location that `Confirm` sends if and only if
no drag moves it: the program never looks where a pin was dragged to. -/
theorem pin_tells_iff (center : CLLocationCoordinate2D ℚ) (inputs : List MapInput) :
    Throughout step PinTells (opened center) inputs ↔
      Along step LeavesPin (opened center) inputs := by
  apply throughout_iff_along step_onePin step_pinTells_iff inputs
  · exact .inr ⟨rfl,rfl⟩
  · intro pin member
    exact (List.not_mem_nil member).elim

/-! ### The first fix -/

/-- The locations that the manager reports while the app runs, oldest first. -/
def fix (self : MapScreen) (input : MapInput) : List (CLLocationCoordinate2D ℚ) :=
  match self.stopped, input with
  | none, .located location => [location]
  | _, _ => []

theorem step_coordinate (self : MapScreen) (input : MapInput) :
    (self.step input).anotationSet = (self.anotationSet || !(self.fix input).isEmpty) ∧
      (self.step input).coordinate =
        if self.anotationSet then self.coordinate
        else (self.fix input).head?.getD self.coordinate := by
  cases live : self.stopped with
  | some trap => simp [self.step_of_stopped input (by rw [live]; rfl),fix,live]
  | none =>
    rw [self.step_of_live input live]
    cases input with
    | located location =>
      simp only [didUpdateLocations]
      cases set : self.anotationSet <;> simp [fix,live,move,set]
    | geocoded request answer =>
      obtain ⟨_,coordinate,anotationSet,_⟩ := self.geocoded_same request answer
      simp [coordinate,anotationSet,fix]
    | _ => simp [fix,move,dragPin,regionDidChange,type,backToCurrent]

theorem run_coordinate (self : MapScreen) (inputs : List MapInput) :
    (run step self inputs).coordinate =
      if self.anotationSet then self.coordinate
      else (emitted step fix self inputs).head?.getD self.coordinate := by
  induction inputs generalizing self with
  | nil => simp [emitted]
  | cons input rest ih =>
    obtain ⟨anotationSet,coordinate⟩ := self.step_coordinate input
    rw [run_cons,ih,emitted,anotationSet,coordinate]
    cases self.anotationSet <;> cases self.fix input <;> simp

/-- After any run, the pin button and the region change that it causes put the pin, and what
`Confirm` sends, at the first location that the manager has reported. -/
theorem pin_button_returns (center : CLLocationCoordinate2D ℚ) (inputs : List MapInput)
    (live : (run step (opened center) inputs).stopped = none) :
    let back := run step (opened center) (inputs ++ [.backToCurrent,.regionChanged])
    let first := (emitted step fix (opened center) inputs).head?.getD ⟨0,0⟩
    back.controller.userLocation = ⟨first⟩ ∧ back.mapView.annotations = [pinAt first] := by
  intro back first
  have coordinate : (run step (opened center) inputs).coordinate = first := run_coordinate _ inputs
  have moved : back = ((run step (opened center) inputs).backToCurrent).regionDidChange := by
    simp only [back,run_append,run_cons,run_nil]
    rw [step_of_live _ _ live,step_of_live _ _ (by exact live)]
  rw [moved,← coordinate]
  exact ⟨rfl,rfl⟩

/-- A map that was moved away from the only fix. -/
theorem pin_button_returns_home :
    let back := run step (opened ⟨0,0⟩)
      ([.located ⟨42,23⟩,.regionChanged,.panned ⟨1,1⟩] ++ [.backToCurrent,.regionChanged])
    back.controller.userLocation = ⟨⟨42,23⟩⟩ ∧ back.mapView.annotations = [pinAt ⟨42,23⟩] :=
  pin_button_returns ⟨0,0⟩ [.located ⟨42,23⟩,.regionChanged,.panned ⟨1,1⟩] rfl

/-! ### What the map session leaves out -/

def sessionEvents (self : MapScreen) : MapInput → List MapEvent
  | .regionChanged => [.regionChanged self.mapView.centerCoordinate]
  | .geocoded request answer => [.geocoded request answer]
  | .confirm => [.confirm]
  | _ => []

structure Shows (self : MapScreen) (session : MapSession) : Prop where
  screen : session.screen = self.controller
  outstanding : session.outstanding = self.outstanding
  stopped : session.stopped = self.stopped
  centre : session.centre = if self.mapView.annotations = [] then none
    else some self.controller.userLocation

def untyped : MapInput → Prop
  | .typed _ => False
  | _ => True

theorem geocoded_shows (self : MapScreen) (session : MapSession) (request : Nat)
    (answer : GeocodeAnswer) (shown : self.Shows session) :
    (self.geocoded request answer).Shows (session.geocode request answer) := by
  obtain ⟨screen,outstanding,stopped,centre⟩ := shown
  unfold geocoded MapSession.geocode
  rw [outstanding,screen]
  cases self.outstanding[request]? with
  | none => exact ⟨screen,outstanding,stopped,centre⟩
  | some location =>
    rcases LocationViewController.reverseGeocoded_cases answer self.controller with
      ⟨text,_,run⟩ | ⟨_,run | ⟨trap,run⟩⟩
    all_goals
      rw [run]
      exact ⟨rfl,rfl,by first | exact stopped | rfl,centre⟩

theorem step_shows (self : MapScreen) (session : MapSession) (input : MapInput)
    (shown : self.Shows session) (hand : untyped input) :
    (self.step input).Shows (run MapSession.step session (self.sessionEvents input)) := by
  obtain ⟨screen,outstanding,stopped,centre⟩ := shown
  cases live : self.stopped with
  | some trap =>
    have still (event : MapEvent) : session.step event = session := by
      simp [MapSession.step,stopped,live]
    rw [self.step_of_stopped input (by rw [live]; rfl)]
    cases input <;> simpa [sessionEvents,still] using ⟨screen,outstanding,stopped,centre⟩
  | none =>
    rw [self.step_of_live input live]
    have going : ¬session.stopped.isSome := by simp [stopped,live]
    cases input with
    | typed => exact hand.elim
    | panned | backToCurrent => exact ⟨screen,outstanding,stopped,centre⟩
    | dragged =>
      refine ⟨screen,outstanding,stopped,?_⟩
      simpa [dragPin,sessionEvents] using centre
    | located =>
      simp only [didUpdateLocations]
      split <;> exact ⟨screen,outstanding,stopped,centre⟩
    | confirm =>
      have same : session.step .confirm = session := by simp [MapSession.step]
      rw [sessionEvents,run_cons,run_nil,same]
      exact ⟨screen,outstanding,stopped,centre⟩
    | regionChanged =>
      rw [sessionEvents,run_cons,run_nil,MapSession.step,if_neg going]
      refine ⟨?_,?_,stopped,?_⟩
      · simp [regionDidChange,screen]
      · simp [regionDidChange,screen,outstanding]
      · simp [regionDidChange,LocationViewController.regionDidChange]
    | geocoded request answer =>
      rw [sessionEvents,run_cons,run_nil,MapSession.step,if_neg going]
      exact self.geocoded_shows session request answer ⟨screen,outstanding,stopped,centre⟩

end MapScreen
end SocialService
