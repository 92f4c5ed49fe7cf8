import SocialService.CompleteForms
import SocialService.FormRefinement

/-! Runs of the form with all its screens: which form an input reaches, how often a form is
submitted, and what becomes of a form without a navigation controller. -/
namespace SocialService

def FormTableController.values (self : FormTableController) : FormTableController :=
  { self with user := none }

namespace FormTableController

@[simp] theorem act_values (self : FormTableController) (action : Action) :
    (self.act action).values = self.values.act action := by
  cases action with
  | confirmLocation location address =>
    simp only [act]
    cases (Action.confirmLocation location address).confirms <;> rfl
  | _ => rfl

/-- `Submit` writes the user and nothing else of the form. -/
theorem showData_values (self : FormTableController) (world : World) :
    (self.showData world).after.controller.values = self.values := by
  cases guarded : self.guardPasses with
  | false => simp [showData,prepare,Storyboard.showData,guarded,showAlert]
  | true =>
    cases keys : world.keychain.identity with
    | none => rw [showData_of_unknown self world guarded keys]
    | some identity =>
      obtain ⟨address,location,description,a,l,d⟩ := self.guardPasses_iff.mp guarded
      have run := showData_of_known self world guarded identity keys
      cases category : self.selectedCategory with
      | none => simp [showData,run,submit,unwrap,formImage_eq,a,l,d,category,values]
      | some category =>
        cases session : world.currentUser <;>
          simp [showData,run,submit,unwrap,formImage_eq,a,l,d,category,session,values]

end FormTableController

namespace FormFlow
open EventMachine FormTableController

/-! ### Which form an input reaches -/

/-- The forms that come of a form: an action changes the last one, and `none` stands for a fresh
one. -/
def book : FormTableController → List (Option Action) → List FormTableController
  | form, [] => [form]
  | form, some action :: rest => book (form.act action) rest
  | form, none :: rest => form :: book {} rest

def entries (s : FormFlow) (input : Input) : List (Option Action) :=
  (s.appEvents input).filterMap fun
    | .fill action => some (some action)
    | .resetForm => if s.navigated then some none else none
    | _ => none

def values (s : FormFlow) : List FormTableController :=
  (s.replaced ++ [s.form]).map fun form => form.controller.values

theorem values_resetForm (s : FormFlow) : s.resetForm.values =
    if s.navigated then s.values ++ [({} : FormTableController)] else s.values := by
  unfold resetForm values
  split
  · simp
    rfl
  · rfl

theorem book_append (form : FormTableController) (before after : List (Option Action)) :
    ∃ kept last, book form before = kept ++ [last] ∧
      book form (before ++ after) = kept ++ book last after := by
  induction before generalizing form with
  | nil => exact ⟨[],form,rfl,rfl⟩
  | cons entry rest ih =>
    cases entry with
    | some action => exact ih (form.act action)
    | none =>
      obtain ⟨kept,last,start,whole⟩ := ih {}
      exact ⟨form :: kept,last,by rw [book,start]; rfl,by rw [List.cons_append,book,whole]; rfl⟩

theorem step_values (s : FormFlow) (input : Input) (valid : s.Valid) :
    (s.step input).values = s.replaced.map (·.controller.values) ++
      book s.form.controller.values (s.entries input) := by
  have amounts := step_amounts s input valid
  unfold entries
  generalize s.step input = next at amounts ⊢
  generalize s.appEvents input = events at amounts ⊢
  cases amounts with
  | nothing same form => simp [values,same.replaced,form,book]
  | filled action live same form => simp [values,same.replaced,form,book]
  | reset live form replaced =>
    have reset : next.values = s.resetForm.values := by rw [values,values,form,replaced]
    rw [reset,values_resetForm]
    cases s.navigated <;> simp [values,book]
  | submitted live same form => simp [values,same.replaced,form,book,showData_values]

/-- In a run of the form with all its screens, each form holds what was entered while it was on the
screen: what the camera handler and the maps write, however late, goes to no other form. -/
theorem forms_made (world : World) (navigated bar : Bool) (inputs : List Input) :
    (run step (opened world navigated bar) inputs).values =
      book {} (emitted step entries (opened world navigated bar) inputs) := by
  let inv (out : List (Option Action)) (s : FormFlow) : Prop := s.Valid ∧ s.values = book {} out
  suffices holds : inv (emitted step entries (opened world navigated bar) inputs)
      (run step (opened world navigated bar) inputs) from holds.2
  apply run_emitted ?_ inputs ⟨opened_valid world navigated bar,rfl⟩
  rintro out s input ⟨valid,made⟩
  obtain ⟨kept,last,before,whole⟩ := book_append {} out (s.entries input)
  have ⟨replaced,form⟩ : s.replaced.map (·.controller.values) = kept ∧
      s.form.controller.values = last := by
    rw [before,values,List.map_append] at made
    simpa using List.append_inj' made rfl
  exact ⟨step_valid s input valid,by rw [step_values s input valid,replaced,form,whole]⟩

/-! ### How often a form is submitted -/

def added (s : FormFlow) (input : Input) : List (Nat × String × Document) :=
  ((s.step input).world.forms.drop s.world.forms.length).map fun document => (s.current,document)

inductive Stored (s next : FormFlow) : Prop where
  | kept (world : next.world = s.world)
      (current : s.current < next.current ∨
        s.current = next.current ∧ (s.cover = some .popUp → next.cover = some .popUp)) :
      Stored s next
  | added (bare : s.cover = none) (current : next.current = s.current)
      (popUp : next.cover = some .popUp) (entry : Entry) (account : Account)
      (signedIn : s.world.currentUser = some account)
      (known : s.world.keychain.identity = some entry.identity)
      (world : next.world = s.world.addDocument account.uid entry.document) : Stored s next

theorem Stored.of_same {s next : FormFlow} (world : next.world = s.world)
    (replaced : next.replaced = s.replaced)
    (popUp : s.cover = some .popUp → next.cover = some .popUp) : Stored s next :=
  .kept world (.inr ⟨by rw [current,current,replaced],popUp⟩)

/-- Such a form has no location as long as it can be submitted: the map that gives it one stays
over it. -/
structure Stuck (world : World) (s : FormFlow) : Prop where
  bare : s.navigated = false
  world : s.world = world
  replaced : s.replaced = []
  map : s.maps ≠ [] → s.cover = some (.map 0) ∧ s.maps.length = 1
  location : s.maps = [] → s.form.controller.formLocation = none
  popUp : s.cover ≠ some .popUp

theorem edit_formLocation (self : FormTableController) (edit : Edit) :
    (self.act edit.action).formLocation = self.formLocation := by
  cases edit <;> rfl

theorem showData_blocked (self : FormTableController) (world : World)
    (unset : self.formLocation = none) :
    (self.showData world).trap = none ∧ (self.showData world).popUp = false ∧
      (self.showData world).after.world = world := by
  have blocked : self.guardPasses = false := by simp [guardPasses,unset]
  cases self.showData_outcome world with
  | alerted _ noTrap noPopUp _ _ kept => exact ⟨noTrap,noPopUp,kept⟩
  | silent passed | noCategory passed | noSession passed | submitted passed =>
    rw [blocked] at passed
    contradiction

theorem showData_formLocation (self : FormTableController) (world : World) :
    (self.showData world).after.controller.formLocation = self.formLocation := by
  have same := congrArg formLocation (self.showData_values world)
  exact same

/-- Over the form there is no map, and there never was one. -/
theorem Stuck.of_clear {world : World} {s next : FormFlow} (stuck : s.Stuck world)
    (uncovered : ∀ index, s.cover ≠ some (.map index)) (maps : next.maps = s.maps)
    (bare : next.navigated = s.navigated) (same : next.world = s.world)
    (replaced : next.replaced = s.replaced)
    (form : next.form.controller.formLocation = s.form.controller.formLocation)
    (popUp : next.cover ≠ some .popUp) : next.Stuck world := by
  have none : s.maps = [] := by
    by_contra some
    exact uncovered 0 (stuck.map some).1
  exact ⟨bare.trans stuck.bare,same.trans stuck.world,replaced.trans stuck.replaced,
    by simp [maps,none],fun _ => form.trans (stuck.location none),popUp⟩

/-- The map stays. -/
theorem Stuck.of_covered {world : World} {s next : FormFlow} (stuck : s.Stuck world)
    (cover : next.cover = s.cover) (maps : next.maps.length = s.maps.length)
    (bare : next.navigated = s.navigated) (same : next.world = s.world)
    (replaced : next.replaced = s.replaced)
    (form : s.maps = [] → next.form.controller.formLocation = s.form.controller.formLocation) :
    next.Stuck world where
  bare := bare.trans stuck.bare
  world := same.trans stuck.world
  replaced := replaced.trans stuck.replaced
  map := by
    intro some
    have before : s.maps ≠ [] := by
      intro none
      exact some (List.eq_nil_of_length_eq_zero (by rw [maps,none]; rfl))
    exact ⟨cover.trans (stuck.map before).1,maps.trans (stuck.map before).2⟩
  location := by
    intro none
    have before : s.maps = [] := List.eq_nil_of_length_eq_zero (by rw [← maps,none]; rfl)
    exact (form before).trans (stuck.location before)
  popUp := cover ▸ stuck.popUp

theorem popViewController_of_bare (s : FormFlow) (bare : s.navigated = false) :
    s.popViewController = s := by simp [popViewController,bare]

theorem resetForm_of_bare (s : FormFlow) (bare : s.navigated = false) : s.resetForm = s := by
  simp [resetForm,bare]

theorem steps_stuck {world : World} {s next : FormFlow} {input : Input} (stuck : s.Stuck world)
    (moved : Steps s input next) : next.Stuck world := by
  cases moved with
  | ignored | unsent => exact stuck
  | edited edit => exact stuck.of_covered rfl rfl rfl rfl rfl fun _ => edit_formLocation _ edit
  | rotated | popUpTrapped => exact stuck.of_covered rfl rfl rfl rfl rfl fun _ => rfl
  | mapLeft => rwa [popViewController_of_bare s stuck.bare]
  | formReset => rwa [resetForm_of_bare s stuck.bare]
  | mapMoved | mapTrapped => exact stuck.of_covered rfl (by simp) rfl rfl rfl fun _ => rfl
  | sheetShown _ on | unavailable _ _ on | sourceChosen _ _ on | sheetCancelled _ on
  | alertClosed _ on => exact stuck.of_clear (by simp [on]) rfl rfl rfl rfl rfl (by simp)
  | picked _ _ _ on | pickedNothing _ _ on | pickerCancelled _ _ on =>
    refine stuck.of_clear (by simp [on]) rfl rfl rfl rfl ?_ (by simp [uncover])
    simp [uncover,FormTableController.act]
  | mapShown center live on =>
    have none : s.maps = [] := by
      by_contra some
      simp [(stuck.map some).1] at on
    exact ⟨stuck.bare,stuck.world,stuck.replaced,by simp [showMap,none],by simp [showMap],
      by simp [showMap]⟩
  | sent index live on visit found location address call =>
    have some : s.maps ≠ [] := List.ne_nil_of_mem (List.mem_of_getElem? found)
    have stays : ({ s with form :=
        (s.form.setLocation location address).locationChanged s.width } : FormFlow).Stuck world :=
      stuck.of_covered rfl rfl rfl rfl rfl fun none => absurd none some
    rwa [popViewController_of_bare _ stays.bare]
  | submitted live on noTrap =>
    have none : s.maps = [] := by
      by_contra some
      simp [(stuck.map some).1] at on
    obtain ⟨_,noPopUp,kept⟩ := showData_blocked _ s.world (stuck.location none)
    exact stuck.of_clear (by simp [on]) rfl rfl kept rfl (showData_formLocation ..)
      (by simp [noPopUp])
  | submitTrapped live on trap trapped =>
    have none : s.maps = [] := by
      by_contra some
      simp [(stuck.map some).1] at on
    obtain ⟨noTrap,_⟩ := showData_blocked _ s.world (stuck.location none)
    simp [noTrap] at trapped
  | popUpClosed live on => exact absurd on stuck.popUp

theorem opened_stuck (world : World) (bar : Bool) : (opened world false bar).Stuck world :=
  ⟨rfl,rfl,rfl,by simp [opened],fun _ => rfl,by simp [opened]⟩

/-- A form that was presented without a navigation controller is never submitted: in no run is a
document added or the pop-up shown, and the first map that is opened stays to the end. -/
theorem presented_form_stuck (world : World) (bar : Bool) (inputs : List Input) :
    (run step (opened world false bar) inputs).Stuck world := by
  let inv (s : FormFlow) : Prop := s.Valid ∧ s.Stuck world
  have start : inv (opened world false bar) := ⟨opened_valid world false bar,opened_stuck world bar⟩
  have keeps (s : FormFlow) (input : Input) (holds : inv s) : inv (s.step input) :=
    ⟨step_valid s input holds.1,steps_stuck holds.2 (step_steps s input holds.1)⟩
  exact (run_invariant keeps inputs start).2

/-! ### Where the location and the address come from -/

def OpenedMap (screen : MapScreen) : Prop :=
  ∃ center inputs, screen = run MapScreen.step (.opened center) inputs

/-- The form has neither, or both as one press of `Confirm` on one map has sent them. -/
def Located (form : FormTableController) : Prop :=
  form.formLocation = none ∧ form.formAddress = none ∨
    ∃ screen location address, OpenedMap screen ∧
      screen.controller.sendLocation = some (location,address) ∧
      form.formLocation = some location ∧ form.formAddress = some address

structure AllLocated (s : FormFlow) : Prop where
  maps : ∀ visit ∈ s.maps, OpenedMap visit.screen
  replaced : ∀ form ∈ s.replaced, Located form.controller
  form : Located s.form.controller

theorem Located.of_same {form next : FormTableController} (located : Located form)
    (location : next.formLocation = form.formLocation)
    (address : next.formAddress = form.formAddress) : Located next := by
  unfold Located at located ⊢
  rwa [location,address]

theorem OpenedMap.step {screen : MapScreen} (opened : OpenedMap screen) (input : MapInput) :
    OpenedMap (screen.step input) := by
  obtain ⟨center,inputs,rfl⟩ := opened
  exact ⟨center,inputs ++ [input],by rw [run_append]; rfl⟩

theorem AllLocated.set_map {s : FormFlow} (all : s.AllLocated) (index : Nat) (visit : MapVisit)
    (found : s.maps[index]? = some visit) (input : MapInput) (stopped : Option Trap) :
    AllLocated { s with
      maps := s.maps.set index { visit with screen := visit.screen.step input }, stopped } where
  maps := by
    intro other member
    rcases List.mem_or_eq_of_mem_set member with old | rfl
    · exact all.maps other old
    · exact (all.maps visit (List.mem_of_getElem? found)).step input
  replaced := all.replaced
  form := all.form

theorem AllLocated.popViewController {s : FormFlow} (all : s.AllLocated) :
    s.popViewController.AllLocated := by
  unfold FormFlow.popViewController
  split
  · exact ⟨all.maps,all.replaced,all.form.of_same (by simp [uncover]) (by simp [uncover])⟩
  · exact all

theorem AllLocated.resetForm {s : FormFlow} (all : s.AllLocated) : s.resetForm.AllLocated := by
  unfold FormFlow.resetForm
  split
  · refine ⟨all.maps,?_,.inl ⟨rfl,rfl⟩⟩
    intro form member
    rcases List.mem_append.mp member with old | last
    · exact all.replaced form old
    · exact List.mem_singleton.mp last ▸ all.form
  · exact all

end FormFlow

end SocialService
