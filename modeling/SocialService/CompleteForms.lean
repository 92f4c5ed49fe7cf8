import SocialService.FormTableController
import SocialService.Library.EventMachine

/-! Which values a fresh form has been given when it is submitted. The form keeps the last
confirmed address and the last reported description, empty or placeholder as they may be, and its
guard asks for no photo and no category. -/
namespace SocialService
namespace FormTableController
open EventMachine

def Action.describes : Action → Bool
  | .changeText _ | .endEditing => true
  | _ => false

def confirmed (actions : List Action) : Option (CLLocation ℚ × String) :=
  (actions.filterMap Action.confirms).getLast?

/-- What the user has entered himself, without the placeholder that may stand before it. -/
def entered (actions : List Action) : String := actions.foldl Action.enters ""

/-- The user has supplied all four values. -/
structure Complete (actions : List Action) : Prop where
  photo : ∃ image, .pickPhoto image ∈ actions
  location : ∃ location address, confirmed actions = some (location,address) ∧ address ≠ ""
  category : ∃ row, .selectRow row ∈ actions
  description : entered actions ≠ ""

def fill (actions : List Action) : FormTableController := run act {} actions

/-- The optional values of the guard, as the actions behind the form determine them. -/
structure Filled (actions : List Action) (form : FormTableController) : Prop where
  location : form.formLocation = (confirmed actions).map Prod.fst
  address : form.formAddress = (confirmed actions).map Prod.snd
  description : form.formDescription.isSome = actions.any Action.describes

theorem confirmed_concat (actions : List Action) (action : Action) :
    confirmed (actions ++ [action]) = action.confirms.or (confirmed actions) := by
  unfold confirmed
  rw [List.filterMap_append,List.getLast?_append]
  cases found : action.confirms <;> simp [found]

theorem act_filled (actions : List Action) (self : FormTableController) (action : Action)
    (filled : Filled actions self) : Filled (actions ++ [action]) (self.act action) := by
  obtain ⟨location,address,description⟩ := filled
  have last := confirmed_concat actions action
  cases action with
  | confirmLocation place text =>
    cases found : (Action.confirmLocation place text).confirms with
    | none =>
      rw [found,Option.none_or] at last
      refine ⟨?_,?_,?_⟩
      · simpa [act,found,last] using location
      · simpa [act,found,last] using address
      · simpa [act,found,Action.describes] using description
    | some call =>
      rw [found,Option.some_or] at last
      refine ⟨?_,?_,?_⟩
      · simp [act,found,last,setLocation]
      · simp [act,found,last,setLocation]
      · simpa [act,found,setLocation,Action.describes] using description
  | changeText | endEditing =>
    have same : _ = confirmed actions := last
    rw [← same] at location address
    exact ⟨location,address,by simp [act,descriptionUpdated,Action.describes]⟩
  | pickPhoto | cancelPhoto | leaveMap | selectRow | beginEditing =>
    have same : _ = confirmed actions := last
    rw [← same] at location address
    exact ⟨location,address,by simpa [act,Action.describes] using description⟩

theorem fill_filled (actions : List Action) : Filled actions (fill actions) :=
  run_history act_filled actions ⟨rfl,rfl,rfl⟩

/-- The guard asks only that some address was confirmed and some description reported. -/
theorem guardPasses_fill (actions : List Action) : (fill actions).guardPasses = true ↔
    (∃ action ∈ actions, action.confirms.isSome) ∧ ∃ action ∈ actions, action.describes := by
  obtain ⟨location,address,description⟩ := fill_filled actions
  have supplied : (confirmed actions).isSome ↔ ∃ action ∈ actions, action.confirms.isSome := by
    rw [confirmed,List.getLast?_isSome,Ne,List.filterMap_eq_nil_iff]
    simp [Option.isSome_iff_ne_none]
  rw [← supplied,← List.any_eq_true,← description]
  simp [guardPasses,formImage_eq,location,address]

def submission (actions : List Action) (world : World) : SubmitResult :=
  (fill actions).showData world

/-- Submitting the form writes only if all four values were supplied, and shows the alert and
writes nothing if they were not. -/
structure SubmitsOnlyComplete (actions : List Action) (world : World) : Prop where
  only : (submission actions world).appended ≠ [] ∨
    (submission actions world).after.world.forms ≠ world.forms → Complete actions
  otherwise : ¬Complete actions → (submission actions world).after.alert.isSome ∧
    (submission actions world).appended = [] ∧
    (submission actions world).after.world.users = world.users ∧
    (submission actions world).after.world.forms = world.forms

theorem alert_iff_blocked (self : FormTableController) (world : World) :
    (self.showData world).after.alert.isSome ↔ self.guardPasses = false := by
  cases showData_outcome self world <;> simp_all

/-- Only complete forms are submitted if and only if the actions complete the form, or leave out
every confirmation or every report of a description, which is all that the guard notices. -/
theorem submits_only_complete_iff (actions : List Action) (world : World) :
    SubmitsOnlyComplete actions world ↔
      Complete actions ∨ (∀ action ∈ actions, action.confirms = none) ∨
        ∀ action ∈ actions, action.describes = false := by
  have blocked : (fill actions).guardPasses = false ↔
      (∀ action ∈ actions, action.confirms = none) ∨
        ∀ action ∈ actions, action.describes = false := by
    rw [← Bool.not_eq_true,guardPasses_fill,not_and_or]
    simp
  rw [← blocked]
  constructor
  · intro submits
    by_cases complete : Complete actions
    · exact .inl complete
    · exact .inr ((alert_iff_blocked _ _).mp (submits.otherwise complete).1)
  · intro fits
    rcases fits with complete | stopped
    · exact ⟨fun _ => complete,fun incomplete => absurd complete incomplete⟩
    · rcases showData_outcome (fill actions) world with
        ⟨_,_,_,shown,nothing,kept⟩ | passed | passed | passed | passed
      · have kept : (submission actions world).after.world = world := kept
        refine ⟨?_,fun _ => ⟨shown,nothing,by rw [kept],by rw [kept]⟩⟩
        intro wrote
        rcases wrote with appended | added
        · exact absurd nothing appended
        · exact absurd (by rw [kept]) added
      all_goals
        rw [stopped] at passed
        contradiction

/-- A category and a location; the description is the placeholder and there is no photo. -/
theorem placeholder_form_submitted :
    ¬SubmitsOnlyComplete
      [.confirmLocation ⟨⟨42,23⟩⟩ "1 \n Vitosha \n Bulgaria",.selectRow ⟨0,by decide⟩,
        .beginEditing,.endEditing]
      (.signedIn ⟨"u1",⟨"Ana","secret","ana@abv.bg"⟩⟩) := by
  intro submits
  obtain ⟨⟨image,picked⟩,_⟩ := submits.only (.inl (List.cons_ne_nil _ _))
  simp at picked

end FormTableController
end SocialService
