import SocialService.AppEvents
import SocialService.Library.EventMachine

/-! Submitting, in the app. The segue to the pop-up follows `prepare` whether or not that wrote
anything, and the uid is unwrapped between the two writes. -/
namespace SocialService
namespace FormTableController

/-- The form has been appended, and its document added under the uid of the current user. -/
structure Submitted (form : FormTableController) (world : World) (entry : Entry)
    (account : Account) : Prop where
  values : entry.Of form
  signedIn : world.currentUser = some account
  appended : (form.showData world).appended = [entry.form]
  added : (form.showData world).after.world.forms =
    world.forms ++ [(account.uid,entry.document)]

/-- The pop-up is presented if and only if the form has been submitted. -/
def Truthful (self : FormTableController) (world : World) : Prop :=
  (self.showData world).popUp = true ↔ ∃ entry account, Submitted self world entry account

/-- No unwrap fails, and the form is appended if and only if its document is added. -/
structure Whole (form : FormTableController) (world : World) : Prop where
  noTrap : (form.showData world).trap = none
  together : (form.showData world).appended ≠ [] ↔
    (form.showData world).after.world.forms ≠ world.forms

/-- `Submit` touches neither the keychain nor the session nor a profile. -/
theorem showData_stores (self : FormTableController) (world : World) :
    (self.showData world).after.world.keychain = world.keychain ∧
      (self.showData world).after.world.currentUser = world.currentUser ∧
      (self.showData world).after.world.users = world.users := by
  cases self.showData_outcome world with
  | alerted _ _ _ _ _ kept | silent _ _ _ _ _ _ kept | noCategory _ _ _ _ _ _ _ kept
  | noSession _ _ _ _ _ _ _ _ _ _ kept =>
    rw [kept]
    exact ⟨rfl,rfl,rfl⟩
  | submitted _ _ _ _ _ _ _ _ _ _ added =>
    rw [added]
    exact ⟨rfl,rfl,rfl⟩

theorem truthful_iff (self : FormTableController) (world : World) :
    self.Truthful world ↔ self.guardPasses = false ∨ world.keychain.identity.isSome := by
  have denied (none : (self.showData world).appended = [] ∨
      (self.showData world).after.world.forms = world.forms) :
      ¬∃ entry account, Submitted self world entry account := by
    intro submitted
    obtain ⟨entry,account,_,_,appended,added⟩ := submitted
    rcases none with nothing | kept
    · simp [nothing] at appended
    · simp [kept] at added
  rcases showData_outcome self world with ⟨blocked,_,noPopUp,_,nothing,_⟩ |
    ⟨passed,unknown,_,popUp,_,nothing,_⟩ | ⟨_,known,_,_,noPopUp,_,nothing,_⟩ |
    ⟨_,known,_,_,_,noPopUp,_,_,_,_,kept⟩ |
    ⟨_,entry,account,known,values,signedIn,_,popUp,_,appended,added⟩
  · exact iff_of_true (by simpa [Truthful,noPopUp] using denied (.inl nothing)) (.inl blocked)
  · refine iff_of_false ?_ (by simp [passed,unknown])
    intro truthful
    exact denied (.inl nothing) (truthful.mp popUp)
  · exact iff_of_true (by simpa [Truthful,noPopUp] using denied (.inl nothing)) (.inr known)
  · exact iff_of_true (by simpa [Truthful,noPopUp] using denied (.inr (by rw [kept]))) (.inr known)
  · refine iff_of_true ?_ (.inr (by rw [known]; rfl))
    have submitted : Submitted self world entry account :=
      ⟨values,signedIn,appended,by rw [added]; rfl⟩
    exact iff_of_true popUp ⟨entry,account,submitted⟩

theorem whole_iff (self : FormTableController) (world : World) :
    self.Whole world ↔ self.guardPasses = false ∨ world.keychain.identity = none ∨
      self.selectedCategory.isSome ∧ world.currentUser.isSome := by
  have untouched (noTrap : (self.showData world).trap = none)
      (nothing : (self.showData world).appended = [])
      (kept : (self.showData world).after.world = world) : self.Whole world :=
    ⟨noTrap,by simp [nothing,kept]⟩
  rcases showData_outcome self world with ⟨blocked,noTrap,_,_,nothing,kept⟩ |
    ⟨_,unknown,noTrap,_,_,nothing,kept⟩ | ⟨passed,known,unselected,trap,_⟩ |
    ⟨passed,known,_,signedOut,trap,_⟩ |
    ⟨_,entry,account,_,values,signedIn,noTrap,_,_,appended,added⟩
  · exact iff_of_true (untouched noTrap nothing kept) (.inl blocked)
  · exact iff_of_true (untouched noTrap nothing kept) (.inr (.inl unknown))
  · refine iff_of_false ?_ (by simp [passed,unselected,Option.isSome_iff_ne_none.mp known])
    intro whole
    simp [whole.noTrap] at trap
  · refine iff_of_false ?_ (by simp [passed,signedOut,Option.isSome_iff_ne_none.mp known])
    intro whole
    simp [whole.noTrap] at trap
  · refine iff_of_true ⟨noTrap,?_⟩ (.inr (.inr ⟨by rw [values.category]; rfl,by rw [signedIn]; rfl⟩))
    rw [appended,added]
    simp [World.addDocument]

end FormTableController

namespace App
open EventMachine

def AtSubmit (p : FormTableController → World → Prop) (s : App) : Event → Prop
  | .submit => s.stopped = none → s.OnStack → p s.form s.world
  | _ => True

theorem along_submit_congr {p q : FormTableController → World → Prop}
    (same : ∀ form world, p form world ↔ q form world) (s : App) (events : List Event) :
    Along step (AtSubmit p) s events ↔ Along step (AtSubmit q) s events := by
  have always (s : App) (event : Event) (_ : True) : True := trivial
  refine along_congr always ?_ events trivial
  intro s event _
  cases event with
  | submit => exact imp_congr_right fun _ => imp_congr_right fun _ => same s.form s.world
  | _ => exact Iff.rfl

/-- In a run of the app, from any state, the pop-up is truthful at every press of `Submit` if and
only if each press finds the guard blocking or the three keychain entries there. -/
theorem pop_up_truthful_iff (s : App) (events : List Event) :
    Along step (AtSubmit FormTableController.Truthful) s events ↔
      Along step (AtSubmit fun form world =>
        form.guardPasses = false ∨ world.keychain.identity.isSome) s events :=
  along_submit_congr FormTableController.truthful_iff s events

/-- In a run of the app, from any state, no press of `Submit` traps or submits half a form if and
only if each press finds the guard blocking, the keychain incomplete, or a category selected and a
user signed in. -/
theorem submits_whole_iff (s : App) (events : List Event) :
    Along step (AtSubmit FormTableController.Whole) s events ↔
      Along step (AtSubmit fun form world =>
        form.guardPasses = false ∨ world.keychain.identity = none ∨
          form.selectedCategory.isSome ∧ world.currentUser.isSome) s events :=
  along_submit_congr FormTableController.whole_iff s events

def fillIn : List Event :=
  [.fill (.pickPhoto ⟨[1]⟩),.fill (.confirmLocation ⟨⟨42,23⟩⟩ "1 \n Vitosha \n Bulgaria"),
    .fill (.selectRow ⟨0,by decide⟩),.fill .beginEditing,.fill (.changeText (· ++ "A hole")),
    .fill .endEditing]

/-- `Register` with empty fields, which asks Firebase for nothing and saves nothing, and then a
complete form. -/
theorem pop_up_without_keychain :
    ¬Along step (AtSubmit FormTableController.Truthful) (launch .blank)
      ([.register ⟨"","","",""⟩] ++ fillIn ++ [.submit]) := by
  intro all
  obtain ⟨_,truthful,_⟩ := (along_append _ _).mp all
  obtain ⟨entry,account,submitted⟩ := (truthful rfl ⟨rfl,_,rfl⟩).mp rfl
  have nobody := submitted.signedIn
  contradiction

/-- A registration that Firebase has not answered yet, and then a complete form. -/
theorem submit_before_answer_traps :
    ¬Along step (AtSubmit FormTableController.Whole) (launch .blank)
      ([.register ⟨"Ana","secret","ana@abv.bg","0888123456"⟩] ++ fillIn ++ [.submit]) := by
  intro all
  obtain ⟨_,whole,_⟩ := (along_append _ _).mp all
  have noTrap := (whole rfl ⟨rfl,_,rfl⟩).noTrap
  contradiction

end App
end SocialService
