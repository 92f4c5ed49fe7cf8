import SocialService.FormTableController
import SocialService.Library.EventMachine

/-! Editing sessions of the description. The text that the user enters is kept beside the form:
every change acts on it as it acts on the text that the field shows. -/
namespace SocialService

/-- What the text view tells its delegate; a change may be any change of the text shown. -/
inductive EditEvent where
  | began
  | changed (edit : String → String)
  | ended

def EditEvent.action : EditEvent → FormTableController.Action
  | .began => .beginEditing
  | .changed edit => .changeText edit
  | .ended => .endEditing

structure Editing where
  form : FormTableController := {}
  entered : String := ""

namespace Editing
open EventMachine

def shown (s : Editing) : String := s.form.descriptionCell.text

def step (s : Editing) (event : EditEvent) : Editing where
  form := s.form.act event.action
  entered := event.action.enters s.entered

def ShowsPlaceholder (s : Editing) : Prop :=
  s.shown = "Please, describe the issue..." ∧ s.entered = ""

def ShowsText (s : Editing) : Prop := s.shown = s.entered ∧ s.entered ≠ ""

/-- A session begins on an empty field or on the user's own text, and every report of a change or
of the end of a session is the text entered. -/
def KeepsApart (s : Editing) (event : EditEvent) : Prop :=
  match event with
  | .began => (s.ShowsPlaceholder → (s.step .began).shown = "") ∧
      (s.ShowsText → (s.step .began).shown = s.shown)
  | .changed _ | .ended =>
    (s.step event).form.formDescription = some (s.step event).entered

def session (changes : List (String → String)) : List EditEvent :=
  .began :: changes.map .changed ++ [.ended]

def write (text : String) (changes : List (String → String)) : String :=
  changes.foldl (fun text edit => edit text) text

/-- Between sessions: the first one has not begun, or the user's text stands there in black. -/
def Rested (s : Editing) : Prop :=
  s.form.descriptionCell = {} ∧ s.entered = "" ∨
    s.form.descriptionCell = ⟨s.entered,.black⟩ ∧ s.entered ≠ ""

def InStep (s : Editing) : Prop := s.form.descriptionCell = ⟨s.entered,.black⟩

theorem began_inStep (s : Editing) (rested : s.Rested) :
    s.KeepsApart .began ∧ (s.step .began).InStep := by
  rcases rested with ⟨cell,nothing⟩ | ⟨cell,something⟩
  · have cleared : (s.step .began).form.descriptionCell = ⟨"",.black⟩ := by
      simp only [step,EditEvent.action,FormTableController.act,cell]
      rfl
    refine ⟨⟨fun _ => congrArg DescriptionCell.text cleared,?_⟩,?_⟩
    · intro text
      exact absurd nothing text.2
    · exact cleared.trans (by rw [← nothing]; rfl)
  · have kept : (s.step .began).form.descriptionCell = s.form.descriptionCell := by
      simp only [step,EditEvent.action,FormTableController.act,cell]
      rfl
    refine ⟨⟨?_,fun _ => congrArg DescriptionCell.text kept⟩,kept.trans cell⟩
    intro placeholder
    exact absurd placeholder.2 something

theorem changed_inStep (s : Editing) (edit : String → String) (inStep : s.InStep) :
    s.KeepsApart (.changed edit) ∧ (s.step (.changed edit)).InStep := by
  have shown : s.form.descriptionCell.text = s.entered := congrArg DescriptionCell.text inStep
  have black : s.form.descriptionCell.textColor = .black :=
    congrArg DescriptionCell.textColor inStep
  constructor
  · simp [KeepsApart,step,EditEvent.action,FormTableController.act,
      FormTableController.descriptionUpdated,FormTableController.Action.enters,
      DescriptionCell.textViewDidChange,shown]
  · simp [InStep,step,EditEvent.action,FormTableController.act,
      FormTableController.descriptionUpdated,FormTableController.Action.enters,shown,black]

theorem ended_cell (s : Editing) (inStep : s.InStep) :
    (s.step .ended).form.descriptionCell =
      (if s.entered = "" then ⟨"Please, describe the issue...",.lightGray⟩
        else ⟨s.entered,.black⟩) := by
  rw [InStep] at inStep
  simp only [step,EditEvent.action,FormTableController.act,FormTableController.descriptionUpdated,
    inStep,DescriptionCell.textViewDidEndEditing,String.isEmpty_iff]

/-- Only an empty field is given the placeholder, and it is reported at once. -/
theorem ended_keepsApart_iff (s : Editing) (inStep : s.InStep) :
    s.KeepsApart .ended ↔ s.entered ≠ "" := by
  have reported : (s.step .ended).form.formDescription =
      some (s.step .ended).form.descriptionCell.text := rfl
  have kept : (s.step .ended).entered = s.entered := rfl
  rw [KeepsApart,reported,kept,ended_cell s inStep,Option.some.injEq]
  by_cases nothing : s.entered = ""
  · rw [if_pos nothing,nothing]
    simp
  · rw [if_neg nothing]
    simp [nothing]

theorem ended_rested (s : Editing) (inStep : s.InStep) (something : s.entered ≠ "") :
    (s.step .ended).Rested := by
  have kept := ended_cell s inStep
  rw [if_neg something] at kept
  exact .inr ⟨kept,something⟩

theorem changes_inStep (changes : List (String → String)) (s : Editing) (inStep : s.InStep) :
    Along step KeepsApart s (changes.map .changed) ∧ (run step s (changes.map .changed)).InStep ∧
      (run step s (changes.map .changed)).entered = write s.entered changes := by
  induction changes generalizing s with
  | nil => exact ⟨trivial,inStep,rfl⟩
  | cons edit rest ih =>
    obtain ⟨apart,still⟩ := changed_inStep s edit inStep
    obtain ⟨later,last,entered⟩ := ih (s.step (.changed edit)) still
    exact ⟨⟨apart,later⟩,last,entered⟩

/-- A session is in order if and only if it does not end on an empty text; then the next one
finds that text. -/
theorem session_rested (s : Editing) (changes : List (String → String)) (rested : s.Rested) :
    (Along step KeepsApart s (session changes) ↔ write s.entered changes ≠ "") ∧
      (write s.entered changes ≠ "" → (run step s (session changes)).Rested ∧
        (run step s (session changes)).entered = write s.entered changes) := by
  obtain ⟨began,inStep⟩ := began_inStep s rested
  obtain ⟨apart,last,entered⟩ := changes_inStep changes (s.step .began) inStep
  have ended := ended_keepsApart_iff _ last
  have ends : run step s (session changes) =
      (run step (s.step .began) (changes.map .changed)).step .ended := by
    simp [session,run]
  have same : (s.step .began).entered = s.entered := rfl
  rw [entered,same] at ended
  constructor
  · rw [session,List.cons_append,Along,along_append]
    simp [began,apart,Along,ended]
  · intro something
    rw [ends]
    refine ⟨ended_rested _ last ?_,?_⟩
    · rwa [entered,same]
    · exact entered.trans (by rw [same])

/-- Placeholder and text are kept apart in a run of sessions if and only if no session leaves the
text empty. -/
theorem sessions_keep_apart_iff (sessions : List (List (String → String))) :
    Along step KeepsApart {} (sessions.flatMap session) ↔
      Along write (fun text changes => write text changes ≠ "") "" sessions := by
  rw [along_flatMap]
  refine along_iff_of_simulation (fun s text => s.Rested ∧ s.entered = text) ?_ ?_ sessions
    ⟨.inl ⟨rfl,rfl⟩,rfl⟩
  · rintro s _ changes ⟨rested,rfl⟩
    exact (session_rested s changes rested).1
  · rintro s _ changes ⟨rested,rfl⟩ something
    exact (session_rested s changes rested).2 something

/-- After a session without a change the placeholder is the description, and in the next session
it stays in front of what the user types. -/
theorem second_session_mixed :
    let sessions : List (List (String → String)) := [[],[fun text => text ++ "A hole"]]
    ¬Along step KeepsApart {} (sessions.flatMap session) ∧
      (run step {} (sessions.flatMap session)).form.formDescription =
        some "Please, describe the issue...A hole" := by
  refine ⟨?_,rfl⟩
  intro all
  have reported : some "Please, describe the issue..." = some "" := all.2.1
  exact absurd reported (by decide)

end Editing

end SocialService
