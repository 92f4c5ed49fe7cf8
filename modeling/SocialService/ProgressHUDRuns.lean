import SocialService.ProgressHUD

/-! What becomes of a window that is dismissed: every call takes effect, whatever the order of
animations and delays, but for one that comes too early. -/
namespace SocialService
namespace ProgressHUD

def Doomed (hud : ProgressHUD) : Prop :=
  hud.delayed ≠ [] ∨
    hud.transitioning = true ∧
      (hud.presenting = false ∨ hud.dismissAfterTransitionFinished = true)

def GoesDown (hud : ProgressHUD) : Prop := hud.visible = false ∨ hud.Doomed

/-- A window that stands still leaves at once, or its dismissal waits for the display time. -/
theorem dismissAnimated_of_still {self : ProgressHUD} (sound : self.Sound) (now : ℚ)
    (animated : Bool) (still : self.transitioning = false) :
    let next := self.dismissAnimated now animated
    next.visible = false ∨ next.delayed ≠ [] ∨
      next.transitioning = true ∧ next.presenting = false := by
  simp only [dismissAnimated,still]
  split
  · contradiction
  · split
    · rename_i absent
      exact .inl (sound.visible.trans absent)
    · split
      · exact .inr (.inl (by simp [dismissAfterDelay]))
      · cases animated with
        | true => exact .inr (.inr ⟨rfl,rfl⟩)
        | false => exact .inl rfl

theorem dismissAnimated_goesDown {self : ProgressHUD} (sound : self.Sound) (now : ℚ)
    (animated : Bool) : (self.dismissAnimated now animated).GoesDown := by
  cases moving : self.transitioning with
  | true =>
    rw [dismissAnimated,if_pos moving]
    exact .inr (.inr ⟨moving,.inr rfl⟩)
  | false =>
    rcases dismissAnimated_of_still sound now animated moving with absent | waiting | ⟨leaves,out⟩
    · exact .inl absent
    · exact .inr (.inl waiting)
    · exact .inr (.inr ⟨leaves,.inl out⟩)

theorem cleanUpAfterPresentation_goesDown {self : ProgressHUD} (now : ℚ)
    (visible : self.superview = true) (target : self.targetView = true)
    (running : self.running = 0)
    (doomed : self.delayed ≠ [] ∨ self.dismissAfterTransitionFinished = true) :
    (self.cleanUpAfterPresentation now).GoesDown := by
  unfold cleanUpAfterPresentation
  dsimp only
  split
  · have presented : Sound
        { self with hidden := false, transitioning := false, displayTimestamp := now } :=
      ⟨by simp [visible,target],by simp [target],by simp [running],by simp⟩
    rcases dismissAnimated_of_still presented now
      self.dismissAfterTransitionFinishedWithAnimation rfl with absent | waiting | ⟨leaves,out⟩
    · exact .inl absent
    · exact .inr (.inl waiting)
    · exact .inr (.inr ⟨leaves,.inl out⟩)
  · rename_i unflagged
    exact .inr (.inl (doomed.resolve_right unflagged))

/-- The completion of an animation finds one running. -/
theorem Valid.transitioning {self : ProgressHUD} (valid : self.Valid) (busy : self.running ≠ 0) :
    self.transitioning = true := by
  by_contra still
  have running := valid.sound.running
  simp [still] at running
  exact busy running

theorem GoesDown.animationFinished {self : ProgressHUD} (goes : self.GoesDown)
    (valid : self.Valid) (now : ℚ) : (self.step (now,.animationFinished)).GoesDown := by
  simp only [step]
  split
  · exact goes
  · rename_i busy
    have moving := valid.transitioning busy
    have target := valid.sound.target moving
    have last : self.running - 1 = 0 := by simp [valid.sound.running,moving]
    unfold animationDidFinish
    split
    · rename_i presenting
      have visible := valid.sound.visible.trans target
      refine @cleanUpAfterPresentation_goesDown { self with running := self.running - 1 } now
        visible target last ?_
      rcases goes with absent | waiting | ⟨_,out | flag⟩
      · simp [ProgressHUD.visible,visible] at absent
      · exact .inl waiting
      · simp [presenting] at out
      · exact .inr flag
    · exact .inl rfl

theorem GoesDown.delayElapsed {self : ProgressHUD} (goes : self.GoesDown) (valid : self.Valid)
    (now : ℚ) (index : Nat) : (self.step (now,.delayElapsed index)).GoesDown := by
  simp only [step]
  split
  · exact goes
  · unfold ProgressHUD.delayElapsed
    split
    · exact dismissAnimated_goesDown (valid.delayed _).sound now _
    · rename_i absent
      exact .inl (by simpa using absent)

end ProgressHUD

def JGProgressHUD.called (self : JGProgressHUD) : ℚ × ProgressHUD.Event → JGProgressHUD
  | (_,.showInView _) => self.show self.textLabel
  | (_,.dismissAnimated _) => self.dismiss self.textLabel self.detailTextLabel 0
  | (_,.dismissAfterDelay delay _) => self.dismiss self.textLabel self.detailTextLabel delay
  | (_,.animationFinished) | (_,.delayElapsed _) => self

namespace ProgressHUD
open EventMachine

/-- The window and what the app machine keeps of it, under the same calls. -/
structure Pair where
  hud : ProgressHUD
  model : JGProgressHUD

def Pair.step (self : Pair) (event : ℚ × Event) : Pair :=
  ⟨self.hud.step event,self.model.called event⟩

structure Settled (hud : ProgressHUD) : Prop where
  delayed : hud.delayed = []
  running : hud.running = 0

theorem Settled.not_doomed {self : ProgressHUD} (settled : self.Settled) (valid : self.Valid) :
    ¬self.Doomed := by
  rintro (waiting | ⟨moving,_⟩)
  · exact waiting settled.delayed
  · have running := valid.sound.running
    simp [moving,settled.running] at running

theorem step_goesDown (self : Pair) (event : ℚ × Event) (valid : self.hud.Valid)
    (goes : self.model.phase ≠ .shown → self.hud.GoesDown) :
    (self.step event).model.phase ≠ .shown → (self.step event).hud.GoesDown := by
  obtain ⟨now,event⟩ := event
  cases event with
  | showInView animated => exact fun other => absurd rfl other
  | dismissAnimated animated => exact fun _ => dismissAnimated_goesDown valid.sound now animated
  | dismissAfterDelay delay animated =>
    exact fun _ => .inr (.inl (by simp [Pair.step,ProgressHUD.step,dismissAfterDelay]))
  | animationFinished => exact fun other => (goes other).animationFinished valid now
  | delayElapsed index => exact fun other => (goes other).delayElapsed valid now index

/-- In a run of the window, with every order and timing of animations and delays, a window that the
app machine counts as dismissed is gone once everything due has come. -/
theorem dismissed_goes_down (minimumDisplayTime : ℚ) (events : List (ℚ × Event)) :
    let pair := run Pair.step ⟨{ minimumDisplayTime },{}⟩ events
    pair.hud.Settled → pair.model.phase ≠ .shown → pair.hud.visible = false := by
  let inv (pair : Pair) : Prop :=
    pair.hud.Valid ∧ (pair.model.phase ≠ .shown → pair.hud.GoesDown)
  have keeps (pair : Pair) (event : ℚ × Event) (holds : inv pair) : inv (pair.step event) :=
    ⟨holds.1.step event,step_goesDown pair event holds.1 holds.2⟩
  have start : inv ⟨{ minimumDisplayTime },{}⟩ := ⟨start_valid minimumDisplayTime,fun _ => .inl rfl⟩
  obtain ⟨valid,goes⟩ := run_invariant keeps events start
  intro pair settled dismissed
  exact (goes dismissed).resolve_right (settled.not_doomed valid)

/-- A login fails after its window has come up, and three seconds later the window fades out. -/
theorem failed_login_window :
    let pair := run Pair.step ⟨{},{}⟩ [(1,.showInView true),(2,.animationFinished),
      (3,.dismissAfterDelay 3 true),(6,.delayElapsed 0),(7,.animationFinished)]
    pair.hud.visible = false :=
  dismissed_goes_down 0 [(1,.showInView true),(2,.animationFinished),
    (3,.dismissAfterDelay 3 true),(6,.delayElapsed 0),(7,.animationFinished)]
    ⟨rfl,rfl⟩ (by decide)

/-! ### When the app machine is right about a window that stays -/

/-- The window stays if and only if the app machine counts it as shown. -/
def Pair.Exact (self : Pair) : Prop := self.hud.GoesDown ↔ self.model.phase ≠ .shown

/-- The window is not asked for while it is going down, or while a delay is left from before. -/
def Pair.Unhurried (self : Pair) : ℚ × Event → Prop
  | (_,.showInView _) => self.hud.GoesDown → self.hud.visible = false ∧ self.hud.delayed = []
  | _ => True

/-- A window that stays has nothing to come but the end of its presentation. -/
theorem stays_iff (self : ProgressHUD) : ¬self.GoesDown ↔ self.superview = true ∧
    self.delayed = [] ∧ (self.transitioning = true →
      self.presenting = true ∧ self.dismissAfterTransitionFinished = false) := by
  simp [GoesDown,Doomed,visible]

theorem showInView_stays {self : ProgressHUD} (valid : self.Valid) (now : ℚ) (animated : Bool)
    (absent : self.visible = false) (none : self.delayed = []) :
    ¬(self.showInView now animated).GoesDown := by
  have target : self.targetView = false := valid.sound.visible.symm.trans absent
  have still : self.transitioning = false := by
    by_contra moving
    simp [valid.sound.target (Bool.eq_true_of_not_eq_false moving)] at target
  rw [stays_iff]
  cases animated <;>
    simp [showInView,still,target,animateIn,cleanUpAfterPresentation,valid.prompt still,none]

theorem showInView_delayed {self : ProgressHUD} (valid : self.Valid) (now : ℚ)
    (animated : Bool) : (self.showInView now animated).delayed = self.delayed := by
  unfold showInView
  split
  · rfl
  · rename_i moving
    have still : self.transitioning = false := Bool.eq_false_of_not_eq_true moving
    split
    · rfl
    · cases animated <;> simp [animateIn,cleanUpAfterPresentation,valid.prompt still]

theorem showInView_of_visible {self : ProgressHUD} (valid : self.Valid) (now : ℚ)
    (animated : Bool) (present : self.visible = true) :
    self.showInView now animated = self := by
  have target : self.targetView = true := valid.sound.visible.symm.trans present
  simp [showInView,target]

theorem animationFinished_stays {self : ProgressHUD} (now : ℚ) (stays : ¬self.GoesDown)
    (valid : self.Valid) : ¬(self.step (now,.animationFinished)).GoesDown := by
  simp only [step]
  split
  · exact stays
  · rename_i busy
    obtain ⟨present,none,rest⟩ := self.stays_iff.mp stays
    obtain ⟨presenting,unflagged⟩ := rest (valid.transitioning busy)
    rw [stays_iff]
    simp [animationDidFinish,presenting,cleanUpAfterPresentation,unflagged,present,none]

theorem step_exact_iff (self : Pair) (event : ℚ × Event) (valid : self.hud.Valid)
    (exact' : self.Exact) : (self.step event).Exact ↔ self.Unhurried event := by
  have goes := step_goesDown self event valid exact'.mpr
  obtain ⟨now,event⟩ := event
  cases event with
  | showInView animated =>
    have shown : ¬(self.step (now,.showInView animated)).model.phase ≠ .shown :=
      fun other => other rfl
    rw [Pair.Exact,iff_false_right shown,Pair.Unhurried]
    constructor
    · intro stays down
      cases present : self.hud.visible with
      | true =>
        rw [Pair.step,ProgressHUD.step,showInView_of_visible valid now animated present] at stays
        exact absurd down stays
      | false =>
        have none := ((stays_iff _).mp stays).2.1
        exact ⟨rfl,(showInView_delayed valid now animated).symm.trans none⟩
    · intro unhurried
      by_cases down : self.hud.GoesDown
      · obtain ⟨absent,none⟩ := unhurried down
        exact showInView_stays valid now animated absent none
      · have present : self.hud.visible = true := (self.hud.stays_iff.mp down).1
        rwa [Pair.step,ProgressHUD.step,showInView_of_visible valid now animated present]
  | dismissAnimated | dismissAfterDelay =>
    refine iff_of_true ⟨fun _ => ?_,goes⟩ trivial
    simp [Pair.step,JGProgressHUD.called,JGProgressHUD.dismiss]
  | animationFinished =>
    refine iff_of_true ⟨?_,goes⟩ trivial
    intro down shown
    have stays : ¬self.hud.GoesDown := fun before => exact'.mp before shown
    exact animationFinished_stays now stays valid down
  | delayElapsed index =>
    refine iff_of_true ⟨?_,goes⟩ trivial
    intro down shown
    have stays : ¬self.hud.GoesDown := fun before => exact'.mp before shown
    have none := (self.hud.stays_iff.mp stays).2.1
    simp [Pair.step,ProgressHUD.step,none] at down
    exact stays down

/-- In a run of the window the app machine is right in every state about whether the window stays if
and only if no login asks for it while it is going down or before an old delay is over. -/
theorem phase_exact_iff (minimumDisplayTime : ℚ) (events : List (ℚ × Event)) :
    Throughout Pair.step Pair.Exact ⟨{ minimumDisplayTime },{}⟩ events ↔
      Along Pair.step Pair.Unhurried ⟨{ minimumDisplayTime },{}⟩ events := by
  have keeps (pair : Pair) (event : ℚ × Event) (valid : pair.hud.Valid) :
      (pair.step event).hud.Valid := valid.step event
  have start : Pair.Exact ⟨{ minimumDisplayTime },{}⟩ := iff_of_true (.inl rfl) (by simp)
  exact throughout_iff_along keeps step_exact_iff events (start_valid minimumDisplayTime) start

/-! ### How much is still to come -/

/-- Blocks and completions that the state can still lead to, with no minimum display time. -/
def rank (self : ProgressHUD) : Nat :=
  2 * self.delayed.length +
    if self.transitioning then if self.presenting then 2 else 1 else 0

def delivered (self : ProgressHUD) : ℚ × Event → Nat
  | (_,.animationFinished) => if self.running = 0 then 0 else 1
  | (_,.delayElapsed index) => if index < self.delayed.length then 1 else 0
  | _ => 0

def called : ℚ × Event → Nat
  | (_,.showInView _) | (_,.dismissAnimated _) | (_,.dismissAfterDelay ..) => 1
  | (_,.animationFinished) | (_,.delayElapsed _) => 0

structure Brisk (hud : ProgressHUD) : Prop where
  valid : hud.Valid
  minimumDisplayTime : hud.minimumDisplayTime = 0

theorem rank_dismissAnimated {self : ProgressHUD} (none : self.minimumDisplayTime = 0) (now : ℚ)
    (animated : Bool) : (self.dismissAnimated now animated).rank ≤ self.rank + 1 := by
  unfold dismissAnimated rank
  split
  · exact Nat.le_succ _
  · rename_i still
    split
    · exact Nat.le_succ _
    · cases animated <;> simp [none,animateOut,cleanUpAfterDismissal]

theorem dismissAnimated_minimumDisplayTime (self : ProgressHUD) (now : ℚ) (animated : Bool) :
    (self.dismissAnimated now animated).minimumDisplayTime = self.minimumDisplayTime := by
  unfold dismissAnimated
  dsimp only
  split
  · rfl
  · split
    · rfl
    · split
      · rfl
      · cases animated <;> rfl

theorem cleanUpAfterPresentation_minimumDisplayTime (self : ProgressHUD) (now : ℚ) :
    (self.cleanUpAfterPresentation now).minimumDisplayTime = self.minimumDisplayTime := by
  unfold cleanUpAfterPresentation
  dsimp only
  split
  · exact dismissAnimated_minimumDisplayTime ..
  · rfl

theorem step_minimumDisplayTime (self : ProgressHUD) (event : ℚ × Event) :
    (self.step event).minimumDisplayTime = self.minimumDisplayTime := by
  obtain ⟨now,event⟩ := event
  cases event with
  | showInView animated =>
    simp only [step,showInView]
    split
    · rfl
    · split
      · rfl
      · cases animated with
        | true => rfl
        | false => exact cleanUpAfterPresentation_minimumDisplayTime ..
  | dismissAnimated animated => exact dismissAnimated_minimumDisplayTime ..
  | dismissAfterDelay => rfl
  | animationFinished =>
    simp only [step,animationDidFinish]
    split
    · rfl
    · split
      · exact cleanUpAfterPresentation_minimumDisplayTime ..
      · rfl
  | delayElapsed index =>
    simp only [step]
    split
    · rfl
    · unfold ProgressHUD.delayElapsed
      split
      · exact dismissAnimated_minimumDisplayTime ..
      · rfl

theorem rank_le (self : ProgressHUD) :
    2 * self.delayed.length ≤ self.rank ∧ self.rank ≤ 2 * self.delayed.length + 2 := by
  unfold rank
  split
  · split <;> omega
  · omega

theorem rank_cleanUpAfterPresentation {self : ProgressHUD} (none : self.minimumDisplayTime = 0)
    (now : ℚ) : (self.cleanUpAfterPresentation now).rank ≤ 2 * self.delayed.length + 1 := by
  unfold cleanUpAfterPresentation
  dsimp only
  split
  · exact @rank_dismissAnimated
      { self with hidden := false, transitioning := false, displayTimestamp := now } none now
        self.dismissAfterTransitionFinishedWithAnimation
  · exact Nat.le_succ _

theorem rank_bound (self : ProgressHUD) (event : ℚ × Event) (brisk : self.Brisk) :
    (self.step event).rank + self.delivered event ≤ self.rank + 2 * called event := by
  obtain ⟨valid,none⟩ := brisk
  obtain ⟨low,high⟩ := self.rank_le
  obtain ⟨now,event⟩ := event
  cases event with
  | showInView animated =>
    have after := (self.showInView now animated).rank_le
    rw [showInView_delayed valid] at after
    simp only [step,delivered,called]
    omega
  | dismissAnimated animated =>
    have after := rank_dismissAnimated none now animated
    simp only [step,delivered,called]
    omega
  | dismissAfterDelay delay animated =>
    have more : 2 * (self.delayed ++ [((delay : ℚ),animated)]).length =
        2 * self.delayed.length + 2 := by simp [Nat.mul_add]
    have after : (self.dismissAfterDelay delay animated).rank = self.rank + 2 := by
      simp only [rank,ProgressHUD.dismissAfterDelay,more]
      exact Nat.add_right_comm _ _ _
    simp only [step,delivered,called]
    omega
  | animationFinished =>
    simp only [step,delivered,called]
    split
    · omega
    · rename_i busy
      have moving := valid.transitioning busy
      unfold animationDidFinish
      cases presenting : self.presenting with
      | true =>
        have before : self.rank = 2 * self.delayed.length + 2 := by simp [rank,moving,presenting]
        have after :=
          @rank_cleanUpAfterPresentation { self with running := self.running - 1 } none now
        dsimp only at after
        rw [if_pos rfl]
        simp only [presenting] at after
        omega
      | false =>
        have before : self.rank = 2 * self.delayed.length + 1 := by simp [rank,moving,presenting]
        rw [before]
        exact Nat.le_refl _
  | delayElapsed index =>
    simp only [step,delivered,called]
    cases found : self.delayed[index]? with
    | none =>
      rw [if_neg (by simpa using found)]
    | some block =>
      obtain ⟨bound,_⟩ := List.getElem?_eq_some_iff.mp found
      have closed : rank { self with delayed := self.delayed.eraseIdx index } + 2 = self.rank := by
        simp only [rank,List.length_eraseIdx_of_lt bound]
        omega
      have after := @rank_dismissAnimated { self with delayed := self.delayed.eraseIdx index } none
        now block.2
      rw [if_pos bound]
      dsimp only
      unfold ProgressHUD.delayElapsed
      split <;> omega

/-- In a run of a window without a minimum display time, which neither controller sets, each call
leads to two later callbacks at most: nothing goes on by itself for ever. -/
theorem callbacks_bounded (events : List (ℚ × Event)) :
    (run step ({} : ProgressHUD) events).rank + total step delivered {} events ≤
      2 * (events.map called).sum := by
  have keeps (self : ProgressHUD) (event : ℚ × Event) (brisk : self.Brisk) :
      (self.step event).Brisk :=
    ⟨brisk.valid.step event,(self.step_minimumDisplayTime event).trans brisk.minimumDisplayTime⟩
  have bounded := run_bounded rank keeps rank_bound events
    (⟨start_valid 0,rfl⟩ : Brisk ({} : ProgressHUD))
  have calls (self : ProgressHUD) : total step (fun _ event => 2 * called event) self events =
      2 * (events.map called).sum := by
    clear bounded
    induction events generalizing self with
    | nil => rfl
    | cons event rest ih =>
      rw [total,ih,List.map_cons,List.sum_cons,Nat.mul_add]
  rw [calls] at bounded
  have nothing : rank {} = 0 := rfl
  omega

end ProgressHUD
end SocialService
