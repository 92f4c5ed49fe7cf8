import SocialService.App

/-! `JGProgressHUD` as the pod has it: a window that fades in and out, ignores calls while it does,
and dismisses itself later. The clock may show anything whenever it is read, the completion of an
animation may come at any time, and so may the block of a delayed dismissal. -/
namespace SocialService

structure ProgressHUD where
  /-- `targetView != nil` -/
  targetView : Bool := false
  /-- `superview != nil` -/
  superview : Bool := false
  hidden : Bool := true
  transitioning : Bool := false
  dismissAfterTransitionFinished : Bool := false
  dismissAfterTransitionFinishedWithAnimation : Bool := false
  displayTimestamp : ℚ := 0
  minimumDisplayTime : ℚ := 0
  /-- `_presenting` of the animation. -/
  presenting : Bool := false
  /-- Animations whose completion is still to come. -/
  running : Nat := 0
  /-- Blocks that wait for their delay, each with whether its dismissal is animated. -/
  delayed : List (ℚ × Bool) := []
  deriving DecidableEq

namespace ProgressHUD

def visible (self : ProgressHUD) : Bool := self.superview

def animateIn (self : ProgressHUD) : ProgressHUD :=
  { self with presenting := true, hidden := false, running := self.running + 1 }

def animateOut (self : ProgressHUD) : ProgressHUD :=
  { self with presenting := false, running := self.running + 1 }

def dismissAfterDelay (self : ProgressHUD) (delay : ℚ) (animated : Bool) : ProgressHUD :=
  { self with delayed := self.delayed ++ [(delay,animated)] }

def cleanUpAfterDismissal (self : ProgressHUD) : ProgressHUD :=
  { self with
    hidden := true
    superview := false
    transitioning := false
    dismissAfterTransitionFinished := false
    dismissAfterTransitionFinishedWithAnimation := false
    targetView := false }

def dismissAnimated (self : ProgressHUD) (now : ℚ) (animated : Bool) : ProgressHUD :=
  if self.transitioning then
    { self with
      dismissAfterTransitionFinished := true
      dismissAfterTransitionFinishedWithAnimation := animated }
  else if self.targetView = false then self
  else
    let displayedTime := now - self.displayTimestamp
    if self.minimumDisplayTime > 0 ∧ self.displayTimestamp > 0 ∧
        displayedTime < self.minimumDisplayTime then
      self.dismissAfterDelay (self.minimumDisplayTime - displayedTime) animated
    else
      let leaving := { self with transitioning := true }
      if animated then leaving.animateOut else leaving.cleanUpAfterDismissal

def cleanUpAfterPresentation (self : ProgressHUD) (now : ℚ) : ProgressHUD :=
  let presented :=
    { self with hidden := false, transitioning := false, displayTimestamp := now }
  if self.dismissAfterTransitionFinished then
    { presented.dismissAnimated now self.dismissAfterTransitionFinishedWithAnimation with
      dismissAfterTransitionFinished := false
      dismissAfterTransitionFinishedWithAnimation := false }
  else presented

def showInView (self : ProgressHUD) (now : ℚ) (animated : Bool) : ProgressHUD :=
  if self.transitioning then self
  else if self.targetView then self
  else
    let added := { self with
      targetView := true
      superview := true
      transitioning := true
      displayTimestamp := now }
    if animated then added.animateIn else added.cleanUpAfterPresentation now

def animationDidFinish (self : ProgressHUD) (now : ℚ) (presenting : Bool) : ProgressHUD :=
  if presenting then self.cleanUpAfterPresentation now else self.cleanUpAfterDismissal

/-- The block of `dismissAfterDelay:animated:`. -/
def delayElapsed (self : ProgressHUD) (now : ℚ) (animated : Bool) : ProgressHUD :=
  if self.visible then self.dismissAnimated now animated else self

inductive Event where
  | showInView (animated : Bool)
  | dismissAnimated (animated : Bool)
  | dismissAfterDelay (delay : Nat) (animated : Bool)
  | animationFinished
  | delayElapsed (index : Nat)
  deriving DecidableEq

/-- Each event comes with what the clock shows. -/
def step (self : ProgressHUD) : ℚ × Event → ProgressHUD
  | (now,.showInView animated) => self.showInView now animated
  | (now,.dismissAnimated animated) => self.dismissAnimated now animated
  | (_,.dismissAfterDelay delay animated) => self.dismissAfterDelay delay animated
  | (now,.animationFinished) =>
    if self.running = 0 then self
    else { self with running := self.running - 1 }.animationDidFinish now self.presenting
  | (now,.delayElapsed index) =>
    match self.delayed[index]? with
    | none => self
    | some (_,animated) =>
      { self with delayed := self.delayed.eraseIdx index }.delayElapsed now animated

/-! ### One animation at a time -/

/-- The flags tell the truth. -/
structure Sound (hud : ProgressHUD) : Prop where
  visible : hud.superview = hud.targetView
  hidden : hud.hidden = !hud.targetView
  running : hud.running = if hud.transitioning then 1 else 0
  target : hud.transitioning = true → hud.targetView = true

/-- A dismissal is put off only while an animation runs. -/
def Prompt (self : ProgressHUD) : Prop :=
  self.transitioning = false → self.dismissAfterTransitionFinished = false

theorem Sound.dismissAnimated {self : ProgressHUD} (sound : self.Sound) (now : ℚ)
    (animated : Bool) : (self.dismissAnimated now animated).Sound := by
  obtain ⟨visible,hidden,running,target⟩ := sound
  unfold ProgressHUD.dismissAnimated
  split
  · rename_i moving
    exact ⟨visible,hidden,running,target⟩
  · rename_i still
    split
    · exact ⟨visible,hidden,running,target⟩
    · dsimp only
      split
      · exact ⟨visible,hidden,running,target⟩
      · cases animated <;> constructor <;> simp_all [animateOut,cleanUpAfterDismissal]

theorem Prompt.dismissAnimated {self : ProgressHUD} (prompt : self.Prompt) (now : ℚ)
    (animated : Bool) : (self.dismissAnimated now animated).Prompt := by
  unfold ProgressHUD.dismissAnimated
  split
  · rename_i moving
    intro still
    simp [moving] at still
  · split
    · exact prompt
    · dsimp only
      split
      · exact prompt
      · cases animated <;> simp [Prompt,animateOut,cleanUpAfterDismissal]

/-- The window is on its target when its presentation ends. -/
theorem Sound.cleanUpAfterPresentation {self : ProgressHUD} (now : ℚ)
    (visible : self.superview = true) (target : self.targetView = true)
    (running : self.running = 0) : (self.cleanUpAfterPresentation now).Sound := by
  unfold ProgressHUD.cleanUpAfterPresentation
  have presented : Sound
      { self with hidden := false, transitioning := false, displayTimestamp := now } :=
    ⟨by simp [visible,target],by simp [target],by simp [running],by simp⟩
  dsimp only
  split
  · obtain ⟨visible,hidden,running,target⟩ := presented.dismissAnimated now
      self.dismissAfterTransitionFinishedWithAnimation
    exact ⟨visible,hidden,running,target⟩
  · exact presented

theorem Prompt.cleanUpAfterPresentation (self : ProgressHUD) (now : ℚ) :
    (self.cleanUpAfterPresentation now).Prompt := by
  unfold ProgressHUD.cleanUpAfterPresentation
  dsimp only
  split
  · exact fun _ => rfl
  · rename_i unflagged
    exact fun _ => by simpa using unflagged

theorem Sound.cleanUpAfterDismissal {self : ProgressHUD} (running : self.running = 0) :
    self.cleanUpAfterDismissal.Sound := by
  constructor <;> simp [ProgressHUD.cleanUpAfterDismissal,running]

structure Valid (hud : ProgressHUD) : Prop where
  sound : hud.Sound
  prompt : hud.Prompt

theorem Valid.delayed {self : ProgressHUD} (valid : self.Valid) (delayed : List (ℚ × Bool)) :
    Valid { self with delayed } := by
  obtain ⟨⟨visible,hidden,running,target⟩,prompt⟩ := valid
  exact ⟨⟨visible,hidden,running,target⟩,prompt⟩

theorem Valid.showInView {self : ProgressHUD} (valid : self.Valid) (now : ℚ) (animated : Bool) :
    (self.showInView now animated).Valid := by
  unfold ProgressHUD.showInView
  split
  · exact valid
  · rename_i still
    have running : self.running = 0 := by simpa [still] using valid.sound.running
    split
    · exact valid
    · cases animated with
      | true =>
        constructor
        · constructor <;> simp [animateIn,running]
        · simp [Prompt,animateIn]
      | false =>
        exact ⟨.cleanUpAfterPresentation now rfl rfl running,.cleanUpAfterPresentation _ now⟩

theorem Valid.step {self : ProgressHUD} (valid : self.Valid) (event : ℚ × Event) :
    (self.step event).Valid := by
  obtain ⟨now,event⟩ := event
  cases event with
  | showInView animated => exact valid.showInView now animated
  | dismissAnimated animated =>
    exact ⟨valid.sound.dismissAnimated now animated,valid.prompt.dismissAnimated now animated⟩
  | dismissAfterDelay delay animated => exact valid.delayed _
  | animationFinished =>
    simp only [ProgressHUD.step]
    split
    · exact valid
    · rename_i busy
      obtain ⟨⟨visible,hidden,running,target⟩,prompt⟩ := valid
      have moving : self.transitioning = true := by
        by_contra still
        simp [still] at running
        exact busy running
      have last : self.running - 1 = 0 := by simp [running,moving]
      unfold animationDidFinish
      split
      · exact ⟨.cleanUpAfterPresentation now (visible.trans (target moving)) (target moving) last,
          .cleanUpAfterPresentation _ now⟩
      · exact ⟨.cleanUpAfterDismissal last,fun _ => rfl⟩
  | delayElapsed index =>
    simp only [ProgressHUD.step]
    split
    · exact valid
    · rename_i delay animated found
      have closed := valid.delayed (self.delayed.eraseIdx index)
      unfold ProgressHUD.delayElapsed
      split
      · exact ⟨closed.sound.dismissAnimated now animated,closed.prompt.dismissAnimated now animated⟩
      · exact closed

theorem start_valid (minimumDisplayTime : ℚ) : Valid { minimumDisplayTime } := by
  constructor
  · constructor <;> simp
  · exact fun _ => rfl

end ProgressHUD
end SocialService
