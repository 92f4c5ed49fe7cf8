import SocialService.AppWindows

/-! Runs of the app with its progress windows: what stands on the screen, against what the app
machine says. -/
namespace SocialService

structure AppWindows where
  app : App
  windows : Windows ProgressHUD := ⟨{},[]⟩

namespace AppWindows
open EventMachine

inductive Callback where
  | animationFinished
  | delayElapsed (index : Nat)
  deriving DecidableEq

def Callback.event : Callback → ProgressHUD.Event
  | .animationFinished => .animationFinished
  | .delayElapsed index => .delayElapsed index

inductive Input where
  | app (event : App.Event)
  | callback (window : Window) (callback : Callback)

def perform (now : ℚ) (call : HudCall) (hud : ProgressHUD) : ProgressHUD :=
  hud.step (now,call.event)

/-- Each input comes with what the clock shows. After a trap nothing happens any more. -/
def step (s : AppWindows) : ℚ × Input → AppWindows
  | (now,input) =>
    if s.app.stopped.isSome then s
    else match input with
      | .app event =>
        ⟨s.app.step event,
          (s.app.windowActions event).foldl (Windows.act {} (perform now)) s.windows⟩
      | .callback window callback =>
        { s with windows := s.windows.update window (·.step (now,callback.event)) }

def launch (world : World) : AppWindows := { app := App.launch world }

def appEvents (inputs : List (ℚ × Input)) : List App.Event :=
  inputs.filterMap fun
    | (_,.app event) => some event
    | _ => none

/-- The windows change nothing in the app. -/
theorem run_app (s : AppWindows) (inputs : List (ℚ × Input)) :
    (run step s inputs).app = run App.step s.app (appEvents inputs) := by
  induction inputs generalizing s with
  | nil => rfl
  | cons input rest ih =>
    obtain ⟨now,input⟩ := input
    rw [run_cons,ih]
    cases input with
    | app event =>
      cases stopped : s.app.stopped <;> simp [step,appEvents,stopped,App.step]
    | callback window callback =>
      cases stopped : s.app.stopped <;> simp [step,appEvents,stopped]

/-! ### One window and what the app machine keeps of it -/

/-- A window that the app machine counts as dismissed is on its way, or gone. -/
structure Tracked (hud : ProgressHUD) (noted : JGProgressHUD) : Prop where
  valid : hud.Valid
  goes : noted.phase ≠ .shown → hud.GoesDown

theorem called_phase (call : HudCall) (now : ℚ) (noted : JGProgressHUD) :
    (noted.called (now,call.event)).phase = (call.note noted).phase := by
  cases call <;> rfl

theorem Tracked.fresh : Tracked {} {} where
  valid := ProgressHUD.start_valid 0
  goes := fun _ => .inl rfl

theorem Tracked.perform {hud : ProgressHUD} {noted : JGProgressHUD} (tracked : Tracked hud noted)
    (now : ℚ) (call : HudCall) : Tracked (perform now call hud) (call.note noted) where
  valid := tracked.valid.step _
  goes := by
    rw [← called_phase call now]
    exact ProgressHUD.step_goesDown ⟨hud,noted⟩ (now,call.event) tracked.valid tracked.goes

theorem Tracked.callback {hud : ProgressHUD} {noted : JGProgressHUD} (tracked : Tracked hud noted)
    (now : ℚ) (callback : Callback) : Tracked (hud.step (now,callback.event)) noted where
  valid := tracked.valid.step _
  goes := by
    intro dismissed
    cases callback with
    | animationFinished => exact (tracked.goes dismissed).animationFinished tracked.valid now
    | delayElapsed index => exact (tracked.goes dismissed).delayElapsed tracked.valid now index

structure Sound (s : AppWindows) : Prop where
  wellformed : s.app.Wellformed
  tracked : s.windows.Related Tracked s.app.windows

theorem launch_related {r : ProgressHUD → JGProgressHUD → Prop} (fresh : r {} {}) (world : World) :
    (launch world).windows.Related r (launch world).app.windows :=
  ⟨fresh,.nil⟩

theorem step_of_stopped (s : AppWindows) (input : ℚ × Input) (trap : Trap)
    (stopped : s.app.stopped = some trap) : s.step input = s := by
  simp [step,stopped]

theorem step_app (s : AppWindows) (now : ℚ) (event : App.Event) (live : s.app.stopped = none) :
    s.step (now,.app event) = ⟨s.app.step event,
      (s.app.windowActions event).foldl (Windows.act {} (perform now)) s.windows⟩ := by
  simp [step,live]

theorem step_callback (s : AppWindows) (now : ℚ) (window : Window) (callback : Callback)
    (live : s.app.stopped = none) : s.step (now,.callback window callback) =
      { s with windows := s.windows.update window (·.step (now,callback.event)) } := by
  simp [step,live]

/-- What ends by itself concerns one window, and nothing that the app machine keeps. -/
theorem callback_related {r : ProgressHUD → JGProgressHUD → Prop} {windows : Windows ProgressHUD}
    {noted : Windows JGProgressHUD} (related : windows.Related r noted) (window : Window)
    (now : ℚ) (callback : Callback)
    (keeps : ∀ hud model, windows.find? window = some hud → noted.find? window = some model →
      r (hud.step (now,callback.event)) model) :
    (windows.update window (·.step (now,callback.event))).Related r noted := by
  have changed := (related.update_iff window (·.step (now,callback.event)) id).mpr keeps
  rwa [Windows.update_id] at changed

theorem step_sound (s : AppWindows) (input : ℚ × Input) (sound : s.Sound) :
    (s.step input).Sound := by
  cases stopped : s.app.stopped with
  | some trap => rwa [step_of_stopped s input trap stopped]
  | none =>
    obtain ⟨now,input⟩ := input
    cases input with
    | app event =>
      rw [step_app s now event stopped]
      refine ⟨App.step_wellformed s.app event sound.wellformed,?_⟩
      rw [App.step_windows s.app event sound.wellformed stopped]
      refine Windows.Related.acts Tracked.fresh _ ?_ sound.tracked
      exact fun _ call _ _ _ tracked => tracked.perform now call
    | callback window callback =>
      rw [step_callback s now window callback stopped]
      refine ⟨sound.wellformed,callback_related sound.tracked window now callback ?_⟩
      intro hud noted here there
      exact (sound.tracked.find here there).callback now callback

theorem run_sound (world : World) (inputs : List (ℚ × Input)) :
    (run step (launch world) inputs).Sound :=
  run_invariant step_sound inputs ⟨App.launch_wellformed world,launch_related .fresh world⟩

/-- In a run of the app with its windows in which the last pending completion of every login closes
the windows, none is left on the screen once no callback of Facebook is pending and every window
has settled. -/
theorem windows_gone (world : World) (inputs : List (ℚ × Input))
    (closes : Along App.step App.LastAnswerCloses (App.launch world) (appEvents inputs)) :
    let s := run step (launch world) inputs
    s.app.stopped = none → s.app.Quiet → s.windows.All ProgressHUD.Settled →
      s.windows.All fun hud => hud.visible = false := by
  intro s live quiet settled
  have start : (App.launch world).TakenDown :=
    fun _ _ => ⟨by simp [App.launch],by simp [App.launch,App.SignInWindowsDown]⟩
  have taken := (throughout_iff_along App.step_wellformed App.step_takenDown_iff (appEvents inputs)
    (App.launch_wellformed world) start).mpr closes
  have app : s.app = run App.step (App.launch world) (appEvents inputs) := run_app _ inputs
  have down : s.app.WindowsDown := (app ▸ taken.last : s.app.TakenDown) live quiet
  have gone (hud : ProgressHUD) (noted : JGProgressHUD) (tracked : Tracked hud noted)
      (settled : hud.Settled) (dismissed : noted.phase ≠ .shown) : hud.visible = false :=
    (tracked.goes dismissed).resolve_right (settled.not_doomed tracked.valid)
  have tracked := (run_sound world inputs).tracked
  refine ⟨gone _ _ tracked.login settled.login down.login,?_⟩
  intro hud member
  obtain ⟨controller,here⟩ : ∃ controller, s.windows.find? (.signIn controller) = some hud :=
    List.getElem?_of_mem member
  obtain ⟨noted,there,follows⟩ := tracked.found here
  exact gone hud noted follows (settled.signIn hud member)
    (down.signIn noted (List.mem_of_getElem? there))

/-- A cancelled login, whose window goes at once when it has faded in. -/
theorem cancelled_login_window_gone :
    (run step (launch .blank) [(1,.app .facebookLogin),(2,.callback .login .animationFinished),
      (3,.app (.loggedIn 0 ⟨none,true,none⟩)),(3,.callback .login (.delayElapsed 0)),
      (4,.callback .login .animationFinished)]).windows.All fun hud => hud.visible = false := by
  apply windows_gone
  · refine ⟨fun _ => trivial,?_,trivial⟩
    rintro _ attempt ⟨⟩ _
    refine ⟨?_,fun goes_on => absurd (.inr ⟨rfl,rfl⟩) goes_on⟩
    exact fun _ => ⟨fun _ => rfl,fun _ _ found => nomatch found⟩
  · rfl
  · intro request member
    exact (List.not_mem_nil member).elim
  · exact ⟨⟨rfl,rfl⟩,fun hud member => (List.not_mem_nil member).elim⟩

/-! ### When the app machine is right about every window -/

/-- A window may be asked for while it stays, or once it is gone and no delay is left. -/
def Timely (hud : ProgressHUD) : HudCall → Prop
  | .show _ => hud.GoesDown → hud.visible = false ∧ hud.delayed = []
  | .dismissHud .. => True

/-- Each window stays if and only if the app machine counts it as shown. -/
def Exact (s : AppWindows) : Prop :=
  s.windows.Related (fun hud noted => hud.GoesDown ↔ noted.phase ≠ .shown) s.app.windows

/-- No login asks for a window that is going down, or that an old delay will take down. -/
def Unhurried (s : AppWindows) : ℚ × Input → Prop
  | (_,.app event) => s.app.stopped = none → ∀ window call,
      .called window call ∈ s.app.windowActions event →
        ∀ hud, s.windows.find? window = some hud → Timely hud call
  | (_,.callback ..) => True

theorem perform_exact_iff {hud : ProgressHUD} {noted : JGProgressHUD} (tracked : Tracked hud noted)
    (exact' : hud.GoesDown ↔ noted.phase ≠ .shown) (now : ℚ) (call : HudCall) :
    ((perform now call hud).GoesDown ↔ (call.note noted).phase ≠ .shown) ↔ Timely hud call := by
  have step := ProgressHUD.step_exact_iff ⟨hud,noted⟩ (now,call.event) tracked.valid exact'
  rw [← called_phase call now]
  cases call <;> exact step

theorem callback_exact {hud : ProgressHUD} {noted : JGProgressHUD} (tracked : Tracked hud noted)
    (exact' : hud.GoesDown ↔ noted.phase ≠ .shown) (now : ℚ) (callback : Callback) :
    (hud.step (now,callback.event)).GoesDown ↔ noted.phase ≠ .shown := by
  have step := ProgressHUD.step_exact_iff ⟨hud,noted⟩ (now,callback.event) tracked.valid exact'
  cases callback <;> exact step.mpr trivial

theorem step_exact_iff (s : AppWindows) (input : ℚ × Input) (sound : s.Sound)
    (exact' : s.Exact) : (s.step input).Exact ↔ s.Unhurried input := by
  obtain ⟨now,input⟩ := input
  cases stopped : s.app.stopped with
  | some trap =>
    rw [step_of_stopped s _ trap stopped]
    refine iff_of_true exact' ?_
    cases input with
    | app event => simp [Unhurried,stopped]
    | callback => trivial
  | none =>
    cases input with
    | app event =>
      rw [step_app s now event stopped,Exact,App.step_windows s.app event sound.wellformed stopped]
      rcases s.app.windowActions_cases event with actions | actions | ⟨window,call,actions⟩ <;>
        rw [actions]
      · exact iff_of_true exact' (by simp [Unhurried,actions])
      · have fresh : ProgressHUD.GoesDown {} ↔ ({} : JGProgressHUD).phase ≠ .shown :=
          iff_of_true (.inl rfl) (by simp)
        refine iff_of_true (exact'.made fresh (perform now) HudCall.note) ?_
        simp [Unhurried,actions]
      · refine (exact'.update_iff window (perform now call) call.note).trans ?_
        have step {hud : ProgressHUD} {noted : JGProgressHUD}
            (here : s.windows.find? window = some hud)
            (there : s.app.windows.find? window = some noted) :=
          perform_exact_iff (sound.tracked.find here there) (exact'.find here there) now call
        simp only [Unhurried,actions,List.mem_singleton,WindowAction.called.injEq]
        constructor
        · rintro changed _ _ _ ⟨rfl,rfl⟩ hud here
          obtain ⟨noted,there,_⟩ := exact'.found here
          exact (step here there).mp (changed hud noted here there)
        · intro timely hud noted here there
          exact (step here there).mpr (timely stopped window call ⟨rfl,rfl⟩ hud here)
    | callback window callback =>
      rw [step_callback s now window callback stopped]
      refine iff_of_true (callback_related exact' window now callback ?_) trivial
      intro hud noted here there
      exact callback_exact (sound.tracked.find here there) (exact'.find here there) now callback

/-- In a run of the app with its windows the app machine is right in every state about which of them
stay on the screen if and only if no login asks for a window that is still going down. -/
theorem windows_exact_iff (world : World) (inputs : List (ℚ × Input)) :
    Throughout step Exact (launch world) inputs ↔ Along step Unhurried (launch world) inputs :=
  throughout_iff_along step_sound step_exact_iff inputs
    ⟨App.launch_wellformed world,launch_related .fresh world⟩
    (launch_related (iff_of_true (.inl rfl) (by simp)) world)

end AppWindows
end SocialService
