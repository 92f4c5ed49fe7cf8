import SocialService.AppShape

/-! The requests and answers of a run, attempt by attempt: what is asked, what is still out and
what has been answered. -/
namespace SocialService

def Request.awaits (attempt : Attempt) : Request → Bool
  | .createUser other _ | .logIn other | .signInAndRetrieveData other _ => other = attempt
  | .graph .. | .signIn .. | .getDocument .. => false

/-- The profile of this attempt may still be written. -/
def Request.enrols (attempt : Attempt) : Request → Bool
  | .logIn other | .graph other _ => other = attempt
  | .createUser .. | .signInAndRetrieveData .. | .signIn .. | .getDocument .. => false

/-- How many completions a request can lead to. -/
def Request.rank : Request → Nat
  | .logIn _ => 3
  | _ => 1

def LogEntry.settles (attempt : Attempt) : LogEntry → Bool
  | .accepted other _ | .rejected other => other = attempt
  | .alerted .. | .stored .. => false

def LogEntry.stores (attempt : Attempt) : LogEntry → Bool
  | .stored other _ _ => other = attempt
  | .alerted .. | .accepted .. | .rejected .. => false

section Kinds
variable (attempt other : Attempt) (identity : Identity)

@[simp] theorem Request.awaits_createUser :
    (Request.createUser other identity).awaits attempt = decide (other = attempt) := rfl

@[simp] theorem Request.awaits_logIn :
    (Request.logIn other).awaits attempt = decide (other = attempt) := rfl

@[simp] theorem Request.awaits_signInAndRetrieveData :
    (Request.signInAndRetrieveData other identity).awaits attempt = decide (other = attempt) := rfl

@[simp] theorem Request.awaits_graph : (Request.graph other identity).awaits attempt = false := rfl

@[simp] theorem Request.enrols_createUser :
    (Request.createUser other identity).enrols attempt = false := rfl

@[simp] theorem Request.enrols_logIn :
    (Request.logIn other).enrols attempt = decide (other = attempt) := rfl

@[simp] theorem Request.enrols_signInAndRetrieveData :
    (Request.signInAndRetrieveData other identity).enrols attempt = false := rfl

@[simp] theorem Request.enrols_graph :
    (Request.graph other identity).enrols attempt = decide (other = attempt) := rfl

@[simp] theorem LogEntry.settles_stored (uid : String) (document : Document) :
    (LogEntry.stored other uid document).settles attempt = false := rfl

@[simp] theorem LogEntry.stores_stored (uid : String) (document : Document) :
    (LogEntry.stored other uid document).stores attempt = decide (other = attempt) := rfl

end Kinds

/-- The owner of the token that a completion of `logIn` goes on with. -/
def FacebookAnswer.goesOn (answer : FacebookAnswer) (attempt : Attempt) : Option Identity :=
  if answer.err.isSome ∨ attempt.entrance = .facebookLogin ∧ answer.isCancelled = true then none
  else answer.token

namespace App
open EventMachine

def started (s : App) (event : Event) : List Attempt :=
  if s.stopped.isSome then []
  else match event with
    | .register fields =>
      if s.visible = some .login ∧ fields.Valid ∧ (intOfString fields.phone).isSome then
        [s.attempt (.register fields)]
      else []
    | .facebookLogin => if s.visible = some .login then [s.attempt .facebookLogin] else []
    | .facebookSignIn =>
      if s.visible = some .signIn then [s.attempt (.facebookSignIn s.signInController)] else []
    | _ => []

def ended (s : App) (event : Event) : List Attempt :=
  if s.stopped.isSome then []
  else match event with
    | .loggedIn index answer =>
      match s.outstanding[index]? with
      | some (.logIn attempt) => if answer.goesOn attempt = none then [attempt] else []
      | _ => []
    | _ => []

def Event.index : Event → Option Nat
  | .createdUser index _ | .loggedIn index _ | .signedIn index _ | .graphAnswered index _
  | .signedInWithEmail index _ | .gotDocument index _ => some index
  | _ => none

def Event.answers : Event → Request → Bool
  | .createdUser .., .createUser .. | .loggedIn .., .logIn _
  | .signedIn .., .signInAndRetrieveData .. | .graphAnswered .., .graph ..
  | .signedInWithEmail .., .signIn .. | .gotDocument .., .getDocument .. => true
  | _, _ => false

def answered (s : App) (event : Event) : List Request :=
  if s.stopped.isSome then []
  else (event.index.bind (s.outstanding[·]?)).toList.filter event.answers

inductive Traffic (s next : App) : List Attempt → List Attempt → List Request → Prop where
  | quiet (attempts : s.attempts ≤ next.attempts) (outstanding : next.outstanding = s.outstanding)
      (entries : List LogEntry) (log : next.log = s.log ++ entries)
      (alerts : ∀ attempt, entries.countP (·.settles attempt) = 0 ∧
        entries.countP (·.stores attempt) = 0) : Traffic s next [] [] []
  | registered (attempt : Attempt) (new : attempt.id = s.attempts) (fields : RegistrationFields)
      (entrance : attempt.entrance = .register fields)
      (attempts : next.attempts = s.attempts + 1) (identity : Identity)
      (outstanding : next.outstanding = s.outstanding ++ [.createUser attempt identity])
      (write : Option (String × Document))
      (log : next.log = s.log ++ (write.map fun write => .stored attempt write.1 write.2).toList) :
      Traffic s next [attempt] [] []
  | asked (attempt : Attempt) (new : attempt.id = s.attempts)
      (entrance : attempt.entrance = .facebookLogin ∨
        ∃ controller, attempt.entrance = .facebookSignIn controller)
      (attempts : next.attempts = s.attempts + 1)
      (outstanding : next.outstanding = s.outstanding ++ [.logIn attempt])
      (log : next.log = s.log) : Traffic s next [attempt] [] []
  | settled (index : Nat) (request : Request) (found : s.outstanding[index]? = some request)
      (attempt : Attempt) (awaits : ∀ other, request.awaits other = decide (attempt = other))
      (enrols : ∀ other, request.enrols other = false) (rank : request.rank = 1)
      (attempts : next.attempts = s.attempts)
      (outstanding : next.outstanding = s.outstanding.eraseIdx index)
      (entry : LogEntry) (settles : ∀ other, entry.settles other = decide (attempt = other))
      (stores : ∀ other, entry.stores other = false) (log : next.log = s.log ++ [entry]) :
      Traffic s next [] [] [request]
  | wentOn (index : Nat) (attempt : Attempt) (found : s.outstanding[index]? = some (.logIn attempt))
      (attempts : next.attempts = s.attempts) (owner : Identity)
      (outstanding : next.outstanding = s.outstanding.eraseIdx index ++
        [.signInAndRetrieveData attempt owner,.graph attempt owner]) (log : next.log = s.log) :
      Traffic s next [] [] [.logIn attempt]
  | ended (index : Nat) (attempt : Attempt) (found : s.outstanding[index]? = some (.logIn attempt))
      (attempts : next.attempts = s.attempts)
      (outstanding : next.outstanding = s.outstanding.eraseIdx index) (log : next.log = s.log) :
      Traffic s next [] [attempt] [.logIn attempt]
  | enrolled (index : Nat) (attempt : Attempt) (owner : Identity)
      (found : s.outstanding[index]? = some (.graph attempt owner))
      (attempts : next.attempts = s.attempts)
      (outstanding : next.outstanding = s.outstanding.eraseIdx index)
      (write : Option (String × Document))
      (log : next.log = s.log ++ (write.map fun write => .stored attempt write.1 write.2).toList) :
      Traffic s next [] [] [.graph attempt owner]

theorem loggedIn_traffic (s : App) (index : Nat) (answer : FacebookAnswer)
    (live : s.stopped = none) (attempt : Attempt)
    (found : s.outstanding[index]? = some (.logIn attempt)) :
    Traffic s (s.step (.loggedIn index answer)) (s.started (.loggedIn index answer))
      (s.ended (.loggedIn index answer)) (s.answered (.loggedIn index answer)) := by
  have answers : s.answered (.loggedIn index answer) = [.logIn attempt] := by
    simp [answered,live,Event.index,Event.answers,found]
  have ends : s.ended (.loggedIn index answer) =
      if answer.goesOn attempt = none then [attempt] else [] := by simp [ended,live,found]
  rw [answers,ends,show s.started (.loggedIn index answer) = [] by simp [started,live],
    step_loggedIn s index answer live attempt found]
  obtain ⟨err,isCancelled,token⟩ := answer
  unfold LoginController.loggedIn SignInController.loggedIn FacebookAnswer.goesOn
  by_cases login : attempt.entrance = .facebookLogin
  all_goals
    rcases err with _ | err <;> rcases isCancelled with _ | _ <;> rcases token with _ | owner
    all_goals simp only [login]
    all_goals first
      | exact .ended index attempt found rfl rfl rfl
      | exact .wentOn index attempt found rfl owner (by simp [close]) rfl

theorem ignored_traffic (s : App) (event : Event) (out : s.stopped.isSome ∨ ¬s.Enabled event) :
    s.started event = [] ∧ s.ended event = [] ∧ s.answered event = [] := by
  unfold started ended answered
  by_cases stopped : s.stopped.isSome
  · simp [stopped]
  · have off := out.resolve_left stopped
    rw [if_neg stopped,if_neg stopped,if_neg stopped]
    refine ⟨?_,?_,?_⟩
    · cases event with
      | register fields =>
        refine if_neg ?_
        rintro ⟨on,_⟩
        exact off on
      | facebookLogin | facebookSignIn => exact if_neg off
      | _ => rfl
    · cases event with
      | loggedIn index answer =>
        have other : ∀ attempt, s.outstanding[index]? ≠ some (.logIn attempt) :=
          fun attempt found => off ⟨attempt,found⟩
        dsimp only
        split <;> simp_all
      | _ => rfl
    · refine List.filter_eq_nil_iff.mpr ?_
      intro request member answers
      obtain ⟨index,at_event,found⟩ := Option.bind_eq_some_iff.mp (Option.mem_toList.mp member)
      refine off ?_
      cases event <;> cases request <;> simp_all [Event.index,Event.answers,Enabled]

theorem step_traffic (s : App) (event : Event) (valid : Wellformed s) :
    Traffic s (s.step event) (s.started event) (s.ended event) (s.answered event) := by
  by_cases out : s.stopped.isSome ∨ ¬s.Enabled event
  · obtain ⟨started,ended,answered⟩ := ignored_traffic s event out
    rw [started,ended,answered,step_of_ignored s event out]
    exact .quiet (Nat.le_refl _) rfl [] (by simp) (by simp)
  · obtain ⟨going,_⟩ := not_or.mp out
    have answers (request : Request) (index : Nat) (at_event : event.index = some index)
        (answers : event.answers request = true) (found : s.outstanding[index]? = some request) :
        s.answered event = [request] := by
      simp [answered,going,at_event,found,answers]
    have unanswered (none : event.index = none) : s.answered event = [] := by
      simp [answered,none]
    have moved := step_steps s event
    generalize same : s.step event = next at moved ⊢
    cases moved with
    | ignored event away => exact absurd away out
    | refused fields live on invalid message =>
      rw [unanswered rfl]
      have unstarted : ¬(s.visible = some .login ∧ fields.Valid ∧
          (intOfString fields.phone).isSome) := fun all => invalid all.2.1
      simp only [started,ended,if_neg going,if_neg unstarted]
      refine .quiet (by simp) (by simp) [.alerted (s.attempt (.register fields)) message]
        (by simp) ?_
      simp [LogEntry.settles,LogEntry.stores]
    | overflowed fields live on valid overflow trap =>
      rw [unanswered rfl]
      have unstarted : ¬(s.visible = some .login ∧ fields.Valid ∧
          (intOfString fields.phone).isSome) := by simp [overflow]
      simp only [started,ended,if_neg going,if_neg unstarted]
      exact .quiet (by simp) rfl [] (by simp) (by simp)
    | registered fields live on valid phone number =>
      rw [unanswered rfl]
      have begun : s.visible = some .login ∧ fields.Valid ∧ (intOfString fields.phone).isSome :=
        ⟨on,valid,by rw [number]; rfl⟩
      simp only [started,ended,if_neg going,if_pos begun]
      exact .registered _ rfl fields rfl (by simp [LoginController.registered]) _
        (by simp [LoginController.registered]; rfl) _ (by simp [LoginController.registered]; rfl)
    | facebookLogin live on =>
      rw [unanswered rfl]
      simp only [started,ended,if_neg going,if_pos on]
      exact .asked _ rfl (.inl rfl) rfl rfl rfl
    | facebookSignIn live on =>
      rw [unanswered rfl]
      simp only [started,ended,if_neg going,if_pos on]
      exact .asked _ rfl (.inr ⟨_,rfl⟩) rfl rfl rfl
    | notLoggedIn index answer live attempt found | loggedIn index answer live attempt found =>
      rw [← same]
      exact loggedIn_traffic s index answer live attempt found
    | createdUser index answer live attempt identity found =>
      rw [answers _ index rfl rfl found]
      simp only [started,ended,if_neg going]
      refine .settled index _ found attempt (fun _ => rfl) (fun _ => rfl) rfl (by simp) (by simp)
        (verdict attempt answer) ?_ ?_ (by simp)
      all_goals cases answer <;> exact fun _ => rfl
    | signedIn index answer live attempt owner found =>
      rw [answers _ index rfl rfl found]
      simp only [started,ended,if_neg going]
      refine .settled index _ found attempt (fun _ => rfl) (fun _ => rfl) rfl (by simp) (by simp)
        (verdict attempt answer) ?_ ?_ (by simp)
      all_goals cases answer <;> exact fun _ => rfl
    | enrolled index result live attempt owner found entrance identity usable =>
      rw [answers _ index rfl rfl found]
      simp only [started,ended,if_neg going]
      exact .enrolled index attempt owner found (by simp [LoginController.enrolled])
        (by simp [LoginController.enrolled]) _ (by simp [LoginController.enrolled]; rfl)
    | graphTrapped index result live attempt owner found =>
      rw [answers _ index rfl rfl found]
      simp only [started,ended,if_neg going]
      exact .enrolled index attempt owner found rfl rfl none (by simp)
    | presented | opened | closed | filled | formReset | submitted =>
      rw [unanswered rfl]
      simp only [started,ended,if_neg going]
      exact .quiet (by simp) rfl [] (by simp) (by simp)
    | signedInWithEmail _ _ _ attempt fields found | gotDocument _ _ _ attempt fields found =>
      exact (valid.fits _ (List.mem_of_getElem? found)).elim

/-! ### Every attempt is answered once -/

theorem countP_eraseIdx {α : Type} (p : α → Bool) {xs : List α} {index : Nat} {x : α}
    (found : xs[index]? = some x) :
    (xs.eraseIdx index).countP p + (if p x then 1 else 0) = xs.countP p := by
  obtain ⟨bound,rfl⟩ := List.getElem?_eq_some_iff.mp found
  rw [← (List.getElem_cons_eraseIdx_perm bound).countP_eq p,List.countP_cons]

theorem sum_eraseIdx {α : Type} (f : α → Nat) {xs : List α} {index : Nat} {x : α}
    (found : xs[index]? = some x) : ((xs.eraseIdx index).map f).sum + f x = (xs.map f).sum := by
  obtain ⟨bound,rfl⟩ := List.getElem?_eq_some_iff.mp found
  rw [← ((List.getElem_cons_eraseIdx_perm bound).map f).sum_eq,List.map_cons,List.sum_cons,
    Nat.add_comm]

/-- Requests of this attempt that Firebase Auth has still to answer, or Facebook before it. -/
def pending (attempt : Attempt) (s : App) : Nat := s.outstanding.countP (·.awaits attempt)

def verdicts (attempt : Attempt) (s : App) : Nat := s.log.countP (·.settles attempt)

theorem pending_balance (s : App) (event : Event) (valid : Wellformed s) (attempt : Attempt) :
    pending attempt (s.step event) + verdicts attempt (s.step event) +
        (s.ended event).countP (· == attempt) =
      pending attempt s + verdicts attempt s + (s.started event).countP (· == attempt) := by
  have traffic := step_traffic s event valid
  unfold pending verdicts
  generalize s.step event = next at traffic ⊢
  generalize s.started event = started at traffic ⊢
  generalize s.ended event = ended at traffic ⊢
  generalize s.answered event = answered at traffic
  cases traffic with
  | quiet attempts outstanding entries log alerts =>
    simp [outstanding,log,(alerts attempt).1]
  | registered other new fields entrance attempts identity outstanding write log =>
    cases write <;> simp [outstanding,log] <;> omega
  | asked other new entrance attempts outstanding log =>
    simp [outstanding,log]
    omega
  | settled index request found other awaits enrols rank attempts outstanding entry settles stores
      log =>
    have removed := countP_eraseIdx (·.awaits attempt) found
    simp only [awaits,decide_eq_true_eq] at removed
    simp [outstanding,log,settles]
    omega
  | wentOn index other found attempts owner outstanding log =>
    have removed := countP_eraseIdx (·.awaits attempt) found
    simp only [Request.awaits_logIn,decide_eq_true_eq] at removed
    simp [outstanding,log,List.countP_cons]
    omega
  | ended index other found attempts outstanding log =>
    have removed := countP_eraseIdx (·.awaits attempt) found
    simp only [Request.awaits_logIn,decide_eq_true_eq] at removed
    simp [outstanding,log]
    omega
  | enrolled index other owner found attempts outstanding write log =>
    have removed := countP_eraseIdx (·.awaits attempt) found
    simp only [Request.awaits_graph,Bool.false_eq_true,if_false,Nat.add_zero] at removed
    cases write <;> simp [outstanding,log] <;> omega

def unmade (attempt : Attempt) (s : App) : Nat := if s.attempts ≤ attempt.id then 1 else 0

theorem unmade_bound (s : App) (event : Event) (valid : Wellformed s) (attempt : Attempt) :
    unmade attempt (s.step event) + (s.started event).countP (· == attempt) ≤
      unmade attempt s + 0 := by
  have traffic := step_traffic s event valid
  unfold unmade
  generalize s.step event = next at traffic ⊢
  generalize s.started event = started at traffic ⊢
  generalize s.ended event = ended at traffic
  generalize s.answered event = answered at traffic
  have monotone (attempts : s.attempts ≤ next.attempts) :
      (if next.attempts ≤ attempt.id then 1 else 0) ≤ if s.attempts ≤ attempt.id then 1 else 0 := by
    split
    · rw [if_pos (by omega)]
    · exact Nat.zero_le _
  have started_once (other : Attempt) (new : other.id = s.attempts)
      (attempts : next.attempts = s.attempts + 1) :
      (if next.attempts ≤ attempt.id then 1 else 0) + [other].countP (· == attempt) ≤
        (if s.attempts ≤ attempt.id then 1 else 0) + 0 := by
    by_cases same : other = attempt
    · subst same
      rw [if_neg (by omega),if_pos (by omega)]
      simp
    · simpa [same] using monotone (by omega)
  cases traffic with
  | quiet attempts => simpa using monotone attempts
  | registered other new fields entrance attempts => exact started_once other new attempts
  | asked other new entrance attempts => exact started_once other new attempts
  | settled _ _ _ _ _ _ _ attempts | wentOn _ _ _ attempts | ended _ _ _ attempts
  | enrolled _ _ _ _ attempts => simpa using monotone attempts.symm.le

theorem countP_emitted (emit : App → Event → List Attempt) (p : Attempt → Bool) (s : App)
    (events : List Event) : (emitted step emit s events).countP p =
      total step (fun s event => (emit s event).countP p) s events :=
  measure_emitted (List.countP p) rfl (fun _ _ => List.countP_append) emit events

theorem started_once (world : World) (events : List Event) (attempt : Attempt) :
    (emitted step started (launch world) events).countP (· == attempt) ≤ 1 := by
  have bounded := run_bounded (unmade attempt) step_wellformed
    (fun s event valid => unmade_bound s event valid attempt) events (launch_wellformed world)
  rw [total_zero,← countP_emitted] at bounded
  have one : unmade attempt (launch world) ≤ 1 := by
    unfold unmade
    split <;> decide
  omega

/-- In a run of the app every attempt that asks Firebase Auth or Facebook asks once, and it has one
request out, or one verdict, or Facebook has put an end to it: none is lost and none comes twice. -/
theorem verdicts_accounted (world : World) (events : List Event) (attempt : Attempt) :
    let s := run step (launch world) events
    let asked := (emitted step started (launch world) events).count attempt
    pending attempt s + verdicts attempt s +
        (emitted step ended (launch world) events).count attempt = asked ∧ asked ≤ 1 := by
  intro s asked
  have balanced := run_balanced (fun s => pending attempt s + verdicts attempt s) step_wellformed
    (fun s event valid => pending_balance s event valid attempt) events (launch_wellformed world)
  have nothing : pending attempt (launch world) + verdicts attempt (launch world) = 0 := rfl
  rw [nothing,Nat.zero_add,← countP_emitted,← countP_emitted] at balanced
  exact ⟨balanced,started_once world events attempt⟩

/-! ### The profile of an attempt -/

/-- Writes of the profile of this attempt, done or possible. -/
def writes (attempt : Attempt) (s : App) : Nat :=
  s.log.countP (·.stores attempt) + s.outstanding.countP (·.enrols attempt)

theorem writes_bound (s : App) (event : Event) (valid : Wellformed s) (attempt : Attempt) :
    writes attempt (s.step event) + 0 ≤
      writes attempt s + (s.started event).countP (· == attempt) := by
  have traffic := step_traffic s event valid
  unfold writes
  generalize s.step event = next at traffic ⊢
  generalize s.started event = started at traffic ⊢
  generalize s.ended event = ended at traffic
  generalize s.answered event = answered at traffic
  cases traffic with
  | quiet attempts outstanding entries log alerts =>
    simp [outstanding,log,(alerts attempt).2]
  | registered other new fields entrance attempts identity outstanding write log =>
    cases write <;> simp [outstanding,log]
    omega
  | asked other new entrance attempts outstanding log =>
    simp [outstanding,log]
    omega
  | settled index request found other awaits enrols rank attempts outstanding entry settles stores
      log =>
    have removed := countP_eraseIdx (·.enrols attempt) found
    simp only [enrols,Bool.false_eq_true,if_false,Nat.add_zero] at removed
    simp [outstanding,log,stores]
    omega
  | wentOn index other found attempts owner outstanding log =>
    have removed := countP_eraseIdx (·.enrols attempt) found
    simp only [Request.enrols_logIn,decide_eq_true_eq] at removed
    simp [outstanding,log,List.countP_cons]
    omega
  | ended index other found attempts outstanding log =>
    have removed := countP_eraseIdx (·.enrols attempt) found
    simp only [Request.enrols_logIn,decide_eq_true_eq] at removed
    simp [outstanding,log]
    omega
  | enrolled index other owner found attempts outstanding write log =>
    have removed := countP_eraseIdx (·.enrols attempt) found
    simp only [Request.enrols_graph,decide_eq_true_eq] at removed
    cases write <;> simp [outstanding,log,List.countP_cons] <;> omega

/-- In a run of the app no attempt writes its profile twice, whatever the order of the answers. -/
theorem profile_stored_once (world : World) (events : List Event) (attempt : Attempt) :
    (run step (launch world) events).log.countP (·.stores attempt) ≤ 1 := by
  have bounded := run_bounded (writes attempt) step_wellformed
    (fun s event valid => writes_bound s event valid attempt) events (launch_wellformed world)
  have nothing : writes attempt (launch world) = 0 := rfl
  rw [total_zero,nothing,Nat.zero_add,← countP_emitted] at bounded
  have once := started_once world events attempt
  have counted : (run step (launch world) events).log.countP (·.stores attempt) ≤
      writes attempt (run step (launch world) events) := Nat.le_add_right _ _
  omega

/-! ### How many answers there can be -/

def rank (s : App) : Nat := (s.outstanding.map Request.rank).sum

/-- How many completions an attempt can lead to. -/
def allowance (attempt : Attempt) : Nat :=
  match attempt.entrance with
  | .register _ | .signIn _ => 1
  | .facebookLogin | .facebookSignIn _ => 3

theorem rank_bound (s : App) (event : Event) (valid : Wellformed s) :
    rank (s.step event) + (s.answered event).length ≤
      rank s + ((s.started event).map allowance).sum := by
  have traffic := step_traffic s event valid
  unfold rank
  generalize s.step event = next at traffic ⊢
  generalize s.started event = started at traffic ⊢
  generalize s.ended event = ended at traffic
  generalize s.answered event = answered at traffic ⊢
  cases traffic with
  | quiet attempts outstanding => simp [outstanding]
  | registered other new fields entrance attempts identity outstanding =>
    simp [outstanding,allowance,entrance,Request.rank]
  | asked other new entrance attempts outstanding =>
    have three : allowance other = 3 := by
      rcases entrance with login | ⟨controller,signIn⟩
      · simp [allowance,login]
      · simp [allowance,signIn]
    simp [outstanding,three,Request.rank]
  | settled index request found other awaits enrols rank attempts outstanding =>
    have removed := sum_eraseIdx Request.rank found
    simp only [List.length_singleton,List.map_nil,List.sum_nil,outstanding]
    omega
  | wentOn index other found attempts owner outstanding =>
    have removed := sum_eraseIdx Request.rank found
    have three : Request.rank (.logIn other) = 3 := rfl
    simp [outstanding,Request.rank] at removed ⊢
    omega
  | ended index other found attempts outstanding =>
    have removed := sum_eraseIdx Request.rank found
    have three : Request.rank (.logIn other) = 3 := rfl
    simp only [List.length_singleton,List.map_nil,List.sum_nil,outstanding]
    omega
  | enrolled index other owner found attempts outstanding =>
    have removed := sum_eraseIdx Request.rank found
    have one : Request.rank (.graph other owner) = 1 := rfl
    simp only [List.length_singleton,List.map_nil,List.sum_nil,outstanding]
    omega

/-- In a run of the app, whatever is pressed, a registration leads to one completion at most and a
Facebook login to three. -/
theorem answers_bounded (world : World) (events : List Event) :
    (emitted step answered (launch world) events).length + rank (run step (launch world) events) ≤
      ((emitted step started (launch world) events).map allowance).sum := by
  have bounded := run_bounded rank step_wellformed rank_bound events (launch_wellformed world)
  rw [← measure_emitted List.length rfl (fun _ _ => List.length_append),
    ← measure_emitted (fun attempts => (attempts.map allowance).sum) rfl (by simp)] at bounded
  have nothing : rank (launch world) = 0 := rfl
  omega

/-! ### The registration screen -/

def Attempt.registers (attempt : Attempt) : Bool := attempt.entrance matches .register _

def loginLeft (s : App) : Nat := if .login ∈ s.navigation then 1 else 0

theorem pushForm_navigation (attempt : Attempt) (s : App) :
    .login ∉ (pushForm attempt s).navigation := by
  unfold pushForm
  split
  · simp
  · assumption

/-- Nothing puts the login screen back. -/
theorem steps_login {s next : App} {event : Event} (valid : Wellformed s)
    (moved : Steps s event next) (left : .login ∈ next.navigation) : .login ∈ s.navigation := by
  cases moved with
  | refused | registered | enrolled => exact absurd left (pushForm_navigation _ _)
  | createdUser | signedIn => simpa using left
  | signedInWithEmail _ _ _ attempt fields found =>
    exact (valid.fits _ (List.mem_of_getElem? found)).elim
  | ignored | overflowed | presented | facebookLogin | facebookSignIn | opened | closed
  | notLoggedIn | loggedIn | graphTrapped | gotDocument | filled | formReset | submitted =>
    exact left

theorem started_registers (s : App) (event : Event)
    (some : (s.started event).countP Attempt.registers ≠ 0) :
    ∃ fields, event = .register fields ∧ s.started event = [s.attempt (.register fields)] := by
  unfold started at some ⊢
  split at some
  · contradiction
  · rename_i going
    rw [if_neg going]
    cases event with
    | register fields =>
      refine ⟨fields,rfl,?_⟩
      dsimp only at some ⊢
      split at some
      · rename_i asks
        exact if_pos asks
      · contradiction
    | facebookLogin | facebookSignIn =>
      dsimp only at some
      split at some <;> contradiction
    | _ => contradiction

theorem loginLeft_bound (s : App) (event : Event) (valid : Wellformed s) :
    loginLeft (s.step event) + (s.started event).countP Attempt.registers ≤ loginLeft s + 0 := by
  have moved := step_steps s event
  by_cases none : (s.started event).countP Attempt.registers = 0
  · rw [none]
    unfold loginLeft
    split
    · rename_i left
      rw [if_pos (steps_login valid moved left)]
    · exact Nat.zero_le _
  · obtain ⟨fields,rfl,only⟩ := started_registers s event none
    rw [only]
    generalize s.step (.register fields) = next at moved ⊢
    cases moved with
    | ignored _ out => simp [(ignored_traffic s _ out).1] at only
    | overflowed _ live on fits overflow => simp [started,overflow] at only
    | refused | registered =>
      have on : s.visible = some .login := by assumption
      have here : .login ∈ s.navigation := by
        rw [(valid.screens.visible_login_iff.mp on).2]
        exact List.mem_singleton_self _
      rw [loginLeft,loginLeft,if_neg (pushForm_navigation _ _),if_pos here]
      exact Nat.le_refl _

/-- In a run of the app at most one registration is ever asked for. -/
theorem registered_once (world : World) (events : List Event) :
    (emitted step started (launch world) events).countP Attempt.registers ≤ 1 := by
  have bounded := run_bounded loginLeft step_wellformed loginLeft_bound events
    (launch_wellformed world)
  have one : loginLeft (launch world) = 1 := rfl
  rw [total_zero,one,← countP_emitted] at bounded
  omega

end App
end SocialService
