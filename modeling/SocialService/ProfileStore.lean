import SocialService.AppSurvival
import SocialService.RequestLedger

/-! Whose document a profile ends up in. The uid is read from the session at a moment that nothing
orders with the request that sets it. -/
namespace SocialService

def Attempt.AtLogin (attempt : Attempt) : Prop :=
  match attempt.entrance with
  | .register _ | .facebookLogin => True
  | .signIn _ | .facebookSignIn _ => False

/-- The document that a profile is to be. -/
def Identity.profile (self : Identity) (phone : Int) : Document :=
  [("email",.string self.email),("name",.string self.name),("password",.string self.password),
    ("phone",.number phone)]

def LogEntry.document (uid : String) : LogEntry → Option Document
  | .stored _ other document => if other = uid then some document else none
  | .alerted .. | .accepted .. | .rejected .. => none

namespace App
open EventMachine

/-- The profiles that a step brings: a registration that the form accepts, or what Facebook tells
of the user who logs in. -/
def profiles (s : App) (event : Event) : List (Attempt × Document) :=
  if s.stopped.isSome then []
  else match event with
  | .register fields =>
    match intOfString fields.phone with
    | some phone =>
      if s.visible = some .login ∧ fields.Valid then
        [(s.attempt (.register fields),
          Identity.profile ⟨fields.firstName,fields.password,fields.email⟩ phone)]
      else []
    | none => []
  | .graphAnswered index result =>
    match s.outstanding[index]?, LoginController.graphUser result with
    | some (.graph attempt _), some identity =>
      if attempt.entrance = .facebookLogin then [(attempt,identity.profile 0)] else []
    | _, _ => []
  | _ => []

/-- The Graph request of this attempt may still be answered. -/
def Waits (s : App) (attempt : Attempt) : Prop :=
  s.stopped = none ∧ ∃ owner, .graph attempt owner ∈ s.outstanding

/-- Where the profiles are that a run has brought. A write stores the attempt's own profile under
the account accepted for it; the documents of `users` are those written last; and an accepted
attempt that waits no longer has its profile stored, so that the document of its account is a
profile of that account. -/
structure Profiles (world : World) (brought : List (Attempt × Document)) (s : App) : Prop where
  own : ∀ attempt uid document, .stored attempt uid document ∈ s.log →
    .accepted attempt uid ∈ s.log ∧ (attempt,document) ∈ brought
  users : ∀ uid, s.world.users uid =
    ((s.log.filterMap (LogEntry.document uid)).getLast?).or (world.users uid)
  complete : ∀ attempt uid, attempt.AtLogin → .accepted attempt uid ∈ s.log → ¬s.Waits attempt →
    (∃ document, .stored attempt uid document ∈ s.log) ∧
      ∃ owner document, .accepted owner uid ∈ s.log ∧ (owner,document) ∈ brought ∧
        s.world.users uid = some document

/-- In every state of the run, also in the one that a trap leaves behind. -/
def ProfilesKept (world : World) (events : List Event) : Prop :=
  ∀ before, before <+: events →
    Profiles world (emitted step profiles (launch world) before) (run step (launch world) before)

/-- `Register` goes through only while nobody is signed in, and Firebase then rejects it; a Facebook
sign-in is accepted only while the Graph request beside it is outstanding; and a usable answer of
that request meets the attempt's own session, or no session and an attempt that is not accepted. -/
def StoredInOrder (s : App) : Event → Prop
  | .register fields => s.visible = some .login → fields.Valid →
    (intOfString fields.phone).isSome → s.world.currentUser = none
  | .createdUser index answer => ∀ attempt identity,
    s.outstanding[index]? = some (.createUser attempt identity) → ∀ uid, answer ≠ .ok uid
  | .signedIn index answer => ∀ attempt owner,
    s.outstanding[index]? = some (.signInAndRetrieveData attempt owner) → attempt.AtLogin →
      ∀ uid, answer = .ok uid → ∃ owner, .graph attempt owner ∈ s.outstanding
  | .graphAnswered index result => ∀ attempt owner,
    s.outstanding[index]? = some (.graph attempt owner) → attempt.AtLogin →
      (LoginController.graphUser result).isSome →
        match s.world.currentUser with
        | some account => .accepted attempt account.uid ∈ s.log
        | none => ¬s.Accepted attempt
  | _ => True

/-- The orders in which profiles go to their own accounts. An event that ends the process comes only
while no accepted attempt waits for its Graph answer. -/
structure ProfileOrdered (s : App) (event : Event) : Prop where
  stored : s.stopped = none → s.StoredInOrder event
  trap : s.stopped = none → ¬s.Survives event →
    ∀ attempt, attempt.AtLogin → s.Accepted attempt → ¬s.Waits attempt

/-! ### What is written -/

/-- What a step writes to `users`, by the profile that it brings. -/
inductive Saves (s next : App) : List (Attempt × Document) → Prop where
  | nothing (brought : List (Attempt × Document)) (entries : List LogEntry)
      (log : next.log = s.log ++ entries)
      (unstored : ∀ attempt uid document, .stored attempt uid document ∉ entries)
      (users : next.world.users = s.world.users) : Saves s next brought
  | profile (attempt : Attempt) (uid : String) (document : Document)
      (log : next.log = s.log ++ [.stored attempt uid document])
      (users : next.world.users = Function.update s.world.users uid (some document)) :
      Saves s next [(attempt,document)]

@[simp] theorem pushForm_users (attempt : Attempt) (s : App) :
    (pushForm attempt s).world.users = s.world.users := by rw [pushForm_world]

@[simp] theorem authenticate_users (attempt : Attempt) (identity : Identity)
    (answer : Except NSError String) (s : App) :
    (authenticate attempt identity answer s).world.users = s.world.users := by
  cases answer <;> rfl

theorem verdict_unstored (attempt : Attempt) (answer : Except NSError String) (other : Attempt)
    (uid : String) (document : Document) :
    .stored other uid document ∉ [verdict attempt answer] := by
  cases answer <;> simp [verdict]

/-- A save writes the profile of the user whom the controller has kept. -/
theorem Saves.of_save {s saving next : App} {attempt : Attempt} {identity : Identity} {phone : Int}
    (log' : next.log = (LoginController.saveUserIntoFirebaseDatabase attempt saving).log)
    (users' : next.world.users =
      (LoginController.saveUserIntoFirebaseDatabase attempt saving).world.users)
    (user : saving.user = some (.init identity.name identity.password identity.email phone))
    (log : saving.log = s.log) (users : saving.world.users = s.world.users) :
    Saves s next [(attempt,identity.profile phone)] := by
  have document : LoginController.dictionaryValues saving.user = identity.profile phone := by
    rw [user]
    rfl
  rw [LoginController.saveUserIntoFirebaseDatabase] at log' users'
  cases session : saving.world.currentUser with
  | none =>
    rw [session] at log' users'
    exact .nothing _ [] (by simp [log',log]) (by simp) (users'.trans users)
  | some account =>
    rw [session,document] at log' users'
    exact .profile attempt account.uid _ (log'.trans (congrArg (· ++ _) log))
      (users'.trans (congrArg (Function.update · _ _) users))

theorem step_saves (s : App) (event : Event) (valid : Wellformed s) :
    Saves s (s.step event) (s.profiles event) := by
  have moved := step_steps s event
  generalize s.step event = next at moved ⊢
  have quiet (world : next.world.users = s.world.users) (log : next.log = s.log) :
      Saves s next (s.profiles event) := .nothing _ [] (by simp [log]) (by simp) world
  cases moved with
  | ignored | overflowed | presented | facebookLogin | facebookSignIn | opened | closed
  | notLoggedIn | loggedIn | graphTrapped | filled | formReset => exact quiet rfl rfl
  | submitted => exact quiet (s.form.showData_stores s.world).2.2 rfl
  | refused => exact .nothing _ [_] (by simp; rfl) (by simp) (by simp)
  | createdUser index answer live attempt identity found =>
    exact .nothing _ [_] (authenticate_log ..) (verdict_unstored attempt answer) (by simp)
  | signedIn index answer live attempt owner found =>
    exact .nothing _ [_] (authenticate_log ..) (verdict_unstored attempt answer) (by simp)
  | registered fields live on fits phone number =>
    have brought : s.profiles (.register fields) = [(s.attempt (.register fields),
        Identity.profile ⟨fields.firstName,fields.password,fields.email⟩ phone)] := by
      simp [profiles,live,number,on,fits]
    rw [brought]
    exact .of_save (pushForm_log ..) (pushForm_users ..) rfl rfl rfl
  | enrolled index result live attempt owner found entrance identity usable =>
    have brought : s.profiles (.graphAnswered index result) = [(attempt,identity.profile 0)] := by
      simp [profiles,live,found,usable,entrance]
    rw [brought]
    exact .of_save (pushForm_log ..) (pushForm_users ..) rfl rfl rfl
  | signedInWithEmail _ _ _ attempt fields found | gotDocument _ _ _ attempt fields found =>
    exact (valid.fits _ (List.mem_of_getElem? found)).elim

structure Recorded (world : World) (brought : List (Attempt × Document)) (s : App) : Prop where
  brought : ∀ attempt uid document, .stored attempt uid document ∈ s.log →
    (attempt,document) ∈ brought
  users : ∀ uid, s.world.users uid =
    ((s.log.filterMap (LogEntry.document uid)).getLast?).or (world.users uid)

theorem Recorded.advance {world : World} {brought new : List (Attempt × Document)} {s next : App}
    (recorded : Recorded world brought s) (saves : Saves s next new) :
    Recorded world (brought ++ new) next := by
  obtain ⟨before,users⟩ := recorded
  cases saves with
  | nothing _ entries log unstored same =>
    have none (uid : String) : entries.filterMap (LogEntry.document uid) = [] := by
      refine List.filterMap_eq_nil_iff.mpr ?_
      intro entry member
      cases entry with
      | stored attempt other document => exact absurd member (unstored attempt other document)
      | _ => rfl
    constructor
    · intro attempt uid document member
      rcases List.mem_append.mp (log ▸ member) with old | added
      · exact List.mem_append_left _ (before attempt uid document old)
      · exact absurd added (unstored attempt uid document)
    · intro uid
      rw [same,users uid,log,List.filterMap_append,none,List.append_nil]
  | profile attempt uid document log updated =>
    constructor
    · intro other other_uid other_document member
      rcases List.mem_append.mp (log ▸ member) with old | added
      · exact List.mem_append_left _ (before other other_uid other_document old)
      · obtain ⟨rfl,_,rfl⟩ : other = attempt ∧ other_uid = uid ∧ other_document = document := by
          simpa using added
        exact List.mem_append_right _ (List.mem_singleton_self _)
    · intro other
      rw [updated,log,List.filterMap_append]
      by_cases same : other = uid
      · subst same
        simp [LogEntry.document]
      · simp [LogEntry.document,Function.update_of_ne same,users other,Ne.symm same]

theorem run_recorded (world : World) (events : List Event) :
    Recorded world (emitted step profiles (launch world) events)
      (run step (launch world) events) := by
  let inv (brought : List (Attempt × Document)) (s : App) : Prop :=
    Wellformed s ∧ Recorded world brought s
  suffices holds : inv (emitted step profiles (launch world) events)
      (run step (launch world) events) from holds.2
  have start : inv [] (launch world) :=
    ⟨launch_wellformed world,by simp [launch],by simp [launch]⟩
  apply run_emitted ?_ events start
  rintro brought s event ⟨valid,recorded⟩
  exact ⟨step_wellformed s event valid,recorded.advance (step_saves s event valid)⟩

/-! ### Whose document it is -/

/-- An attempt has one request or one verdict, and one write, done or possible, at most. -/
structure Ledger (s : App) : Prop where
  valid : Wellformed s
  answers : ∀ attempt, unmade attempt s + pending attempt s + verdicts attempt s ≤ 1
  saves : ∀ attempt, unmade attempt s + writes attempt s ≤ 1

theorem launch_ledger (world : World) : Ledger (launch world) := by
  have one (attempt : Attempt) : unmade attempt (launch world) ≤ 1 := by
    unfold unmade
    split <;> decide
  exact ⟨launch_wellformed world,one,one⟩

theorem step_ledger (s : App) (event : Event) (ledger : Ledger s) : Ledger (s.step event) := by
  obtain ⟨valid,answers,saves⟩ := ledger
  refine ⟨step_wellformed s event valid,?_,?_⟩
  · intro attempt
    have bound := unmade_bound s event valid attempt
    have balance := pending_balance s event valid attempt
    have before := answers attempt
    omega
  · intro attempt
    have bound := unmade_bound s event valid attempt
    have written := writes_bound s event valid attempt
    have before := saves attempt
    omega

section Ledger
variable {s : App} {attempt : Attempt} (ledger : Ledger s)
include ledger

theorem Ledger.not_accepted {request : Request} (member : request ∈ s.outstanding)
    (awaits : request.awaits attempt = true) (uid : String) : .accepted attempt uid ∉ s.log := by
  intro accepted
  have once := ledger.answers attempt
  have waiting : 0 < pending attempt s := List.countP_pos_iff.mpr ⟨request,member,awaits⟩
  have settled : 0 < verdicts attempt s :=
    List.countP_pos_iff.mpr ⟨_,accepted,decide_eq_true rfl⟩
  omega

theorem Ledger.accepted_once {uid other : String} (accepted : .accepted attempt uid ∈ s.log)
    (again : .accepted attempt other ∈ s.log) : other = uid := by
  have once := ledger.answers attempt
  have short : (s.log.filter (·.settles attempt)).length ≤ 1 := by
    rw [← List.countP_eq_length_filter]
    exact Nat.le_trans (Nat.le_add_left _ _) once
  have first : .accepted attempt uid ∈ s.log.filter (·.settles attempt) :=
    List.mem_filter.mpr ⟨accepted,decide_eq_true rfl⟩
  have second : .accepted attempt other ∈ s.log.filter (·.settles attempt) :=
    List.mem_filter.mpr ⟨again,decide_eq_true rfl⟩
  obtain ⟨entry,only⟩ := List.length_eq_one_iff.mp
    (Nat.le_antisymm short (List.length_pos_of_mem first))
  rw [only,List.mem_singleton] at first second
  exact (LogEntry.accepted.inj (second.trans first.symm)).2

theorem Ledger.not_stored {owner : Identity} (member : .graph attempt owner ∈ s.outstanding)
    (uid : String) (document : Document) : .stored attempt uid document ∉ s.log := by
  intro stored
  have once := ledger.saves attempt
  have waiting : 0 < s.outstanding.countP (·.enrols attempt) :=
    List.countP_pos_iff.mpr ⟨_,member,decide_eq_true rfl⟩
  have written : 0 < s.log.countP (·.stores attempt) :=
    List.countP_pos_iff.mpr ⟨_,stored,decide_eq_true rfl⟩
  unfold writes at once
  omega

theorem Ledger.no_second_graph {index : Nat} {owner : Identity}
    (found : s.outstanding[index]? = some (.graph attempt owner)) (other : Identity) :
    .graph attempt other ∉ (close index s).outstanding := by
  intro member
  have once := ledger.saves attempt
  have removed := countP_eraseIdx (·.enrols attempt) found
  have waiting : 0 < (close index s).outstanding.countP (·.enrols attempt) :=
    List.countP_pos_iff.mpr ⟨_,member,decide_eq_true rfl⟩
  simp only [Request.enrols_graph,decide_true,if_true] at removed
  simp only [close] at waiting
  unfold writes at once
  omega

end Ledger

/-- What of `Profiles` depends on the order of the events. -/
structure Owned (s : App) : Prop where
  own : ∀ attempt uid document, .stored attempt uid document ∈ s.log →
    .accepted attempt uid ∈ s.log
  complete : ∀ attempt uid, attempt.AtLogin → .accepted attempt uid ∈ s.log →
    (∃ document, .stored attempt uid document ∈ s.log) ∨ s.Waits attempt

theorem Waits.of_kept {s next : App} {attempt : Attempt} (waits : s.Waits attempt)
    (stopped : next.stopped = s.stopped)
    (graphs : ∀ owner, .graph attempt owner ∈ s.outstanding →
      .graph attempt owner ∈ next.outstanding) : next.Waits attempt := by
  obtain ⟨live,owner,member⟩ := waits
  exact ⟨stopped.trans live,owner,graphs owner member⟩

/-- A step that neither accepts an attempt of `LoginController` nor stores, and answers no Graph
request that a profile still waits for. -/
theorem Owned.of_quiet {s next : App} (owned : Owned s) (entries : List LogEntry)
    (log : next.log = s.log ++ entries)
    (unaccepted : ∀ attempt uid, attempt.AtLogin → .accepted attempt uid ∉ entries)
    (unstored : ∀ attempt uid document, .stored attempt uid document ∉ entries)
    (waits : ∀ attempt, s.Accepted attempt → s.Waits attempt → next.Waits attempt) :
    Owned next := by
  constructor
  · intro attempt uid document member
    rcases List.mem_append.mp (log ▸ member) with before | added
    · exact log ▸ List.mem_append_left _ (owned.own attempt uid document before)
    · exact absurd added (unstored attempt uid document)
  · intro attempt uid login member
    rcases List.mem_append.mp (log ▸ member) with before | added
    · rcases owned.complete attempt uid login before with ⟨document,stored⟩ | waiting
      · exact .inl ⟨document,log ▸ List.mem_append_left _ stored⟩
      · exact .inr (waits attempt ⟨uid,before⟩ waiting)
    · exact absurd added (unaccepted attempt uid login)

/-- Neither the windows nor the form matter. -/
theorem owned_congr {s other : App} (log : other.log = s.log)
    (stopped : other.stopped = s.stopped) (outstanding : other.outstanding = s.outstanding) :
    Owned other ↔ Owned s := by
  constructor
  · intro owned
    exact owned.of_quiet [] (by simp [log]) (by simp) (by simp) fun _ _ waits =>
      waits.of_kept stopped.symm fun _ member => outstanding ▸ member
  · intro owned
    exact owned.of_quiet [] (by simp [log]) (by simp) (by simp) fun _ _ waits =>
      waits.of_kept stopped fun _ member => outstanding ▸ member

theorem owned_iff_of_trapped {s next : App} (ledger : Ledger s) (owned : Owned s)
    (log : next.log = s.log) (stopped : next.stopped.isSome) : Owned next ↔
      ∀ attempt, attempt.AtLogin → s.Accepted attempt → ¬s.Waits attempt := by
  constructor
  · rintro ⟨_,complete⟩ attempt login ⟨uid,accepted⟩ ⟨_,owner,member⟩
    rw [log] at complete
    rcases complete attempt uid login accepted with ⟨document,stored⟩ | ⟨live,_⟩
    · exact ledger.not_stored member uid document stored
    · simp [live] at stopped
  · intro idle
    refine ⟨by rw [log]; exact owned.own,?_⟩
    rw [log]
    intro attempt uid login accepted
    rcases owned.complete attempt uid login accepted with stored | waits
    · exact .inl stored
    · exact absurd waits (idle attempt login ⟨uid,accepted⟩)

theorem owned_iff_of_accepted {s next : App} {attempt : Attempt} {uid : String} (owned : Owned s)
    (login : attempt.AtLogin) (new : ∀ uid, .accepted attempt uid ∉ s.log)
    (log : next.log = s.log ++ [.accepted attempt uid])
    (waits : ∀ other, next.Waits other ↔ s.Waits other) : Owned next ↔ s.Waits attempt := by
  have stored_iff (other : Attempt) (uid' : String) (document : Document) :
      .stored other uid' document ∈ next.log ↔ .stored other uid' document ∈ s.log := by simp [log]
  constructor
  · intro kept
    have accepted : .accepted attempt uid ∈ next.log := by simp [log]
    rcases kept.complete attempt uid login accepted with ⟨document,stored⟩ | waiting
    · have before := (stored_iff attempt uid document).mp stored
      exact absurd (owned.own attempt uid document before) (new uid)
    · exact (waits attempt).mp waiting
  · intro waiting
    constructor
    · intro other uid' document member
      have before := owned.own other uid' document ((stored_iff other uid' document).mp member)
      exact log ▸ List.mem_append_left _ before
    · intro other uid' login' member
      rcases List.mem_append.mp (log ▸ member) with before | added
      · refine (owned.complete other uid' login' before).imp ?_ (waits other).mpr
        rintro ⟨document,stored⟩
        exact ⟨document,(stored_iff other uid' document).mpr stored⟩
      · obtain ⟨rfl,_⟩ : other = attempt ∧ uid' = uid := by simpa using added
        exact .inr ((waits other).mpr waiting)

theorem owned_iff_of_stored {s next : App} {attempt : Attempt} {uid : String} {document : Document}
    (ledger : Ledger s) (owned : Owned s) (log : next.log = s.log ++ [.stored attempt uid document])
    (waits : ∀ other, other ≠ attempt → s.Waits other → next.Waits other) :
    Owned next ↔ .accepted attempt uid ∈ s.log := by
  have accepted_iff (other : Attempt) (uid' : String) :
      .accepted other uid' ∈ next.log ↔ .accepted other uid' ∈ s.log := by simp [log]
  constructor
  · intro kept
    have stored : .stored attempt uid document ∈ next.log := by simp [log]
    exact (accepted_iff attempt uid).mp (kept.own attempt uid document stored)
  · intro own
    constructor
    · intro other uid' document' member
      rcases List.mem_append.mp (log ▸ member) with before | added
      · exact (accepted_iff other uid').mpr (owned.own other uid' document' before)
      · obtain ⟨rfl,rfl,_⟩ : other = attempt ∧ uid' = uid ∧ document' = document := by
          simpa using added
        exact (accepted_iff other uid').mpr own
    · intro other uid' login member
      have accepted := (accepted_iff other uid').mp member
      by_cases same : other = attempt
      · subst same
        obtain rfl := ledger.accepted_once own accepted
        exact .inl ⟨document,by simp [log]⟩
      · refine (owned.complete other uid' login accepted).imp ?_ (waits other same)
        rintro ⟨kept,stored⟩
        exact ⟨kept,log ▸ List.mem_append_left _ stored⟩

/-! ### One step -/

theorem storedInOrder_of_disabled (s : App) (event : Event) (off : ¬s.Enabled event) :
    s.StoredInOrder event := by
  cases event with
  | register => exact fun on => absurd on off
  | createdUser =>
    intro attempt identity found
    exact absurd ⟨attempt,identity,found⟩ off
  | signedIn | graphAnswered =>
    intro attempt owner found
    exact absurd ⟨attempt,owner,found⟩ off
  | _ => trivial

theorem ordered_of_ignored (s : App) (event : Event) (out : s.stopped.isSome ∨ ¬s.Enabled event) :
    s.ProfileOrdered event := by
  have disabled (live : s.stopped = none) : ¬s.Enabled event := out.resolve_left (by simp [live])
  refine ⟨fun live => storedInOrder_of_disabled s event (disabled live),?_⟩
  intro live traps
  exact absurd (survives_of_disabled s event (disabled live)) traps

theorem ProfileOrdered.of_survives {s : App} {event : Event} (survives : s.Survives event)
    (stored : s.StoredInOrder event) : s.ProfileOrdered event :=
  ⟨fun _ => stored,fun _ traps => absurd survives traps⟩

theorem ordered_iff_of_alive (s : App) (event : Event) (valid : Wellformed s)
    (live : s.stopped = none) (still : (s.step event).stopped = none) :
    s.ProfileOrdered event ↔ s.StoredInOrder event := by
  have survives : s.Survives event := (step_alive_iff s event valid live).mp still
  exact ⟨fun ordered => ordered.stored live,.of_survives survives⟩

theorem ordered_iff_of_trapped (s : App) (event : Event) (valid : Wellformed s)
    (live : s.stopped = none) (trapped : (s.step event).stopped.isSome)
    (stored : s.StoredInOrder event) : s.ProfileOrdered event ↔
      ∀ attempt, attempt.AtLogin → s.Accepted attempt → ¬s.Waits attempt := by
  have traps : ¬s.Survives event := by
    intro survives
    have still : (s.step event).stopped = none := (step_alive_iff s event valid live).mpr survives
    simp [still] at trapped
  exact ⟨fun ordered => ordered.trap live traps,fun idle => ⟨fun _ => stored,fun _ _ => idle⟩⟩

theorem close_waits {s : App} {index : Nat} {answered : Request} {attempt : Attempt}
    (found : s.outstanding[index]? = some answered) (waits : s.Waits attempt)
    (other : ∀ owner, .graph attempt owner ≠ answered) : (close index s).Waits attempt :=
  waits.of_kept rfl fun owner member => mem_close_of_ne member found (other owner)

/-- A registration goes on as the user whom the session has already. -/
theorem registered_owned_iff {s : App} (ledger : Ledger s) (owned : Owned s)
    (fields : RegistrationFields) (phone : Int) :
    Owned (pushForm (s.attempt (.register fields))
      (LoginController.registered (s.attempt (.register fields)) fields phone s.counted)) ↔
      s.world.currentUser = none := by
  have waits (other : Attempt) (waiting : s.Waits other) :
      (pushForm (s.attempt (.register fields)) (LoginController.registered
        (s.attempt (.register fields)) fields phone s.counted)).Waits other :=
    waiting.of_kept (by simp [LoginController.registered]) fun owner member => by
      simp [LoginController.registered,member]
  cases session : s.world.currentUser with
  | none =>
    refine iff_of_true ?_ rfl
    refine owned.of_quiet [] ?_ (by simp) (by simp) fun other _ => waits other
    simp [LoginController.registered,LoginController.stores,session]
  | some account =>
    have log : (pushForm (s.attempt (.register fields)) (LoginController.registered
        (s.attempt (.register fields)) fields phone s.counted)).log =
        s.log ++ [.stored (s.attempt (.register fields)) account.uid
          (LoginController.dictionaryValues
            (some (.init fields.firstName fields.password fields.email phone)))] := by
      simp [LoginController.registered,LoginController.stores,session]
    rw [owned_iff_of_stored ledger owned log fun other _ => waits other]
    refine iff_of_false ?_ (by simp)
    intro accepted
    exact absurd (ledger.valid.log _ accepted) (Nat.lt_irrefl _)

/-- The completion of the Graph request goes on as the user whom the session has by then. -/
theorem enrolled_owned_iff {s : App} (ledger : Ledger s) (owned : Owned s) {index : Nat}
    {attempt : Attempt} {owner : Identity} (login : attempt.AtLogin) (identity : Identity)
    (found : s.outstanding[index]? = some (.graph attempt owner)) :
    Owned (LoginController.enrolled attempt identity (close index s)) ↔
      match s.world.currentUser with
      | some account => .accepted attempt account.uid ∈ s.log
      | none => ¬s.Accepted attempt := by
  have waits (other : Attempt) (different : other ≠ attempt) (waiting : s.Waits other) :
      (LoginController.enrolled attempt identity (close index s)).Waits other := by
    have kept := close_waits found waiting (by simp [different])
    exact kept.of_kept (by simp [LoginController.enrolled]) fun owner member => by
      simpa [LoginController.enrolled] using member
  cases session : s.world.currentUser with
  | none =>
    have log : (LoginController.enrolled attempt identity (close index s)).log = s.log := by
      simp [LoginController.enrolled,LoginController.stores,session]
    constructor
    · rintro ⟨_,complete⟩ ⟨uid,accepted⟩
      rcases complete attempt uid login (log ▸ accepted) with ⟨document,stored⟩ | ⟨_,other,member⟩
      · exact ledger.not_stored (List.mem_of_getElem? found) uid document (log ▸ stored)
      · refine ledger.no_second_graph found other ?_
        simpa [LoginController.enrolled] using member
    · intro unaccepted
      refine owned.of_quiet [] (log.trans (List.append_nil _).symm) (by simp) (by simp) ?_
      intro other accepted waiting
      exact waits other (fun same => unaccepted (same ▸ accepted)) waiting
  | some account =>
    let user := UserEntity.init identity.name identity.password identity.email 0
    have log : (LoginController.enrolled attempt identity (close index s)).log =
        s.log ++ [.stored attempt account.uid (LoginController.dictionaryValues (some user))] := by
      simp [LoginController.enrolled,LoginController.stores,session,user]
    exact owned_iff_of_stored ledger owned log waits

/-- Neither a registration nor a Facebook login has stored anything when it is accepted. -/
theorem accepted_owned_iff {s : App} (ledger : Ledger s) (owned : Owned s) {index : Nat}
    {request : Request} {attempt : Attempt} (login : attempt.AtLogin) (live : s.stopped = none)
    (found : s.outstanding[index]? = some request) (awaits : request.awaits attempt = true)
    (identity : Identity) (uid : String) :
    Owned (authenticate attempt identity (.ok uid) (close index s)) ↔
      ∃ owner, .graph attempt owner ∈ s.outstanding := by
  have other (attempt : Attempt) (owner : Identity) : .graph attempt owner ≠ request := by
    rintro rfl
    simp at awaits
  have waits (other' : Attempt) :
      (authenticate attempt identity (.ok uid) (close index s)).Waits other' ↔
        s.Waits other' := by
    constructor
    · rintro ⟨_,owner,member⟩
      exact ⟨live,owner,close_subset s index member⟩
    · intro waiting
      exact (close_waits found waiting (other other')).of_kept rfl fun _ member => member
  rw [owned_iff_of_accepted owned login
    (ledger.not_accepted (List.mem_of_getElem? found) awaits) rfl waits]
  exact and_iff_right live

/-- An answer that accepts no attempt of `LoginController`. -/
theorem Owned.of_verdict {s : App} (owned : Owned s) {index : Nat} {request : Request}
    {attempt : Attempt} (found : s.outstanding[index]? = some request)
    (awaits : request.awaits attempt = true) (identity : Identity)
    (answer : Except NSError String) (unaccepted : attempt.AtLogin → ∀ uid, answer ≠ .ok uid) :
    Owned (authenticate attempt identity answer (close index s)) := by
  refine owned.of_quiet [_] (authenticate_log ..) ?_ (verdict_unstored attempt answer) ?_
  · intro other uid login member
    cases answer with
    | ok uid' =>
      obtain ⟨rfl,_⟩ : other = attempt ∧ uid = uid' := by simpa [verdict] using member
      exact unaccepted login uid' rfl
    | error => simp [verdict] at member
  · intro other _ waiting
    have kept : (close index s).Waits other := by
      refine close_waits found waiting fun owner same => ?_
      simp [← same] at awaits
    exact kept.of_kept (by simp) fun _ member => by simpa using member

/-- A registration has no Graph request beside it. -/
theorem createdUser_owned_iff {s : App} (ledger : Ledger s) (owned : Owned s) {index : Nat}
    {attempt : Attempt} {identity : Identity} (live : s.stopped = none)
    (found : s.outstanding[index]? = some (.createUser attempt identity))
    (answer : Except NSError String) :
    Owned (authenticate attempt identity answer (close index s)) ↔ ∀ uid, answer ≠ .ok uid := by
  obtain ⟨fields,entrance⟩ := ledger.valid.fits _ (List.mem_of_getElem? found)
  have login : attempt.AtLogin := by simp [Attempt.AtLogin,entrance]
  have alone : ¬∃ owner, .graph attempt owner ∈ s.outstanding := by
    rintro ⟨owner,member⟩
    have facebook := ledger.valid.fits _ member
    simp [Request.Fits,entrance] at facebook
  cases answer with
  | ok uid =>
    rw [accepted_owned_iff ledger owned login live found (by simp)]
    exact iff_of_false alone fun never => never uid rfl
  | error error =>
    refine iff_of_true ?_ fun uid => by simp
    exact owned.of_verdict found (by simp) identity (.error error) fun _ _ => by simp

theorem signedIn_owned_iff {s : App} (ledger : Ledger s) (owned : Owned s) {index : Nat}
    {attempt : Attempt} {identity : Identity} (live : s.stopped = none)
    (found : s.outstanding[index]? = some (.signInAndRetrieveData attempt identity))
    (answer : Except NSError String) :
    Owned (authenticate attempt identity answer (close index s)) ↔
      (attempt.AtLogin → ∀ uid, answer = .ok uid →
        ∃ owner, .graph attempt owner ∈ s.outstanding) := by
  by_cases accepted : attempt.AtLogin ∧ ∃ uid, answer = .ok uid
  · obtain ⟨login,uid,rfl⟩ := accepted
    rw [accepted_owned_iff ledger owned login live found (by simp)]
    exact ⟨fun waiting _ _ _ => waiting,fun inOrder => inOrder login uid rfl⟩
  · refine iff_of_true ?_ fun login uid ok => absurd ⟨login,uid,ok⟩ accepted
    refine owned.of_verdict found (by simp) identity answer ?_
    exact fun login uid ok => accepted ⟨login,uid,ok⟩

theorem step_owned_iff (s : App) (event : Event) (ledger : Ledger s) (owned : Owned s) :
    Owned (s.step event) ↔ s.ProfileOrdered event := by
  have moved := step_steps s event
  have alive := ordered_iff_of_alive s event ledger.valid
  have ends := ordered_iff_of_trapped s event ledger.valid
  generalize s.step event = next at moved alive ends ⊢
  cases moved with
  | ignored event out => exact iff_of_true owned (ordered_of_ignored s event out)
  | presented _ live | opened live | closed live | filled _ live | formReset live =>
    rw [alive live live]
    refine iff_of_true ?_ trivial
    refine owned.of_quiet [] (List.append_nil _).symm (by simp) (by simp) fun attempt _ waits => ?_
    exact waits.of_kept rfl fun _ member => member
  | facebookLogin live | facebookSignIn live =>
    rw [alive live live]
    refine iff_of_true ?_ trivial
    refine owned.of_quiet [] (List.append_nil _).symm (by simp) (by simp) fun attempt _ waits => ?_
    exact waits.of_kept rfl fun _ member => List.mem_append_left _ member
  | refused fields live _ invalid =>
    rw [alive live (by simpa using live)]
    refine iff_of_true ?_ fun _ fits => absurd fits invalid
    refine owned.of_quiet [_] (by simp; rfl) (by simp) (by simp) fun attempt _ waits => ?_
    exact waits.of_kept (by simp) fun _ member => by simpa using member
  | overflowed fields live _ _ overflow =>
    rw [ends live rfl (fun _ _ number => by simp [overflow] at number)]
    exact owned_iff_of_trapped ledger owned rfl rfl
  | registered fields live on fits phone number =>
    rw [alive live (by simpa [LoginController.registered] using live)]
    rw [registered_owned_iff ledger owned fields phone]
    constructor
    · intro nobody _ _ _
      exact nobody
    · intro inOrder
      exact inOrder on fits (by rw [number]; rfl)
  | notLoggedIn index answer live attempt found =>
    rw [alive live live]
    refine iff_of_true ?_ trivial
    refine owned.of_quiet [] (List.append_nil _).symm (by simp) (by simp) fun other _ waits => ?_
    have kept := close_waits found waits (by simp)
    exact kept.of_kept rfl fun _ member => member
  | loggedIn index answer live attempt found =>
    rw [alive live live]
    refine iff_of_true ?_ trivial
    refine owned.of_quiet [] (List.append_nil _).symm (by simp) (by simp) fun other _ waits => ?_
    have kept := close_waits found waits (by simp)
    exact kept.of_kept rfl fun _ member =>
      List.mem_append_left _ (List.mem_append_left _ member)
  | createdUser index answer live attempt identity found =>
    rw [alive live (by simpa using live)]
    rw [createdUser_owned_iff ledger owned live found answer]
    constructor
    · intro never other identity' _
      exact never
    · intro inOrder
      exact inOrder attempt identity found
  | signedIn index answer live attempt owner found =>
    rw [alive live (by simpa using live)]
    have answered := signedIn_owned_iff ledger owned live found answer
    refine ((owned_congr (by rfl) (by rfl) (by rfl)).trans answered).trans ?_
    constructor
    · intro waiting other owner' same
      obtain ⟨rfl,_⟩ := Request.signInAndRetrieveData.inj (Option.some.inj (same.symm.trans found))
      exact waiting
    · intro inOrder
      exact inOrder attempt owner found
  | enrolled index result live attempt owner found entrance identity usable =>
    have login : attempt.AtLogin := by simp [Attempt.AtLogin,entrance]
    rw [alive live (by simpa [LoginController.enrolled] using live)]
    rw [enrolled_owned_iff ledger owned login identity found]
    constructor
    · intro session other owner' same _ _
      obtain ⟨rfl,_⟩ := Request.graph.inj (Option.some.inj (same.symm.trans found))
      exact session
    · intro inOrder
      exact inOrder attempt owner found login (by rw [usable]; rfl)
  | graphTrapped index result live attempt owner found unusable =>
    rw [ends live rfl ?_]
    · exact owned_iff_of_trapped ledger owned rfl rfl
    · intro other owner' same login usable
      obtain ⟨rfl,_⟩ := Request.graph.inj (Option.some.inj (same.symm.trans found))
      rcases ledger.valid.fits _ (List.mem_of_getElem? found) with entrance | ⟨_,entrance⟩
      · simp [unusable entrance] at usable
      · simp [Attempt.AtLogin,entrance] at login
  | submitted live on =>
    cases trap : (s.form.showData s.world).trap with
    | none =>
      rw [alive live trap]
      refine iff_of_true ?_ trivial
      refine owned.of_quiet [] (List.append_nil _).symm (by simp) (by simp) ?_
      exact fun other _ waits => waits.of_kept live.symm fun _ member => member
    | some fault =>
      rw [ends live (by rw [trap]; rfl) trivial]
      exact owned_iff_of_trapped ledger owned rfl rfl
  | signedInWithEmail _ _ _ attempt fields found | gotDocument _ _ _ attempt fields found =>
    exact (ledger.valid.fits _ (List.mem_of_getElem? found)).elim

/-! ### Runs -/

/-- An account that a profile was stored under holds the last of its profiles. -/
theorem Recorded.held {world : World} {brought : List (Attempt × Document)} {s : App}
    (recorded : Recorded world brought s) (owned : Owned s) {attempt : Attempt} {uid : String}
    {document : Document} (stored : .stored attempt uid document ∈ s.log) :
    ∃ owner document, .accepted owner uid ∈ s.log ∧ (owner,document) ∈ brought ∧
      s.world.users uid = some document := by
  have member : document ∈ s.log.filterMap (LogEntry.document uid) :=
    List.mem_filterMap.mpr ⟨_,stored,if_pos rfl⟩
  obtain ⟨last,at_end⟩ := Option.isSome_iff_exists.mp
    (List.getLast?_isSome.mpr (List.ne_nil_of_mem member))
  obtain ⟨entry,logged,found⟩ := List.mem_filterMap.mp (List.mem_of_getLast? at_end)
  cases entry with
  | stored owner other document' =>
    obtain ⟨rfl,rfl⟩ : other = uid ∧ document' = last := by
      simpa [LogEntry.document] using found
    refine ⟨owner,document',owned.own owner other document' logged,
      recorded.brought owner other document' logged,?_⟩
    rw [recorded.users other,at_end,Option.some_or]
  | _ => contradiction

theorem profiles_iff_owned (world : World) (events : List Event) :
    Profiles world (emitted step profiles (launch world) events) (run step (launch world) events) ↔
      Owned (run step (launch world) events) := by
  have recorded := run_recorded world events
  constructor
  · rintro ⟨own,_,complete⟩
    refine ⟨fun attempt uid document stored => (own attempt uid document stored).1,?_⟩
    intro attempt uid login accepted
    by_cases waits : (run step (launch world) events).Waits attempt
    · exact .inr waits
    · exact .inl (complete attempt uid login accepted waits).1
  · intro owned
    refine ⟨?_,recorded.users,?_⟩
    · intro attempt uid document stored
      exact ⟨owned.own attempt uid document stored,recorded.brought attempt uid document stored⟩
    · intro attempt uid login accepted idle
      obtain ⟨document,stored⟩ := (owned.complete attempt uid login accepted).resolve_right idle
      exact ⟨⟨document,stored⟩,recorded.held owned stored⟩

/-- In a run of the app, from any keychain, session and profiles, every profile goes to its own
account and is there once its attempt is over, in every state, if and only if the requests, the
answers and the traps come in these orders. -/
theorem profiles_kept_iff (world : World) (events : List Event) :
    ProfilesKept world events ↔ Along step ProfileOrdered (launch world) events := by
  have start : Owned (launch world) := by constructor <;> simp [launch]
  rw [← throughout_iff_along step_ledger step_owned_iff events (launch_ledger world) start,
    throughout_iff_prefix]
  exact forall₂_congr fun before _ => profiles_iff_owned world before

/-- A Facebook login whose sign-in is accepted before the Graph request is answered. -/
theorem profiles_kept_signed_in_first :
    ProfilesKept .blank [.facebookLogin,
      .loggedIn 0 ⟨none,false,some ⟨"Ana","17","ana@abv.bg"⟩⟩,.signedIn 0 (.ok "u1"),
      .graphAnswered 0 (some (.dictionary
        [("name",.string "Ana"),("id",.string "17"),("email",.string "ana@abv.bg")]))] := by
  refine (profiles_kept_iff _ _).mpr ⟨.of_survives trivial trivial,.of_survives trivial trivial,
    .of_survives trivial ?_,.of_survives ?_ ?_,trivial⟩
  · intro attempt owner found _ _ _
    obtain ⟨rfl,_⟩ := Request.signInAndRetrieveData.inj (Option.some.inj found)
    exact ⟨_,.tail _ (.head _)⟩
  · intro attempt owner found
    obtain ⟨rfl,_⟩ := Request.graph.inj (Option.some.inj found)
    exact ⟨rfl,rfl⟩
  · intro attempt owner found _ _
    obtain ⟨rfl,_⟩ := Request.graph.inj (Option.some.inj found)
    exact List.mem_singleton.mpr rfl

/-- `Register` while an earlier user is signed in: the new profile overwrites that user's. -/
theorem registration_overwrites_earlier_user :
    ¬ProfilesKept (.signedIn ⟨"u0",⟨"Ivan","hidden","ivan@abv.bg"⟩⟩)
      [.register ⟨"Ana","secret","ana@abv.bg","0888123456"⟩] := by
  intro kept
  obtain ⟨own,_⟩ := kept _ List.prefix_rfl
  have accepted := List.mem_singleton.mp (own _ _ _ (List.mem_singleton.mpr rfl)).1
  contradiction

end App
end SocialService
