import SocialService.AppShape
import SocialService.Submission

/-! Whether the keychain and the Firebase session describe the same user. The four ways in write
one of the two, or the one before the other. -/
namespace SocialService

def World.session (world : World) : Option Identity := world.currentUser.map Account.identity

def World.Agree (world : World) : Prop := world.keychain.identity = world.session

/-- The request, once accepted, makes this the identity of the session. -/
def Request.AsksFor (identity : Identity) : Request → Prop
  | .createUser _ asked => asked = identity
  | .signInAndRetrieveData _ owner => owner = identity
  | _ => False

/-- The request, once answered, makes this the identity in the keychain. -/
def Request.Fetches (identity : Identity) : Request → Prop
  | .graph attempt owner => attempt.entrance = .facebookLogin ∧ owner = identity
  | _ => False

def Request.Counts (request : Request) : Prop :=
  ∃ identity, request.AsksFor identity ∨ request.Fetches identity

theorem Request.logIn_idle (attempt : Attempt) : ¬(logIn attempt).Counts := by
  simp [Counts,AsksFor,Fetches]

namespace App
open EventMachine

/-- The two stores agree, or the one that is behind is being waited for. -/
inductive Explained (s : App) : Prop where
  | agree (same : s.world.Agree)
  | asked (identity : Identity) (saved : s.world.keychain.identity = some identity)
      (request : Request) (member : request ∈ s.outstanding) (asks : request.AsksFor identity)
  | fetched (identity : Identity) (signedIn : s.world.session = some identity)
      (request : Request) (member : request ∈ s.outstanding) (fetches : request.Fetches identity)

/-- A session of this identity is one that the keychain holds, or is about to hold, unless the
keychain holds one that another request asks for. -/
def AcceptedInOrder (s : App) (index : Nat) (identity : Identity) : Prop :=
  s.world.keychain.identity = some identity ∨
    (∃ asked, s.world.keychain.identity = some asked ∧
      ∃ request ∈ (close index s).outstanding, request.AsksFor asked) ∨
    ∃ request ∈ s.outstanding, request.Fetches identity

/-- The orders in which the stores come to agree: no registration is rejected; a session is
accepted in order; a Facebook sign-in is not rejected after the keychain has taken its owner, unless
that owner is signed in or asked for all the same; the Graph request of `LoginController` gives its
owner's own values, while that owner is signed in or asked for, and nothing unusable to an owner who
has been signed in for it; and forms are submitted while no such request is outstanding. -/
def IdentityOrdered (s : App) : Event → Prop
  | .createdUser index answer => s.stopped = none → ∀ attempt identity,
    s.outstanding[index]? = some (.createUser attempt identity) →
      match answer with
      | .ok _ => s.AcceptedInOrder index identity
      | .error _ => False
  | .signedIn index answer => s.stopped = none → ∀ attempt owner,
    s.outstanding[index]? = some (.signInAndRetrieveData attempt owner) →
      match answer with
      | .ok _ => s.AcceptedInOrder index owner
      | .error _ => s.world.keychain.identity = some owner →
        s.world.Agree ∨ ∃ request ∈ (close index s).outstanding, request.AsksFor owner
  | .graphAnswered index result => s.stopped = none → ∀ attempt owner,
    s.outstanding[index]? = some (.graph attempt owner) → attempt.entrance = .facebookLogin →
      match LoginController.graphUser result with
      | some identity => identity = owner ∧
        (s.world.session = some owner ∨ ∃ request ∈ s.outstanding, request.AsksFor owner)
      | none => s.world.session = some owner → s.world.Agree
  | .submit => s.stopped = none → s.OnStack →
    ∀ request ∈ s.outstanding, ∃ attempt, request = .logIn attempt
  | _ => True

theorem Explained.agree_of_idle {s : App} (explained : Explained s)
    (idle : ∀ request ∈ s.outstanding, ∃ attempt, request = .logIn attempt) : s.world.Agree := by
  cases explained with
  | agree same => exact same
  | asked identity saved request member asks =>
    obtain ⟨attempt,rfl⟩ := idle request member
    exact asks.elim
  | fetched identity signedIn request member fetches =>
    obtain ⟨attempt,rfl⟩ := idle request member
    exact fetches.elim

/-- A step that writes neither store, and answers no request that counts. -/
theorem Explained.of_same {s next : App} (explained : Explained s)
    (keychain : next.world.keychain = s.world.keychain)
    (currentUser : next.world.currentUser = s.world.currentUser)
    (outstanding : ∀ request ∈ s.outstanding, request.Counts → request ∈ next.outstanding) :
    Explained next := by
  have session : next.world.session = s.world.session := by
    rw [World.session,World.session,currentUser]
  cases explained with
  | agree same => exact .agree (by rw [World.Agree,keychain,session]; exact same)
  | asked identity saved request member asks =>
    exact .asked identity (by rw [keychain,saved]) request
      (outstanding request member ⟨identity,.inl asks⟩) asks
  | fetched identity signedIn request member fetches =>
    exact .fetched identity (by rw [session,signedIn]) request
      (outstanding request member ⟨identity,.inr fetches⟩) fetches

theorem accepted_explained {s next : App} {index : Nat} {identity : Identity} {answered : Request}
    (found : s.outstanding[index]? = some answered)
    (asks : ∀ identity, ¬answered.Fetches identity)
    (ordered : s.AcceptedInOrder index identity)
    (keychain : next.world.keychain = s.world.keychain)
    (session : next.world.session = some identity)
    (outstanding : next.outstanding = (close index s).outstanding) : Explained next := by
  rcases ordered with saved | ⟨asked,saved,request,member,asksFor⟩ | ⟨request,member,fetches⟩
  · exact .agree (by rw [World.Agree,keychain,session,saved])
  · exact .asked asked (by rw [keychain,saved]) request (outstanding ▸ member) asksFor
  · have kept := mem_close_of member found fetches (asks identity)
    exact .fetched identity session request (outstanding ▸ kept) fetches

theorem steps_explained {s next : App} {event : Event} (valid : Wellformed s)
    (explained : Explained s) (ordered : s.IdentityOrdered event)
    (moved : Steps s event next) : Explained next := by
  cases moved with
  | ignored | refused | overflowed | presented | opened | closed | filled | formReset =>
    exact explained.of_same (by simp) (by simp) fun _ member _ => by simpa using member
  | facebookLogin | facebookSignIn =>
    exact explained.of_same rfl rfl fun _ member _ => List.mem_append_left _ member
  | submitted =>
    have stores := s.form.showData_stores s.world
    exact explained.of_same stores.1 stores.2.1 fun _ member _ => member
  | registered fields live on _ phone =>
    refine .asked ⟨fields.firstName,fields.password,fields.email⟩
      (by simp [LoginController.registered])
      (.createUser (s.attempt (.register fields)) ⟨fields.firstName,fields.password,fields.email⟩)
      (by simp [LoginController.registered]) rfl
  | notLoggedIn index answer live attempt found =>
    refine explained.of_same rfl rfl ?_
    intro request member counts
    exact mem_close_of member found counts (Request.logIn_idle attempt)
  | loggedIn index answer live attempt found owner =>
    refine explained.of_same rfl rfl ?_
    intro request member counts
    have kept := mem_close_of member found counts (Request.logIn_idle attempt)
    exact List.mem_append_left _ (List.mem_append_left _ kept)
  | createdUser index answer live attempt identity found =>
    have order := ordered live attempt identity found
    cases answer with
    | ok uid => exact accepted_explained found (fun _ => id) order rfl rfl rfl
    | error => exact order.elim
  | signedIn index answer live attempt owner found =>
    have order := ordered live attempt owner found
    cases answer with
    | ok uid => exact accepted_explained found (fun _ => id) order rfl rfl rfl
    | error error =>
      cases explained with
      | agree same => exact .agree same
      | fetched identity signedIn request member fetches =>
        exact .fetched identity signedIn request (mem_close_of member found fetches id) fetches
      | asked identity saved request member asks =>
        by_cases same : request = .signInAndRetrieveData attempt owner
        · subst same
          obtain rfl : owner = identity := asks
          rcases order saved with agree | ⟨other,kept,asksToo⟩
          · exact .agree agree
          · exact .asked owner saved other kept asksToo
        · exact .asked identity saved request (mem_close_of_ne member found same) asks
  | enrolled index result live attempt owner found entrance identity usable =>
    have order := ordered live attempt owner found entrance
    rw [usable] at order
    obtain ⟨rfl,signedIn | ⟨request,member,asks⟩⟩ := order
    · refine .agree ?_
      simpa [World.Agree,World.session,LoginController.enrolled] using signedIn.symm
    · refine .asked identity (by simp [LoginController.enrolled]) request ?_ asks
      have kept := mem_close_of member found asks id
      simpa [LoginController.enrolled] using kept
  | graphTrapped index result live attempt owner found unusable =>
    cases explained with
    | agree same => exact .agree same
    | asked identity saved request member asks =>
      exact .asked identity saved request (mem_close_of member found asks id) asks
    | fetched identity signedIn request member fetches =>
      by_cases same : request = .graph attempt owner
      · subst same
        obtain ⟨entrance,rfl⟩ := fetches
        have order := ordered live attempt owner found entrance
        rw [unusable entrance] at order
        exact .agree (order signedIn)
      · exact .fetched identity signedIn request (mem_close_of_ne member found same) fetches
  | gotDocument _ _ _ attempt uid found | signedInWithEmail _ _ _ attempt fields found =>
    exact (valid.fits _ (List.mem_of_getElem? found)).elim

def RejectionsKeepKeychain (start : App) (events : List Event) : Prop :=
  ∀ before fields after, events = before ++ .register fields :: after →
    .rejected ((run step start before).attempt (.register fields)) ∈ (run step start events).log →
      ((run step start before).step (.register fields)).world.keychain =
        (run step start before).world.keychain

/-- A document that is added names, as its user, the account it is added to. -/
def NamesOwner (form : FormTableController) (world : World) : Prop :=
  ∀ uid document, (form.showData world).after.world.forms = world.forms ++ [(uid,document)] →
    ∃ account, world.currentUser = some account ∧ account.uid = uid ∧
      document.lookup "user" = some (.string account.identity.name)

theorem namesOwner_of_agree (form : FormTableController) (world : World) (agree : world.Agree) :
    NamesOwner form world := by
  intro uid document added
  cases form.showData_outcome world with
  | submitted _ entry account known _ signedIn _ _ _ _ stored =>
    obtain ⟨rfl,rfl⟩ : account.uid = uid ∧ entry.document = document := by
      simpa [stored,World.addDocument] using added
    rw [World.Agree,World.session,known,signedIn] at agree
    have same : entry.identity = account.identity := Option.some.inj agree
    refine ⟨account,signedIn,rfl,?_⟩
    simp [FormTableController.Entry.document,FormTableController.dictionaryValues,same]
  | alerted _ _ _ _ _ kept | silent _ _ _ _ _ _ kept | noCategory _ _ _ _ _ _ _ kept
  | noSession _ _ _ _ _ _ _ _ _ _ kept => simp [kept] at added

structure IdentityShared (world : World) (events : List Event) : Prop where
  quiescent : Throughout step (fun s => s.outstanding = [] → s.world.Agree) (launch world) events
  rejections : RejectionsKeepKeychain (launch world) events
  documents : Along step (AtSubmit NamesOwner) (launch world) events

def NoneRejected (s : App) : Prop :=
  ∀ attempt fields, attempt.entrance = .register fields → .rejected attempt ∉ s.log

theorem steps_noneRejected {s next : App} {event : Event} (valid : Wellformed s)
    (none : NoneRejected s) (ordered : s.IdentityOrdered event) (moved : Steps s event next) :
    NoneRejected next := by
  intro rejected fields register member
  refine none rejected fields register ?_
  cases moved with
  | createdUser index answer live attempt identity found =>
    have order := ordered live attempt identity found
    cases answer with
    | ok uid => simpa [verdict] using member
    | error => exact order.elim
  | signedIn index answer live attempt owner found =>
    have fits := valid.fits _ (List.mem_of_getElem? found)
    cases answer with
    | ok uid => simpa [verdict] using member
    | error =>
      have other : rejected ≠ attempt := by
        intro same
        simp [Request.Fits,← same,register] at fits
      simpa [verdict,other] using member
  | refused => simpa using member
  | registered => simpa [LoginController.registered] using member
  | enrolled => simpa [LoginController.enrolled] using member
  | signedInWithEmail _ _ _ attempt fields found =>
    exact (valid.fits _ (List.mem_of_getElem? found)).elim
  | _ => exact member

/-- From an agreeing start, in a run of these orders, the keychain and the session agree whenever
no request is outstanding, no rejected registration has changed the keychain, and every document is
added to the account whose name it carries. -/
theorem identity_shared (world : World) (agree : world.Agree) (events : List Event)
    (ordered : Along step IdentityOrdered (launch world) events) : IdentityShared world events := by
  let inv (s : App) : Prop := Wellformed s ∧ Explained s ∧ NoneRejected s
  have start : inv (launch world) :=
    ⟨launch_wellformed world,.agree agree,by simp [NoneRejected,launch]⟩
  have keeps (s : App) (event : Event) (holds : inv s) (order : s.IdentityOrdered event) :
      inv (s.step event) := by
    obtain ⟨valid,explained,none⟩ := holds
    have moved := step_steps s event
    exact ⟨step_wellformed s event valid,steps_explained valid explained order moved,
      steps_noneRejected valid none order moved⟩
  have all := throughout_of_guarded keeps start ordered
  refine ⟨all.mono ?_,?_,?_⟩
  · rintro s ⟨_,explained,_⟩ quiescent
    exact explained.agree_of_idle (by simp [quiescent])
  · intro before fields after _ rejected
    exact absurd rejected (all.last.2.2 _ fields rfl)
  · refine along_of_guarded keeps ?_ start ordered
    rintro s event ⟨_,explained,_⟩ order
    cases event with
    | submit =>
      intro live on
      exact namesOwner_of_agree s.form s.world (explained.agree_of_idle (order live on))
    | _ => trivial

/-- A registration that Firebase accepts. -/
theorem identity_shared_after_registration :
    World.blank.Agree ∧ IdentityShared .blank
      [.register ⟨"Ana","secret","ana@abv.bg","0888123456"⟩,.createdUser 0 (.ok "u1"),.submit] := by
  have agree : World.blank.Agree := rfl
  refine ⟨agree,identity_shared _ agree _ ⟨trivial,?_,?_,trivial⟩⟩
  · intro _ attempt identity found
    obtain ⟨_,rfl⟩ := Request.createUser.inj (Option.some.inj found)
    exact .inl rfl
  · intro _ _ request member
    exact absurd member List.not_mem_nil

/-- A registration that Firebase rejects: the keychain holds a user whom nobody has signed in. -/
theorem rejected_registration_kept :
    World.blank.Agree ∧ ¬IdentityShared .blank
      [.register ⟨"Ana","secret","ana@abv.bg","0888123456"⟩,
        .createdUser 0 (.error ⟨"The email address is already in use.","17007"⟩)] := by
  refine ⟨rfl,?_⟩
  intro shared
  have agree := shared.quiescent.2.2 rfl
  contradiction

end App
end SocialService
