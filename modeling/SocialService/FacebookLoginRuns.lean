import Mathlib.Data.List.Perm.Subperm
import Mathlib.Logic.Relation
import SocialService.FacebookLogin

/-! Runs of the Facebook login: how often a handler is called, and which tokens are taken. -/
namespace SocialService

def LoginAnswer.token (answer : LoginAnswer) : Option FBSDKAccessToken :=
  answer.result.bind (·.token)

def Pending.validates : Pending → Bool
  | .validating .. => true
  | .opening .. | .fallingBack _ | .reading .. => false

@[simp] theorem Pending.validates_validating (m : Nat) (currentToken : FBSDKAccessToken)
    (loginResult : FBSDKLoginManagerLoginResult) :
    (validating m currentToken loginResult).validates = true := rfl

namespace FBSDK
open EventMachine Relation

/-- The changes that every part of a login is made of. -/
inductive Change (s : FBSDK) : FBSDK → Prop where
  | created : Change s { s with managers := s.managers ++ [{}] }
  | modified (m : Nat) (change : FBSDKLoginManager → FBSDKLoginManager)
      (keeps : ∀ manager, (change manager).handler = manager.handler) : Change s (modify m change s)
  | awaited (pending : Pending) (other : pending.validates = false) : Change s (await pending s)
  | closed (index : Nat) : Change s (close index s)
  | stored (challengeExpected : Option String) :
      Change s (storeExpectedChallenge challengeExpected s)
  | tokenSet (token : Option FBSDKAccessToken) : Change s { s with currentAccessToken := token }
  | ended (m : Nat) (result : Option FBSDKLoginManagerLoginResult) (error : Option FBSDKLoginError)
      (tokenless : result.bind (·.token) = none) : Change s (invokeHandler m result error s)
  | accepted (challenge : String) (expected : s.expectedChallenge = some challenge) (m : Nat)
      (token : FBSDKAccessToken) (granted declined : Finset String) :
      Change s (invokeHandler m (some ⟨some token,false,granted,declined⟩) none
        { storeExpectedChallenge none s with
          passed := s.passed ++ [challenge], currentAccessToken := some token })
  | deferred (challenge : String) (expected : s.expectedChallenge = some challenge) (m : Nat)
      (currentToken : FBSDKAccessToken) (result : FBSDKLoginManagerLoginResult) :
      Change s (await (.validating m currentToken result)
        { storeExpectedChallenge none s with passed := s.passed ++ [challenge] })
  | confirmed (index m : Nat) (currentToken : FBSDKAccessToken)
      (result : FBSDKLoginManagerLoginResult)
      (found : s.pending[index]? = some (.validating m currentToken result)) :
      Change s (invokeHandler m (some result) none
        { close index s with currentAccessToken := result.token })

abbrev Changes : FBSDK → FBSDK → Prop := ReflTransGen Change

theorem Change.changes {s next : FBSDK} (change : Change s next) : Changes s next := .single change

theorem modify_changes (m : Nat) (change : FBSDKLoginManager → FBSDKLoginManager)
    (s : FBSDK) (keeps : ∀ manager, (change manager).handler = manager.handler) :
    Changes s (modify m change s) := (Change.modified m change keeps).changes

theorem completion_changes (m : Nat) (did : Bool) (error : Option OpenError) (s : FBSDK) :
    Changes s (completion m did error s) := by
  unfold completion
  split
  · apply modify_changes
    exact fun _ => rfl
  · split
    · exact (Change.ended m _ _ rfl).changes
    · exact (Change.ended m _ _ rfl).changes
    · exact (Change.ended m _ _ rfl).changes

theorem performBrowserLogIn_changes (m : Nat) (around : Surroundings) (s : FBSDK) :
    Changes s (performBrowserLogIn m around s) := by
  unfold performBrowserLogIn
  split
  · exact completion_changes ..
  · dsimp only
    refine ReflTransGen.tail ?_ (.awaited _ rfl)
    split
    · apply modify_changes
      exact fun _ => rfl
    · exact .refl

theorem logInParameters_changes (m : Nat) (challenge : String) (s : FBSDK) :
    Changes s (logInParameters m challenge s) := by
  have stored : Changes s (storeExpectedChallenge challenge s) := (Change.stored challenge).changes
  apply stored.trans
  apply modify_changes
  exact fun _ => rfl

theorem logInWithBrowser_changes (m : Nat) (around : Surroundings) (s : FBSDK) :
    Changes s (logInWithBrowser m around s) :=
  (logInParameters_changes ..).trans (performBrowserLogIn_changes ..)

theorem logInWithNative_changes (m : Nat) (around : Surroundings) (s : FBSDK) :
    Changes s (logInWithNative m around s) := by
  refine (logInParameters_changes m around.challenge s).trans ?_
  unfold logInWithNative
  dsimp only
  split
  · split
    · exact (Change.awaited _ rfl).changes
    · exact logInWithBrowser_changes ..
  · exact performBrowserLogIn_changes ..

theorem completeAuthentication_changes (m : Nat) (parameters : FBSDKLoginCompletionParameters)
    (s : FBSDK) : Changes s (completeAuthentication m parameters s) := by
  have cleared : Changes s (storeExpectedChallenge none s) := (Change.stored none).changes
  unfold completeAuthentication
  dsimp only
  split
  · exact cleared.tail (.ended m _ _ rfl)
  · exact cleared.tail (.ended m _ _ rfl)
  · rename_i tokenString unmistaken present
    split
    · exact cleared.tail (.ended m _ _ rfl)
    · have matched : s.expectedChallenge.isSome ∧ s.expectedChallenge = parameters.challenge := by
        by_contra unmatched
        cases error : parameters.error <;> simp_all
      obtain ⟨challenge,expected⟩ := Option.isSome_iff_exists.mp matched.1
      rw [← matched.2,expected]
      cases s.currentAccessToken with
      | none => exact (Change.accepted challenge expected m ..).changes
      | some currentToken => exact (Change.deferred challenge expected m currentToken _).changes

theorem validated_changes (index m : Nat) (currentToken : FBSDKAccessToken)
    (loginResult : FBSDKLoginManagerLoginResult) (actualID : Option String) (s : FBSDK)
    (found : s.pending[index]? = some (.validating m currentToken loginResult)) :
    Changes s (validated m currentToken loginResult actualID (close index s)) := by
  unfold validated
  split
  · exact (Change.confirmed index m currentToken loginResult found).changes
  · exact (Change.closed index).changes.tail (.ended m _ _ rfl)

theorem openURL_changes (m : Nat) (url : Option LoginURL) (s : FBSDK) :
    Changes s (openURL m url s) := by
  unfold openURL completeLogIn
  split
  · dsimp only
    split
    · exact (Change.awaited _ rfl).changes
    · split
      · exact (Change.awaited _ rfl).changes
      · exact completeAuthentication_changes ..
  · split
    · exact (Change.ended m _ _ rfl).changes
    · exact .refl

/-- Everything that the system and Facebook bring about is made of these changes. -/
theorem handle_changes (s : FBSDK) (event : Event) : Changes s (handle s event) := by
  cases event with
  | launched => exact Change.created.changes
  | opened index openedURL error around =>
    simp only [handle]
    split
    · refine ReflTransGen.trans (Change.closed index).changes ?_
      split
      · exact logInWithBrowser_changes ..
      · exact completion_changes ..
    · exact .refl
  | fellBack index around =>
    simp only [handle]
    split
    · exact (Change.closed index).changes.trans (logInWithBrowser_changes ..)
    · exact .refl
  | read index answer =>
    simp only [handle]
    split
    · exact (Change.closed index).changes.trans (completeAuthentication_changes ..)
    · exact .refl
  | validated index actualID =>
    simp only [handle]
    split
    · rename_i found
      exact validated_changes index _ _ _ actualID s found
    · exact .refl
  | openURL m url => exact openURL_changes m url s
  | becameActive m =>
    simp only [handle,applicationDidBecomeActive]
    split
    · exact (Change.ended m _ _ rfl).changes
    · exact .refl
  | setCurrentAccessToken token => exact (Change.tokenSet token).changes

/-! ### How often a handler is called -/

def armed (s : FBSDK) : List Nat := s.managers.filterMap (·.handler)

def calls (s : FBSDK) : List Nat := s.armed ++ s.answers.map (·.handler)

/-- Where an element changes, what it is mapped to takes the place of what it was mapped to. -/
theorem filterMap_modify {α β : Type} (f : α → Option β) (change : α → α) {xs : List α}
    {index : Nat} {x : α} (found : xs[index]? = some x) :
    ((f x).toList ++ (xs.modify index change).filterMap f).Perm
      ((f (change x)).toList ++ xs.filterMap f) := by
  induction xs generalizing index with
  | nil => simp at found
  | cons first rest ih =>
    cases index with
    | zero =>
      obtain rfl : first = x := by simpa using found
      cases old : f first <;> cases new : f (change first) <;>
        simp [old,new,List.Perm.swap]
    | succ index =>
      have later := ih (show rest[index]? = some x from found)
      rw [List.modify_succ_cons]
      cases kept : f first with
      | none => simpa [List.filterMap_cons,kept] using later
      | some value =>
        simp only [List.filterMap_cons,kept]
        exact List.perm_middle.trans ((later.cons value).trans List.perm_middle.symm)

theorem armed_modify {m : Nat} {s : FBSDK} {manager : FBSDKLoginManager}
    (found : s.managers[m]? = some manager) (change : FBSDKLoginManager → FBSDKLoginManager) :
    (manager.handler.toList ++ (modify m change s).armed).Perm
      ((change manager).handler.toList ++ s.armed) :=
  filterMap_modify (·.handler) change found

theorem modify_of_absent {m : Nat} {s : FBSDK} (absent : s.managers[m]? = none)
    (change : FBSDKLoginManager → FBSDKLoginManager) : modify m change s = s := by
  rw [modify,List.modify_eq_self (List.getElem?_eq_none_iff.mp absent)]

/-- The handlers given away between two states, and those armed before, have been called since or
are armed still. -/
def Keeps (given : List Nat) (s next : FBSDK) : Prop :=
  ∃ answers, next.answers = s.answers ++ answers ∧
    (given ++ s.armed).Perm (answers.map (·.handler) ++ next.armed)

theorem Keeps.of_same {s next : FBSDK} (answers : next.answers = s.answers)
    (armed : next.armed.Perm s.armed) : Keeps [] s next :=
  ⟨[],by simp [answers],by simpa using armed.symm⟩

theorem Keeps.trans {given : List Nat} {s next last : FBSDK} (first : Keeps given s next)
    (later : Keeps [] next last) : Keeps given s last := by
  obtain ⟨answers,grown,kept⟩ := first
  obtain ⟨more,grown',kept'⟩ := later
  refine ⟨answers ++ more,by rw [grown',grown,List.append_assoc],kept.trans ?_⟩
  rw [List.map_append,List.append_assoc]
  exact kept'.append_left _

theorem Keeps.calls {given : List Nat} {s next : FBSDK} (keeps : Keeps given s next) :
    next.calls.Perm (given ++ s.calls) := by
  obtain ⟨answers,grown,kept⟩ := keeps
  have moved := kept.symm.append_right (s.answers.map (·.handler))
  rw [List.append_assoc given] at moved
  refine List.Perm.trans ?_ moved
  rw [FBSDK.calls,grown,List.map_append,← List.append_assoc]
  refine List.perm_append_comm.trans ?_
  rw [← List.append_assoc]

theorem invokeHandler_keeps (m : Nat) (result : Option FBSDKLoginManagerLoginResult)
    (error : Option FBSDKLoginError) (s : FBSDK) : Keeps [] s (invokeHandler m result error s) := by
  unfold invokeHandler
  cases found : s.managers[m]? with
  | none => exact .of_same rfl (.refl _)
  | some manager =>
    have moved := armed_modify found fun manager => { manager with state := .idle, handler := none }
    have called : (manager.handler.toList.map fun handler =>
        LoginAnswer.mk handler result error s.currentAccessToken).map (·.handler) =
          manager.handler.toList := by
      cases manager.handler <;> rfl
    refine ⟨_,rfl,?_⟩
    rw [called]
    exact moved.symm

theorem change_keeps {s next : FBSDK} (change : Change s next) : Keeps [] s next := by
  cases change with
  | created => exact .of_same rfl (by simp [armed])
  | modified m change keeps =>
    refine .of_same rfl ?_
    cases found : s.managers[m]? with
    | none => rw [modify_of_absent found]
    | some manager =>
      have kept := armed_modify found change
      rw [keeps] at kept
      exact (List.perm_append_left_iff _).mp kept
  | awaited | closed | stored | tokenSet | deferred => exact .of_same rfl (.refl _)
  | ended | accepted | confirmed => exact invokeHandler_keeps ..

theorem changes_keeps {s next : FBSDK} (changes : Changes s next) : Keeps [] s next := by
  induction changes with
  | refl => exact .of_same rfl (.refl _)
  | tail _ change ih => exact ih.trans (change_keeps change)

theorem changes_calls {s next : FBSDK} (changes : Changes s next) : next.calls.Perm s.calls :=
  (changes_keeps changes).calls

def asked : Input → List Nat
  | .logIn _ _ handler _ => [handler]
  | .made | .event _ => []

theorem validateLoginStartState_changes (m : Nat) (s : FBSDK) :
    Changes s (validateLoginStartState m s).2 := by
  unfold validateLoginStartState
  split
  · exact .refl
  · split
    · exact .refl
    · exact (Change.ended m _ _ rfl).changes
    · apply modify_changes
      exact fun _ => rfl

/-- A handler that is given to a manager may take the place of another. -/
theorem armed_given (m handler : Nat) (permissions : List String) (s : FBSDK) :
    (modify m (fun manager => { manager with
      handler := some handler, requestedPermissions := permissions.toFinset }) s).armed.Subperm
        (handler :: s.armed) := by
  cases found : s.managers[m]? with
  | none =>
    rw [modify_of_absent found]
    exact (List.sublist_cons_self handler _).subperm
  | some manager =>
    exact (List.sublist_append_right ..).subperm.trans (armed_modify found _).subperm

theorem logIn_calls (m : Nat) (permissions : List String) (handler : Nat) (around : Surroundings)
    (s : FBSDK) :
    (logInWithReadPermissions m permissions handler around s).calls.Subperm
      (handler :: s.calls) := by
  have started := changes_calls (validateLoginStartState_changes m s)
  unfold logInWithReadPermissions
  split
  · rename_i begun valid
    rw [valid] at started
    refine (changes_calls (logInWithNative_changes m around _)).subperm.trans ?_
    refine ((List.subperm_append_right _).mpr (armed_given m handler permissions begun)).trans ?_
    exact (started.cons handler).subperm
  · rename_i begun invalid
    rw [invalid] at started
    exact started.subperm.trans (List.sublist_cons_self handler _).subperm

/-- A manager that has just been made takes the login, and no other handler gives way. -/
theorem logIn_made (permissions : List String) (handler : Nat) (around : Surroundings)
    (s : FBSDK) : Keeps [handler] s
      ((s.step .made).step (.logIn s.managers.length permissions handler around)) := by
  let start (manager : FBSDKLoginManager) : FBSDKLoginManager := { manager with state := .start }
  let give (manager : FBSDKLoginManager) : FBSDKLoginManager :=
    { manager with handler := some handler, requestedPermissions := permissions.toFinset }
  have made : (s.step .made).managers[s.managers.length]? = some {} := by simp [step]
  have begun : (modify s.managers.length start (s.step .made)).managers[s.managers.length]? =
      some (start {}) := by
    simp [modify,made]
  have unarmed : (s.step .made).armed = s.armed := by simp [step,armed]
  have given : (modify s.managers.length give
      (modify s.managers.length start (s.step .made))).armed.Perm (handler :: s.armed) := by
    refine (armed_modify begun give).trans ?_
    rw [← unarmed]
    exact (armed_modify made start).cons handler
  have logged : (s.step .made).step (.logIn s.managers.length permissions handler around) =
      logInWithNative s.managers.length around (modify s.managers.length give
        (modify s.managers.length start (s.step .made))) := by
    simp only [step,logInWithReadPermissions,validateLoginStartState] at made ⊢
    rw [made]
    rfl
  rw [logged]
  exact Keeps.trans ⟨[],by simp [modify,step],given.symm⟩
    (changes_keeps (logInWithNative_changes ..))

theorem step_calls (s : FBSDK) (input : Input) :
    (s.step input).calls.Subperm (asked input ++ s.calls) := by
  cases input with
  | made => exact (changes_calls Change.created.changes).subperm
  | logIn m permissions handler around => exact logIn_calls m permissions handler around s
  | event event => exact (changes_calls (handle_changes s event)).subperm

/-! ### Which tokens are taken -/

section Invoke
variable (m : Nat) (result : Option FBSDKLoginManagerLoginResult) (error : Option FBSDKLoginError)
  (s : FBSDK)

@[simp] theorem invokeHandler_passed : (invokeHandler m result error s).passed = s.passed := by
  unfold invokeHandler; split <;> rfl

@[simp] theorem invokeHandler_expectedChallenge :
    (invokeHandler m result error s).expectedChallenge = s.expectedChallenge := by
  unfold invokeHandler; split <;> rfl

@[simp] theorem invokeHandler_made : (invokeHandler m result error s).made = s.made := by
  unfold invokeHandler; split <;> rfl

@[simp] theorem invokeHandler_pending : (invokeHandler m result error s).pending = s.pending := by
  unfold invokeHandler; split <;> rfl

/-- One call at most, with this result, and with the token that is current. -/
theorem invokeHandler_answers : ∃ given : List LoginAnswer, given.length ≤ 1 ∧
    (invokeHandler m result error s).answers = s.answers ++ given ∧
    ∀ answer ∈ given,
      answer.result = result ∧ answer.currentAccessToken = s.currentAccessToken := by
  unfold invokeHandler
  split
  · exact ⟨[],by simp,by simp,by simp⟩
  · rename_i manager found
    refine ⟨_,?_,rfl,?_⟩
    · cases manager.handler <;> simp
    · cases manager.handler <;> simp

end Invoke

/-- What is owed to the challenges: each has let one token pass at most, each such token ends one
login at most, and that login finds it current. -/
structure Accounted (left : Option String) (s : FBSDK) : Prop where
  challenges : (s.passed ++ s.expectedChallenge.toList).Subperm (left.toList ++ s.made)
  tokens : s.answers.countP (·.token.isSome) + s.pending.countP (·.validates) ≤ s.passed.length
  current : ∀ answer ∈ s.answers, ∀ token, answer.token = some token →
    answer.currentAccessToken = some token

/-- A login that ends without a token is no entry of the account. -/
theorem Accounted.ended {left : Option String} {s : FBSDK} (accounted : s.Accounted left) (m : Nat)
    (result : Option FBSDKLoginManagerLoginResult) (error : Option FBSDKLoginError)
    (tokenless : result.bind (·.token) = none) :
    (invokeHandler m result error s).Accounted left := by
  obtain ⟨given,_,answers,each⟩ := invokeHandler_answers m result error s
  have without : ∀ answer ∈ given, answer.token = none := fun answer member => by
    rw [LoginAnswer.token,(each answer member).1,tokenless]
  refine ⟨by simpa using accounted.challenges,?_,?_⟩
  · have zero : given.countP (·.token.isSome) = 0 :=
      List.countP_eq_zero.mpr fun answer member => by simp [without answer member]
    simpa [answers,zero] using accounted.tokens
  · intro answer member token has
    rw [answers,List.mem_append] at member
    rcases member with old | new
    · exact accounted.current answer old token has
    · simp [without answer new] at has

/-- A login ends with the token that is current, for which a challenge is left. -/
theorem Accounted.paid {left : Option String} {s : FBSDK} (m : Nat)
    (result : FBSDKLoginManagerLoginResult)
    (challenges : (s.passed ++ s.expectedChallenge.toList).Subperm (left.toList ++ s.made))
    (tokens : s.answers.countP (·.token.isSome) + 1 + s.pending.countP (·.validates) ≤
      s.passed.length)
    (current : ∀ answer ∈ s.answers, ∀ token, answer.token = some token →
      answer.currentAccessToken = some token)
    (same : s.currentAccessToken = result.token) :
    (invokeHandler m (some result) none s).Accounted left := by
  obtain ⟨given,once,answers,each⟩ := invokeHandler_answers m (some result) none s
  refine ⟨by simpa using challenges,?_,?_⟩
  · have few := List.countP_le_length (p := (·.token.isSome)) (l := given)
    rw [answers,List.countP_append,invokeHandler_pending,invokeHandler_passed]
    omega
  · intro answer member token has
    rw [answers,List.mem_append] at member
    rcases member with old | new
    · exact current answer old token has
    · obtain ⟨result_eq,current_eq⟩ := each answer new
      rw [LoginAnswer.token,result_eq] at has
      rw [current_eq,same]
      exact has

theorem change_accounted {left : Option String} {s next : FBSDK} (accounted : s.Accounted left)
    (change : Change s next) : next.Accounted left := by
  cases change with
  | created | modified | tokenSet =>
    exact ⟨accounted.challenges,accounted.tokens,accounted.current⟩
  | awaited pending other =>
    exact ⟨accounted.challenges,by simpa [await,other] using accounted.tokens,accounted.current⟩
  | closed index =>
    have fewer := (List.eraseIdx_sublist s.pending index).countP_le (p := (·.validates))
    exact ⟨accounted.challenges,by have := accounted.tokens; simp only [close]; omega,
      accounted.current⟩
  | stored challengeExpected =>
    refine ⟨?_,accounted.tokens,accounted.current⟩
    have passed := (List.sublist_append_left s.passed s.expectedChallenge.toList).subperm.trans
      accounted.challenges
    simpa [storeExpectedChallenge] using passed.append (List.Subperm.refl challengeExpected.toList)
  | ended m result error tokenless => exact accounted.ended m result error tokenless
  | accepted challenge expected m token granted declined =>
    refine Accounted.paid m _ ?_ ?_ accounted.current rfl
    · simpa [storeExpectedChallenge,expected] using accounted.challenges
    · have := accounted.tokens
      simp only [storeExpectedChallenge,List.length_append,List.length_singleton]
      omega
  | deferred challenge expected m currentToken result =>
    refine ⟨?_,?_,accounted.current⟩
    · simpa [await,storeExpectedChallenge,expected] using accounted.challenges
    · have := accounted.tokens
      simp only [await,storeExpectedChallenge,List.countP_append,List.countP_singleton,
        Pending.validates_validating,List.length_append,List.length_singleton,if_pos]
      omega
  | confirmed index m currentToken result found =>
    obtain ⟨bound,at_index⟩ := List.getElem?_eq_some_iff.mp found
    have rest := (List.getElem_cons_eraseIdx_perm bound).countP_eq (·.validates)
    rw [at_index,List.countP_cons] at rest
    refine Accounted.paid m result accounted.challenges ?_ accounted.current rfl
    have := accounted.tokens
    simp only [close,Pending.validates_validating,if_pos] at rest ⊢
    omega

theorem changes_accounted {left : Option String} {s next : FBSDK} (accounted : s.Accounted left)
    (changes : Changes s next) : next.Accounted left := by
  induction changes with
  | refl => exact accounted
  | tail _ change ih => exact change_accounted ih change

theorem step_accounted {left : Option String} {s : FBSDK} (accounted : s.Accounted left)
    (input : Input) : (s.step input).Accounted left := by
  cases input with
  | made => exact change_accounted accounted .created
  | logIn m permissions handler around =>
    have started := changes_accounted accounted (validateLoginStartState_changes m s)
    simp only [step,logInWithReadPermissions]
    split
    · rename_i begun valid
      rw [valid] at started
      refine changes_accounted ?_ (logInWithNative_changes m around _)
      exact ⟨started.challenges,started.tokens,started.current⟩
    · rename_i invalid
      rw [invalid] at started
      exact started
  | event event => exact changes_accounted accounted (handle_changes s event)

/-- In every run, from any token and any challenge left in the keychain, with any number of managers
and answers in any order: a handler is called at most as often as it was given away; no two tokens
pass with the same challenge, and none without one that was made before; every login that ends with
a token has such a challenge of its own, and finds that token current. -/
theorem logins_accounted (currentAccessToken : Option FBSDKAccessToken) (left : Option String)
    (inputs : List Input) :
    let s := run step { currentAccessToken, expectedChallenge := left } inputs
    (s.answers.map (·.handler)).Subperm (inputs.flatMap asked) ∧
      s.passed.Subperm (left.toList ++ s.made) ∧
        s.answers.countP (·.token.isSome) ≤ s.passed.length ∧
          ∀ answer ∈ s.answers, ∀ token, answer.token = some token →
            answer.currentAccessToken = some token := by
  intro s
  let inv (inputs : List Input) (s : FBSDK) : Prop :=
    s.calls.Subperm (inputs.flatMap asked) ∧ s.Accounted left
  have holds : inv inputs s := by
    apply run_history ?_ inputs
    · exact ⟨by simp [calls,armed],⟨by simpa using List.Subperm.refl _,by simp,by simp⟩⟩
    · rintro inputs s input ⟨given,accounted⟩
      refine ⟨?_,step_accounted accounted input⟩
      rw [List.flatMap_append,List.flatMap_singleton]
      refine (step_calls s input).trans ?_
      exact ((List.subperm_append_left _).mpr given).trans List.perm_append_comm.subperm
  obtain ⟨called,accounted⟩ := holds
  refine ⟨(List.sublist_append_right ..).subperm.trans called,?_,?_,accounted.current⟩
  · exact (List.sublist_append_left ..).subperm.trans accounted.challenges
  · exact (Nat.le_add_right ..).trans accounted.tokens

end FBSDK
end SocialService
